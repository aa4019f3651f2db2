import Stencil.Journal.Store

/-! # Rotation of files

When a file would grow to its limit, its backups move up by one number, the last one is given up,
and the file becomes the first backup. A rotation that meets a directory in its way stops there, and
the line goes to the file as it is. -/
namespace Stencil.Journal.Rotation

/-- How many backups a file has. -/
def backups : Nat := 5

/-- The path of a backup. -/
def backup (base : Path) (i : Nat) : Path := base.extend ('.' :: Text.digits 10 i)

/-- Takes a file out of the way; a directory cannot be. -/
def clear? (s : Store) (p : Path) : Option Store :=
  match s.get? p with
  | none => some s
  | some (.file _) => some (s.remove p)
  | some .directory => none

/-- Moves what is at one path to another one, which is cleared for it. -/
def shift? (s : Store) (source target : Path) : Option Store :=
  if s.holds source then (clear? s target).map fun s => s.move source target else some s

/-- Moves the backups numbered `k` to 1 up, and then the base to the first. The store is the one
that is left behind, also where a move fails; the flag tells whether all of them were made. -/
def shiftFrom (s : Store) (base : Path) : (k : Nat) → Store × Bool
  | 0 =>
    match clear? s (backup base 1) with
    | none => (s, false)
    | some s => (if s.holds base then s.move base (backup base 1) else s, true)
  | k + 1 =>
    match shift? s (backup base (k + 1)) (backup base (k + 2)) with
    | none => (s, false)
    | some s => shiftFrom s base k

/-- Does a rotation come to its end? -/
def completes (s : Store) (base : Path) : Bool := (shiftFrom s base (backups - 1)).2

/-- Rotates a file. That it may fail is passed over. -/
def rotate (s : Store) (base : Path) : Store := (shiftFrom s base (backups - 1)).1

/-- The size of a file in bytes. -/
def fileSize (ls : List Line) : Nat := ls.foldr (fun l n => l.size + n) 0

/-- Is the file to be rotated before a line is written? -/
def isDue (limit : Nat) (s : Store) (base : Path) (l : Line) : Bool :=
  match s.lines? base with
  | some ls => decide (0 < limit) && decide (limit ≤ fileSize ls + l.text.length)
  | none => false

/-- Writes a line to a file with backups. -/
def write (limit : Nat) (s : Store) (base : Path) (l : Line) : Store :=
  let s := s.touch base
  (if isDue limit s base l then rotate s base else s).append base l

end Stencil.Journal.Rotation
