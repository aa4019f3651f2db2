import Stencil.Journal.Record

/-! # Files and directories

A path is the list of its names below a root that always exists. The directories above the root and
the top of all directories exist too. -/
namespace Stencil.Journal

abbrev Path := List Text

inductive Node
  | directory
  | file (lines : List Line)
  deriving DecidableEq

/-- Nodes by path, each path once. -/
abbrev Store := List (Path × Node)

/-- Why a directory cannot be made. -/
inductive PathError
  | occupied
  | notDirectory
  | noName
  deriving DecidableEq

namespace Path

/-- The name of the directory itself. -/
def here : Text := ['.']

/-- The name of the directory above. -/
def upward : Text := ['.', '.']

/-- The name of the top of all directories, where a path begins that is not below the root. -/
def top : Text := ['/']

/-- The stretches between strokes. `name` is the stretch read so far, last character first. -/
def parts (name : Text) : Text → List Text
  | [] => [name.reverse]
  | c :: s => if c = '/' then name.reverse :: parts [] s else parts (c :: name) s

/-- The names of a path as it is written; empty names stand for nothing. -/
def ofText (s : Text) : Path :=
  let names := (parts [] s).filter fun n => !n.isEmpty
  if s.head? = some '/' then top :: names else names

/-- The path one name further. Above the root names of the directory above pile up, and there is
none above the top. -/
def enter (p : Path) (n : Text) : Path :=
  if n = here then p
  else if n = upward then
    if p.getLast? = some top then p
    else if p.getLast?.all (· == upward) then p ++ [upward]
    else p.dropLast
  else p ++ [n]

/-- The path without names of the directory itself, and without those of the directory above as far
as there are others in front of them. -/
def normal (p : Path) : Path := p.foldl enter []

/-- A path as seen from another one. -/
def join (p q : Path) : Path := if q.head? = some top then q else p ++ q

/-- Is this the root, a directory above it, or the top? -/
def isGiven (p : Path) : Bool := p.all fun n => n == upward || n == top

/-- Is the path one below the root? -/
def isInside (p : Path) : Bool := p.head?.all fun n => n != upward && n != top

end Path

/-- The path as it is written. -/
def Path.text (p : Path) : Text := Text.join ['/'] p

/-- The same path with something more at the end of its last name. -/
def Path.extend (p : Path) (more : Text) : Path :=
  match p.reverse with
  | [] => [more]
  | n :: r => (r.reverse) ++ [n ++ more]

namespace Store

def get? (s : Store) (p : Path) : Option Node :=
  if p.isGiven then some .directory else (s.find? fun e => e.1 == p).map Prod.snd

def holds (s : Store) (p : Path) : Bool := (s.get? p).isSome

def isDirectory (s : Store) (p : Path) : Bool := s.get? p == some .directory

/-- The lines of a file. -/
def lines? (s : Store) (p : Path) : Option (List Line) :=
  match s.get? p with
  | some (.file ls) => some ls
  | _ => none

def remove (s : Store) (p : Path) : Store := s.filter fun e => e.1 != p

def put (s : Store) (p : Path) (n : Node) : Store := s.remove p ++ [(p, n)]

/-- Every node at or below a path moved to another one. -/
def move (s : Store) (source target : Path) : Store :=
  s.map fun e =>
    if source.isPrefixOf e.1 then (target ++ e.1.drop source.length, e.2) else e

/-- Makes a directory and those above it, beginning with the topmost; `done` exists. If one of them
cannot be made, those in front of it have been. -/
def makeBelow (s : Store) (done : Path) : List Text → Store × Option PathError
  | [] => (s, none)
  | n :: ns =>
    let p := done.enter n
    match s.get? p with
    | some .directory => makeBelow s p ns
    | some (.file _) => (s, some (if ns.isEmpty then .occupied else .notDirectory))
    | none => makeBelow (s.put p .directory) p ns

/-- Makes a directory and those above it where they are missing. The store is the one that is left
behind, also if the directory cannot be made. -/
def makeDirectory (s : Store) (name : Text) : Store × Option PathError :=
  if name.isEmpty then (s, some .noName) else makeBelow s [] (Path.ofText name)

/-- Begins a file where there is none; nothing happens if it cannot be begun. -/
def touch (s : Store) (p : Path) : Store :=
  if s.holds p || !s.isDirectory p.dropLast then s else s.put p (.file [])

/-- Puts a line at the end of a file, which is begun if need be. The line is lost if there can be no
file. -/
def append (s : Store) (p : Path) (l : Line) : Store :=
  let s := s.touch p
  match s.lines? p with
  | some ls => s.put p (.file (ls ++ [l]))
  | none => s

/-- All files below the root with their lines. -/
def files (s : Store) : List (Path × List Line) :=
  s.filterMap fun e =>
    match e.2 with
    | .file ls => if e.1.isInside then some (e.1, ls) else none
    | .directory => none

end Store
end Stencil.Journal
