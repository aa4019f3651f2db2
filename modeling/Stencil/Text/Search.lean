import Stencil.Text.Blank

/-! # Searching and cutting texts -/
namespace Stencil.Text

theorem breakAt?_length {p s a b : Text} (h : breakAt? p s = some (a, b)) :
    s.length = a.length + p.length + b.length := by
  rw [eq_of_breakAt? h]; simp; omega

/-- The position of the first occurrence. -/
def indexOf? (p s : Text) : Option Nat := (breakAt? p s).map fun b => b.1.length

/-- The text before the last occurrence of `p` and the text after it. -/
def breakAtLast? (p s : Text) : Option (Text × Text) :=
  (breakAt? p.reverse s.reverse).map fun b => (b.2.reverse, b.1.reverse)

def lastIndexOf? (p s : Text) : Option Nat := (breakAtLast? p s).map fun b => b.1.length

/-- The stretches between occurrences of `p`, which is not empty; at most `max` cuts are made if a
limit is given. -/
def splitOn (p : Text) (max : Option Nat) (s : Text) : List Text :=
  if max = some 0 then [s]
  else match _h : breakAt? p s with
    | none => [s]
    | some b => if p = [] then [s] else b.1 :: splitOn p (max.map (· - 1)) b.2
termination_by s.length
decreasing_by
  have := breakAt?_length _h
  have : p.length ≠ 0 := by simpa
  omega

/-- How often `p` occurs without overlap; the empty text occurs around every character. -/
def count (p s : Text) : Nat :=
  if p.isEmpty then s.length + 1 else (splitOn p none s).length - 1

/-- `q` in front of each of the first `n` characters, and at the end if there is room. -/
def interleave (q : Text) : (n : Option Nat) → Text → Text
  | some 0, s => s
  | _, [] => q
  | n, c :: s => q ++ c :: interleave q (n.map (· - 1)) s

/-- The text with `q` in place of the first occurrences of `p`, at most `max` of them if a limit is
given. -/
def replace (p q : Text) (max : Option Nat) (s : Text) : Text :=
  if p.isEmpty then interleave q max s else join q (splitOn p max s)

/-- Words between blanks; behind the first `max` of them, if a limit is given, the rest is one
more. -/
def words (max : Option Nat) (s : Text) : List Text :=
  match _h : trimStart s with
  | [] => []
  | c :: r =>
    if max = some 0 then [c :: r]
    else
      (c :: r.takeWhile fun x => !isBlank x) ::
        words (max.map (· - 1)) (r.dropWhile fun x => !isBlank x)
termination_by s.length
decreasing_by
  have h1 : (r.dropWhile fun x => !isBlank x).length ≤ r.length :=
    (List.dropWhile_sublist _).length_le
  have h2 : (trimStart s).length ≤ s.length := (List.dropWhile_sublist _).length_le
  rw [_h] at h2
  simp at h2
  omega

/-- A character that ends a line. -/
def endsLine (c : Char) : Bool :=
  let n := c.toNat
  (10 ≤ n && n ≤ 13) || (28 ≤ n && n ≤ 30) || n == 0x85 || n == 0x2028 || n == 0x2029

/-- The lines of a text, with their ends if these are kept. `line` is the line read so far, last
character first, if there is one, and `ends` tells which characters end a line. -/
def linesFrom (ends : Char → Bool) (keep : Bool) (line : Option Text) : Text → List Text
  | [] => line.toList.map List.reverse
  | '\r' :: '\n' :: s =>
    let l := line.getD []
    (if keep then '\n' :: '\r' :: l else l).reverse :: linesFrom ends keep none s
  | c :: s =>
    let l := line.getD []
    if ends c then (if keep then c :: l else l).reverse :: linesFrom ends keep none s
    else linesFrom ends keep (some (c :: l)) s

def lines (ends : Char → Bool) (keep : Bool) (s : Text) : List Text := linesFrom ends keep none s

/-- Trims the characters of a set from the margins. -/
def trimStartOf (p : Char → Bool) (s : Text) : Text := s.dropWhile p

def trimEndOf (p : Char → Bool) (s : Text) : Text := (s.reverse.dropWhile p).reverse

def endsWith (p s : Text) : Bool := (after? p.reverse s.reverse).isSome

/-- Blanks up to the next column that is a multiple of `size` in place of every tab. -/
def expandTabs (size : Int) (column : Int) : Text → Text
  | [] => []
  | c :: s =>
    if c = '\t' then
      if 0 < size then
        let n := size - column % size
        List.replicate n.toNat ' ' ++ expandTabs size (column + n) s
      else expandTabs size column s
    else if c = '\n' ∨ c = '\r' then c :: expandTabs size 0 s
    else c :: expandTabs size (column + 1) s

end Stencil.Text
