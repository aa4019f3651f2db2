import Stencil.Text.Blank
import Stencil.Text.Word
import Stencil.Expr.Token

/-! # Free names as members of the scope

String literals are taken out of the text and leave numbered placeholders, names that are free get
the scope in front, and the literals are put back. -/
namespace Stencil.Scoping

/-- The mark on both sides of the number of a placeholder. -/
def mark : Char := Char.ofNat 0

/-- The rest of a literal that three quotes `q` close. -/
def block? (q : Char) (s : Text) : Option (Text × Text) :=
  (Text.breakAt? [q, q, q] s).map fun b => (b.1 ++ [q, q, q], b.2)

/-- The rest of a literal that the quote `q` closes on the same line. -/
def line? (q : Char) : Text → Option (Text × Text)
  | [] => none
  | c :: s =>
    if c = q then some ([c], s)
    else if c = '\n' then none
    else if c = '\\' then
      match s with
      | [] => none
      | d :: s => if d = '\n' then none else (line? q s).map fun p => (c :: d :: p.1, p.2)
    else (line? q s).map fun p => (c :: p.1, p.2)

/-- The literal at the head of a text that begins with a quote, and the rest. -/
def quoted? (s : Text) : Option (Text × Text) :=
  match s with
  | q :: r =>
    if q = '\'' ∨ q = '"' then
      let long := (Text.after? [q, q] r).bind (block? q)
      match long with
      | some (body, rest) => some (q :: q :: q :: body, rest)
      | none => (line? q r).map fun p => (q :: p.1, p.2)
    else none
  | [] => none

/-- A letter that may stand in front of the opening quote. -/
def isTagLetter (c : Char) : Bool := "rRbBuU".toList.contains c

/-- The string literal at the head of a text, with at most two letters in front, and the rest. -/
def literal? (s : Text) : Option (Text × Text) :=
  let tag := s.takeWhile isTagLetter
  if 2 < tag.length then none
  else (quoted? (s.dropWhile isTagLetter)).map fun p => (tag ++ p.1, p.2)

/-- May a literal begin behind this character? -/
def mayPrecedeLiteral (before : Option Char) : Bool :=
  before.all fun c => !Text.isWord c && c != '.'

/-- A text with placeholders and the literals they stand for, in order. -/
structure Masked where
  text : Text
  saved : List Text
  deriving DecidableEq

def placeholder (n : Nat) : Text := mark :: Text.digits 10 n ++ [mark]

/-- Takes the literals out. `count` literals have been taken before, and `before` is the last
character read. -/
def maskFrom (count : Nat) (before : Option Char) (s : Text) : Masked :=
  match s with
  | [] => ⟨[], []⟩
  | c :: r =>
    match if mayPrecedeLiteral before then literal? (c :: r) else none with
    | some (l, rest) =>
      if rest.length ≤ r.length then
        let m := maskFrom (count + 1) l.getLast? rest
        ⟨placeholder count ++ m.text, l :: m.saved⟩
      else ⟨c :: r, []⟩
    | none =>
      let m := maskFrom count (some c) r
      ⟨c :: m.text, m.saved⟩
termination_by s.length
decreasing_by
  · simp only [List.length_cons]; omega
  · simp

def mask (s : Text) : Masked := maskFrom 0 none s

/-- Is the text behind a name the single `=` of a named argument? -/
def namesArgument (rest : Text) : Bool :=
  match Text.trimStart rest with
  | '=' :: '=' :: _ => false
  | '=' :: _ => true
  | _ => false

/-- Is the word free: no reserved word, no member of what stands before it, no argument name? -/
def isFree (word : Text) (solid : Option Char) (rest : Text) : Bool :=
  !isKeyword word && solid != some '.' && !namesArgument rest

/-- Puts the scope in front of the free names. `solid` is the last character read that is not
blank. -/
def qualifyFrom (scope : Text) (solid : Option Char) (s : Text) : Text :=
  match s with
  | [] => []
  | c :: r =>
    if Text.isWord c then
      let word := c :: r.takeWhile Text.isWord
      let rest := r.dropWhile Text.isWord
      let head := if !Text.isDecimal c && isFree word solid rest then scope ++ ['.'] else []
      head ++ word ++ qualifyFrom scope word.getLast? rest
    else c :: qualifyFrom scope (if Text.isBlank c then solid else some c) r
termination_by s.length
decreasing_by
  · have := (List.dropWhile_sublist Text.isWord : (r.dropWhile Text.isWord).Sublist r).length_le
    simp; omega
  · simp

def qualify (scope s : Text) : Text := qualifyFrom scope none s

/-- The number of the placeholder at the head of a text, and the rest. -/
def placeholder? (s : Text) : Option (Nat × Text) :=
  match s with
  | [] => none
  | c :: r =>
    if c = mark then
      let ds := r.takeWhile Text.isDecimal
      match r.dropWhile Text.isDecimal with
      | e :: rest =>
        if e = mark ∧ ds ≠ [] then (Text.decimalValue? ds).map (·, rest) else none
      | [] => none
    else none

/-- Puts literals back for placeholders; nothing if a placeholder has a number that no literal
has. -/
def restore? (saved : List Text) (s : Text) : Option Text :=
  match s with
  | [] => some []
  | c :: r =>
    match placeholder? (c :: r) with
    | some (n, rest) =>
      if rest.length ≤ r.length then do return (← saved[n]?) ++ (← restore? saved rest)
      else none
    | none => (restore? saved r).map (c :: ·)
termination_by s.length
decreasing_by
  · simp only [List.length_cons]; omega
  · simp

/-- The expression with its free names as members of the scope. There is none only if the text
itself holds a placeholder that stands for nothing. -/
def scoped? (scope s : Text) : Option Text :=
  let m := mask (Text.strip s)
  restore? m.saved (qualify scope m.text)

/-- The name of the scope in the expressions of templates. -/
def scopeName : Text := "scope".toList

end Stencil.Scoping
