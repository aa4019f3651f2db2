import Stencil.Template.Dialect

/-! # Filter pipelines

`x | f | g(a)` stands for `g(f(x), a)`. The separator cuts only outside of quotes and brackets and
where it is not doubled. -/
namespace Stencil.Pipeline

/-- Where a scan is: outside of quotes, between quotes, or behind a backslash between quotes. -/
inductive Mode
  | plain
  | quoted (q : Char)
  | escaped (q : Char)
  deriving DecidableEq

/-- The state of a scan: its mode, how many brackets are open, and the last character. -/
structure Scan where
  mode : Mode
  depth : Int
  before : Option Char
  deriving DecidableEq

def Scan.start : Scan := ⟨.plain, 0, none⟩

def isQuote (c : Char) : Bool := c == '\'' || c == '"'
def isOpener (c : Char) : Bool := c == '(' || c == '[' || c == '\x7b'
def isCloser (c : Char) : Bool := c == ')' || c == ']' || c == '\x7d'

/-- The state behind the next character. -/
def Scan.step (σ : Scan) (c : Char) : Scan :=
  match σ.mode with
  | .plain =>
    if isQuote c then ⟨.quoted c, σ.depth, some c⟩
    else if isOpener c then ⟨.plain, σ.depth + 1, some c⟩
    else if isCloser c then ⟨.plain, σ.depth - 1, some c⟩
    else ⟨.plain, σ.depth, some c⟩
  | .quoted q =>
    if c = '\\' then ⟨.escaped q, σ.depth, some c⟩
    else if c = q then ⟨.plain, σ.depth, some c⟩
    else ⟨.quoted q, σ.depth, some c⟩
  | .escaped q => ⟨.quoted q, σ.depth, some c⟩

/-- Does the character, with `next` behind it, end a segment? -/
def Scan.cuts (σ : Scan) (sep c : Char) (next : Option Char) : Bool :=
  σ.mode == .plain && σ.depth == 0 && c == sep && next != some sep && σ.before != some sep

/-- The segments of a text from a state on; there is always one. -/
def segments (sep : Char) (σ : Scan) : Text → List Text
  | [] => [[]]
  | c :: s =>
    if σ.cuts sep c s.head? then [] :: segments sep (σ.step c) s
    else (segments sep (σ.step c) s).modifyHead (c :: ·)

/-- A filter applied to an expression. What stands behind the first parenthesis of the filter
follows the expression as further arguments. -/
def apply (expression filter : Text) : Text :=
  match Text.breakAt? ['('] filter with
  | none => filter ++ '(' :: expression ++ [')']
  | some (name, args) =>
    let called := Text.strip name ++ '(' :: expression
    if Text.strip args = [')'] then called ++ [')'] else called ++ ',' :: ' ' :: args

/-- The expression that a pipeline stands for; blank segments are passed over. -/
def expand (sep : Char) (s : Text) : Text :=
  match segments sep .start s with
  | [] => []
  | first :: rest =>
    ((rest.map Text.strip).filter fun f => !f.isEmpty).foldl apply (Text.strip first)

end Stencil.Pipeline
