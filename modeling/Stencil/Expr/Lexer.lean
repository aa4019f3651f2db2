import Stencil.Text.Identifier
import Stencil.Expr.Number
import Stencil.Expr.Quotation
import Stencil.Expr.Token

/-! # From text to tokens -/
namespace Stencil.Lexer

/-- A character that may begin a word; those beyond ASCII are looked at when the word is whole. -/
def isWordHead (c : Char) : Bool := c.isAlpha || c == '_' || 128 ≤ c.toNat

/-- The marks of three, two and one characters, longest first. -/
def symbols : List (Text × Symbol) :=
  [("**=".toList, .other "**=".toList), ("//=".toList, .other "//=".toList),
   ("<<=".toList, .other "<<=".toList), (">>=".toList, .other ">>=".toList),
   ("...".toList, .ellipsis),
   ("**".toList, .doubleStar), ("//".toList, .doubleSlash), ("<<".toList, .shiftLeft),
   (">>".toList, .shiftRight), ("<=".toList, .le), (">=".toList, .ge), ("==".toList, .eq),
   ("!=".toList, .ne), (":=".toList, .walrus), ("<>".toList, .other "<>".toList),
   ("->".toList, .other "->".toList), ("+=".toList, .other "+=".toList),
   ("-=".toList, .other "-=".toList), ("*=".toList, .other "*=".toList),
   ("/=".toList, .other "/=".toList), ("%=".toList, .other "%=".toList),
   ("@=".toList, .other "@=".toList), ("&=".toList, .other "&=".toList),
   ("|=".toList, .other "|=".toList), ("^=".toList, .other "^=".toList),
   ("(".toList, .parenOpen), (")".toList, .parenClose), ("[".toList, .squareOpen),
   ("]".toList, .squareClose), ("\x7b".toList, .braceOpen), ("\x7d".toList, .braceClose),
   (",".toList, .comma), (":".toList, .colon), (".".toList, .dot), ("=".toList, .assign),
   ("+".toList, .plus), ("-".toList, .minus), ("*".toList, .star), ("/".toList, .slash),
   ("%".toList, .percent), ("@".toList, .atSign), ("~".toList, .tilde), ("&".toList, .amp),
   ("|".toList, .bar), ("^".toList, .caret), ("<".toList, .lt), (">".toList, .gt),
   (";".toList, .other ";".toList)]

/-- The longest mark at the head of a text, and the rest. -/
def symbol? (s : Text) : Option (Symbol × Text) :=
  symbols.findSome? fun e => (Text.after? e.1 s).map fun r => (e.2, r)

/-- The string literal whose tag has been read, from its opening quote on. -/
def string? (tag s : Text) : Option (Token × Text) :=
  match s with
  | q :: a :: b :: r =>
    if a = q ∧ b = q then
      (Quotation.scanBlock? q r).map fun p => (.string tag [q, q, q] p.1, p.2)
    else (Quotation.scanLine? q (a :: b :: r)).map fun p => (.string tag [q] p.1, p.2)
  | q :: r => (Quotation.scanLine? q r).map fun p => (.string tag [q] p.1, p.2)
  | [] => none

def isQuote (c : Char) : Bool := c == '\'' || c == '"'

/-- The name, the reserved word or the tagged string literal at the head of a text. -/
def word? (s : Text) : Option (Token × Text) :=
  let w := s.takeWhile Number.isWordPart
  let r := s.dropWhile Number.isWordPart
  if r.head?.any isQuote && Quotation.isTag w then string? w r
  else match Keyword.ofText? w with
    | some k => some (.keyword k, r)
    | none => if Text.isIdentifier w then some (.name w, r) else none

/-- What stands at the head of a text: a token, or something to pass over. -/
inductive Step
  | token (t : Token) (rest : Text)
  | skip (rest : Text)

def tokenStep (p : Option (Token × Text)) : Option Step := p.map fun p => .token p.1 p.2

/-- The head of a non-empty text. -/
def step? (s : Text) : Option Step :=
  match s with
  | [] => none
  | c :: r =>
    if c = ' ' ∨ c = '\t' ∨ c = Char.ofNat 12 then some (.skip r)
    else if c = '\n' then some (.token .newline r)
    else if c = '#' then some (.skip (r.dropWhile (· != '\n')))
    else if c = '\\' then
      match r with
      | '\n' :: d :: r => some (.skip (d :: r))
      | _ => none
    else if isQuote c then tokenStep (string? [] s)
    else if c.isDigit || (c == '.' && r.head?.any Char.isDigit) then
      tokenStep ((Number.scan? s).map fun p => (.number p.1, p.2))
    else if isWordHead c then tokenStep (word? s)
    else tokenStep ((symbol? s).map fun p => (.symbol p.1, p.2))

def Step.rest : Step → Text
  | .token _ r => r
  | .skip r => r

/-- The tokens of a text. The reading stops with nothing if a step does not get on. -/
def scan? (s : Text) : Option (List Token) :=
  match s with
  | [] => some []
  | c :: r =>
    match step? (c :: r) with
    | none => none
    | some (.token t rest) =>
      if rest.length ≤ r.length then (scan? rest).map (t :: ·) else none
    | some (.skip rest) => if rest.length ≤ r.length then scan? rest else none
termination_by s.length
decreasing_by all_goals simp only [List.length_cons]; omega

/-- Every way of ending a line becomes the line feed. -/
def unifyLines : Text → Text
  | [] => []
  | '\r' :: '\n' :: s => '\n' :: unifyLines s
  | '\r' :: s => '\n' :: unifyLines s
  | c :: s => c :: unifyLines s

/-- The bracket that closes an opening one. -/
def closing? : Symbol → Option Symbol
  | .parenOpen => some .parenClose
  | .squareOpen => some .squareClose
  | .braceOpen => some .braceClose
  | _ => none

def isClosing : Symbol → Bool
  | .parenClose | .squareClose | .braceClose => true
  | _ => false

/-- How many brackets may be open at once. -/
def maxDepth : Nat := 200

/-- Drops the line ends inside brackets. Refuses brackets that do not match, too many of them open
at once, and a line end outside all brackets. `awaited` holds the closing marks awaited. -/
def joinLines? (awaited : List Symbol) : List Token → Option (List Token)
  | [] => if awaited.isEmpty then some [] else none
  | .newline :: ts => if awaited.isEmpty then none else joinLines? awaited ts
  | .symbol m :: ts =>
    match closing? m with
    | some c =>
      if awaited.length < maxDepth then (joinLines? (c :: awaited) ts).map (.symbol m :: ·)
      else none
    | none =>
      if isClosing m then
        match awaited with
        | c :: rest => if c = m then (joinLines? rest ts).map (.symbol m :: ·) else none
        | [] => none
      else (joinLines? awaited ts).map (.symbol m :: ·)
  | t :: ts => (joinLines? awaited ts).map (t :: ·)

/-- The tokens of an expression that may run over lines inside brackets. -/
def tokens? (s : Text) : Option (List Token) :=
  if s.contains (Char.ofNat 0) then none
  else (scan? (unifyLines s)).bind (joinLines? [])

end Stencil.Lexer
