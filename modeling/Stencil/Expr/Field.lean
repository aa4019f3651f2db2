import Stencil.Expr.Quotation

/-! # Replacement fields of template literals

A template literal is a string literal with expressions in braces. The texts of its expressions are
split off here; whether they are well formed is for the grammar to say. -/
namespace Stencil.Field

def isBrace (c : Char) : Bool := c == '\x7b' || c == '\x7d'

/-- What a stretch outside the expressions ends with. -/
inductive Ending
  | text
  | doubled
  | brace
  deriving DecidableEq

/-- A stretch up to the brace `c`. Inside a format (`nested`) braces are not doubled; outside, a
closing brace that stands alone is refused. -/
def atBrace (nested : Bool) (c : Char) (s : Text) : Option (Text × Ending × Text) :=
  if nested then some ([], .brace, c :: s)
  else if s.head? = some c then some ([c], .doubled, s.drop 1)
  else if c = '\x7d' then none
  else some ([], .brace, c :: s)

/-- The stretch up to the next brace, how it ends, and the rest. -/
def stretch? (raw nested : Bool) : Text → Option (Text × Ending × Text)
  | [] => some ([], .text, [])
  | c :: s =>
    if isBrace c then atBrace nested c s
    else if c = '\\' ∧ raw = false then
      match s with
      | [] => some (['\\'], .text, [])
      | b :: s =>
        if isBrace b then (atBrace nested b s).map fun p => (c :: p.1, p.2)
        else if b = 'N' then none
        else (stretch? raw nested s).map fun p => (c :: b :: p.1, p.2)
    else (stretch? raw nested s).map fun p => (c :: p.1, p.2)

def closing? (c : Char) : Option Char :=
  if c = '(' then some ')' else if c = '[' then some ']' else if c = '\x7b' then some '\x7d'
  else none

/-- Where the search for the end of an expression is inside a string literal: its quote, and
whether three of them close it. -/
abbrev Inside := Option (Char × Bool)

/-- The expression at the head of a field and the rest, from the mark that ends it. Brackets nest
(`awaited` holds the closing ones), and neither backslashes nor comments are allowed. -/
def extent? (awaited : List Char) (inside : Inside) (s : Text) : Option (Text × Text) :=
  match s with
  | [] => none
  | c :: s =>
    if c = '\\' then none
    else match inside with
      | some (q, true) =>
        match s with
        | a :: b :: r =>
          if c = q ∧ a = q ∧ b = q then
            (extent? awaited none r).map fun p => (c :: a :: b :: p.1, p.2)
          else (extent? awaited inside (a :: b :: r)).map fun p => (c :: p.1, p.2)
        | s => (extent? awaited inside s).map fun p => (c :: p.1, p.2)
      | some (q, false) =>
        (extent? awaited (if c = q then none else inside) s).map fun p => (c :: p.1, p.2)
      | none =>
        if c = '\'' ∨ c = '"' then
          match s with
          | a :: b :: r =>
            if a = c ∧ b = c then
              (extent? awaited (some (c, true)) r).map fun p => (c :: a :: b :: p.1, p.2)
            else (extent? awaited (some (c, false)) (a :: b :: r)).map fun p => (c :: p.1, p.2)
          | s => (extent? awaited (some (c, false)) s).map fun p => (c :: p.1, p.2)
        else if c = '#' then none
        else match closing? c with
          | some d => (extent? (d :: awaited) none s).map fun p => (c :: p.1, p.2)
          | none =>
            match awaited with
            | [] =>
              if c = '=' ∨ c = '!' ∨ c = '<' ∨ c = '>' then
                match s with
                | '=' :: r => (extent? [] none r).map fun p => (c :: '=' :: p.1, p.2)
                | s =>
                  if c = '<' ∨ c = '>' then (extent? [] none s).map fun p => (c :: p.1, p.2)
                  else some ([], c :: s)
              else if c = ':' ∨ c = '\x7d' then some ([], c :: s)
              else if c = ')' ∨ c = ']' then none
              else (extent? [] none s).map fun p => (c :: p.1, p.2)
            | d :: rest =>
              if c = ')' ∨ c = ']' ∨ c = '\x7d' then
                if c = d then (extent? rest none s).map fun p => (c :: p.1, p.2) else none
              else (extent? awaited none s).map fun p => (c :: p.1, p.2)
termination_by s.length

def isSpace (c : Char) : Bool := c == ' ' || c == '\t' || c == '\n' || c == Char.ofNat 12

def isAsciiSpace (c : Char) : Bool := isSpace c || c == Char.ofNat 11 || c == '\r'

/-- What follows an expression up to its format: the mark that shows the expression itself, and a
conversion. -/
def afterExpression? (s : Text) : Option Text :=
  let s :=
    match s with
    | '=' :: r => r.dropWhile isAsciiSpace
    | s => s
  match s with
  | '!' :: c :: r => if c = 's' ∨ c = 'r' ∨ c = 'a' then some r else none
  | '!' :: [] => none
  | s => some s

mutual

/-- The expressions of a template body at the given nesting level, and the rest. -/
def pieces? (raw : Bool) : (fuel level : Nat) → Text → Option (List Text × Text)
  | 0, _, _ => none
  | fuel + 1, level, s => do
    let (literal, ending, rest) ← stretch? raw (level != 0) s
    if raw = false ∧ (Quotation.text? literal).isNone then none
    else match ending, rest with
      | .doubled, rest => pieces? raw fuel level rest
      | .brace, '\x7b' :: r => do
        let (es, r) ← field? raw fuel level r
        let (more, r) ← pieces? raw fuel level r
        return (es ++ more, r)
      | _, rest => return ([], rest)

/-- The expressions of one field, behind its opening brace, and the rest behind its closing one. -/
def field? (raw : Bool) : (fuel level : Nat) → Text → Option (List Text × Text)
  | 0, _, _ => none
  | fuel + 1, level, s => do
    if 2 ≤ level then none
    else
      let (e, r) ← extent? [] none s
      if e.all isSpace then none
      else
        let r ← afterExpression? r
        match r with
        | ':' :: r => do
          let (es, r) ← pieces? raw fuel (level + 1) r
          match r with
          | '\x7d' :: r => return (e :: es, r)
          | _ => none
        | '\x7d' :: r => return ([e], r)
        | _ => none

end

/-- The texts of all expressions of a template literal. -/
def expressions? (raw : Bool) (body : Text) : Option (List Text) := do
  let (es, rest) ← pieces? raw (2 * body.length + 2) 0 body
  if rest.isEmpty then return es else none

end Stencil.Field
