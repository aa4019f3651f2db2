import Stencil.Text.Basic
import Stencil.Expr.Syntax

/-! # Written numbers -/
namespace Stencil.Number

/-- Digits in groups joined by single low lines: the text read and the rest. A low line that no
digit follows is refused. -/
def digitGroups? (isDigit : Char → Bool) : Text → Option (Text × Text)
  | [] => some ([], [])
  | c :: s =>
    if isDigit c then (digitGroups? isDigit s).map fun p => (c :: p.1, p.2)
    else if c = '_' then
      match s with
      | d :: s' =>
        if isDigit d then (digitGroups? isDigit s').map fun p => (c :: d :: p.1, p.2) else none
      | [] => none
    else some ([], c :: s)

def isHexDigit (c : Char) : Bool :=
  c.isDigit || ('a' ≤ c && c ≤ 'f') || ('A' ≤ c && c ≤ 'F')

def isOctalDigit (c : Char) : Bool := '0' ≤ c && c ≤ '7'

def isBinaryDigit (c : Char) : Bool := c == '0' || c == '1'

/-- A character that could go on with a word. -/
def isWordPart (c : Char) : Bool := c.isAlphanum || c == '_' || 128 ≤ c.toNat

/-- The words that may follow a number with no space between. -/
def followers : List Text :=
  ["and".toList, "else".toList, "for".toList, "if".toList, "in".toList, "is".toList, "or".toList,
   "not".toList]

/-- May a number end here? -/
def mayEnd (s : Text) : Bool :=
  followers.any (fun w => (Text.after? w s).isSome) ||
    match s with
    | [] => true
    | c :: _ => !isWordPart c

/-- After the digits of a decimal: the mark of an imaginary number, and the end. -/
def finish? (s : Text) : Option (Text × Text) :=
  match s with
  | c :: r =>
    if c = 'j' ∨ c = 'J' then (if mayEnd r then some ([c], r) else none)
    else if mayEnd (c :: r) then some ([], c :: r) else none
  | [] => some ([], [])

/-- An exponent with a sign or a digit, then the end. -/
def exponent? (s : Text) : Option (Text × Text) :=
  match s with
  | e :: r =>
    if e = 'e' ∨ e = 'E' then
      match r with
      | [] => none
      | c :: r' =>
        if c = '+' ∨ c = '-' then
          match r' with
          | d :: _ =>
            if d.isDigit then do
              let (ds, rest) ← digitGroups? Char.isDigit r'
              let (t, rest) ← finish? rest
              return (e :: c :: ds ++ t, rest)
            else none
          | [] => none
        else if c.isDigit then do
          let (ds, rest) ← digitGroups? Char.isDigit r
          let (t, rest) ← finish? rest
          return (e :: ds ++ t, rest)
        else if mayEnd (e :: r) then some ([], e :: r) else none
    else finish? s
  | [] => some ([], [])

/-- What follows the point. -/
def fraction? (s : Text) : Option (Text × Text) :=
  match s with
  | c :: _ =>
    if c.isDigit then do
      let (ds, rest) ← digitGroups? Char.isDigit s
      let (t, rest) ← exponent? rest
      return (ds ++ t, rest)
    else exponent? s
  | [] => some ([], [])

/-- Digits, at least one, and the end. -/
def digitsToEnd? (isDigit : Char → Bool) (s : Text) : Option (Text × Text) :=
  match s with
  | c :: _ =>
    if isDigit c then
      match digitGroups? isDigit s with
      | some (ds, rest) => if mayEnd rest then some (ds, rest) else none
      | none => none
    else none
  | [] => none

/-- Digits of another base, behind the two characters that announce it. -/
def based? (isDigit : Char → Bool) (s : Text) : Option (Text × Text) :=
  match s with
  | '_' :: r => (digitsToEnd? isDigit r).map fun p => ('_' :: p.1, p.2)
  | _ => digitsToEnd? isDigit s

/-- Do digits begin with a zero and hold another digit too? -/
def isPadded (ds : Text) : Bool :=
  ds.head? = some '0' && ds.any fun c => c != '0' && c != '_'

/-- Does a text begin with the letter of an exponent? -/
def startsExponent (s : Text) : Bool :=
  match s with
  | c :: _ => c == 'e' || c == 'E'
  | [] => false

/-- A padded whole part belongs to a decimal: a fraction, an exponent, the mark of an imaginary
number or a word that begins as an exponent does must follow. -/
def whole? (s : Text) : Option (Text × Text) := do
  let (ds, rest) ← digitGroups? Char.isDigit s
  match rest with
  | '.' :: r =>
    let (t, rest) ← fraction? r
    return (ds ++ '.' :: t, rest)
  | _ =>
    let (t, end_) ← exponent? rest
    if isPadded ds && t.isEmpty && !startsExponent rest then none else return (ds ++ t, end_)

/-- The number at the head of a text that begins with a digit, or with a point and a digit. -/
def scan? (s : Text) : Option (Text × Text) :=
  match s with
  | '.' :: r => (fraction? r).map fun p => ('.' :: p.1, p.2)
  | '0' :: c :: r =>
    if c = 'x' ∨ c = 'X' then (based? isHexDigit r).map fun p => ('0' :: c :: p.1, p.2)
    else if c = 'o' ∨ c = 'O' then (based? isOctalDigit r).map fun p => ('0' :: c :: p.1, p.2)
    else if c = 'b' ∨ c = 'B' then (based? isBinaryDigit r).map fun p => ('0' :: c :: p.1, p.2)
    else whole? s
  | _ => whole? s

def digitOf (c : Char) : Nat :=
  if c.isDigit then c.toNat - 48
  else if 'a' ≤ c ∧ c ≤ 'f' then c.toNat - 87
  else if 'A' ≤ c ∧ c ≤ 'F' then c.toNat - 55
  else 0

/-- The number that digits write in a base; low lines are passed over. -/
def valueIn (base : Nat) (s : Text) : Nat :=
  s.foldl (fun n c => if c = '_' then n else base * n + digitOf c) 0

/-- The value of a decimal with a point or an exponent: digits and power of ten. -/
def decimalValue (s : Text) : Nat × Int :=
  let isExponent (c : Char) : Bool := c == 'e' || c == 'E'
  let mantissa := s.takeWhile fun c => !isExponent c
  let power := (s.dropWhile fun c => !isExponent c).drop 1
  let places := ((mantissa.dropWhile (· != '.')).filter Char.isDigit).length
  let scale : Int :=
    match power with
    | '-' :: ds => -(valueIn 10 ds : Int)
    | '+' :: ds => valueIn 10 ds
    | ds => valueIn 10 ds
  (valueIn 10 (mantissa.filter (· != '.')), scale - places)

/-- The constant that a number token writes. Padded digits are a decimal without a point. -/
def literal (s : Text) : Literal :=
  match s with
  | '0' :: 'x' :: r | '0' :: 'X' :: r => .int (valueIn 16 r)
  | '0' :: 'o' :: r | '0' :: 'O' :: r => .int (valueIn 8 r)
  | '0' :: 'b' :: r | '0' :: 'B' :: r => .int (valueIn 2 r)
  | _ =>
    let isMark (c : Char) : Bool := c == 'j' || c == 'J'
    let v := decimalValue (s.filter fun c => !isMark c)
    if s.any isMark then .imaginary v.1 v.2
    else if isPadded s || s.any fun c => c == '.' || c == 'e' || c == 'E' then .decimal v.1 v.2
    else .int (valueIn 10 s)

end Stencil.Number
