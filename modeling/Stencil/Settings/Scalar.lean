import Stencil.Expr.Number
import Stencil.Value.Basic
import Stencil.Decimal.Binary

/-! # Scalars of settings files

A scalar without quotes is a constant or a number if it looks like one, and a text otherwise. -/
namespace Stencil.Settings

/-- A word in small letters, capitalized, or in capitals. -/
def spells (word s : Text) : Bool :=
  let capitals := word.map Char.toUpper
  s == word || s == capitals || s == capitals.take 1 ++ word.drop 1

def spellsAny (words : List Text) (s : Text) : Bool := words.any fun w => spells w s

/-- The sign in front and the rest. -/
def signed (s : Text) : Int × Text :=
  match s with
  | '-' :: r => (-1, r)
  | '+' :: r => (1, r)
  | r => (1, r)

/-- Digits and low lines, and a digit among them. -/
def areDigits (isDigit : Char → Bool) (s : Text) : Bool :=
  s.any isDigit && s.all fun c => isDigit c || c == '_'

/-- The stretches between colons. -/
def byColons : Text → List Text
  | [] => [[]]
  | c :: s => if c = ':' then [] :: byColons s else (byColons s).modifyHead (c :: ·)

def isSixtieth (s : Text) : Bool :=
  match s with
  | [a] => a.isDigit
  | [a, b] => '0' ≤ a && a ≤ '5' && b.isDigit
  | _ => false

/-- Groups of sixty, as in times of day. -/
def sexagesimal? (s : Text) : Option Int :=
  match byColons s with
  | first :: g :: gs =>
    if areDigits Char.isDigit first && first.head? != some '0' && first.head? != some '_' &&
        (g :: gs).all isSixtieth then
      some ((g :: gs).foldl (fun (n : Int) d => 60 * n + Number.valueIn 10 d)
        (Number.valueIn 10 first))
    else none
  | _ => none

/-- The magnitude of an integer; a zero in front announces another base. -/
def magnitude? (s : Text) : Option Int :=
  match s with
  | ['0'] => some 0
  | '0' :: 'b' :: ds =>
    if areDigits Number.isBinaryDigit ds then some (Number.valueIn 2 ds) else none
  | '0' :: 'x' :: ds =>
    if areDigits Number.isHexDigit ds then some (Number.valueIn 16 ds) else none
  | '0' :: ds => if areDigits Number.isOctalDigit ds then some (Number.valueIn 8 ds) else none
  | c :: ds =>
    if c.isDigit && ds.all fun d => d.isDigit || d == '_' then some (Number.valueIn 10 (c :: ds))
    else sexagesimal? s
  | [] => none

def integer? (s : Text) : Option Int :=
  let p := signed s
  (magnitude? p.2).map (p.1 * ·)

/-- An exponent with its sign. -/
def isExponent (s : Text) : Bool :=
  match s with
  | [] => true
  | e :: sign :: ds =>
    (e == 'e' || e == 'E') && (sign == '+' || sign == '-') && !ds.isEmpty && ds.all Char.isDigit
  | _ => false

def isFractionPart (c : Char) : Bool := c.isDigit || c == '_'

/-- Digits with a point, and perhaps an exponent. -/
def isPointed (s : Text) : Bool :=
  let whole := s.takeWhile isFractionPart
  match s.dropWhile isFractionPart with
  | '.' :: r =>
    let fraction := r.takeWhile isFractionPart
    whole.head? != some '_' && (!whole.isEmpty || fraction.head?.any Char.isDigit) &&
      isExponent (r.dropWhile isFractionPart)
  | _ => false

def float? (s : Text) : Option Float :=
  let p := signed s
  let negate (x : Float) : Float := if p.1 < 0 then -x else x
  if spells "inf".toList (p.2.drop 1) && p.2.head? == some '.' then
    some (negate (Float.ofBits (UInt64.ofNat Decimal.infinityBits)))
  else if [".nan".toList, ".NaN".toList, ".NAN".toList].contains s then some (0.0 / 0.0)
  else if isPointed p.2 then
    let v := Number.decimalValue (p.2.filter (· != '_'))
    some (negate (Decimal.ofDecimal v.1 v.2))
  else none

/-- The value of a scalar without quotes. -/
def scalar (s : Text) : Value :=
  if s.isEmpty || s == ['~'] || spells "null".toList s then .none
  else if spellsAny ["yes".toList, "true".toList, "on".toList] s then .bool true
  else if spellsAny ["no".toList, "false".toList, "off".toList] s then .bool false
  else match integer? s with
    | some i => .int i
    | none =>
      match float? s with
      | some x => .float x
      | none => .text s

end Stencil.Settings
