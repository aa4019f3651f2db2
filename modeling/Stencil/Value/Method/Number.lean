import Stencil.Text.Encoding
import Stencil.Value.Integer
import Stencil.Value.Operator
import Stencil.Value.Method.Basic

/-! # Methods of numbers -/
namespace Stencil.Value.Method

/-- A fraction in lowest terms as a pair. -/
def ratio (n : Int) (d : Nat) : Value :=
  let g := Nat.gcd n.natAbs d
  tuple [int (n / g), int (d / g)]

/-- The order of bytes that a parameter names. -/
def orderOf (v : Option Value) : Outcome Text.ByteOrder := do
  let name ← (v.map asText).getD (.ok "big".toList)
  if name = "big".toList then return .big
  else if name = "little".toList then return .little
  else throw .badValue

/-- Is a number within so many bytes? -/
def fits (signed : Bool) (count : Nat) (i : Int) : Bool :=
  let bits := 8 * count
  if signed then
    if count = 0 then i == 0 || i == -1
    else decide (Decimal.bitLength (if i < 0 then -i - 1 else i).natAbs < bits)
  else decide (0 ≤ i) && decide (Decimal.bitLength i.natAbs ≤ bits)

/-- The bytes of an integer; those of a negative one are of its complement. -/
def toBytes (i : Int) (a : Arguments) : Outcome Value := do
  match ← a.bind ⟨["length".toList, "byteorder".toList, "signed".toList], 0, 0⟩ with
  | [count, order, signed] =>
    if 2 < a.positional.length then throw .wrongType
    let count ← size (← integerOr 1 count)
    let order ← orderOf order
    if count < 0 then throw .badValue
    else if maxLength < count then throw .overflow
    else
      let count := count.toNat
      if fits ((signed.map isTrue).getD false) count i then
        let n := if i < 0 then i + Decimal.twoTo (8 * count) else i
        return bytes (Text.Encoding.unitBytes order count n.toNat)
      else throw .overflow
  | _ => throw .wrongType

/-- One byte from its number. -/
def asByte (v : Value) : Outcome UInt8 := do
  let i ← asInteger v
  if 0 ≤ i ∧ i < 256 then return UInt8.ofNat i.toNat else throw .badValue

/-- Bytes, or the bytes whose numbers are the members of a container. -/
def byteMembers (v : Value) : Outcome (List UInt8) :=
  match v.content with
  | .bytes bs => .ok bs
  | .text _ => .error .wrongType
  | _ => do (← v.members).mapM asByte

/-- The integer that bytes write. -/
def fromBytes (a : Arguments) : Outcome Int := do
  match ← a.bind ⟨["bytes".toList, "byteorder".toList, "signed".toList], 1, 0⟩ with
  | [some v, order, signed] =>
    if 2 < a.positional.length then throw .wrongType
    let order ← orderOf order
    let bs ← byteMembers v
    let n := Text.Encoding.unitValue order bs
    let isNegative := (signed.map isTrue).getD false && decide (Decimal.bitLength n = 8 * bs.length)
      && !bs.isEmpty
    return if isNegative then (n : Int) - Decimal.twoTo (8 * bs.length) else n
  | _ => throw .wrongType

def integerMethods : Family Int :=
  [("conjugate".toList, fun v i a => do
     a.nothing
     return (asNumber? v).getD (int i)),
   ("bit_length".toList, bare fun i => .ok (int (Decimal.bitLength i.natAbs))),
   ("bit_count".toList, bare fun i =>
     .ok (int ((Text.digits 2 i.natAbs).filter (· == '1')).length)),
   ("as_integer_ratio".toList, fun v i a => do
     a.nothing
     return tuple [(asNumber? v).getD (int i), int 1]),
   ("to_bytes".toList, ofContent toBytes),
   ("from_bytes".toList, fun v _ a => do
     let i ← fromBytes a
     match v.content with
     | .bool _ => return bool (i != 0)
     | _ => return int i)]

/-! ## Floats in base sixteen -/

/-- The written form of a float in base sixteen. -/
def hexFloatText (x : Float) : Text :=
  if x.isNaN || x.isInf then floatText x
  else
    let sign := if Decimal.isNegative x then ['-'] else []
    let b := x.toBits.toNat % Decimal.twoTo 63
    let e := b / Decimal.twoTo 52
    let fraction := b % Decimal.twoTo 52
    if b = 0 then sign ++ "0x0.0p+0".toList
    else
      let exponent : Int := if e = 0 then -1022 else (e : Int) - 1023
      let written := Text.ofInt exponent
      sign ++ ['0', 'x', if e = 0 then '0' else '1', '.'] ++ Text.hex 13 fraction ++ ['p'] ++
        (if exponent < 0 then written else '+' :: written)

/-- The exponent at the end of a written float; none where nothing may stand. -/
def hexExponent? (s : Text) : Option Int :=
  match s with
  | [] => some 0
  | c :: r =>
    if c = 'p' ∨ c = 'P' then
      let (negative, ds) := match r with
        | '-' :: ds => (true, ds)
        | '+' :: ds => (false, ds)
        | ds => (false, ds)
      if ds.isEmpty || !ds.all Char.isDigit then Option.none
      else
        let n : Int := Number.valueIn 10 ds
        some (if negative then -n else n)
    else Option.none

def isHexDigit (c : Char) : Bool := (Quotation.hexValue? c).isSome

/-- The magnitude `m · 2^e` that digits in base sixteen and an exponent write. -/
def hexMagnitude? (s : Text) : Option (Nat × Int) := do
  let s := match s with
    | '0' :: 'x' :: r | '0' :: 'X' :: r => r
    | r => r
  let whole := s.takeWhile isHexDigit
  let (fraction, rest) := match s.dropWhile isHexDigit with
    | '.' :: r => (r.takeWhile isHexDigit, r.dropWhile isHexDigit)
    | r => ([], r)
  if whole.isEmpty && fraction.isEmpty then Option.none
  else
    let e ← hexExponent? rest
    return (Number.valueIn 16 (whole ++ fraction), e - 4 * fraction.length)

/-- The float `m · 2^e`, unless it is infinite. -/
def scaledFloat? (m : Nat) (e : Int) : Option Float :=
  let size := Decimal.bitLength m + e
  if m = 0 ∨ size < -1200 then some 0
  else if 1100 < size then Option.none
  else Decimal.quotient? (m * Decimal.twoTo e.toNat) (Decimal.twoTo (-e).toNat)

/-- The float that a text writes in base sixteen. -/
def floatOfHex (s : Text) : Outcome Float := do
  let s := trimmed s
  let (negative, s) := match s with
    | '-' :: r => (true, r)
    | '+' :: r => (false, r)
    | r => (false, r)
  let signed (x : Float) : Float := if negative then -x else x
  let name := String.ofList (s.map Char.toLower)
  if name = "inf" ∨ name = "infinity" then
    return signed (Float.ofBits (UInt64.ofNat Decimal.infinityBits))
  else if name = "nan" then return signed (0.0 / 0.0)
  else match hexMagnitude? s with
    | Option.none => throw .badValue
    | some (m, e) =>
      match scaledFloat? m e with
      | some x => return signed x
      | Option.none => throw .overflow
where
  isMargin (c : Char) : Bool := c == ' ' || (9 ≤ c.toNat && c.toNat ≤ 13)
  trimmed (s : Text) : Text := ((s.dropWhile isMargin).reverse.dropWhile isMargin).reverse

def floatMethods : Family Float :=
  [("conjugate".toList, fun v _ a => do
     a.nothing
     return v),
   ("is_integer".toList, bare fun x => .ok (bool (!x.isNaN && !x.isInf && x.floor == x))),
   ("as_integer_ratio".toList, bare fun x =>
     if x.isNaN then .error .badValue
     else if x.isInf then .error .overflow
     else .ok (ratio (Decimal.fractionOf x).1 (Decimal.fractionOf x).2)),
   ("hex".toList, bare fun x => .ok (text (hexFloatText x))),
   ("fromhex".toList, fun _ _ a => do return float (← floatOfHex (← asText (← a.single))))]

def complexMethods : Family (Float × Float) :=
  [("conjugate".toList, bare fun z => .ok (complex z.1 (-z.2)))]

end Stencil.Value.Method
