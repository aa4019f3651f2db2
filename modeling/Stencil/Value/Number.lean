import Stencil.Decimal.Binary
import Stencil.Value.Basic

/-! # Arithmetic on numbers

Integers are exact. Two numbers are brought to the wider of their kinds first. -/
namespace Stencil

inductive Number
  | int (i : Int)
  | float (x : Float)
  | complex (re im : Float)

namespace Number

def toValue : Number → Value
  | int i => .int i
  | float x => .float x
  | complex re im => .complex re im

end Number

/-- The number that a content is; the truth values are one and zero. -/
def Content.number? : Content → Option Number
  | .bool b => some (.int (if b then 1 else 0))
  | .int i => some (.int i)
  | .float x => some (.float x)
  | .complex re im => some (.complex re im)
  | _ => Option.none

def Value.number? (v : Value) : Option Number := v.content.number?

/-- The integer that a value is. -/
def Value.integer? (v : Value) : Option Int :=
  match v.content with
  | .bool b => some (if b then 1 else 0)
  | .int i => some i
  | _ => Option.none

/-- Sizes are below this bound. -/
def Value.maxSize : Int := 0x8000000000000000

/-- No sequence is longer, and no integer has more bits. -/
def Value.maxLength : Int := 0x40000000

/-- An integer that is used as a size. -/
def Value.size (i : Int) : Outcome Int :=
  if -maxSize ≤ i ∧ i < maxSize then .ok i else .error .overflow

namespace Number

def floatOfInt (i : Int) : Outcome Float :=
  match Decimal.ofInt? i with
  | some x => .ok x
  | none => .error .overflow

/-- Two numbers of one kind. -/
inductive Pair
  | ints (a b : Int)
  | floats (a b : Float)
  | complexes (a b : Float × Float)

/-- Both numbers in the wider of their kinds. -/
def widen : Number → Number → Outcome Pair
  | int a, int b => .ok (.ints a b)
  | int a, float b => do return .floats (← floatOfInt a) b
  | float a, int b => do return .floats a (← floatOfInt b)
  | float a, float b => .ok (.floats a b)
  | complex a b, complex c d => .ok (.complexes (a, b) (c, d))
  | complex a b, float c => .ok (.complexes (a, b) (c, 0))
  | complex a b, int c => do return .complexes (a, b) (← floatOfInt c, 0)
  | float a, complex c d => .ok (.complexes (a, 0) (c, d))
  | int a, complex c d => do return .complexes (← floatOfInt a, 0) (c, d)

def add (a b : Number) : Outcome Number := do
  match ← widen a b with
  | .ints a b => return int (a + b)
  | .floats a b => return float (a + b)
  | .complexes a b => return complex (a.1 + b.1) (a.2 + b.2)

def sub (a b : Number) : Outcome Number := do
  match ← widen a b with
  | .ints a b => return int (a - b)
  | .floats a b => return float (a - b)
  | .complexes a b => return complex (a.1 - b.1) (a.2 - b.2)

def complexProduct (a b : Float × Float) : Float × Float :=
  (a.1 * b.1 - a.2 * b.2, a.1 * b.2 + a.2 * b.1)

def mul (a b : Number) : Outcome Number := do
  match ← widen a b with
  | .ints a b => return int (a * b)
  | .floats a b => return float (a * b)
  | .complexes a b =>
    let p := complexProduct a b
    return complex p.1 p.2

/-- The quotient of complex numbers, scaled by the larger part of the divisor. -/
def complexQuotient (a b : Float × Float) : Outcome (Float × Float) :=
  if b.1 == 0 && b.2 == 0 then .error .divisionByZero
  else if b.1.abs ≥ b.2.abs then
    let ratio := b.2 / b.1
    let d := b.1 + b.2 * ratio
    .ok ((a.1 + a.2 * ratio) / d, (a.2 - a.1 * ratio) / d)
  else
    let ratio := b.1 / b.2
    let d := b.1 * ratio + b.2
    .ok ((a.1 * ratio + a.2) / d, (a.2 * ratio - a.1) / d)

/-- The quotient as a fraction; that of integers is rounded once. -/
def div (a b : Number) : Outcome Number := do
  match a, b with
  | int a, int b =>
    if b = 0 then throw .divisionByZero
    else match Decimal.quotient? a b with
      | some x => return float x
      | none => throw .overflow
  | a, b =>
    match ← widen a b with
    | .ints _ _ => throw .divisionByZero
    | .floats a b => if b == 0 then throw .divisionByZero else return float (a / b)
    | .complexes a b => do
      let q ← complexQuotient a b
      return complex q.1 q.2

/-- Zero with the sign of a number. -/
def zeroLike (x : Float) : Float := if Decimal.isNegative x then -0.0 else 0.0

/-- The remainder that has the sign of the dividend. -/
def truncatedRemainder (a b : Float) : Float :=
  if a.isNaN || b.isNaN || a.isInf then 0.0 / 0.0
  else if b.isInf then a
  else Decimal.remainder a b

/-- Quotient to the floor and the remainder, which has the sign of the divisor. -/
def floorDivision (a b : Float) : Float × Float :=
  let r := truncatedRemainder a b
  let q := (a - r) / b
  let m := if r == 0 then zeroLike b else if (b < 0) != (r < 0) then r + b else r
  let q := if r != 0 && (b < 0) != (r < 0) then q - 1 else q
  let q :=
    if q != 0 then
      let f := q.floor
      if q - f > 0.5 then f + 1 else f
    else zeroLike (a / b)
  (q, m)

def floorDiv (a b : Number) : Outcome Number := do
  match ← widen a b with
  | .ints a b => if b = 0 then throw .divisionByZero else return int (a.fdiv b)
  | .floats a b => if b == 0 then throw .divisionByZero else return float (floorDivision a b).1
  | .complexes _ _ => throw .wrongType

def mod (a b : Number) : Outcome Number := do
  match ← widen a b with
  | .ints a b => if b = 0 then throw .divisionByZero else return int (a.fmod b)
  | .floats a b => if b == 0 then throw .divisionByZero else return float (floorDivision a b).2
  | .complexes _ _ => throw .wrongType

def isOdd (x : Float) : Bool := truncatedRemainder x.abs 2 == 1

/-- The length of the hypotenuse, rounded once. -/
def hypotenuse (a b : Float) : Float :=
  if a.isInf || b.isInf then Float.ofBits (UInt64.ofNat Decimal.infinityBits)
  else if a.isNaN || b.isNaN then a + b
  else Decimal.hypotenuse a b

/-- A power with a natural exponent, by repeated squaring. -/
def complexNaturalPower (result square : Float × Float) (fuel n : Nat) : Float × Float :=
  match fuel with
  | 0 => result
  | fuel + 1 =>
    if n = 0 then result
    else
      complexNaturalPower (if n % 2 = 1 then complexProduct result square else result)
        (complexProduct square square) fuel (n / 2)

/-- A power with a small whole exponent. -/
def complexIntegerPower (a : Float × Float) (n : Int) : Outcome (Float × Float) :=
  let p := complexNaturalPower (1, 0) a (n.natAbs + 1) n.natAbs
  if 0 < n then .ok p else complexQuotient (1, 0) p

/-- A power by length and angle. -/
def complexPolarPower (a b : Float × Float) : Outcome (Float × Float) :=
  if b.1 == 0 && b.2 == 0 then .ok (1, 0)
  else if a.1 == 0 && a.2 == 0 then
    if b.2 != 0 || b.1 < 0 then .error .divisionByZero else .ok (0, 0)
  else
    let size := hypotenuse a.1 a.2
    let angle := Float.atan2 a.2 a.1
    let length := size.pow b.1
    let length := if b.2 == 0 then length else length / (angle * b.2).exp
    let phase := angle * b.1
    let phase := if b.2 == 0 then phase else phase + b.2 * size.log
    .ok (length * phase.cos, length * phase.sin)

/-- The power of complex numbers. Whole exponents up to a hundred are reached by multiplication. -/
def complexPower (a b : Float × Float) : Outcome Number := do
  let p ←
    if b.2 == 0 && b.1 == b.1.floor && b.1.abs ≤ 100 then
      complexIntegerPower a (Decimal.truncate b.1)
    else complexPolarPower a b
  if p.1.isInf || p.2.isInf then throw .overflow else return complex p.1 p.2

/-- The power of a positive finite base other than one to a finite exponent. -/
def positivePower (negate : Bool) (a b : Float) : Outcome Number :=
  let x := if a == 1 then 1 else a.pow b
  if x.isInf then .error .overflow else .ok (float (if negate then -x else x))

def floatPower (a b : Float) : Outcome Number :=
  if b == 0 then .ok (float 1)
  else if a.isNaN then .ok (float a)
  else if b.isNaN then .ok (float (if a == 1 then 1 else b))
  else if b.isInf then
    let size := a.abs
    .ok (float (if size == 1 then 1 else if (b > 0) == (size > 1) then b.abs else 0))
  else if a.isInf then
    .ok (float (if b > 0 then (if isOdd b then a else a.abs)
      else if isOdd b then zeroLike a else 0))
  else if a == 0 then
    if b < 0 then .error .divisionByZero else .ok (float (if isOdd b then a else 0))
  else if a < 0 then
    if b != b.floor then complexPower (a, 0) (b, 0) else positivePower (isOdd b) (-a) b
  else positivePower false a b

/-- An integer power; the bases of which every power is small are taken out first. -/
def intPower (a : Int) (n : Nat) : Outcome Int :=
  if n = 0 then .ok 1
  else if a = 0 ∨ a = 1 then .ok a
  else if a = -1 then .ok (if n % 2 = 0 then 1 else -1)
  else if Value.maxLength < Decimal.bitLength a.natAbs * n then .error .overflow
  else .ok (Int.pow a n)

def pow (a b : Number) : Outcome Number := do
  match a, b with
  | int a, int b =>
    if 0 ≤ b then return int (← intPower a b.toNat)
    else floatPower (← floatOfInt a) (← floatOfInt b)
  | a, b =>
    match ← widen a b with
    | .ints _ _ => throw .wrongType
    | .floats a b => floatPower a b
    | .complexes a b => complexPower a b

def shiftLeft (a b : Int) : Outcome Int :=
  if b < 0 then .error .badValue
  else if a = 0 then .ok 0
  else if Value.maxLength < b then .error .overflow
  else .ok (a * Decimal.twoTo b.toNat)

def shiftRight (a b : Int) : Outcome Int :=
  if b < 0 then .error .badValue
  else if Decimal.bitLength a.natAbs < b then .ok (if a < 0 then -1 else 0)
  else .ok (a.shiftRight b.toNat)

/-- Bitwise combination of integers in two's complement, by the rule for one bit. -/
def bitwise (f : Bool → Bool → Bool) (a b : Int) : Int :=
  let bits : Int → Nat := fun i => if i < 0 then (-i - 1).toNat else i.toNat
  let flip (neg : Bool) (x : Bool) : Bool := neg != x
  let na : Bool := decide (a < 0)
  let nb : Bool := decide (b < 0)
  let negative := f na nb
  let n := Nat.bitwise (fun x y => negative != f (flip na x) (flip nb y)) (bits a) (bits b)
  if negative then -(n : Int) - 1 else n

def neg : Number → Number
  | int i => int (-i)
  | float x => float (-x)
  | complex re im => complex (-re) (-im)

/-- The order of two numbers; none if one of them is not a number or not real. -/
def compare? : Number → Number → Option Ordering
  | int a, int b => some (compare a b)
  | int a, float b => ordInt a b
  | float a, int b => (ordInt b a).map Ordering.swap
  | float a, float b =>
    if a < b then some .lt else if a == b then some .eq else if b < a then some .gt else none
  | _, _ => none
where
  ordInt (i : Int) (x : Float) : Option Ordering :=
    if x.isNaN then none
    else if x.isInf then some (if 0 < x then .lt else .gt)
    else some (Decimal.compareInt i x)

def equals : Number → Number → Bool
  | complex a b, complex c d => a == c && b == d
  | complex a b, n => b == 0 && compare? (float a) n == some .eq
  | n, complex a b => b == 0 && compare? n (float a) == some .eq
  | a, b => compare? a b == some .eq

end Number
end Stencil
