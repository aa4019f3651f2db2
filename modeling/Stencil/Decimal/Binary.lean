/-! # Binary floating point as exact fractions

A finite number is `m · 2^q`. What is computed on fractions is rounded once, to the nearest number
and to the even one of two that are equally near. -/
namespace Stencil.Decimal

def twoTo (n : Nat) : Nat := Nat.pow 2 n

def tenTo (n : Nat) : Nat := Nat.pow 10 n

/-- The magnitude `m · 2^q` of a finite number. -/
structure Scaled where
  m : Nat
  q : Int
  deriving DecidableEq

/-- The magnitude of a finite number, read off its bits. -/
def Scaled.ofBits (b : UInt64) : Scaled :=
  let e : Nat := b.toNat / twoTo 52 % 2048
  let f : Nat := b.toNat % twoTo 52
  if e = 0 then ⟨f, -1074⟩ else ⟨twoTo 52 + f, (e : Int) - 1075⟩

def Scaled.ofFloat (x : Float) : Scaled := .ofBits x.toBits

/-- Is the sign bit set? -/
def isNegative (x : Float) : Bool := twoTo 63 ≤ x.toBits.toNat

/-- Numerator and denominator of a magnitude. -/
def Scaled.fraction (s : Scaled) : Nat × Nat :=
  (s.m * twoTo s.q.toNat, twoTo (-s.q).toNat)

/-- The exact value of a finite number: a signed numerator and a denominator. -/
def fractionOf (x : Float) : Int × Nat :=
  let f := (Scaled.ofFloat x).fraction
  (if isNegative x then -(f.1 : Int) else f.1, f.2)

/-- `n / d` to the nearest integer, a half to the even neighbour. -/
def roundDiv (n d : Nat) : Nat :=
  let k := n / d
  let r := n % d
  if d < 2 * r ∨ (2 * r = d ∧ k % 2 = 1) then k + 1 else k

def bitLength (n : Nat) : Nat := if n = 0 then 0 else n.log2 + 1

/-- The bits of the magnitude `n / d`, or nothing if it rounds beyond the finite numbers. -/
def ratioBits? (n d : Nat) : Option Nat :=
  if n = 0 then some 0
  else
    let scaled (q : Int) : Nat × Nat := (n * twoTo (-q).toNat, d * twoTo q.toNat)
    let q0 := max ((bitLength n : Int) - bitLength d - 53) (-1074)
    let s0 := scaled q0
    let q := if twoTo 53 ≤ s0.1 / s0.2 then q0 + 1 else q0
    let s := scaled q
    let m := roundDiv s.1 s.2
    let b := if m < twoTo 52 then m else (q + 1075).toNat * twoTo 52 + (m - twoTo 52)
    if b < 2047 * twoTo 52 then some b else none

def infinityBits : Nat := 2047 * twoTo 52

/-- The number nearest to `n / d`, with the sign given; infinite beyond the finite numbers. -/
def ofRatio (negative : Bool) (n d : Nat) : Float :=
  let b := (ratioBits? n d).getD infinityBits
  Float.ofBits (UInt64.ofNat (if negative then b + twoTo 63 else b))

/-- The number nearest to an integer, unless that is infinite. -/
def ofInt? (i : Int) : Option Float :=
  (ratioBits? i.natAbs 1).map fun b =>
    Float.ofBits (UInt64.ofNat (if i < 0 then b + twoTo 63 else b))

/-- The quotient of two integers to the nearest number, unless that is infinite. -/
def quotient? (a b : Int) : Option Float :=
  (ratioBits? a.natAbs b.natAbs).map fun r =>
    Float.ofBits (UInt64.ofNat (if decide (a < 0) != decide (b < 0) then r + twoTo 63 else r))

/-- The integer part of a finite number. -/
def truncate (x : Float) : Int :=
  let f := fractionOf x
  f.1.tdiv f.2

/-- The order of an integer and a finite number. -/
def compareInt (i : Int) (x : Float) : Ordering :=
  let f := fractionOf x
  compare (i * f.2) f.1

/-- The remainder of finite numbers that takes the sign of the dividend. -/
def remainder (x y : Float) : Float :=
  let a := fractionOf x
  let b := fractionOf y
  ofRatio (isNegative x) ((a.1.natAbs * b.2) % (b.1.natAbs * a.2)) (a.2 * b.2)

/-- The root of a natural number, rounded down. -/
def rootBelow (fuel x n : Nat) : Nat :=
  match fuel with
  | 0 => x
  | fuel + 1 =>
    let y := (x + n / x) / 2
    if y < x then rootBelow fuel y n else x

def root (n : Nat) : Nat :=
  if n = 0 then 0 else rootBelow (bitLength n + 8) (twoTo (bitLength n / 2 + 1)) n

/-- The root of `a² + b²` for finite numbers, to the nearest number. -/
def hypotenuse (a b : Float) : Float :=
  let s := Scaled.ofFloat a
  let t := Scaled.ofFloat b
  let q := min s.q t.q
  let m := s.m * twoTo (s.q - q).toNat
  let n := t.m * twoTo (t.q - q).toNat
  let square := m * m + n * n
  let extra := 64
  let shifted := square * twoTo (2 * extra)
  let r := root shifted
  let r := 2 * r + if r * r = shifted then 0 else 1
  let e := q - extra - 1
  ofRatio false (r * twoTo e.toNat) (twoTo (-e).toNat)

/-- The number that `m · 10^e` writes. -/
def ofDecimal (m : Nat) (e : Int) : Float :=
  if m = 0 then 0
  else
    let size := (Nat.toDigits 10 m).length + e
    if 400 < size then Float.ofBits (UInt64.ofNat infinityBits)
    else if size < -400 then 0
    else ofRatio false (m * tenTo e.toNat) (tenTo (-e).toNat)

end Stencil.Decimal
