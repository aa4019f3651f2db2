import Stencil.Decimal.Layout

/-! # Decimals with a given number of places

A half goes to the even neighbour. -/
namespace Stencil.Decimal

/-- How a number is written with a given number of digits. -/
inductive Style | fixed | scientific | general
  deriving DecidableEq

/-- A point in front of the digits, if there are any or if it is asked for. -/
def pointed (keepPoint : Bool) (ds : Text) : Text :=
  if ds.isEmpty && !keepPoint then [] else '.' :: ds

/-- Exactly `places` digits behind the point. -/
def fixedText (keepPoint : Bool) (places : Nat) (s : Scaled) : Text :=
  let f := s.fraction
  let ds := Text.digits 10 (roundDiv (f.1 * tenTo places) f.2)
  let ds := List.replicate (places + 1 - ds.length) '0' ++ ds
  let k := ds.length - places
  ds.take k ++ pointed keepPoint (ds.drop k)

/-- The first `count` digits of a positive magnitude and the exponent of the first of them. -/
def leadingDigits (count : Nat) (s : Scaled) : Text × Int :=
  let f := s.fraction
  let e := magnitude f.1 f.2 - 1
  let shift := (count : Int) - 1 - e
  let n := roundDiv (f.1 * tenTo shift.toNat) (f.2 * tenTo (-shift).toNat)
  if n = tenTo count then (Text.digits 10 (n / 10), e + 1) else (Text.digits 10 n, e)

def leading (count : Nat) (s : Scaled) : Text × Int :=
  if s.m = 0 then (List.replicate count '0', 0) else leadingDigits count s

/-- One digit before the point and `places` behind it, with an exponent. -/
def scientificText (l : Layout) (keepPoint : Bool) (places : Nat) (s : Scaled) : Text :=
  let d := leading (places + 1) s
  d.1.take 1 ++ pointed keepPoint (d.1.drop 1) ++ exponentText l d.2

def dropTrailingZeros (ds : Text) : Text := (ds.reverse.dropWhile (· == '0')).reverse

/-- At most `count` digits, without zeros at the end unless the point is kept; an exponent if the
first digit stands too far from the point. -/
def generalText (l : Layout) (keepPoint : Bool) (count : Nat) (s : Scaled) : Text :=
  let count := max count 1
  let d := leading count s
  let cut (ds : Text) : Text := if keepPoint then ds else dropTrailingZeros ds
  if d.2 < -4 ∨ (count : Int) ≤ d.2 then
    d.1.take 1 ++ pointed keepPoint (cut (d.1.drop 1)) ++ exponentText l d.2
  else if d.2 < 0 then
    '0' :: pointed keepPoint (cut (List.replicate (-d.2 - 1).toNat '0' ++ d.1))
  else
    let k := d.2.toNat + 1
    d.1.take k ++ pointed keepPoint (cut (d.1.drop k))

/-- A number with a given count of places or digits. -/
def placedText (l : Layout) (n : Style) (keepPoint : Bool) (count : Nat) (x : Float) : Text :=
  let sign : Text := if isNegative x && !x.isNaN then ['-'] else []
  let body :=
    if x.isNaN then l.notANumber
    else if x.isInf then l.infinity
    else
      let s := Scaled.ofFloat x
      match n with
      | .fixed => fixedText keepPoint count s
      | .scientific => scientificText l keepPoint count s
      | .general => generalText l keepPoint count s
  sign ++ body

end Stencil.Decimal
