import Stencil.Text.Basic
import Stencil.Decimal.Shortest

/-! # Laying out a decimal -/
namespace Stencil.Decimal

/-- How numbers are written: which positions of the point are written out (it stands after so many
digits), the least number of exponent digits, and the words for what is not finite. -/
structure Layout where
  firstPoint : Int
  lastPoint : Int
  exponentDigits : Nat
  infinity : Text
  notANumber : Text

def exponentText (l : Layout) (e : Int) : Text :=
  let ds := Text.digits 10 e.natAbs
  'e' :: (if e < 0 then '-' else '+') :: (List.replicate (l.exponentDigits - ds.length) '0' ++ ds)

/-- Digits with the point after the first `p` of them, filled up with zeros on either side. -/
def positional (ds : Text) (p : Int) : Text :=
  if p ≤ 0 then '0' :: '.' :: (List.replicate (-p).toNat '0' ++ ds)
  else
    let k := p.toNat
    if ds.length ≤ k then ds ++ List.replicate (k - ds.length) '0' ++ ['.', '0']
    else ds.take k ++ '.' :: ds.drop k

def Layout.decimal (l : Layout) (d : Numeral) : Text :=
  let ds := Text.digits 10 d.digits
  let p := ds.length + d.exponent
  if d.digits = 0 then ['0', '.', '0']
  else if l.firstPoint ≤ p ∧ p ≤ l.lastPoint then positional ds p
  else match ds with
    | [] => []
    | [c] => c :: exponentText l (p - 1)
    | c :: r => c :: '.' :: (r ++ exponentText l (p - 1))

def Layout.number (l : Layout) (x : Float) : Text :=
  if x.isNaN then l.notANumber
  else
    let body :=
      if x.isInf then l.infinity
      else
        let s := Scaled.ofFloat x
        l.decimal (if s.m = 0 then ⟨0, 0⟩ else s.shortest)
    if isNegative x then '-' :: body else body

end Stencil.Decimal
