import Stencil.Text.Basic

/-! # Maps of code points, written as evenly spaced stretches that move by one distance -/
namespace Stencil.Text

/-- Every `step`-th code point from `first` to `last` goes to the code point `shift` further on. -/
structure Run where
  first : Nat
  last : Nat
  step : Nat
  shift : Int

def Run.image? (r : Run) (n : Nat) : Option Nat :=
  if r.first ≤ n ∧ n ≤ r.last ∧ (n - r.first) % r.step = 0 then some (n + r.shift).toNat else none

/-- The code point that the first fitting stretch gives. -/
def imageIn? (rs : List Run) (n : Nat) : Option Nat := rs.findSome? (·.image? n)

end Stencil.Text
