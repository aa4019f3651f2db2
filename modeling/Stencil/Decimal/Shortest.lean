import Stencil.Decimal.Binary

/-! # The shortest decimal that reads back

Of all decimals that round to a given number the one with the fewest digits is chosen, of those the
nearest, and of two equally near the one with an even last digit. -/
namespace Stencil.Decimal

/-- The decimal `digits · 10^exponent`. -/
structure Numeral where
  digits : Nat
  exponent : Int
  deriving DecidableEq

/-- The reals that round to a number, in quarters of its last binary place: both ends, the number
between them, and whether the ends count. All three are over the one denominator. -/
structure Interval where
  low : Nat
  value : Nat
  high : Nat
  denominator : Nat
  closed : Bool

/-- The gap below a power of two is half as wide as the gap above it. -/
def Scaled.interval (s : Scaled) : Interval :=
  let narrow := s.m = twoTo 52 ∧ -1074 < s.q
  let unit := twoTo (s.q - 2).toNat
  ⟨(4 * s.m - if narrow then 1 else 2) * unit, 4 * s.m * unit, (4 * s.m + 2) * unit,
    twoTo (2 - s.q).toNat, s.m % 2 == 0⟩

/-- The interval measured in units of `10^e`. -/
def Interval.onGrid (i : Interval) (e : Int) : Interval :=
  let up := tenTo (-e).toNat
  { i with
    low := i.low * up, value := i.value * up, high := i.high * up
    denominator := i.denominator * tenTo e.toNat }

def Interval.holds (i : Interval) (k : Nat) : Bool :=
  let x := k * i.denominator
  (i.low < x || (i.closed && i.low == x)) && (x < i.high || (i.closed && x == i.high))

/-- The least `k` with the positive fraction `n / d` below `10^k`. -/
def magnitude (n d : Nat) : Int :=
  if d ≤ n then (Nat.toDigits 10 (n / d)).length
  else
    let k := (Nat.toDigits 10 (d / n)).length - 1
    if n * tenTo k < d then -(k : Int) else 1 - (k : Int)

/-- The point of the grid of step `10^e` to write, if one of the two next to the value is in the
interval. -/
def Interval.pick? (i : Interval) (e : Int) : Option Numeral :=
  let g := i.onGrid e
  let below := g.value / g.denominator
  let above := below + 1
  match g.holds below, g.holds above with
  | true, true =>
    let twice := 2 * g.value
    let middle := (below + above) * g.denominator
    if twice < middle ∨ (twice = middle ∧ below % 2 = 0) then some ⟨below, e⟩ else some ⟨above, e⟩
  | true, false => some ⟨below, e⟩
  | false, true => some ⟨above, e⟩
  | false, false => none

/-- Moves trailing zeros of the digits into the exponent. -/
def Numeral.normalize (fuel : Nat) (d : Numeral) : Numeral :=
  match fuel with
  | 0 => d
  | fuel + 1 =>
    if d.digits ≠ 0 ∧ d.digits % 10 = 0 then normalize fuel ⟨d.digits / 10, d.exponent + 1⟩ else d

/-- The exact decimal expansion. -/
def Scaled.exact (s : Scaled) : Numeral :=
  ⟨s.m * twoTo s.q.toNat * Nat.pow 5 (-s.q).toNat, min s.q 0⟩

/-- The shortest decimal of a positive magnitude. -/
def Scaled.shortest (s : Scaled) : Numeral :=
  let i := s.interval
  let k := magnitude i.value i.denominator
  let found := (List.range 17).findSome? fun n : Nat => i.pick? (k - ((n : Int) + 1))
  (found.getD s.exact).normalize 800

end Stencil.Decimal
