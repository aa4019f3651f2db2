import Stencil.Expr.Number
import Stencil.Text.Word
import Stencil.Text.Blank
import Stencil.Value.Number

/-! # Values as integers -/
namespace Stencil.Value

/-- White space around a written integer. The four ASCII separators are no part of it. -/
def isIntegerMargin (c : Char) : Bool := Text.isBlank c && !(28 ≤ c.toNat && c.toNat ≤ 31)

/-- The digits of a written integer, in groups joined by single low lines. -/
def naturalOfText? (s : Text) : Option Nat :=
  match s with
  | c :: _ =>
    if Text.isDecimal c then
      match Number.digitGroups? Text.isDecimal s with
      | some (ds, []) => Text.decimalValue? (ds.filter (· != '_'))
      | _ => Option.none
    else Option.none
  | [] => Option.none

/-- The integer that a text writes, with a sign and blanks around it perhaps. -/
def integerOfText? (s : Text) : Option Int :=
  let body := ((s.dropWhile isIntegerMargin).reverse.dropWhile isIntegerMargin).reverse
  match body with
  | '-' :: ds => (naturalOfText? ds).map fun n => -(n : Int)
  | '+' :: ds => (naturalOfText? ds).map fun n => (n : Int)
  | ds => (naturalOfText? ds).map fun n => (n : Int)

/-- The integer part of a float. -/
def integerOfFloat (x : Float) : Outcome Int :=
  if x.isNaN then .error .badValue
  else if x.isInf then .error .overflow
  else .ok (Decimal.truncate x)

/-- The integer that a value stands for: a written one is read, and the fraction of a number is
cut off. -/
def toInteger (v : Value) : Outcome Int :=
  match v.content with
  | .float x => integerOfFloat x
  | .text s =>
    match integerOfText? s with
    | some i => .ok i
    | Option.none => .error .badValue
  | .bytes bs =>
    match integerOfText? (bs.map fun b => Char.ofNat b.toNat) with
    | some i => if bs.all (· < 128) then .ok i else .error .badValue
    | Option.none => .error .badValue
  | _ =>
    match v.integer? with
    | some i => .ok i
    | Option.none => .error .wrongType

end Stencil.Value
