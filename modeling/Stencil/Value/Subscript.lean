import Stencil.Value.Collection

/-! # Subscripts and slices -/
namespace Stencil.Value

/-- A position counted from the end if it is negative. -/
def position? (length : Nat) (i : Int) : Option Nat :=
  let j := if i < 0 then i + length else i
  if 0 ≤ j ∧ j < length then some j.toNat else Option.none

def itemAt {α : Type} (xs : List α) (i : Int) : Outcome α :=
  match (position? xs.length i).bind fun n => xs[n]? with
  | some x => .ok x
  | Option.none => .error .outOfRange

/-- An end of a slice: an integer, or none where it is left out. -/
def sliceEnd (v : Value) : Outcome (Option Int) :=
  match v.content with
  | .none => .ok Option.none
  | _ =>
    match v.integer? with
    | some i => .ok (some i)
    | Option.none => .error .wrongType

/-- A position brought between `low` and `high`, counted from the end if it is negative. -/
def clamp (length : Nat) (low high i : Int) : Int :=
  let j := if i < 0 then i + length else i
  max low (min high j)

/-- The positions from `i` on, `step` apart, before `stop` is reached or passed. -/
def positions (fuel : Nat) (i stop step : Int) : List Nat :=
  match fuel with
  | 0 => []
  | fuel + 1 =>
    if (0 < step ∧ i < stop) ∨ (step < 0 ∧ stop < i) then
      i.toNat :: positions fuel (i + step) stop step
    else []

/-- The positions that a slice of a sequence takes, `step` not zero. -/
def slicePositions (length : Nat) (low high : Option Int) (step : Int) : List Nat :=
  if 0 < step then
    let first := (low.map (clamp length 0 length)).getD 0
    let stop := (high.map (clamp length 0 length)).getD length
    positions length first stop step
  else
    let first := (low.map (clamp length (-1) (length - 1))).getD (length - 1)
    let stop := (high.map (clamp length (-1) (length - 1))).getD (-1)
    positions length first stop step

/-- The part of a sequence that a slice takes. -/
def sliceOf {α : Type} (xs : List α) (low high step : Value) : Outcome (List α) := do
  let step := (← sliceEnd step).getD 1
  if step = 0 then throw .badValue
  else
    let low ← sliceEnd low
    let high ← sliceEnd high
    if step = 1 then
      let first := (low.map (clamp xs.length 0 xs.length)).getD 0
      let stop := (high.map (clamp xs.length 0 xs.length)).getD xs.length
      return (xs.drop first.toNat).take (stop - first).toNat
    else
      let a := xs.toArray
      return (slicePositions xs.length low high step).filterMap fun n => a[n]?

/-- The position that a subscript of a sequence asks for. -/
def index (key : Value) : Outcome Int :=
  match key.integer? with
  | some i => .ok i
  | Option.none => .error .wrongType

/-- The value under a key. -/
def entry (es : List (Value × Value)) (key : Value) : Outcome Value := do
  requireHashable key
  match lookup? key es with
  | some v => return v
  | Option.none => throw .noKey

/-- Does a slice take neighbours in their order? -/
def isForward (step : Value) : Bool :=
  match step.content with
  | .none => true
  | _ => step.integer? == some 1

/-- The part of an object that a slice takes: the object again if nothing is left out. -/
def cut {α : Type} (of : Value) (make : List α → Value) (xs : List α) (low high step : Value) :
    Outcome Value := do
  let ys ← sliceOf xs low high step
  return if isForward step && ys.length == xs.length then of else make ys

/-- `of[key]`. -/
def item (of key : Value) : Outcome Value :=
  match of.content, key.content with
  | .list vs, .slice l h s => do return list (← sliceOf vs l h s)
  | .tuple vs, .slice l h s => cut of tuple vs l h s
  | .text t, .slice l h s => cut of text t l h s
  | .bytes bs, .slice l h s => cut of bytes bs l h s
  | .list vs, _ | .tuple vs, _ => do itemAt vs (← index key)
  | .text s, _ => do return text [← itemAt s (← index key)]
  | .bytes bs, _ => do return byte (← itemAt bs (← index key))
  | .dict es, _ | .frozen es, _ => entry es key
  | _, _ => .error .wrongType

end Stencil.Value
