import Stencil.Value.Method.Basic

/-! # Characters exchanged by a table -/
namespace Stencil.Value.Method

/-- What stands for a character: nothing for `none`, the character of a number, or a text. -/
def imageText (v : Value) : Outcome Text :=
  match v.content with
  | .none => .ok []
  | .text t => .ok t
  | _ =>
    match v.integer? with
    | some i => if 0 ≤ i ∧ i < 0x110000 then .ok [Char.ofNat i.toNat] else .error .badValue
    | Option.none => .error .wrongType

/-- The image of a character under a table, by its number; one that the table does not have stays
as it is. -/
def image (table : Value) (c : Char) : Outcome Text :=
  match table.item (int c.toNat) with
  | .ok v => imageText v
  | .error .noKey | .error .outOfRange => .ok [c]
  | .error f => .error f

def exchange (s : Text) (a : Arguments) : Outcome Value := do
  let table ← a.single
  return text (← s.mapM (image table)).flatten

/-- The number of a character that is a key of a table; numbers are keys as they are. -/
def tableKey (v : Value) : Outcome Value :=
  match v.content with
  | .text [c] => .ok (int c.toNat)
  | .text _ => .error .badValue
  | _ => if v.integer?.isSome then .ok v else .error .wrongType

def numberOf (c : Char) : Value := int c.toNat

/-- A table from a dictionary, or from two texts character by character and a third one whose
characters go. -/
def makeTable (a : Arguments) : Outcome Value := do
  match ← a.bind (.positional 1 3) with
  | [some x, Option.none, _] =>
    match x.content with
    | .dict es => return dict (putAll [] (← es.mapM fun e => do return (← tableKey e.1, e.2)))
    | _ => throw .wrongType
  | [some x, some y, z] =>
    let y ← asText y
    let gone ← (z.map asText).getD (.ok [])
    let x ← asText x
    if x.length = y.length then
      let pairs := (x.zip y).map fun p => (numberOf p.1, numberOf p.2)
      return dict (putAll (putAll [] pairs) (gone.map fun c => (numberOf c, none)))
    else throw .badValue
  | _ => throw .wrongType

end Stencil.Value.Method
