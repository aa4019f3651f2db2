import Stencil.Value.Method.Bytes
import Stencil.Value.Method.Number
import Stencil.Value.Method.Set

/-! # Members of values -/
namespace Stencil.Value

/-- The method of a value, waiting for its arguments. -/
def method? (v : Value) (name : Text) : Option (Arguments → Outcome Value) :=
  match v.content with
  | .bool b => (Method.find? Method.integerMethods name).map (· v (if b then 1 else 0))
  | .int i => (Method.find? Method.integerMethods name).map (· v i)
  | .float x => (Method.find? Method.floatMethods name).map (· v x)
  | .complex re im => (Method.find? Method.complexMethods name).map (· v (re, im))
  | .text s => (Method.find? Method.textMethods name).map (· v s)
  | .bytes bs => (Method.find? Method.bytesMethods name).map (· v bs)
  | .list vs => (Method.find? Method.listMethods name).map (· v vs)
  | .tuple vs => (Method.find? Method.tupleMethods name).map (· v vs)
  | .set l vs => (Method.find? Method.setMethods name).map (· v (Table.ofLayout l vs))
  | .dict es => (Method.find? Method.dictMethods name).map (· v es)
  | .frozen es => (Method.find? Method.readMethods name).map (· v es)
  | .view .values _ => Option.none
  | .view _ es => (Method.find? Method.viewMethods name).map (· v es)
  | _ => Option.none

/-- The parts of an integer seen as a fraction and as a complex number. -/
def integerPart? (v : Value) (name : Text) : Option Value :=
  if name = "real".toList ∨ name = "numerator".toList then asNumber? v
  else if name = "imag".toList then some (int 0)
  else if name = "denominator".toList then some (int 1)
  else Option.none

def realPart? (real imaginary : Value) (name : Text) : Option Value :=
  if name = "real".toList then some real
  else if name = "imag".toList then some imaginary
  else Option.none

/-- The parts of a value that are no methods. -/
def part? (v : Value) (name : Text) : Option Value :=
  match v.content with
  | .bool _ | .int _ => integerPart? v name
  | .float _ => realPart? v (float 0) name
  | .complex re im => realPart? (float re) (float im) name
  | .view _ es => if name = "mapping".toList then some (frozen es) else Option.none
  | .object fields => (fields.find? fun f => f.1 == name).map Prod.snd
  | _ => Option.none

/-- The attribute of a value: one of its parts, or one of its methods bound to it. -/
def attribute? (v : Value) (name : Text) : Option Value :=
  match v.part? name with
  | some w => some w
  | Option.none => if (v.method? name).isSome then some (method v name) else Option.none

/-- A method called. -/
def callMethod (v : Value) (name : Text) (a : Arguments) : Outcome Value :=
  match v.method? name with
  | some f => f a
  | Option.none => .error .noMember

/-- The value under a name in a mapping; other values have none. -/
def entryNamed? (v : Value) (name : Text) : Option Value :=
  v.entries?.bind (lookup? (text name))

/-- What a name stands for in data: an entry of a mapping, or an attribute of any other value. -/
def named? (v : Value) (name : Text) : Option Value :=
  match v.entries? with
  | some es => lookup? (text name) es
  | Option.none => v.attribute? name

theorem named?_of_entries? {v : Value} (h : v.entries?.isSome = true) (name : Text) :
    v.named? name = v.entryNamed? name := by
  obtain ⟨es, hes⟩ := Option.isSome_iff_exists.1 h
  rw [named?, entryNamed?, hes]
  rfl

end Stencil.Value
