import Stencil.Filter.Registry
import Stencil.Value.Member

/-! # The scope of an evaluation

A name is looked up in the data first and among the filters second. -/
namespace Stencil

/-- What an evaluation depends on: the registered filters and the data. -/
structure Env where
  registry : Registry
  data : Value

namespace Env

/-- The data of a scope; `none` counts as the empty dictionary. -/
def scopeData (v : Value) : Value :=
  match v.content with
  | .none => ⟨.common, .dict []⟩
  | _ => v

theorem scopeData_of_entries? {v : Value} (h : v.entries?.isSome = true) : scopeData v = v := by
  obtain ⟨id, content⟩ := v
  cases content <;> first | rfl | cases h

def scope (env : Env) : Value := .scope (scopeData env.data)

/-- The name under which a scope holds its data. -/
def slotName : Text := "_Scope__data".toList

def isConcealed (name : Text) : Bool := (Text.after? ['_', '_'] name).isSome

/-- A name in a scope. -/
def lookup (r : Registry) (data : Value) (name : Text) : Outcome Value :=
  if name = slotName then .ok data
  else if isConcealed name then .error (.concealed name)
  else match data.named? name with
    | some v => .ok v
    | none =>
      match r.find? name with
      | some id => .ok (.function id)
      | none => .error (.unbound name)

/-- A member of a value: the entry of a mapping comes before an attribute. -/
def member (r : Registry) (v : Value) (name : Text) : Outcome Value :=
  match v.content with
  | .scope data => lookup r data name
  | _ =>
    match v.entryNamed? name with
    | some w => .ok w
    | none =>
      match v.attribute? name with
      | some w => .ok w
      | none => .error .noMember

/-- The entries of a value that is spread as a dictionary. A scope is asked for its `keys`, but has
no items under them. -/
def spreadEntries (r : Registry) (v : Value) : Outcome (List (Value × Value)) :=
  match v.content with
  | .dict es | .frozen es => .ok es
  | .scope data => do
    let _ ← lookup r data "keys".toList
    throw .wrongType
  | _ => .error .wrongType

/-- The helper that reads members, called. -/
def callHelper (r : Registry) (a : Arguments) : Outcome Value := do
  match ← a.bind ⟨["obj".toList, "name".toList], 2, 0⟩ with
  | [some v, some n] => member r v (← Value.Method.asText n)
  | _ => throw .wrongType

/-- A value called. -/
def call (r : Registry) (f : Value) (a : Arguments) : Outcome Value :=
  match f.content with
  | .function id => r.call id a
  | .method v name => v.callMethod name a
  | .memberHelper => callHelper r a
  | _ => .error .wrongType

end Env
end Stencil
