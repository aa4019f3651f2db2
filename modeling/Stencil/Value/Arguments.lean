import Stencil.Value.Integer
import Stencil.Value.Subscript

/-! # Arguments of calls -/
namespace Stencil

/-- The arguments of a call by position and by name, the names all different. -/
structure Arguments where
  positional : List Value
  named : List (Text × Value)

namespace Arguments

/-- The parameters of a function: their names, how many of them must be given, and how many can be
given by position alone. -/
structure Parameters where
  names : List Text
  required : Nat
  unnamed : Nat

/-- No argument at all. -/
def Parameters.none : Parameters := ⟨[], 0, 0⟩

/-- Parameters that are given by position alone. -/
def Parameters.positional (required count : Nat) : Parameters :=
  ⟨List.replicate count [], required, count⟩

/-- The value of the parameter in place `i`. -/
def given? (p : Parameters) (a : Arguments) (i : Nat) : Option Value :=
  match a.positional[i]? with
  | some v => some v
  | Option.none =>
    if i < p.unnamed then Option.none
    else (p.names[i]?).bind fun n => (a.named.find? fun e => e.1 == n).map Prod.snd

/-- May this name be given, with so many arguments given by position? -/
def mayName (p : Parameters) (count : Nat) (name : Text) : Bool :=
  (List.range p.names.length).any fun i =>
    decide (p.unnamed ≤ i) && decide (count ≤ i) && p.names[i]? == some name

/-- The values of the parameters in order, if the arguments fit them. -/
def bind (p : Parameters) (a : Arguments) : Outcome (List (Option Value)) :=
  let vs := (List.range p.names.length).map (given? p a)
  if a.positional.length ≤ p.names.length ∧
      a.named.all (fun e => mayName p a.positional.length e.1) ∧
      (vs.take p.required).all Option.isSome then
    .ok vs
  else .error .wrongType

/-- One optional parameter. -/
def optional (name : Text) (a : Arguments) : Outcome (Option Value) := do
  return ((← bind ⟨[name], 0, 0⟩ a).head?).join

/-- One parameter given by position. -/
def single (a : Arguments) : Outcome Value := do
  match ← bind (.positional 1 1) a with
  | [some v] => return v
  | _ => throw .wrongType

def nothing (a : Arguments) : Outcome Unit := do
  let _ ← bind .none a

end Arguments
end Stencil
