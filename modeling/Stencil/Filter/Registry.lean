import Stencil.Text.Identifier
import Stencil.Text.Quoted
import Stencil.Value.Arguments

/-! # Registered filters

Functions are numbered in the order in which they are registered, and a name stands for the one
registered last under it. Names are kept in order. -/
namespace Stencil

abbrev Function := Arguments → Outcome Value

/-- The functions by number, and the names with the number each stands for. -/
structure Registry where
  functions : List Function
  names : List (Text × Nat)

namespace Registry

def empty : Registry := ⟨[], []⟩

/-- Names with one more in its place; a name that is there gets the new number. -/
def insertName (name : Text) (id : Nat) : List (Text × Nat) → List (Text × Nat)
  | [] => [(name, id)]
  | e :: es =>
    if name = e.1 then (name, id) :: es
    else if name < e.1 then (name, id) :: e :: es
    else e :: insertName name id es

/-- A name that is no identifier. -/
structure InvalidName where
  name : Text
  deriving DecidableEq

def InvalidName.message (e : InvalidName) : Text :=
  "过滤器名称必须是合法标识符: ".toList ++ Text.Quoted.encode e.name

def add (r : Registry) (name : Text) (f : Function) : Registry :=
  ⟨r.functions ++ [f], insertName name r.functions.length r.names⟩

def register (r : Registry) (name : Text) (f : Function) : Except InvalidName Registry :=
  if Text.isIdentifier name then .ok (r.add name f) else .error ⟨name⟩

/-- The number that a name stands for. -/
def find? (r : Registry) (name : Text) : Option Nat :=
  (r.names.find? fun e => e.1 == name).map Prod.snd

/-- The function that a name stands for. -/
def function? (r : Registry) (name : Text) : Option Function :=
  (r.find? name).bind (r.functions[·]?)

/-- The registered names in order. -/
def list (r : Registry) : List Text := r.names.map Prod.fst

/-- The function of a number called. -/
def call (r : Registry) (id : Nat) (a : Arguments) : Outcome Value :=
  match r.functions[id]? with
  | some f => f a
  | none => .error .wrongType

end Registry
end Stencil
