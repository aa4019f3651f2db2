import Stencil.Value.Arguments

/-! # Methods and what they read from their arguments -/
namespace Stencil.Value.Method

/-- A method of values with contents of a type: what it gives for the value that it belongs to, the
content of this value and the arguments. -/
abbrev On (α : Type) := Value → α → Arguments → Outcome Value

/-- The methods of a kind of values by name. -/
abbrev Family (α : Type) := List (Text × On α)

def find? {α : Type} (methods : Family α) (name : Text) : Option (On α) :=
  (methods.find? fun e => e.1 == name).map Prod.snd

/-- A method that looks at the content alone. -/
def ofContent {α : Type} (f : α → Arguments → Outcome Value) : On α := fun _ => f

/-- A method that gives its own value back where the result has the whole content again. -/
def keeping {α : Type} (f : α → Arguments → Outcome Value) : On α :=
  fun v x a => Value.keeping v <$> f x a

/-- A method that takes nothing. -/
def bare {α : Type} (f : α → Outcome Value) : On α := fun _ x a => do
  a.nothing
  f x

/-- A method that takes nothing and gives `none`, for the value stays as it is. -/
def silent {α : Type} : On α := bare fun _ => .ok .none

/-- A method that fails however it is called. -/
def refused {α : Type} : On α := fun _ _ _ => .error .wrongType

/-- The parameter that is a text. -/
def asText (v : Value) : Outcome Text :=
  match v.content with
  | .text s => .ok s
  | _ => .error .wrongType

/-- A text, or nothing for `none` and where the parameter is left out. -/
def optionalText (v : Option Value) : Outcome (Option Text) :=
  match v with
  | Option.none => .ok Option.none
  | some v =>
    match v.content with
    | .none => .ok Option.none
    | _ => some <$> asText v

def asInteger (v : Value) : Outcome Int :=
  match v.integer? with
  | some i => .ok i
  | Option.none => .error .wrongType

def integerOr (default : Int) (v : Option Value) : Outcome Int :=
  match v with
  | Option.none => .ok default
  | some v => asInteger v

/-- Options that are integers are below this bound. -/
def smallBound : Int := 0x80000000

def smallOr (default : Int) (v : Option Value) : Outcome Int := do
  let i ← integerOr default v
  if -smallBound ≤ i ∧ i < smallBound then return i else throw .overflow

/-- A yes or no given as an integer. -/
def flag (v : Option Value) : Outcome Bool := do return (← smallOr 0 v) != 0

/-- A limit: none if it is negative. -/
def limit (v : Option Value) : Outcome (Option Nat) := do
  let i ← size (← integerOr (-1) v)
  return if i < 0 then Option.none else some i.toNat

end Stencil.Value.Method
