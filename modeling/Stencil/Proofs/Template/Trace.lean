import Stencil.Proofs.Template.Lowering

/-! # The course of an evaluation

The evaluation is gone through once more, and what happens in it is written down in its order: each
part that gets a value or fails, with the place where it stands, and each condition that decides
what is evaluated next. Constants and the name of the helper that reads members are passed over. -/
namespace Stencil

open Emission

/-- What happens in an evaluation. -/
inductive Event
  /-- The part at a place has been evaluated. -/
  | value (place : List Nat) (r : Outcome Value)
  /-- A condition has been decided by the part at a place. -/
  | test (place : List Nat) (b : Bool)

def Event.place : Event → List Nat
  | value place _ | test place _ => place

/-- A result, and what happened on the way to it. -/
structure Traced (α : Type) where
  events : List Event
  outcome : Outcome α

namespace Traced

variable {α β : Type}

/-- A result for which nothing happens. -/
def quiet (r : Outcome α) : Traced α := ⟨[], r⟩

/-- What is done with a result, if there is one. -/
def andThen (o : Traced α) (f : α → Traced β) : Traced β :=
  match o.outcome with
  | .ok a => ⟨o.events ++ (f a).events, (f a).outcome⟩
  | .error e => ⟨o.events, .error e⟩

instance : Monad Traced where
  pure a := quiet (.ok a)
  bind := andThen

theorem andThen_assoc {γ : Type} (o : Traced α) (f : α → Traced β) (g : β → Traced γ) :
    (o.andThen f).andThen g = o.andThen fun a => (f a).andThen g := by
  obtain ⟨events, r⟩ := o
  cases r with
  | error e => rfl
  | ok a =>
    simp only [andThen]
    cases (f a).outcome <;> simp

theorem andThen_quiet (o : Traced α) : (o.andThen fun a => quiet (.ok a)) = o := by
  obtain ⟨events, r⟩ := o
  cases r <;> simp [andThen, quiet]

instance : LawfulMonad Traced :=
  LawfulMonad.mk' _ andThen_quiet (fun _ _ => rfl) andThen_assoc

/-- The value of the part at a place. -/
def value (place : List Nat) (r : Outcome Value) : Traced Value := ⟨[.value place r], r⟩

/-- A condition that the part at a place decides. -/
def test (place : List Nat) (b : Bool) : Traced Bool := ⟨[.test place b], .ok b⟩

end Traced

namespace Expr

open Traced (quiet value test)

mutual

/-- The value of an expression at a place, and the course of its evaluation. -/
def trace (env : Env) (place : List Nat) : Expr → Traced Value
  | literal l => quiet (.ok l.value)
  | name n => if n = helperName then quiet (env.name n) else value place (env.name n)
  | member e n => do
    let v ← trace env (1 :: place) e
    value place (Value.settled place (Env.member env.registry v n))
  | item e k => do
    let v ← trace env (0 :: place) e
    let key ← trace env (1 :: place) k
    value place (finished (item e k) place (v.item key))
  | slice l h s => do
    let l ← trace env (0 :: place) l
    let h ← trace env (1 :: place) h
    let s ← trace env (2 :: place) s
    value place (Value.settled place (.ok (.slice l h s)))
  | call f args byName => do
    let f ← trace env (0 :: place) f
    let given ← tracePositional env place args
    let entries ← traceNamed env place (args.length + 1) [] [] byName
    let positional ← quiet given.values
    let named ← quiet (entries.mapM argumentName)
    value place (Value.settled place (Env.call env.registry f ⟨positional, named⟩))
  | unary op e => do
    let v ← trace env (0 :: place) e
    value place (finished (unary op e) place (Value.unary op v))
  | binary op l r => do
    let v ← trace env (0 :: place) l
    let w ← trace env (1 :: place) r
    value place (finished (binary op l r) place (Value.binary op v w))
  | connect .and es => do
    let v ← traceAnd env place 0 es
    value place (.ok v)
  | connect .or es => do
    let v ← traceOr env place 0 es
    value place (.ok v)
  | compare first ops rest => do
    let v ← trace env (0 :: place) first
    let w ← traceChain env place 1 v ops rest
    value place (.ok w)
  | choose t y n => do
    let v ← trace env (0 :: place) t
    if ← test (0 :: place) v.isTrue then
      let w ← trace env (1 :: place) y
      value place (.ok w)
    else
      let w ← trace env (2 :: place) n
      value place (.ok w)
  | list es => do
    let vs ← traceItems env place 0 es
    value place (Value.settled place (.ok (.list vs)))
  | tuple es => do
    let vs ← traceItems env place 0 es
    value place (finished (tuple es) place (.ok (.tuple vs)))
  | set es => do
    let t ←
      if isReadySet es then (do return readyTable (← traceItems env place 0 es))
      else traceSet env place 0 (decide (manyMembers ≤ es.length)) .empty [] es
    value place (Value.settled place (.ok t.toValue))
  | dict es => do
    let entries ← traceDict env place 0 0 false [] [] es
    value place (Value.settled place (.ok (.dict entries)))
  | joined es => do
    let s ← traceParts env place es
    value place (Value.settled place (.ok (.text s)))
  | shown e => do
    let v ← trace env place e
    value place (Value.settled place (.ok (v.keeping (.text v.shown))))
  | pair _ _ | spread _ | spreadAll _ | named _ _ | construct _ => quiet (.error .wrongType)

/-- The first operand that is false, or else the last one. -/
def traceAnd (env : Env) (place : List Nat) (i : Nat) : List Expr → Traced Value
  | [] => return .bool true
  | [e] => trace env (i :: place) e
  | e :: es => do
    let v ← trace env (i :: place) e
    if ← test (i :: place) v.isTrue then traceAnd env place (i + 1) es else return v

/-- The first operand that is true, or else the last one. -/
def traceOr (env : Env) (place : List Nat) (i : Nat) : List Expr → Traced Value
  | [] => return .bool false
  | [e] => trace env (i :: place) e
  | e :: es => do
    let v ← trace env (i :: place) e
    if ← test (i :: place) v.isTrue then return v else traceOr env place (i + 1) es

/-- Comparisons in a chain, up to the first that does not hold. -/
def traceChain (env : Env) (place : List Nat) (i : Nat) (left : Value) :
    List Comparison → List Expr → Traced Value
  | c :: cs, e :: es => do
    let right ← trace env (i :: place) e
    let holds ← quiet (left.compare c right)
    if ← test (i :: place) holds then
      match cs with
      | [] => return .bool true
      | _ => traceChain env place (i + 1) right cs es
    else return .bool false
  | _, _ => return .bool true

/-- The members of a display. -/
def traceItems (env : Env) (place : List Nat) (i : Nat) : List Expr → Traced (List Value)
  | [] => return []
  | spread e :: es => do
    let vs ← quiet (← trace env (i :: place) e).members
    return vs ++ (← traceItems env place (i + 1) es)
  | e :: es => do
    let v ← trace env (i :: place) e
    return v :: (← traceItems env place (i + 1) es)

/-- A set display. -/
def traceSet (env : Env) (place : List Nat) (i : Nat) (adding : Bool) (t : Table)
    (waiting : List Value) : List Expr → Traced Table
  | [] => quiet (addHashable t waiting)
  | spread e :: es => do
    let t ← quiet (addHashable t waiting)
    let v ← trace env (i :: place) e
    traceSet env place (i + 1) true (← quiet (v.addTo t)) [] es
  | e :: es => do
    let v ← trace env (i :: place) e
    if adding then traceSet env place (i + 1) true (← quiet (addHashable t [v])) [] es
    else traceSet env place (i + 1) false t (waiting ++ [v]) es

/-- A dictionary display. -/
def traceDict (env : Env) (place : List Nat) (i left : Nat) (adding : Bool)
    (done waiting : List (Value × Value)) : List Expr → Traced (List (Value × Value))
  | [] => quiet (putHashable done waiting)
  | spreadAll e :: es => do
    let done ← quiet (putHashable done waiting)
    let v ← trace env (i :: place) e
    let more ← quiet (Env.spreadEntries env.registry v)
    traceDict env place (i + 1) 0 false (Value.putAll done more) [] es
  | pair k v :: es => do
    let size := if left = 0 then groupSize (pair k v :: es) else left
    let adding := if left = 0 then decide (manyEntries ≤ size) else adding
    let key ← trace env (0 :: i :: place) k
    let value ← trace env (1 :: i :: place) v
    if adding then
      traceDict env place (i + 1) (size - 1) true (← quiet (putHashable done [(key, value)])) [] es
    else traceDict env place (i + 1) (size - 1) false done (waiting ++ [(key, value)]) es
  | _ :: _ => quiet (.error .wrongType)

/-- Arguments by position. -/
def tracePositional (env : Env) (place : List Nat) : List Expr → Traced Positional
  | [] => return .given []
  | [spread e] => do return .membersOf (← trace env (1 :: place) e)
  | spread e :: es => do
    let vs ← quiet (← trace env (1 :: place) e).members
    return .given (vs ++ (← traceItems env place 2 es))
  | e :: es => do
    let v ← trace env (1 :: place) e
    return .given (v :: (← traceItems env place 2 es))

/-- Arguments by name. -/
def traceNamed (env : Env) (place : List Nat) (i : Nat) (done waiting : List (Value × Value)) :
    List Expr → Traced (List (Value × Value))
  | [] => quiet (mergeDistinct done waiting)
  | spreadAll e :: es => do
    let done ← quiet (mergeDistinct done waiting)
    let v ← trace env (i :: place) e
    let more ← quiet (Env.spreadEntries env.registry v)
    traceNamed env place (i + 1) (← quiet (mergeDistinct done more)) [] es
  | named n e :: es => do
    let v ← trace env (i :: place) e
    traceNamed env place (i + 1) done (waiting ++ [(.text n, v)]) es
  | _ :: _ => quiet (.error .wrongType)

/-- The texts of the parts of a concatenation, joined. -/
def traceParts (env : Env) (place : List Nat) : List Expr → Traced Text
  | [] => return []
  | e :: es => do
    let v ← trace env place e
    return v.shown ++ (← traceParts env place es)

end

/-! ## Members -/

mutual

/-- Is a member read anywhere in the expression? -/
def holdsMember : Expr → Bool
  | literal _ | name _ | construct _ => false
  | member _ _ => true
  | unary _ e | spread e | spreadAll e | named _ e | shown e => holdsMember e
  | item e k | pair e k | binary _ e k => holdsMember e || holdsMember k
  | slice l h s => holdsMember l || holdsMember h || holdsMember s
  | choose t y n => holdsMember t || holdsMember y || holdsMember n
  | call f args byName => holdsMember f || anyMember args || anyMember byName
  | compare e _ es => holdsMember e || anyMember es
  | connect _ es | list es | tuple es | set es | dict es | joined es => anyMember es

def anyMember : List Expr → Bool
  | [] => false
  | e :: es => holdsMember e || anyMember es

end

end Expr

end Stencil
