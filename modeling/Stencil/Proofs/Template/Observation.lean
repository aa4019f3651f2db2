import Stencil.Proofs.Template.Lowering

/-! # Which members an evaluation reads

The evaluation is gone through once more, and the names under which its steps read members are
written down. A filter, a method and a function that came with the data have bodies of their own,
and what these read is no step of the expression. -/
namespace Stencil

open Emission

/-- A result, and the names of the members read on the way to it. -/
structure Observed (α : Type) where
  reads : List Text
  outcome : Outcome α

namespace Observed

variable {α β : Type}

/-- A result for which no member is read. -/
def quiet (r : Outcome α) : Observed α := ⟨[], r⟩

/-- What is done with a result, if there is one. -/
def andThen (o : Observed α) (f : α → Observed β) : Observed β :=
  match o.outcome with
  | .ok a => ⟨o.reads ++ (f a).reads, (f a).outcome⟩
  | .error e => ⟨o.reads, .error e⟩

instance : Monad Observed where
  pure a := quiet (.ok a)
  bind := andThen

theorem andThen_assoc {γ : Type} (o : Observed α) (f : α → Observed β) (g : β → Observed γ) :
    (o.andThen f).andThen g = o.andThen fun a => (f a).andThen g := by
  obtain ⟨ns, r⟩ := o
  cases r with
  | error e => rfl
  | ok a =>
    simp only [andThen]
    cases (f a).outcome <;> simp

theorem andThen_quiet (o : Observed α) : (o.andThen fun a => quiet (.ok a)) = o := by
  obtain ⟨ns, r⟩ := o
  cases r <;> simp [andThen, quiet]

instance : LawfulMonad Observed :=
  LawfulMonad.mk' _ andThen_quiet (fun _ _ => rfl) andThen_assoc

end Observed

namespace Env

/-- The names that a call of the helper reads. -/
def asked (a : Arguments) : List Text :=
  match a.bind ⟨["obj".toList, "name".toList], 2, 0⟩ with
  | .ok [some _, some n] =>
    match n.content with
    | .text s => [s]
    | _ => []
  | _ => []

/-- The entries of a value that is spread. A scope is asked for its keys. -/
def observeEntries (r : Registry) (v : Value) : Observed (List (Value × Value)) :=
  match v.content with
  | .scope _ => ⟨["keys".toList], spreadEntries r v⟩
  | _ => .quiet (spreadEntries r v)

end Env

namespace Expr

/-- Is this the name of the helper? -/
def isHelper : Expr → Bool
  | name n => n == helperName
  | _ => false

open Observed (quiet)

mutual

/-- The value of an expression at a place, and the members that its steps read. -/
def observe (env : Env) (place : List Nat) : Expr → Observed Value
  | member e n => do
    let v ← observe env (1 :: place) e
    ⟨[n], Value.settled place (Env.member env.registry v n)⟩
  | item e k => do
    let v ← observe env (0 :: place) e
    let key ← observe env (1 :: place) k
    quiet (finished (item e k) place (v.item key))
  | slice l h s => do
    let l ← observe env (0 :: place) l
    let h ← observe env (1 :: place) h
    let s ← observe env (2 :: place) s
    quiet (Value.settled place (.ok (.slice l h s)))
  | call fn args byName => do
    let f ← observe env (0 :: place) fn
    let given ← observePositional env place args
    let entries ← observeNamed env place (args.length + 1) [] [] byName
    let positional ← quiet given.values
    let named ← quiet (entries.mapM argumentName)
    ⟨if fn.isHelper then Env.asked ⟨positional, named⟩ else [],
      Value.settled place (Env.call env.registry f ⟨positional, named⟩)⟩
  | unary op e => do
    let v ← observe env (0 :: place) e
    quiet (finished (unary op e) place (Value.unary op v))
  | binary op l r => do
    let v ← observe env (0 :: place) l
    let w ← observe env (1 :: place) r
    quiet (finished (binary op l r) place (Value.binary op v w))
  | connect .and es => observeAnd env place 0 es
  | connect .or es => observeOr env place 0 es
  | compare first ops rest => do
    observeChain env place 1 (← observe env (0 :: place) first) ops rest
  | choose test yes no => do
    if (← observe env (0 :: place) test).isTrue then observe env (1 :: place) yes
    else observe env (2 :: place) no
  | list es => do
    let vs ← observeItems env place 0 es
    quiet (Value.settled place (.ok (.list vs)))
  | tuple es => do
    let vs ← observeItems env place 0 es
    quiet (finished (tuple es) place (.ok (.tuple vs)))
  | set es => do
    let t ←
      if isReadySet es then (do return readyTable (← observeItems env place 0 es))
      else observeSet env place 0 (decide (manyMembers ≤ es.length)) .empty [] es
    quiet (Value.settled place (.ok t.toValue))
  | dict es => do
    let entries ← observeDict env place 0 0 false [] [] es
    quiet (Value.settled place (.ok (.dict entries)))
  | joined es => do
    let s ← observeParts env place es
    quiet (Value.settled place (.ok (.text s)))
  | shown e => do
    let v ← observe env place e
    quiet (Value.settled place (.ok (v.keeping (.text v.shown))))
  | e => quiet (eval env place e)

/-- The first operand that is false, or else the last one. -/
def observeAnd (env : Env) (place : List Nat) (i : Nat) : List Expr → Observed Value
  | [] => return .bool true
  | [e] => observe env (i :: place) e
  | e :: es => do
    let v ← observe env (i :: place) e
    if v.isTrue then observeAnd env place (i + 1) es else return v

/-- The first operand that is true, or else the last one. -/
def observeOr (env : Env) (place : List Nat) (i : Nat) : List Expr → Observed Value
  | [] => return .bool false
  | [e] => observe env (i :: place) e
  | e :: es => do
    let v ← observe env (i :: place) e
    if v.isTrue then return v else observeOr env place (i + 1) es

/-- Comparisons in a chain, up to the first that does not hold. -/
def observeChain (env : Env) (place : List Nat) (i : Nat) (left : Value) :
    List Comparison → List Expr → Observed Value
  | c :: cs, e :: es => do
    let right ← observe env (i :: place) e
    if ← quiet (left.compare c right) then
      match cs with
      | [] => return .bool true
      | _ => observeChain env place (i + 1) right cs es
    else return .bool false
  | _, _ => return .bool true

/-- The members of a display. -/
def observeItems (env : Env) (place : List Nat) (i : Nat) : List Expr → Observed (List Value)
  | [] => return []
  | spread e :: es => do
    let vs ← quiet (← observe env (i :: place) e).members
    return vs ++ (← observeItems env place (i + 1) es)
  | e :: es => do
    let v ← observe env (i :: place) e
    return v :: (← observeItems env place (i + 1) es)

/-- A set display. -/
def observeSet (env : Env) (place : List Nat) (i : Nat) (adding : Bool) (t : Table)
    (waiting : List Value) : List Expr → Observed Table
  | [] => quiet (addHashable t waiting)
  | spread e :: es => do
    let t ← quiet (addHashable t waiting)
    let v ← observe env (i :: place) e
    observeSet env place (i + 1) true (← quiet (v.addTo t)) [] es
  | e :: es => do
    let v ← observe env (i :: place) e
    if adding then observeSet env place (i + 1) true (← quiet (addHashable t [v])) [] es
    else observeSet env place (i + 1) false t (waiting ++ [v]) es

/-- A dictionary display. -/
def observeDict (env : Env) (place : List Nat) (i left : Nat) (adding : Bool)
    (done waiting : List (Value × Value)) : List Expr → Observed (List (Value × Value))
  | [] => quiet (putHashable done waiting)
  | spreadAll e :: es => do
    let done ← quiet (putHashable done waiting)
    let v ← observe env (i :: place) e
    let more ← Env.observeEntries env.registry v
    observeDict env place (i + 1) 0 false (Value.putAll done more) [] es
  | pair k v :: es => do
    let size := if left = 0 then groupSize (pair k v :: es) else left
    let adding := if left = 0 then decide (manyEntries ≤ size) else adding
    let key ← observe env (0 :: i :: place) k
    let value ← observe env (1 :: i :: place) v
    if adding then
      observeDict env place (i + 1) (size - 1) true (← quiet (putHashable done [(key, value)])) [] es
    else observeDict env place (i + 1) (size - 1) false done (waiting ++ [(key, value)]) es
  | _ :: _ => quiet (.error .wrongType)

/-- Arguments by position. -/
def observePositional (env : Env) (place : List Nat) : List Expr → Observed Positional
  | [] => return .given []
  | [spread e] => do return .membersOf (← observe env (1 :: place) e)
  | spread e :: es => do
    let vs ← quiet (← observe env (1 :: place) e).members
    return .given (vs ++ (← observeItems env place 2 es))
  | e :: es => do
    let v ← observe env (1 :: place) e
    return .given (v :: (← observeItems env place 2 es))

/-- Arguments by name. -/
def observeNamed (env : Env) (place : List Nat) (i : Nat) (done waiting : List (Value × Value)) :
    List Expr → Observed (List (Value × Value))
  | [] => quiet (mergeDistinct done waiting)
  | spreadAll e :: es => do
    let done ← quiet (mergeDistinct done waiting)
    let v ← observe env (i :: place) e
    let more ← Env.observeEntries env.registry v
    observeNamed env place (i + 1) (← quiet (mergeDistinct done more)) [] es
  | named n e :: es => do
    let v ← observe env (i :: place) e
    observeNamed env place (i + 1) done (waiting ++ [(.text n, v)]) es
  | _ :: _ => quiet (.error .wrongType)

/-- The texts of the parts of a concatenation, joined. -/
def observeParts (env : Env) (place : List Nat) : List Expr → Observed Text
  | [] => return []
  | e :: es => do
    let v ← observe env place e
    return v.shown ++ (← observeParts env place es)

end

end Expr

end Stencil
