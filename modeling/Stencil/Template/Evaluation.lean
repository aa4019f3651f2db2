import Stencil.Template.Compile
import Stencil.Template.Scope

/-! # Evaluation of expressions

Operands are evaluated from left to right, and the first failure ends the evaluation. An expression
is evaluated at a place, which tells the objects that it makes from all others. -/
namespace Stencil

def Literal.value (l : Literal) : Value :=
  Value.constant <|
    match l with
    | .none => .none
    | .bool b => .bool b
    | .int n => .int n
    | .decimal m e => .float (Decimal.ofDecimal m e)
    | .imaginary m e => .complex 0 (Decimal.ofDecimal m e)
    | .text s => .text s
    | .bytes bs => .bytes bs
    | .ellipsis => .ellipsis

namespace Env

/-- The value of a name. -/
def name (env : Env) (n : Text) : Outcome Value :=
  if n = Scoping.scopeName then .ok env.scope
  else if n = Emission.helperName then .ok .memberHelper
  else .error (.unbound n)

end Env

namespace Expr

/-! ## Constants -/

/-- Does an expression of constants give a text or bytes? -/
def isTextual : Expr → Bool
  | literal (.text _) | literal (.bytes _) => true
  | binary _ l r => isTextual l || isTextual r
  | item e _ => isTextual e
  | _ => false

mutual

/-- Is this an expression of constants alone? A format with values is none. -/
def isConstant : Expr → Bool
  | literal _ => true
  | unary _ e => isConstant e
  | binary op l r => isConstant l && isConstant r && !(op == .mod && isTextual l)
  | item e k => isConstant e && isConstant k
  | tuple es => areConstant es
  | _ => false

def areConstant : List Expr → Bool
  | [] => true
  | e :: es => isConstant e && areConstant es

end

/-- The result of an expression at a place: a constant, if it is made of constants alone. -/
def finished (e : Expr) (place : List Nat) (r : Outcome Value) : Outcome Value :=
  Value.settled place (if e.isConstant then Value.constant <$> r else r)

/-! ## Displays and arguments -/

/-- Arguments by position: their values, or a single value whose members they are. -/
inductive Positional
  | given (vs : List Value)
  | membersOf (v : Value)

def Positional.values : Positional → Outcome (List Value)
  | given vs => .ok vs
  | membersOf v => v.members

/-- Entries merged into others that share no key with them. -/
def mergeDistinct (es fs : List (Value × Value)) : Outcome (List (Value × Value)) :=
  if fs.any fun f => (Value.entryAt? f.1 es).isSome then .error .wrongType else .ok (es ++ fs)

/-- The names of arguments; only texts are names. -/
def argumentName (e : Value × Value) : Outcome (Text × Value) := do
  return (← Value.Method.asText e.1, e.2)

/-- Keys put into a dictionary. -/
def putHashable (es fs : List (Value × Value)) : Outcome (List (Value × Value)) := do
  Value.requireAllHashable (fs.map Prod.fst)
  return Value.putAll es fs

/-- Members added to a set. -/
def addHashable (t : Table) (vs : List Value) : Outcome Table := do
  Value.requireAllHashable vs
  return t.addAll vs

/-- The members of a display with so many of them are added one by one. -/
def manyMembers : Nat := 31

/-- Entries of a dictionary are taken together, at most so many. -/
def maxGroup : Nat := 17

/-- In a group of so many entries, each is put under its key at once. -/
def manyEntries : Nat := 16

def isPair : Expr → Bool
  | pair _ _ => true
  | _ => false

/-- The size of the group of entries at the head. -/
def groupSize (es : List Expr) : Nat := min maxGroup (es.takeWhile isPair).length

/-- Is this the display of a set of constants, which is made beforehand? -/
def isReadySet (es : List Expr) : Bool := decide (2 < es.length) && areConstant es

/-- The table of a set of constants. They come together in a first set, from this into a second one
in its order, and this is copied. -/
def readyTable (vs : List Value) : Table :=
  let first := Table.empty.addAll vs
  (Table.empty.addAll first.members).copy

mutual

/-- The value of an expression at a place. -/
def eval (env : Env) (place : List Nat) : Expr → Outcome Value
  | literal l => .ok l.value
  | name n => env.name n
  | member e n => do
    let v ← eval env (1 :: place) e
    Value.settled place (Env.member env.registry v n)
  | item e k => do
    let v ← eval env (0 :: place) e
    let key ← eval env (1 :: place) k
    finished (item e k) place (v.item key)
  | slice l h s => do
    let l ← eval env (0 :: place) l
    let h ← eval env (1 :: place) h
    let s ← eval env (2 :: place) s
    Value.settled place (.ok (.slice l h s))
  | call f args byName => do
    let f ← eval env (0 :: place) f
    let given ← evalPositional env place args
    let entries ← evalNamed env place (args.length + 1) [] [] byName
    let positional ← given.values
    let named ← entries.mapM argumentName
    Value.settled place (Env.call env.registry f ⟨positional, named⟩)
  | unary op e => do
    let v ← eval env (0 :: place) e
    finished (unary op e) place (Value.unary op v)
  | binary op l r => do
    let v ← eval env (0 :: place) l
    let w ← eval env (1 :: place) r
    finished (binary op l r) place (Value.binary op v w)
  | connect .and es => evalAnd env place 0 es
  | connect .or es => evalOr env place 0 es
  | compare first ops rest => do
    evalChain env place 1 (← eval env (0 :: place) first) ops rest
  | choose test yes no => do
    if (← eval env (0 :: place) test).isTrue then eval env (1 :: place) yes
    else eval env (2 :: place) no
  | list es => do
    Value.settled place (.ok (.list (← evalItems env place 0 es)))
  | tuple es => do
    finished (tuple es) place (.ok (.tuple (← evalItems env place 0 es)))
  | set es => do
    let t ←
      if isReadySet es then readyTable <$> evalItems env place 0 es
      else evalSet env place 0 (decide (manyMembers ≤ es.length)) .empty [] es
    Value.settled place (.ok t.toValue)
  | dict es => do
    Value.settled place (.ok (.dict (← evalDict env place 0 0 false [] [] es)))
  | joined es => do
    Value.settled place (.ok (.text (← evalParts env place es)))
  | shown e => do
    let v ← eval env place e
    Value.settled place (.ok (v.keeping (.text v.shown)))
  | pair _ _ | spread _ | spreadAll _ | named _ _ | construct _ => .error .wrongType

/-- The first operand that is false, or else the last one. -/
def evalAnd (env : Env) (place : List Nat) (i : Nat) : List Expr → Outcome Value
  | [] => .ok (.bool true)
  | [e] => eval env (i :: place) e
  | e :: es => do
    let v ← eval env (i :: place) e
    if v.isTrue then evalAnd env place (i + 1) es else return v

/-- The first operand that is true, or else the last one. -/
def evalOr (env : Env) (place : List Nat) (i : Nat) : List Expr → Outcome Value
  | [] => .ok (.bool false)
  | [e] => eval env (i :: place) e
  | e :: es => do
    let v ← eval env (i :: place) e
    if v.isTrue then return v else evalOr env place (i + 1) es

/-- Comparisons in a chain, up to the first that does not hold. -/
def evalChain (env : Env) (place : List Nat) (i : Nat) (left : Value) :
    List Comparison → List Expr → Outcome Value
  | c :: cs, e :: es => do
    let right ← eval env (i :: place) e
    if ← left.compare c right then
      match cs with
      | [] => return .bool true
      | _ => evalChain env place (i + 1) right cs es
    else return .bool false
  | _, _ => .ok (.bool true)

/-- The members of a display, with those of what is spread in it. -/
def evalItems (env : Env) (place : List Nat) (i : Nat) : List Expr → Outcome (List Value)
  | [] => .ok []
  | spread e :: es => do
    let vs ← (← eval env (i :: place) e).members
    return vs ++ (← evalItems env place (i + 1) es)
  | e :: es => do
    let v ← eval env (i :: place) e
    return v :: (← evalItems env place (i + 1) es)

/-- A set display. Members wait in `waiting` until the first that is spread, and then are added one
by one (`adding`). -/
def evalSet (env : Env) (place : List Nat) (i : Nat) (adding : Bool) (t : Table)
    (waiting : List Value) : List Expr → Outcome Table
  | [] => addHashable t waiting
  | spread e :: es => do
    let t ← addHashable t waiting
    let v ← eval env (i :: place) e
    evalSet env place (i + 1) true (← v.addTo t) [] es
  | e :: es => do
    let v ← eval env (i :: place) e
    if adding then evalSet env place (i + 1) true (← addHashable t [v]) [] es
    else evalSet env place (i + 1) false t (waiting ++ [v]) es

/-- A dictionary display. Entries come in groups, of which `left` more entries are to come; those of
a small group wait in `waiting` for its end, and the others are put in at once (`adding`). -/
def evalDict (env : Env) (place : List Nat) (i left : Nat) (adding : Bool)
    (done waiting : List (Value × Value)) : List Expr → Outcome (List (Value × Value))
  | [] => putHashable done waiting
  | spreadAll e :: es => do
    let done ← putHashable done waiting
    let v ← eval env (i :: place) e
    let more ← Env.spreadEntries env.registry v
    evalDict env place (i + 1) 0 false (Value.putAll done more) [] es
  | pair k v :: es => do
    let size := if left = 0 then groupSize (pair k v :: es) else left
    let adding := if left = 0 then decide (manyEntries ≤ size) else adding
    let key ← eval env (0 :: i :: place) k
    let value ← eval env (1 :: i :: place) v
    if adding then
      evalDict env place (i + 1) (size - 1) true (← putHashable done [(key, value)]) [] es
    else evalDict env place (i + 1) (size - 1) false done (waiting ++ [(key, value)]) es
  | _ :: _ => .error .wrongType

/-- Arguments by position. One that is spread alone is taken apart when the call is made. -/
def evalPositional (env : Env) (place : List Nat) : List Expr → Outcome Positional
  | [] => .ok (.given [])
  | [spread e] => do return .membersOf (← eval env (1 :: place) e)
  | spread e :: es => do
    let vs ← (← eval env (1 :: place) e).members
    return .given (vs ++ (← evalItems env place 2 es))
  | e :: es => do
    let v ← eval env (1 :: place) e
    return .given (v :: (← evalItems env place 2 es))

/-- Arguments by name. Those that wait in `waiting` are merged when a dictionary is spread and at
the end; no name may come twice. -/
def evalNamed (env : Env) (place : List Nat) (i : Nat) (done waiting : List (Value × Value)) :
    List Expr → Outcome (List (Value × Value))
  | [] => mergeDistinct done waiting
  | spreadAll e :: es => do
    let done ← mergeDistinct done waiting
    let v ← eval env (i :: place) e
    let more ← Env.spreadEntries env.registry v
    evalNamed env place (i + 1) (← mergeDistinct done more) [] es
  | named n e :: es => do
    let v ← eval env (i :: place) e
    evalNamed env place (i + 1) done (waiting ++ [(.text n, v)]) es
  | _ :: _ => .error .wrongType

/-- The texts of the parts of a concatenation, joined. -/
def evalParts (env : Env) (place : List Nat) : List Expr → Outcome Text
  | [] => .ok []
  | e :: es => do
    let v ← eval env place e
    return v.shown ++ (← evalParts env place es)

end

section

-- The equations are proved here, once for all the proofs that open one of the functions.
attribute [local simp] eval evalAnd evalOr evalChain evalItems evalSet evalDict evalPositional
  evalNamed evalParts

end

end Expr

/-- The value of a compiled template for some data. -/
def Compiled.render (c : Compiled) (r : Registry) (data : Value) : Outcome Value :=
  c.body.eval ⟨r, data⟩ []

end Stencil
