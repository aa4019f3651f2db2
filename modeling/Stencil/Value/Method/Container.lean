import Stencil.Value.Method.Basic
import Stencil.Value.Operator

/-! # Methods of lists, tuples and dictionaries

Methods that would change their value are called for their result alone. -/
namespace Stencil.Value.Method

/-- How often a value is among the members. -/
def countOf (vs : List Value) (a : Arguments) : Outcome Value := do
  let v ← a.single
  return int (vs.filter fun w => w.agrees v).length

/-- The position of a value among the members, between two positions. -/
def indexOf (vs : List Value) (a : Arguments) : Outcome Value := do
  match ← a.bind (.positional 1 3) with
  | [some v, low, high] =>
    let low ← integerOr 0 low
    let high ← integerOr vs.length high
    let first := (clamp vs.length 0 vs.length low).toNat
    let stop := (clamp vs.length 0 vs.length high).toNat
    match ((vs.take stop).drop first).findIdx? fun w => w.agrees v with
    | some n => return int (first + n)
    | Option.none => throw .badValue
  | _ => throw .wrongType

def tupleMethods : Family (List Value) :=
  [("count".toList, ofContent countOf), ("index".toList, ofContent indexOf)]

/-- A method that takes one value, to which it does something. -/
def taking {α : Type} (f : α → Value → Outcome Unit) : On α := fun _ x a => do
  f x (← a.single)
  return none

/-- The member that leaves a list. -/
def popAt (vs : List Value) (a : Arguments) : Outcome Value := do
  match ← a.bind (.positional 0 1) with
  | [i] => itemAt vs (← size (← integerOr (-1) i))
  | _ => throw .wrongType

def insertAt (_ : List Value) (a : Arguments) : Outcome Value := do
  match ← a.bind (.positional 2 2) with
  | [some i, some _] =>
    let _ ← size (← asInteger i)
    return none
  | _ => throw .wrongType

/-- Can neighbours be compared? -/
def requireOrdered : List Value → Outcome Unit
  | v :: w :: vs => do
    let _ ← ordered .lt w v
    requireOrdered (w :: vs)
  | _ => .ok ()

/-- Members in order, by themselves or by what a function makes of them. -/
def sort (vs : List Value) (a : Arguments) : Outcome Value := do
  match ← a.bind ⟨[[], "key".toList, "reverse".toList], 0, 0⟩ with
  | [Option.none, key, reverse] =>
    let _ ← flag reverse
    match (key.getD none).content with
    | .none => requireOrdered vs
    | _ => if vs.isEmpty || (key.getD none).isCallable then pure () else throw .wrongType
    return none
  | _ => throw .wrongType

def listMethods : Family (List Value) :=
  tupleMethods ++
  [("copy".toList, bare fun vs => .ok (list vs)),
   ("append".toList, taking fun _ _ => .ok ()),
   ("extend".toList, taking fun _ v => do let _ ← v.members),
   ("insert".toList, ofContent insertAt),
   ("pop".toList, ofContent popAt),
   ("remove".toList, taking fun vs v => if isAmong v vs then .ok () else .error .badValue),
   ("clear".toList, silent),
   ("reverse".toList, silent),
   ("sort".toList, ofContent sort)]

/-- The value under a key, or another one. -/
def get (es : List (Value × Value)) (a : Arguments) : Outcome Value := do
  match ← a.bind (.positional 1 2) with
  | [some k, default] =>
    requireHashable k
    return (lookup? k es).getD (default.getD none)
  | _ => throw .wrongType

/-- The value under a key that leaves a dictionary. Nothing is looked for in an empty one. -/
def popKey (es : List (Value × Value)) (a : Arguments) : Outcome Value := do
  match ← a.bind (.positional 1 2) with
  | [some k, default] =>
    if !es.isEmpty then requireHashable k
    match lookup? k es, default with
    | some v, _ | Option.none, some v => return v
    | Option.none, Option.none => throw .noKey
  | _ => throw .wrongType

/-- The last entry. -/
def popItem (es : List (Value × Value)) : Outcome Value :=
  match es.getLast? with
  | some e => .ok (pairOf e)
  | Option.none => .error .noKey

/-- A dictionary with every member of a container as a key. -/
def fromKeys (a : Arguments) : Outcome Value := do
  match ← a.bind (.positional 1 2) with
  | [some keys, value] =>
    let ks ← keys.members
    requireAllHashable ks
    return dict (putAll [] (ks.map fun k => (k, value.getD none)))
  | _ => throw .wrongType

/-- A pair of a key and a value. -/
def requirePair (v : Value) : Outcome Unit := do
  match ← v.members with
  | [k, _] => requireHashable k
  | _ => throw .badValue

/-- Entries from a mapping or from pairs. -/
def requireEntries (v : Value) : Outcome Unit := do
  if v.entries?.isSome then return
  else (← v.members).forM requirePair

def update (_ : List (Value × Value)) (a : Arguments) : Outcome Value := do
  match a.positional with
  | [] => return none
  | [v] =>
    requireEntries v
    return none
  | _ => throw .wrongType

/-- A view of the entries. -/
def viewOf (part : DictPart) : On (List (Value × Value)) := bare fun es => .ok (view part es)

/-- The methods of dictionaries that are only read. -/
def readMethods : Family (List (Value × Value)) :=
  [("get".toList, ofContent get),
   ("keys".toList, viewOf .keys),
   ("values".toList, viewOf .values),
   ("items".toList, viewOf .items),
   ("copy".toList, bare fun es => .ok (dict es))]

def dictMethods : Family (List (Value × Value)) :=
  readMethods ++
  [("fromkeys".toList, fun _ _ => fromKeys),
   ("pop".toList, ofContent popKey),
   ("popitem".toList, bare popItem),
   ("setdefault".toList, ofContent get),
   ("update".toList, ofContent update),
   ("clear".toList, silent)]

/-- Do two containers share no member? The one that is asked is the view, or a longer view or set.
Members are looked for one by one. -/
def isDisjointView (v : Value) : Value → Outcome Bool := fun w => do
  let vs ← v.members
  let ws ← w.members
  let isSetLike := match w.content with
    | .set _ _ => true
    | _ => w.isSetView
  let (asked, others) := if isSetLike && vs.length < ws.length then (w, vs) else (v, ws)
  others.foldlM
    (fun apart u => do if apart then return !(← asked.contains u) else return false) true

def viewMethods : Family (List (Value × Value)) :=
  [("isdisjoint".toList, fun v _ a => do return bool (← isDisjointView v (← a.single)))]

end Stencil.Value.Method
