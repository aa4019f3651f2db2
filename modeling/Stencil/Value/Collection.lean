import Stencil.Value.Table

/-! # Members of containers -/
namespace Stencil.Value

def byte (b : UInt8) : Value := int b.toNat

def pairOf (e : Value × Value) : Value := tuple [e.1, e.2]

/-- What a view of a dictionary shows of its entries. -/
def shownPart (part : DictPart) (es : List (Value × Value)) : List Value :=
  match part with
  | .keys => es.map Prod.fst
  | .values => es.map Prod.snd
  | .items => es.map pairOf

/-- The members of a value in order; a dictionary gives its keys. -/
def members? (v : Value) : Option (List Value) :=
  match v.content with
  | .list vs | .tuple vs | .set _ vs => some vs
  | .text s => some (s.map fun c => text [c])
  | .bytes bs => some (bs.map byte)
  | .dict es | .frozen es => some (es.map Prod.fst)
  | .view part es => some (shownPart part es)
  | _ => Option.none

def members (v : Value) : Outcome (List Value) :=
  match v.members? with
  | some vs => .ok vs
  | Option.none => .error .wrongType

def length (v : Value) : Outcome Int := do return (← v.members).length

/-- Is a value among others? -/
def isAmong (v : Value) (vs : List Value) : Bool := vs.any fun w => w.agrees v

/-- The entry of a key. -/
def entryAt? (key : Value) (es : List (Value × Value)) : Option (Value × Value) :=
  es.find? fun e => e.1.agrees key

def lookup? (key : Value) (es : List (Value × Value)) : Option Value :=
  (entryAt? key es).map Prod.snd

/-- Entries with a value put under a key. A key that is there keeps its place and its form. -/
def put (es : List (Value × Value)) (key value : Value) : List (Value × Value) :=
  match es with
  | [] => [(key, value)]
  | e :: es => if e.1.agrees key then (e.1, value) :: es else e :: put es key value

def putAll (es fs : List (Value × Value)) : List (Value × Value) :=
  fs.foldl (fun es f => put es f.1 f.2) es

/-- Members that may stand in a set. -/
def requireAllHashable (vs : List Value) : Outcome Unit := vs.forM requireHashable

/-- The entries of a mapping. -/
def entries? (v : Value) : Option (List (Value × Value)) :=
  match v.content with
  | .dict es | .frozen es => some es
  | _ => Option.none

/-- Do elements occur side by side in a list? -/
def hasInfix {α : Type} [BEq α] (p : List α) : List α → Bool
  | [] => p.isEmpty
  | x :: xs => p.isPrefixOf (x :: xs) || hasInfix p xs

/-- Is there an entry under a key? -/
def hasKey (es : List (Value × Value)) (v : Value) : Outcome Bool := do
  requireHashable v
  return (entryAt? v es).isSome

/-- Is a value a member of another one? -/
def contains (container v : Value) : Outcome Bool :=
  match container.content with
  | .text s =>
    match v.content with
    | .text p => .ok (Text.occurs p s)
    | _ => .error .wrongType
  | .bytes bs =>
    match v.content with
    | .bytes p => .ok (hasInfix p bs)
    | _ =>
      match v.integer? with
      | some i =>
        if 0 ≤ i ∧ i < 256 then .ok (bs.contains (UInt8.ofNat i.toNat)) else .error .badValue
      | Option.none => .error .wrongType
  | .list vs | .tuple vs => .ok (isAmong v vs)
  | .set _ vs =>
    match v.content with
    | .set _ _ => .ok false
    | _ => do
      requireHashable v
      return isAmong v vs
  | .dict es | .frozen es | .view .keys es => hasKey es v
  | .view .values es => .ok (isAmong v (es.map Prod.snd))
  | .view .items es =>
    match v.content with
    | .tuple [k, w] => do
      requireHashable k
      return (lookup? k es).any fun x => x.agrees w
    | _ => .ok false
  | _ => .error .wrongType

/-- The table of a set, or of the members of any other container. The keys of a dictionary come into
a table that is made large enough at once. -/
def toTable (v : Value) : Outcome Table :=
  match v.content with
  | .set l vs => .ok (Table.ofLayout l vs)
  | .dict es => .ok ((Table.empty.reserve es.length).addAll (es.map Prod.fst))
  | _ => do
    let vs ← v.members
    requireAllHashable vs
    return Table.empty.addAll vs

/-- The table with the members of a container. -/
def addTo (t : Table) (v : Value) : Outcome Table :=
  match v.content with
  | .set l vs => .ok (t.merge (Table.ofLayout l vs))
  | .dict es => .ok ((t.reserve es.length).addAll (es.map Prod.fst))
  | _ => do
    let vs ← v.members
    requireAllHashable vs
    return t.addAll vs

end Stencil.Value
