import Stencil.Expr.Syntax
import Stencil.Value.Identity
import Stencil.Value.Number

/-! # Equality and order of values

Members of containers agree if they are one object or equal, so that a container that holds a number
that is not equal to itself is still equal to itself. -/
namespace Stencil.Value

def numbersEqual (c d : Content) : Bool :=
  match c.number?, d.number? with
  | some a, some b => a.equals b
  | _, _ => false

mutual

/-- Are two values equal? -/
def equals : Value → Value → Bool
  | ⟨i, .object _⟩, ⟨j, .object _⟩ => i == j
  | ⟨i, .view .values _⟩, ⟨j, .view .values _⟩ => i != .fresh && i == j
  | ⟨_, c⟩, ⟨_, d⟩ => equalContents c d

def equalContents : Content → Content → Bool
  | .none, .none => true
  | .text a, .text b => a == b
  | .bytes a, .bytes b => a == b
  | .ellipsis, .ellipsis => true
  | .list a, .list b => equalAll a b
  | .tuple a, .tuple b => equalAll a b
  | .set _ a, .set _ b => a.length == b.length && within a b
  | .dict a, .dict b => a.length == b.length && entriesWithin a b
  | .dict a, .frozen b => a.length == b.length && entriesWithin a b
  | .frozen a, .dict b => a.length == b.length && entriesWithin a b
  | .frozen a, .frozen b => a.length == b.length && entriesWithin a b
  | .set _ a, .view .keys b => a.length == b.length && withinKeys a b
  | .view .keys a, .set _ b => a.length == b.length && keysWithin a b
  | .view .keys a, .view .keys b => a.length == b.length && keysWithinKeys a b
  | .view .items a, .view .items b => a.length == b.length && entriesWithin a b
  | .set _ a, .view .items b => a.length == b.length && withinItems a b
  | .view .items a, .set _ b => a.length == b.length && itemsWithin a b
  | .slice a b c, .slice d e f => equals a d && equals b e && equals c f
  | .scope _, .scope _ => true
  | .function a, .function b => a == b
  | .method v m, .method w n => isSame v w && m == n
  | .memberHelper, .memberHelper => true
  | c, d => numbersEqual c d

/-- Are the members of two sequences the same or equal, one by one? -/
def equalAll : List Value → List Value → Bool
  | [], [] => true
  | v :: vs, w :: ws => (isSame v w || equals v w) && equalAll vs ws
  | _, _ => false

def within : List Value → List Value → Bool
  | [], _ => true
  | v :: vs, ws => ws.any (fun w => isSame v w || equals v w) && within vs ws

def withinKeys : List Value → List (Value × Value) → Bool
  | [], _ => true
  | v :: vs, es => es.any (fun e => isSame v e.1 || equals v e.1) && withinKeys vs es

def keysWithin : List (Value × Value) → List Value → Bool
  | [], _ => true
  | (k, _) :: es, ws => ws.any (fun w => isSame k w || equals k w) && keysWithin es ws

def keysWithinKeys : List (Value × Value) → List (Value × Value) → Bool
  | [], _ => true
  | (k, _) :: es, fs => fs.any (fun f => isSame k f.1 || equals k f.1) && keysWithinKeys es fs

/-- Are the members of a set entries of a dictionary, as pairs? -/
def withinItems : List Value → List (Value × Value) → Bool
  | [], _ => true
  | ⟨_, .tuple [k, v]⟩ :: vs, es =>
    es.any (fun e => (isSame k e.1 || equals k e.1) && (isSame v e.2 || equals v e.2)) &&
      withinItems vs es
  | _ :: _, _ => false

def itemsWithin : List (Value × Value) → List Value → Bool
  | [], _ => true
  | (k, v) :: es, ws =>
    ws.any (fun w =>
      match w.content with
      | .tuple [l, x] => (isSame k l || equals k l) && (isSame v x || equals v x)
      | _ => false) && itemsWithin es ws

/-- Does the second dictionary hold every entry of the first? -/
def entriesWithin : List (Value × Value) → List (Value × Value) → Bool
  | [], _ => true
  | (k, v) :: es, fs =>
    fs.any (fun f => (isSame k f.1 || equals k f.1) && (isSame v f.2 || equals v f.2)) &&
      entriesWithin es fs

end

/-- How members and keys are found: as one object or by equality. -/
def agrees (v w : Value) : Bool := isSame v w || equals v w

mutual

/-- May a value be a key or a member of a set? -/
def isHashable : Value → Bool
  | ⟨_, .list _⟩ | ⟨_, .set _ _⟩ | ⟨_, .dict _⟩ | ⟨_, .slice _ _ _⟩ | ⟨_, .frozen _⟩ => false
  | ⟨_, .view .values _⟩ => true
  | ⟨_, .view _ _⟩ => false
  | ⟨_, .tuple vs⟩ => allHashable vs
  | _ => true

def allHashable : List Value → Bool
  | [] => true
  | v :: vs => isHashable v && allHashable vs

end

def requireHashable (v : Value) : Outcome Unit :=
  if v.isHashable then .ok () else .error .wrongType

/-- The order of two sequences of comparable elements. -/
def compareLists {α : Type} [DecidableEq α] (lt : α → α → Bool) : List α → List α → Ordering
  | [], [] => .eq
  | [], _ :: _ => .lt
  | _ :: _, [] => .gt
  | a :: as, b :: bs => if a = b then compareLists lt as bs else if lt a b then .lt else .gt

/-- Is an ordering the one that a comparison asks for? -/
def admits (c : Comparison) (o : Ordering) : Bool :=
  match c with
  | .lt => o == .lt
  | .le => o != .gt
  | .gt => o == .gt
  | .ge => o != .lt
  | _ => false

/-- The members of a value that is compared as a set. -/
def asSet? (v : Value) : Option (List Value) :=
  match v.content with
  | .set _ vs => some vs
  | .view .keys es => some (es.map Prod.fst)
  | .view .items es => some (es.map fun e => tuple [e.1, e.2])
  | _ => Option.none

def isSubset (vs ws : List Value) : Bool := vs.all fun v => ws.any (agrees v)

/-- Inclusion as an order. -/
def compareSets (c : Comparison) (a b : List Value) : Bool :=
  match c with
  | .le => isSubset a b
  | .lt => isSubset a b && a.length != b.length
  | .ge => isSubset b a
  | .gt => isSubset b a && a.length != b.length
  | _ => false

mutual

/-- One of the four comparisons by order. Sequences are decided by the first members that differ,
or else by their lengths. -/
def ordered (c : Comparison) : Value → Value → Outcome Bool
  | ⟨_, .text a⟩, ⟨_, .text b⟩ => .ok (admits c (compareLists (· < ·) a b))
  | ⟨_, .bytes a⟩, ⟨_, .bytes b⟩ => .ok (admits c (compareLists (· < ·) a b))
  | ⟨_, .list a⟩, ⟨_, .list b⟩ => orderedAll c a b
  | ⟨_, .tuple a⟩, ⟨_, .tuple b⟩ => orderedAll c a b
  | v, w =>
    match v.asSet?, w.asSet? with
    | some a, some b => .ok (compareSets c a b)
    | _, _ =>
      match v.content.number?, w.content.number? with
      | some (.complex _ _), some _ | some _, some (.complex _ _) => .error .wrongType
      | some a, some b => .ok ((a.compare? b).any (admits c))
      | _, _ => .error .wrongType

def orderedAll (c : Comparison) : List Value → List Value → Outcome Bool
  | v :: vs, w :: ws => if agrees v w then orderedAll c vs ws else ordered c v w
  | [], [] => .ok (admits c .eq)
  | [], _ :: _ => .ok (admits c .lt)
  | _ :: _, [] => .ok (admits c .gt)

end

end Stencil.Value
