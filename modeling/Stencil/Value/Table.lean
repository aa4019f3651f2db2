import Stencil.Value.Equality
import Stencil.Value.Hash

/-! # Tables of sets

The members of a set stand in slots, and are listed in the order of these. A member takes the first
free slot of those that its hash leads to, and the table grows before it is full. -/
namespace Stencil

inductive Slot
  | free
  /-- A slot that a member has left. -/
  | gone
  | held (hash : Nat) (v : Value)

/-- The slots, a power of two of them, and how many are not free. -/
structure Table where
  slots : Array Slot
  fill : Nat

def Slot.isFree : Slot → Bool
  | .free => true
  | _ => false

def Slot.isGone : Slot → Bool
  | .gone => true
  | _ => false

namespace Table

def ofSize (n : Nat) : Table := ⟨Array.replicate n .free, 0⟩

def empty : Table := ofSize 8

def held (t : Table) : List (Nat × Value) :=
  t.slots.toList.filterMap fun
    | .held h v => some (h, v)
    | _ => none

/-- The members in order. -/
def members (t : Table) : List Value := t.held.map Prod.snd

def used (t : Table) : Nat := t.held.length

/-- The slots looked at together: a few neighbours, unless the end of the table is near. -/
def neighbours (size i : Nat) : List Nat := if i + 10 ≤ size then List.range' i 10 else [i]

/-- The slot for a new member from `i` on, and whether it is free: the first free one, or rather the
last one given up (`gone`) before it. `rest` are the bits of the hash not yet used. -/
def openFrom (slots : Array Slot) (gone : Option Nat) : (fuel i rest : Nat) → Nat × Bool
  | 0, i, _ => (i, true)
  | fuel + 1, i, rest =>
    let near := neighbours slots.size i
    let isFree (j : Nat) : Bool := (slots[j]?).any Slot.isFree
    let passed := near.takeWhile fun j => !isFree j
    let gone := (passed.reverse.find? fun j => (slots[j]?).any Slot.isGone).or gone
    match near.find? isFree with
    | some j => (gone.getD j, gone.isNone)
    | none => openFrom slots gone fuel ((5 * i + 1 + rest / 32) % slots.size) (rest / 32)

/-- The table with a value in the slot that its hash leads to. -/
def place (t : Table) (hash : Nat) (v : Value) : Table :=
  let (i, isFree) := openFrom t.slots none (t.slots.size + 16) (hash % t.slots.size) hash
  ⟨t.slots.setIfInBounds i (.held hash v), if isFree then t.fill + 1 else t.fill⟩

/-- The first size beyond `n`, doubling from `size` on. -/
def sizeBeyond (n : Nat) : (fuel size : Nat) → Nat
  | 0, size => size
  | fuel + 1, size => if size ≤ n then sizeBeyond n fuel (2 * size) else size

/-- The members in a table of the first size beyond `n`. -/
def resize (t : Table) (n : Nat) : Table :=
  t.held.foldl (fun t e => t.place e.1 e.2) (ofSize (sizeBeyond n n 8))

/-- Would a table with so many slots taken be too full? -/
def isCrowded (t : Table) (fill : Nat) : Bool := decide (3 * (t.slots.size - 1) ≤ 5 * fill)

def holds (t : Table) (v : Value) : Bool := t.members.any fun w => w.agrees v

def grow (t : Table) : Table := t.resize (if 50000 < t.used then 2 * t.used else 4 * t.used)

/-- The hash of a value; one that its content does not decide follows the members before it. -/
def hashFor (t : Table) (v : Value) : Nat := (Hash.ofValue? v).getD t.fill

/-- The table with a member, unless it is there. -/
def add (t : Table) (v : Value) : Table :=
  if t.holds v then t
  else
    let u := t.place (t.hashFor v) v
    if t.fill < u.fill && u.isCrowded u.fill then u.grow else u

def addAll (t : Table) (vs : List Value) : Table := vs.foldl add t

/-- Room for `n` more members, made at once. -/
def reserve (t : Table) (n : Nat) : Table :=
  if t.isCrowded (t.fill + n) then t.resize (2 * (t.used + n)) else t

/-- The members of another table added. An empty table takes them over as they lie, if it can. -/
def merge (t other : Table) : Table :=
  let n := other.used
  if n = 0 then t
  else
    let t := t.reserve n
    if t.fill = 0 then
      if t.slots.size = other.slots.size ∧ other.fill = n then other
      else other.held.foldl (fun t e => t.place e.1 e.2) t
    else t.addAll other.members

def copy (t : Table) : Table := empty.merge t

/-- The table without a member. -/
def discard (t : Table) (v : Value) : Table :=
  ⟨t.slots.map fun
    | .held h w => if w.agrees v then .gone else .held h w
    | s => s, t.fill⟩

/-- The table without some members; slots given up are cleared away if they are many. -/
def discardAll (t : Table) (vs : List Value) : Table :=
  let t := vs.foldl discard t
  if t.fill - t.used ≤ (t.slots.size - 1) / 4 then t else t.grow

/-- The members that both tables hold, as the smaller one holds them. -/
def common (a b : Table) : Table :=
  let p := if a.used < b.used then (b, a) else (a, b)
  empty.addAll (p.2.members.filter p.1.holds)

/-- Those of some values that the table holds. -/
def commonWith (t : Table) (vs : List Value) : Table := empty.addAll (vs.filter t.holds)

/-- The members that `other`, of the size given, does not hold. -/
def difference (t : Table) (size : Nat) (other : List Value) : Table :=
  if size < t.used / 4 then t.copy.discardAll other
  else empty.addAll (t.members.filter fun v => !other.any v.agrees)

/-- The members of the second that the first does not hold, and the other way round. -/
def exclusive (t : Table) (vs : List Value) : Table :=
  vs.foldl (fun t v => if t.holds v then t.discard v else t.add v) t

/-- The content of a set with the members of a table. -/
def toContent (t : Table) : Content :=
  let places := (List.range t.slots.size).filter fun i =>
    match t.slots[i]? with
    | some (.held _ _) => true
    | _ => false
  .set ⟨t.slots.size, places, t.fill != places.length⟩ t.members

def toValue (t : Table) : Value := ⟨.fresh, t.toContent⟩

/-- The table that members lie in as a layout tells. -/
def ofLayout (l : SetLayout) (vs : List Value) : Table :=
  let put (slots : Array Slot) (e : Nat × Value) : Array Slot :=
    slots.setIfInBounds e.1 (.held ((Hash.ofValue? e.2).getD e.1) e.2)
  ⟨(l.places.zip vs).foldl put (Array.replicate l.size .free),
    vs.length + if l.worn then 1 else 0⟩

end Table

/-- The set of some values, one after another. -/
def Value.setOf (vs : List Value) : Value := (Table.empty.addAll vs).toValue

end Stencil
