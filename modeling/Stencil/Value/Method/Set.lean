import Stencil.Value.Method.Container

/-! # Methods of sets -/
namespace Stencil.Value.Method

/-- A table combined with one container after another. -/
def combine (f : Table → Value → Outcome Table) : On Table := fun _ t a => do
  if a.named.isEmpty then return (← a.positional.foldlM f t).toValue else throw .wrongType

/-- The members of containers added; those of the set itself are there. -/
def union : On Table := fun v t a =>
  combine (fun t w => if w.isSame v then .ok t else addTo t w) v t.copy a

/-- The members that a container has too. -/
def commonWith (t : Table) (v : Value) : Outcome Table :=
  match v.content with
  | .set l vs => .ok (t.common (Table.ofLayout l vs))
  | _ => do
    let vs ← v.members
    requireAllHashable vs
    return t.commonWith vs

def intersection : On Table := fun v t a => do
  if !a.named.isEmpty then throw .wrongType
  else match a.positional with
    | [] => return t.copy.toValue
    | w :: ws =>
      let first ← if w.isSame v then pure t.copy else commonWith t w
      return (← ws.foldlM commonWith first).toValue

/-- The members that a container does not have, taken out of a table. -/
def discarded (t : Table) (v : Value) : Outcome Table := do
  let vs ← v.members
  requireAllHashable vs
  return t.discardAll vs

/-- The members that a container does not have. -/
def without (t : Table) (v : Value) : Outcome Table :=
  match v.content with
  | .set _ vs => .ok (t.difference vs.length vs)
  | .dict es => .ok (t.difference es.length (es.map Prod.fst))
  | _ => discarded t.copy v

def difference : On Table := fun _ t a => do
  if !a.named.isEmpty then throw .wrongType
  else match a.positional with
    | [] => return t.copy.toValue
    | v :: vs => return (← vs.foldlM discarded (← without t v)).toValue

/-- The members of either, and not of both. -/
def exclusive (t : Table) (v : Value) : Outcome Table := do
  return (← addTo .empty v).exclusive t.members

/-- Are all members of a container, looked at one by one, as a test says? -/
def allMembers (test : Value → Bool) : List Value → Outcome Bool
  | [] => .ok true
  | v :: vs => do
    requireHashable v
    if test v then allMembers test vs else return false

/-- A question to a set about one container. -/
def relate (f : Table → Value → Outcome Bool) : On Table := fun _ t a => do
  return bool (← f t (← a.single))

def isWithin (t : Table) (v : Value) : Outcome Bool := do
  return (← commonWith t v).used == t.used

/-- A member that is looked for; a set is looked for as a member without being one. -/
def requireMember (v : Value) : Outcome Unit :=
  match v.content with
  | .set _ _ => .ok ()
  | _ => requireHashable v

def remove (t : Table) (v : Value) : Outcome Unit := do
  requireMember v
  if t.holds v then return else throw .noKey

/-- A method that takes containers for what it does to the set. -/
def takingAll (f : Table → Value → Outcome Table) : On Table := fun v t a => do
  let _ ← combine f v t a
  return none

def setMethods : Family Table :=
  [("copy".toList, bare fun t => .ok t.copy.toValue),
   ("union".toList, union),
   ("intersection".toList, intersection),
   ("difference".toList, difference),
   ("symmetric_difference".toList, fun _ t a => do
     return (← exclusive t (← a.single)).toValue),
   ("isdisjoint".toList, relate fun t v => do
     allMembers (fun w => !t.holds w) (← v.members)),
   ("issubset".toList, relate isWithin),
   ("issuperset".toList, relate fun t v => do allMembers t.holds (← v.members)),
   ("add".toList, taking fun _ v => requireHashable v),
   ("discard".toList, taking fun _ v => requireMember v),
   ("remove".toList, taking remove),
   ("pop".toList, bare fun t =>
     match t.members with
     | v :: _ => .ok v
     | [] => .error .noKey),
   ("clear".toList, silent),
   ("update".toList, takingAll addTo),
   ("intersection_update".toList, takingAll commonWith),
   ("difference_update".toList, takingAll discarded),
   ("symmetric_difference_update".toList, taking fun t v => do
     let _ ← exclusive t v)]

end Stencil.Value.Method
