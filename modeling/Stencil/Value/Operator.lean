import Stencil.Value.Format

/-! # Operators on values -/
namespace Stencil.Value

/-- Members repeated; a count below one gives none. -/
def repeated {α : Type} (xs : List α) (n : Int) : Outcome (List α) := do
  let n ← size n
  if xs.isEmpty then return []
  else if maxLength < xs.length * n then throw .overflow
  else return (List.replicate n.toNat xs).flatten

/-- A sequence repeated; what is taken once is the same object, unless it is a list. -/
def repeatSequence? (v : Value) (n : Int) : Option (Outcome Value) :=
  match v.content with
  | .text s => some (if n = 1 then .ok v else text <$> repeated s n)
  | .bytes bs => some (if n = 1 then .ok v else bytes <$> repeated bs n)
  | .list vs => some (list <$> repeated vs n)
  | .tuple vs => some (if n = 1 then .ok v else tuple <$> repeated vs n)
  | _ => Option.none

/-- An operation on two numbers, or else what `other` gives. -/
def onNumbers (f : Number → Number → Outcome Number) (v w : Value) (other : Outcome Value) :
    Outcome Value :=
  match v.number?, w.number? with
  | some a, some b => do return (← f a b).toValue
  | _, _ => other

/-- An operation on two integers, or else what `other` gives. -/
def onIntegers (f : Int → Int → Outcome Int) (v w : Value) (other : Outcome Value) :
    Outcome Value :=
  match v.integer?, w.integer? with
  | some a, some b => do return int (← f a b)
  | _, _ => other

def mismatch : Outcome Value := .error .wrongType

/-- The sum; an empty text, bytes or tuple leaves the other operand as it is. -/
def add (v w : Value) : Outcome Value :=
  match v.content, w.content with
  | .text a, .text b => .ok (if b.isEmpty then v else if a.isEmpty then w else text (a ++ b))
  | .bytes a, .bytes b => .ok (if b.isEmpty then v else if a.isEmpty then w else bytes (a ++ b))
  | .list a, .list b => .ok (list (a ++ b))
  | .tuple a, .tuple b => .ok (if b.isEmpty then v else if a.isEmpty then w else tuple (a ++ b))
  | _, _ => onNumbers Number.add v w mismatch

/-! ## Sets and views -/

/-- Is this a view of keys or items, which are compared and combined like sets? -/
def isSetView (v : Value) : Bool :=
  match v.content with
  | .view .keys _ | .view .items _ => true
  | _ => false

/-- A table of its own for the members of one side of an operation with a view. The keys of a
dictionary come from the dictionary itself. -/
def viewTable (v : Value) : Outcome Table :=
  match v.content with
  | .view .keys es => addTo .empty (dict es)
  | _ => addTo .empty v

/-- The members of the other side, one after another. -/
def othersInTurn (w : Value) : Outcome (List Value) :=
  match w.content with
  | .dict es => .ok (es.map Prod.fst)
  | _ => do return (← w.toTable).members

/-- The members of the operand that a view, or else a longer view, holds. -/
def viewCommon (v w : Value) : Outcome Table := do
  let (view, other) := if v.isSetView then (v, w) else (w, v)
  let n := (view.members?.getD []).length
  match other.content with
  | .set l vs =>
    if n ≤ vs.length then
      let ws ← view.members
      requireAllHashable ws
      return (Table.ofLayout l vs).commonWith ws
    else return ← keep view vs
  | _ =>
    let ws ← other.members
    if other.isSetView && n < ws.length then keep other (← view.members) else keep view ws
where
  /-- Those of some values that a container holds. -/
  keep (container : Value) (vs : List Value) : Outcome Table :=
    vs.foldlM (fun t v => do
      if ← container.contains v then
        requireHashable v
        return t.add v
      else return t) .empty

/-- The entries that only one of two dictionaries holds, as pairs. -/
def exclusiveItems (es fs : List (Value × Value)) : Outcome Table := do
  let isShared (e : Value × Value) (fs : List (Value × Value)) : Bool :=
    (lookup? e.1 fs).any fun v => v.agrees e.2
  let vs := ((fs.filter fun f => !isShared f es) ++ es.filter fun e => !isShared e fs).map pairOf
  requireAllHashable vs
  return Table.empty.addAll vs

/-- How two sets are combined. -/
inductive SetOperation | union | common | difference | exclusive
  deriving DecidableEq

/-- Two tables combined, which may be those of one set. -/
def combineTables (op : SetOperation) (same : Bool) (a b : Table) : Table :=
  match op with
  | .union => if same then a.copy else a.copy.merge b
  | .common => if same then a.copy else a.common b
  | .difference => a.difference b.used b.members
  | .exclusive => b.copy.exclusive a.members

/-- A view combined with any container, on either side. -/
def combineView (op : SetOperation) (v w : Value) : Outcome Table :=
  match op with
  | .union => do addTo (← viewTable v) w
  | .common => viewCommon v w
  | .difference => do
    let t ← viewTable v
    let ws ← w.members
    requireAllHashable ws
    return t.discardAll ws
  | .exclusive =>
    match v.content, w.content with
    | .view .items es, .view .items fs => exclusiveItems es fs
    | _, _ => do
      let t ← viewTable v
      return t.exclusive (← othersInTurn w)

/-- An operation on two sets. A view of keys or items takes any container on its other side. -/
def onSets (op : SetOperation) (v w : Value) : Outcome Value :=
  match v.content, w.content with
  | .set l a, .set m b =>
    .ok (combineTables op (v.isSame w) (Table.ofLayout l a) (Table.ofLayout m b)).toValue
  | _, _ =>
    if v.isSetView || w.isSetView then Table.toValue <$> combineView op v w else mismatch

def sub (v w : Value) : Outcome Value := onNumbers Number.sub v w (onSets .difference v w)

def mul (v w : Value) : Outcome Value :=
  match v.integer?, w.integer? with
  | Option.none, some n =>
    match repeatSequence? v n with
    | some r => r
    | Option.none => onNumbers Number.mul v w mismatch
  | some n, Option.none =>
    match repeatSequence? w n with
    | some r => r
    | Option.none => onNumbers Number.mul v w mismatch
  | _, _ => onNumbers Number.mul v w mismatch

/-- The value that a format of a single plain field shows, if the format is one. -/
def shownAlone? (format : Text) (w : Value) : Option Value :=
  if format = ['%', 's'] then
    match w.content with
    | .tuple [v] => some v
    | .tuple _ => Option.none
    | _ => some w
  else Option.none

/-- The remainder, or a format with its fields filled. A text shown alone is the same object. -/
def mod (v w : Value) : Outcome Value :=
  match v.content with
  | .text format => do
    let r := text (← Format.apply format w)
    return ((shownAlone? format w).map fun x => x.keeping r).getD r
  | .bytes format => bytes <$> Format.applyBytes format w
  | _ => onNumbers Number.mod v w mismatch

/-- A bitwise operation; two truth values give a truth value. -/
def bitwise (f : Bool → Bool → Bool) (op : SetOperation) (v w : Value) : Outcome Value :=
  match v.content, w.content with
  | .bool a, .bool b => .ok (bool (f a b))
  | _, _ => onIntegers (fun a b => .ok (Number.bitwise f a b)) v w (onSets op v w)

def bitOr (v w : Value) : Outcome Value :=
  match v.entries?, w.entries? with
  | some a, some b => .ok (dict (putAll a b))
  | _, _ => bitwise (· || ·) .union v w

/-- The value of two operands. -/
def binary (op : BinaryOp) (v w : Value) : Outcome Value :=
  match op with
  | .add => add v w
  | .sub => sub v w
  | .mul => mul v w
  | .matMul => mismatch
  | .div => onNumbers Number.div v w mismatch
  | .floorDiv => onNumbers Number.floorDiv v w mismatch
  | .mod => mod v w
  | .pow => onNumbers Number.pow v w mismatch
  | .shiftLeft => onIntegers Number.shiftLeft v w mismatch
  | .shiftRight => onIntegers Number.shiftRight v w mismatch
  | .bitOr => bitOr v w
  | .bitXor => bitwise (· != ·) .exclusive v w
  | .bitAnd => bitwise (· && ·) .common v w

/-- The number that a value is, as the same object unless it is a truth value. -/
def asNumber? (v : Value) : Option Value :=
  match v.content with
  | .bool b => some (int (if b then 1 else 0))
  | .int _ | .float _ | .complex _ _ => some v
  | _ => Option.none

def unary (op : UnaryOp) (v : Value) : Outcome Value :=
  match op with
  | .not => .ok (bool !v.isTrue)
  | .plus => (v.asNumber?.map Except.ok).getD mismatch
  | .minus =>
    match v.number? with
    | some n => .ok n.neg.toValue
    | Option.none => mismatch
  | .invert =>
    match v.integer? with
    | some i => .ok (int (-i - 1))
    | Option.none => mismatch

/-- Does a comparison hold? -/
def compare (c : Comparison) (v w : Value) : Outcome Bool :=
  match c with
  | .eq => .ok (v.equals w)
  | .ne => .ok !v.equals w
  | .is => .ok (v.isSame w)
  | .isNot => .ok !v.isSame w
  | .within => w.contains v
  | .notWithin => (! ·) <$> w.contains v
  | c => ordered c v w

end Stencil.Value
