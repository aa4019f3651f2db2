import Stencil.Template.Admission
import Stencil.Template.Tree

/-! # The expression that is evaluated

Members become calls of a helper that looks into mappings first, and a concatenation becomes the
joined texts of its parts. -/
namespace Stencil.Emission

/-- The name of the helper that reads a member. -/
def helperName : Text := "_member".toList

mutual

/-- The expression with each member read through the helper. -/
def lower : Expr → Expr
  | .literal l => .literal l
  | .name n => .name n
  | .member e n => .call (.name helperName) [lower e, .text n] []
  | .item e k => .item (lower e) (lower k)
  | .slice l h s => .slice (lower l) (lower h) (lower s)
  | .call f args named => .call (lower f) (lowerAll args) (lowerAll named)
  | .unary op e => .unary op (lower e)
  | .binary op l r => .binary op (lower l) (lower r)
  | .connect c es => .connect c (lowerAll es)
  | .compare e ops es => .compare (lower e) ops (lowerAll es)
  | .choose t y n => .choose (lower t) (lower y) (lower n)
  | .list es => .list (lowerAll es)
  | .tuple es => .tuple (lowerAll es)
  | .set es => .set (lowerAll es)
  | .dict es => .dict (lowerAll es)
  | .pair k v => .pair (lower k) (lower v)
  | .spread e => .spread (lower e)
  | .spreadAll e => .spreadAll (lower e)
  | .named n e => .named n (lower e)
  | .construct c => .construct c
  | .joined es => .joined (lowerAll es)
  | .shown e => .shown (lower e)

def lowerAll : List Expr → List Expr
  | [] => []
  | e :: es => lower e :: lowerAll es

end

section

-- The equations are proved here, once for all the proofs that open one of the functions.
attribute [local simp] lower lowerAll

end

/-- A checked expression with its members lowered. -/
def prepare (e : Expr) : Except Rejection Expr := do
  Admission.check e
  return lower e

/-- What a part adds to a concatenation; an empty text adds nothing. -/
def part : Leaf → Except Rejection (List Expr)
  | .literal s => .ok (if s.isEmpty then [] else [.text s])
  | .sub e => do return [.shown (← prepare e)]

def ofTree : Tree → Except Rejection Expr
  | .leaf (.literal s) => .ok (.text s)
  | .leaf (.sub e) => prepare e
  | .concat ls => do return .joined (← ls.mapM part).flatten

def reservedArgument : Text := "__debug__".toList

/-- The names given to arguments. -/
def argumentNames (named : List Expr) : List Text :=
  named.filterMap fun
    | .named n _ => some n
    | _ => none

mutual

/-- Does every call name each argument once, and none of them with the reserved name? -/
def namesOnce : Expr → Bool
  | .literal _ | .name _ | .construct _ => true
  | .member e _ | .unary _ e | .spread e | .spreadAll e | .named _ e | .shown e => namesOnce e
  | .item e k | .pair e k | .binary _ e k => namesOnce e && namesOnce k
  | .slice l h s => namesOnce l && namesOnce h && namesOnce s
  | .choose t y n => namesOnce t && namesOnce y && namesOnce n
  | .call f args named =>
    let names := argumentNames named
    decide names.Nodup && !names.contains reservedArgument &&
      namesOnce f && allNamesOnce args && allNamesOnce named
  | .compare e _ es => namesOnce e && allNamesOnce es
  | .connect _ es | .list es | .tuple es | .set es | .dict es | .joined es => allNamesOnce es

def allNamesOnce : List Expr → Bool
  | [] => true
  | e :: es => namesOnce e && allNamesOnce es

end

/-- The expression of a tree, if all its calls are well formed. -/
def emit (t : Tree) : Except Rejection Expr := do
  let e ← ofTree t
  if namesOnce e then return e else throw .malformed

end Stencil.Emission
