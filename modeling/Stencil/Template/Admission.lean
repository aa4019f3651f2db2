import Stencil.Template.Rejection
import Stencil.Template.Scoping

/-! # What the expressions of a template may use

Operators, comparisons, conditions, calls, members, subscripts, constants and displays; no name but
the scope, and no member that is hidden. The first offence in reading order is reported; the keys of
a dictionary come before its values. -/
namespace Stencil.Admission

/-- Members whose name begins with two low lines, and those that read a format from a text. -/
def isHidden (name : Text) : Bool :=
  (Text.after? ['_', '_'] name).isSome ||
    ["format".toList, "format_map".toList].contains name

mutual

def check : Expr → Except Rejection Unit
  | .literal _ => .ok ()
  | .name n => if n = Scoping.scopeName then .ok () else .error (.foreignName n)
  | .member e n => if isHidden n then .error (.hiddenMember n) else check e
  | .item e k => do check e; check k
  | .slice l h s => do check l; check h; check s
  | .call f args named => do check f; checkAll args; checkAll named
  | .unary _ e => check e
  | .binary _ l r => do check l; check r
  | .connect _ es => checkAll es
  | .compare e _ es => do check e; checkAll es
  | .choose t y n => do check t; check y; check n
  | .list es => checkAll es
  | .tuple es => checkAll es
  | .set es => checkAll es
  | .dict es => do checkKeys es; checkValues es
  | .pair k v => do check k; check v
  | .spread e => check e
  | .spreadAll e => check e
  | .named _ e => check e
  | .construct c => .error (.construct c.kind)
  | .joined es => .error (.construct (Expr.joined es).kind)
  | .shown e => .error (.construct (Expr.shown e).kind)

def checkAll : List Expr → Except Rejection Unit
  | [] => .ok ()
  | e :: es => do check e; checkAll es

def checkKeys : List Expr → Except Rejection Unit
  | [] => .ok ()
  | .pair k _ :: es => do check k; checkKeys es
  | _ :: es => checkKeys es

def checkValues : List Expr → Except Rejection Unit
  | [] => .ok ()
  | .pair _ v :: es => do check v; checkValues es
  | e :: es => do check e; checkValues es

end

end Stencil.Admission
