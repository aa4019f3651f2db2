import Stencil.Text.Basic

/-! # Expressions -/
namespace Stencil

inductive UnaryOp | plus | minus | invert | not
  deriving DecidableEq

inductive BinaryOp
  | add | sub | mul | matMul | div | floorDiv | mod | pow
  | shiftLeft | shiftRight | bitOr | bitXor | bitAnd
  deriving DecidableEq

inductive Comparison | eq | ne | lt | le | gt | ge | is | isNot | within | notWithin
  deriving DecidableEq

inductive Connective | and | or
  deriving DecidableEq

/-- A constant. Numbers have no sign; `decimal m e` is `m · 10^e`. -/
inductive Literal
  | none
  | bool (b : Bool)
  | int (n : Nat)
  | decimal (m : Nat) (e : Int)
  | imaginary (m : Nat) (e : Int)
  | text (s : Text)
  | bytes (bs : List UInt8)
  | ellipsis
  deriving DecidableEq

/-- What the grammar reads and no template may use. -/
inductive Construct
  | assignment | lambda | listComprehension | setComprehension | dictComprehension | generator
  | await | yield | yieldFrom | template
  deriving DecidableEq

/-- An expression. `pair`, `spreadAll` and `named` stand only in dictionaries and argument lists,
`spread` in displays and arguments, `slice` in subscripts; an end that a slice leaves out is the
literal `none`. `joined` and `shown` are written by the emission alone. -/
inductive Expr
  | literal (l : Literal)
  | name (id : Text)
  | member (of : Expr) (name : Text)
  | item (of key : Expr)
  | slice (low high step : Expr)
  | call (fn : Expr) (args named : List Expr)
  | unary (op : UnaryOp) (e : Expr)
  | binary (op : BinaryOp) (l r : Expr)
  | connect (c : Connective) (es : List Expr)
  | compare (first : Expr) (ops : List Comparison) (rest : List Expr)
  | choose (test yes no : Expr)
  | list (es : List Expr)
  | tuple (es : List Expr)
  | set (es : List Expr)
  | dict (es : List Expr)
  | pair (key value : Expr)
  | spread (e : Expr)
  | spreadAll (e : Expr)
  | named (name : Text) (e : Expr)
  | construct (c : Construct)
  | joined (parts : List Expr)
  | shown (e : Expr)

namespace Expr

def text (s : Text) : Expr := literal (.text s)

def isSpread : Expr → Bool
  | spread _ => true
  | _ => false

end Expr

/-- The public name of a construct. -/
def Construct.kind : Construct → String
  | assignment => "NamedExpr"
  | lambda => "Lambda"
  | listComprehension => "ListComp"
  | setComprehension => "SetComp"
  | dictComprehension => "DictComp"
  | generator => "GeneratorExp"
  | await => "Await"
  | yield => "Yield"
  | yieldFrom => "YieldFrom"
  | template => "JoinedStr"

/-- The public name of the kind of an expression. -/
def Expr.kind : Expr → String
  | literal _ => "Constant"
  | name _ => "Name"
  | member _ _ => "Attribute"
  | item _ _ => "Subscript"
  | slice _ _ _ => "Slice"
  | call _ _ _ => "Call"
  | unary _ _ => "UnaryOp"
  | binary _ _ _ => "BinOp"
  | connect _ _ => "BoolOp"
  | compare _ _ _ => "Compare"
  | choose _ _ _ => "IfExp"
  | list _ => "List"
  | tuple _ => "Tuple"
  | set _ => "Set"
  | dict _ => "Dict"
  | spread _ => "Starred"
  | pair _ _ | spreadAll _ | named _ _ => "keyword"
  | construct c => c.kind
  | joined _ => "JoinedStr"
  | shown _ => "FormattedValue"

end Stencil
