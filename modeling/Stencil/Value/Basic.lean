import Stencil.Text.Basic

/-! # Values of expressions

A value is an object with a content. Equality and the written form look at the content; whether two
values are one object is told by their identities. -/
namespace Stencil

/-- What a view of a dictionary shows. -/
inductive DictPart | keys | values | items
  deriving DecidableEq

/-- Which object a value is. -/
inductive Identity
  /-- The only object of its content: a constant, a small integer, a short text. -/
  | common
  /-- An object that came with the data, by its number. -/
  | given (n : Nat)
  /-- An object that the evaluation at a place made, and which part of it. -/
  | made (place part : List Nat)
  /-- An object just made, that has no place yet. -/
  | fresh
  deriving DecidableEq

/-- How the members of a set lie in its table: the number of slots, the slots taken in order, and
whether other slots have been given up. -/
structure SetLayout where
  size : Nat
  places : List Nat
  worn : Bool
  deriving DecidableEq

mutual

/-- A value: an object and what it holds. -/
structure Value where
  id : Identity
  content : Content

/-- What a value holds. Dictionaries keep the order of insertion and sets that of their table, and
neither holds two equal keys or members. A function is known by its number in the registry. A scope
is the data that names are looked up in, `memberHelper` the function that reads members, and
a frozen dictionary one that is only read. -/
inductive Content
  | none
  | bool (b : Bool)
  | int (i : Int)
  | float (x : Float)
  | complex (re im : Float)
  | text (s : Text)
  | bytes (bs : List UInt8)
  | ellipsis
  | list (vs : List Value)
  | tuple (vs : List Value)
  | set (layout : SetLayout) (vs : List Value)
  | dict (es : List (Value × Value))
  | view (part : DictPart) (es : List (Value × Value))
  | frozen (es : List (Value × Value))
  | slice (low high step : Value)
  | object (fields : List (Text × Value))
  | scope (data : Value)
  | function (id : Nat)
  | method (of : Value) (name : Text)
  | memberHelper

end

/-- Why an evaluation fails. -/
inductive Failure
  | wrongType
  | noMember
  | noKey
  | outOfRange
  | divisionByZero
  | badValue
  | overflow
  | noEncoding
  /-- A text that an encoding cannot write. -/
  | cannotEncode
  /-- Bytes that are not the writing of a text. -/
  | cannotDecode
  /-- The name is neither in the data nor a filter. -/
  | unbound (name : Text)
  /-- Names that begin with two low lines are never looked up in the data. -/
  | concealed (name : Text)
  | negativeLength (n : Int)
  deriving DecidableEq

/-- The message of those failures that have words of their own. -/
def Failure.message? : Failure → Option Text
  | unbound n => some ("name '".toList ++ n ++ "' is not defined".toList)
  | concealed n => some n
  | negativeLength n => some ("truncate 长度不能为负数: ".toList ++ Text.ofInt n)
  | _ => none

/-- A value or the reason for its absence. -/
abbrev Outcome (α : Type) := Except Failure α

namespace Value

/-! ## Objects just made -/

def none : Value := ⟨.common, .none⟩
def bool (b : Bool) : Value := ⟨.common, .bool b⟩
def int (i : Int) : Value := ⟨.fresh, .int i⟩
def float (x : Float) : Value := ⟨.fresh, .float x⟩
def complex (re im : Float) : Value := ⟨.fresh, .complex re im⟩
def text (s : Text) : Value := ⟨.fresh, .text s⟩
def bytes (bs : List UInt8) : Value := ⟨.fresh, .bytes bs⟩
def ellipsis : Value := ⟨.common, .ellipsis⟩
def list (vs : List Value) : Value := ⟨.fresh, .list vs⟩
def tuple (vs : List Value) : Value := ⟨.fresh, .tuple vs⟩
def dict (es : List (Value × Value)) : Value := ⟨.fresh, .dict es⟩
def view (part : DictPart) (es : List (Value × Value)) : Value := ⟨.fresh, .view part es⟩
def frozen (es : List (Value × Value)) : Value := ⟨.fresh, .frozen es⟩
def slice (low high step : Value) : Value := ⟨.fresh, .slice low high step⟩
def scope (data : Value) : Value := ⟨.common, .scope data⟩
def function (id : Nat) : Value := ⟨.common, .function id⟩
def method (of : Value) (name : Text) : Value := ⟨.fresh, .method of name⟩
def memberHelper : Value := ⟨.common, .memberHelper⟩

instance : Inhabited Value := ⟨none⟩

/-- The public name of the type of a value. -/
def kind (v : Value) : String :=
  match v.content with
  | .none => "NoneType"
  | .bool _ => "bool"
  | .int _ => "int"
  | .float _ => "float"
  | .complex _ _ => "complex"
  | .text _ => "str"
  | .bytes _ => "bytes"
  | .ellipsis => "ellipsis"
  | .list _ => "list"
  | .tuple _ => "tuple"
  | .set _ _ => "set"
  | .dict _ => "dict"
  | .view .keys _ => "dict_keys"
  | .view .values _ => "dict_values"
  | .view .items _ => "dict_items"
  | .frozen _ => "mappingproxy"
  | .slice _ _ _ => "slice"
  | .object _ => "Obj"
  | .scope _ => "Scope"
  | .function _ | .memberHelper => "function"
  | .method _ _ => "builtin_function_or_method"

/-- Can the value be called? -/
def isCallable (v : Value) : Bool :=
  match v.content with
  | .function _ | .method _ _ | .memberHelper => true
  | _ => false

/-- The truth of a value: numbers other than zero, containers that are not empty, and whatever is
neither, except `none`. -/
def isTrue (v : Value) : Bool :=
  match v.content with
  | .none => false
  | .bool b => b
  | .int i => i != 0
  | .float x => x != 0
  | .complex re im => re != 0 || im != 0
  | .text s => !s.isEmpty
  | .bytes bs => !bs.isEmpty
  | .list vs | .tuple vs | .set _ vs => !vs.isEmpty
  | .dict es | .view _ es | .frozen es => !es.isEmpty
  | .ellipsis | .slice _ _ _ | .object _ | .scope _ | .function _ | .method _ _
  | .memberHelper => true

end Value
end Stencil
