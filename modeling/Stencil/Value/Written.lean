import Stencil.Decimal.Layout
import Stencil.Text.Quoted
import Stencil.Value.Basic

/-! # The written forms of values -/
namespace Stencil.Value

/-- Floats are positional from `0.0001` up to sixteen digits before the point, and have at least
two digits of an exponent otherwise. -/
def floatLayout : Decimal.Layout := ⟨-3, 16, 2, "inf".toList, "nan".toList⟩

def floatText (x : Float) : Text := floatLayout.number x

/-- A part of a complex number: no digits behind the point if they are zero. -/
def partText (x : Float) : Text :=
  let s := floatText x
  match s.reverse with
  | '0' :: '.' :: r => r.reverse
  | _ => s

def complexText (re im : Float) : Text :=
  if re == 0 && !Decimal.isNegative re then partText im ++ ['j']
  else
    let s := partText im
    let signed := if s.head? = some '-' then s else '+' :: s
    '(' :: partText re ++ signed ++ ['j', ')']

/-- Texts with commas between. -/
def listed (ss : List Text) : Text := Text.join [',', ' '] ss

def bracketed (before : Text) (ss : List Text) (after : Text) : Text := before ++ listed ss ++ after

mutual

/-- The written form of a value; a text is quoted. -/
def written : Value → Text
  | ⟨_, .none⟩ => "None".toList
  | ⟨_, .bool b⟩ => if b then "True".toList else "False".toList
  | ⟨_, .int i⟩ => Text.ofInt i
  | ⟨_, .float x⟩ => floatText x
  | ⟨_, .complex re im⟩ => complexText re im
  | ⟨_, .text s⟩ => Text.Quoted.encode s
  | ⟨_, .bytes bs⟩ => Text.Quoted.encodeBytes bs
  | ⟨_, .ellipsis⟩ => "Ellipsis".toList
  | ⟨_, .list vs⟩ => bracketed ['['] (writtenAll vs) [']']
  | ⟨_, .tuple [v]⟩ => '(' :: written v ++ [',', ')']
  | ⟨_, .tuple vs⟩ => bracketed ['('] (writtenAll vs) [')']
  | ⟨_, .set _ []⟩ => "set()".toList
  | ⟨_, .set _ vs⟩ => bracketed ['\x7b'] (writtenAll vs) ['\x7d']
  | ⟨_, .dict es⟩ => bracketed ['\x7b'] (writtenEntries es) ['\x7d']
  | ⟨_, .view .keys es⟩ => bracketed "dict_keys([".toList (writtenKeys es) [']', ')']
  | ⟨_, .view .values es⟩ => bracketed "dict_values([".toList (writtenValues es) [']', ')']
  | ⟨_, .view .items es⟩ => bracketed "dict_items([".toList (writtenItems es) [']', ')']
  | ⟨_, .frozen es⟩ =>
    "mappingproxy(".toList ++ bracketed ['\x7b'] (writtenEntries es) ['\x7d'] ++ [')']
  | ⟨_, .slice l h s⟩ =>
    "slice(".toList ++ written l ++ ", ".toList ++ written h ++ ", ".toList ++ written s ++ [')']
  | ⟨_, .object _⟩ => "<Obj>".toList
  | ⟨_, .scope d⟩ => "<Scope ".toList ++ written d ++ ['>']
  | ⟨_, .function _⟩ | ⟨_, .memberHelper⟩ => "<function>".toList
  | ⟨_, .method _ n⟩ => "<built-in method ".toList ++ n ++ ['>']

def writtenAll : List Value → List Text
  | [] => []
  | v :: vs => written v :: writtenAll vs

def writtenEntries : List (Value × Value) → List Text
  | [] => []
  | (k, v) :: es => (written k ++ ':' :: ' ' :: written v) :: writtenEntries es

def writtenKeys : List (Value × Value) → List Text
  | [] => []
  | (k, _) :: es => written k :: writtenKeys es

def writtenValues : List (Value × Value) → List Text
  | [] => []
  | (_, v) :: es => written v :: writtenValues es

def writtenItems : List (Value × Value) → List Text
  | [] => []
  | (k, v) :: es => ('(' :: written k ++ ", ".toList ++ written v ++ [')']) :: writtenItems es

end

/-- The text of a value: a text is itself, a frozen dictionary is shown as one that is not frozen,
and all else is written. -/
def shown (v : Value) : Text :=
  match v.content with
  | .text s => s
  | .frozen es => (dict es).written
  | _ => v.written

end Stencil.Value
