import Stencil.Value.Written

/-! # The JSON text of a value

Characters beyond ASCII stand for themselves; what is not a number is written by its name. -/
namespace Stencil.Value.Json

/-- Two-character escapes, and four hexadecimal digits for the other control characters. -/
def encodeChar (c : Char) : Text :=
  match c with
  | '"' => ['\\', '"']
  | '\\' => ['\\', '\\']
  | '\n' => ['\\', 'n']
  | '\r' => ['\\', 'r']
  | '\t' => ['\\', 't']
  | _ =>
    if c.toNat = 8 then ['\\', 'b']
    else if c.toNat = 12 then ['\\', 'f']
    else if c.toNat < 32 then '\\' :: 'u' :: Text.hex 4 c.toNat
    else [c]

def encode (s : Text) : Text := '"' :: s.flatMap encodeChar ++ ['"']

def floatLayout : Decimal.Layout :=
  { Value.floatLayout with infinity := "Infinity".toList, notANumber := "NaN".toList }

def constantText? : Content → Option Text
  | .none => some "null".toList
  | .bool b => some (if b then "true".toList else "false".toList)
  | .int i => some (Text.ofInt i)
  | .float x => some (floatLayout.number x)
  | _ => Option.none

/-- A key: a text, or a constant written as a text. -/
def keyText? (v : Value) : Option Text :=
  match v.content with
  | .text s => some (encode s)
  | c => (constantText? c).map encode

mutual

/-- The JSON text, if the value has one. -/
def text? : Value → Option Text
  | ⟨_, .text s⟩ => some (encode s)
  | ⟨_, .list vs⟩ => (texts? vs).map fun ss => bracketed ['['] ss [']']
  | ⟨_, .tuple vs⟩ => (texts? vs).map fun ss => bracketed ['['] ss [']']
  | ⟨_, .dict es⟩ => (entries? es).map fun ss => bracketed ['\x7b'] ss ['\x7d']
  | ⟨_, c⟩ => constantText? c

def texts? : List Value → Option (List Text)
  | [] => some []
  | v :: vs => do return (← text? v) :: (← texts? vs)

def entries? : List (Value × Value) → Option (List Text)
  | [] => some []
  | (k, v) :: es => do return ((← keyText? k) ++ ':' :: ' ' :: (← text? v)) :: (← entries? es)

end

end Stencil.Value.Json
