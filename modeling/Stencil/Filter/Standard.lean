import Stencil.Filter.Registry
import Stencil.Text.Case
import Stencil.Value.Json
import Stencil.Value.Member

/-! # The standard filters -/
namespace Stencil.Filter

/-- The parameter that every filter has first. -/
def valueName : Text := "value".toList

/-- A filter of nothing but the value. -/
def ofValue (f : Value → Outcome Value) : Function := fun a => do
  match ← a.bind ⟨[valueName], 1, 0⟩ with
  | [some v] => f v
  | _ => throw .wrongType

/-- A filter of the text of the value. -/
def ofText (f : Text → Text) : Function := ofValue fun v => .ok (.text (f v.shown))

/-- The text of the value without its blank margins; a text without these is given back. -/
def trim : Function := ofValue fun v => .ok (v.keeping (.text (Text.strip v.shown)))

/-- The first character as a capital and the others as they are. -/
def capitalizeFirst (s : Text) : Text := Text.upper (s.take 1) ++ s.drop 1

/-- The first `length` characters of the text, and behind them the suffix if more were there. -/
def truncateText (length : Value) (suffix : Value) (v : Value) : Outcome Value := do
  let n ← length.toInteger
  if n < 0 then throw (.negativeLength n)
  else
    let s := v.shown
    if (s.length : Int) ≤ n then return v.keeping (.text s)
    else Value.add (.text (s.take n.toNat)) suffix

def truncate : Function := fun a => do
  match ← a.bind ⟨[valueName, "length".toList, "suffix".toList], 2, 0⟩ with
  | [some v, some length, suffix] =>
    truncateText length (suffix.getD (.text "...".toList)) v
  | _ => throw .wrongType

/-- Another value for `none` and for the empty text. -/
def default : Function := fun a => do
  match ← a.bind ⟨[valueName, "fallback".toList], 1, 0⟩ with
  | [some v, fallback] =>
    match v.content with
    | .none | .text [] => return fallback.getD (.text [])
    | _ => return v
  | _ => throw .wrongType

def json : Function := ofValue fun v =>
  match Value.Json.text? v with
  | some s => .ok (.text s)
  | none => .error .wrongType

/-- The text of a value as an object: a text is itself. -/
def asShown (v : Value) : Value := v.keeping (.text v.shown)

/-- The texts of members with a separator between; a single one is given back. -/
def joined (s : Text) (vs : List Value) : Value :=
  match vs with
  | [v] => asShown v
  | _ => .text (Text.join s (vs.map Value.shown))

def standardSeparator : Text := [',']

/-- The texts of the members with a separator between. What cannot join texts is refused before the
members are looked at. A scope joins by what `join` stands for in its data, or else by this
filter. -/
def joinMembers (separator v : Value) : Outcome Value :=
  match separator.content with
  | .text s => do return joined s (← v.members)
  | .bytes _ => do
    if (← v.members).isEmpty then return .bytes [] else throw .wrongType
  | .object fields => .error (if fields.any (·.1 == "join".toList) then .wrongType else .noMember)
  | .scope data => do
    let vs ← v.members
    match data.named? "join".toList with
    | none => return joined standardSeparator vs
    | some f =>
      match f.content with
      | .method w name => w.callMethod name ⟨[.list (vs.map asShown)], []⟩
      | _ => throw .wrongType
  | _ => .error .noMember

def join : Function := fun a => do
  match ← a.bind ⟨[valueName, "separator".toList], 1, 0⟩ with
  | [some v, separator] => joinMembers (separator.getD (.text standardSeparator)) v
  | _ => throw .wrongType

def length : Function := ofValue fun v => do return .int (← v.length)

/-- The standard filters by name. -/
def standard : List (Text × Function) :=
  [("upper".toList, ofText Text.upper),
   ("lower".toList, ofText Text.lower),
   ("capitalize".toList, ofText capitalizeFirst),
   ("trim".toList, trim),
   ("truncate".toList, truncate),
   ("default".toList, default),
   ("json".toList, json),
   ("join".toList, join),
   ("length".toList, length)]

end Filter

/-- The registry of the standard filters. -/
def Registry.standard : Registry :=
  Filter.standard.foldl (fun r e => r.add e.1 e.2) .empty

end Stencil
