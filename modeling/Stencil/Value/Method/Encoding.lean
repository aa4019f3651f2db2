import Stencil.Text.Encoding
import Stencil.Value.Method.Basic

/-! # Texts written as bytes and read back -/
namespace Stencil.Value.Method

def standardEncoding : Text := "utf-8".toList

def standardHandler : Text := "strict".toList

/-- The name given, or a standard one; a name holds no null character. -/
def nameOr (standard : Text) (v : Option Value) : Outcome Text := do
  let name ← (v.map asText).getD (.ok standard)
  if name.contains (Char.ofNat 0) then throw .badValue else return name

/-- The names of an encoding and of what handles its faults. -/
def encodingNames (a : Arguments) : Outcome (Text × Text) := do
  match ← a.bind ⟨["encoding".toList, "errors".toList], 0, 0⟩ with
  | [encoding, handler] =>
    return (← nameOr standardEncoding encoding, ← nameOr standardHandler handler)
  | _ => throw .wrongType

def encodingNamed (name : Text) : Outcome Text.Encoding :=
  match Text.Encoding.ofName? name with
  | some e => .ok e
  | Option.none => .error .noEncoding

/-- The failure that a fault is; `refused` is that of a text or of bytes that do not fit. -/
def faultFailure (refused : Failure) (f : Text.Encoding.Fault) : Failure :=
  match f with
  | .refused => refused
  | .unknownHandler => .noEncoding
  | .unfitHandler => .wrongType

def encode (s : Text) (a : Arguments) : Outcome Value := do
  let (name, handler) ← encodingNames a
  let e ← encodingNamed name
  bytes <$> (e.encode handler s).mapError (faultFailure .cannotEncode)

/-- No bytes are the empty text in any encoding, even in one that does not exist. -/
def decode (bs : List UInt8) (a : Arguments) : Outcome Value := do
  let (name, handler) ← encodingNames a
  if bs.isEmpty then return text []
  else
    let e ← encodingNamed name
    text <$> (e.decode handler bs).mapError (faultFailure .cannotDecode)

end Stencil.Value.Method
