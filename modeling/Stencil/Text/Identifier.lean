import Stencil.Text.Identifier.Spans

/-! # Identifiers -/
namespace Stencil.Text

def isIdentifierStart (c : Char) : Bool :=
  if isAscii c then c.isAlpha || c == '_' else Identifier.startSpans.has c.toNat

def isIdentifierPart (c : Char) : Bool :=
  if isAscii c then c.isAlphanum || c == '_'
  else Identifier.startSpans.has c.toNat || Identifier.followSpans.has c.toNat

/-- A non-empty text that begins as an identifier may and goes on as one may. -/
def isIdentifier : Text → Bool
  | [] => false
  | c :: s => isIdentifierStart c && s.all isIdentifierPart

end Stencil.Text
