import Stencil.Text.Printable.Spans

/-! # Printable characters -/
namespace Stencil.Text

/-- A character with a printed form; of the spaces only the plain one has. -/
def isPrintable (c : Char) : Bool :=
  if isAscii c then 32 ≤ c.toNat && c.toNat < 127 else !Printable.hiddenSpans.has c.toNat

end Stencil.Text
