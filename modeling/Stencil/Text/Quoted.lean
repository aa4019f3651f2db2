import Stencil.Text.Printable

/-! # Quoted texts

The written form of a text: single quotes unless the text holds one and no double quote, a
backslash before the backslash and the quote, and an escape for all that has no printed form. -/
namespace Stencil.Text.Quoted

/-- The quote that a text is written with. -/
def quoteFor (s : Text) : Char :=
  if s.contains '\'' && !s.contains '"' then '"' else '\''

/-- The shortest numeric escape of a code point: two, four or eight hexadecimal digits. -/
def numericEscape (n : Nat) : Text :=
  if n < 0x100 then '\\' :: 'x' :: hex 2 n
  else if n < 0x10000 then '\\' :: 'u' :: hex 4 n
  else '\\' :: 'U' :: hex 8 n

/-- One character as it is written between quotes `q`. -/
def encodeChar (q c : Char) : Text :=
  if c = q ∨ c = '\\' then ['\\', c]
  else if c = '\t' then ['\\', 't']
  else if c = '\n' then ['\\', 'n']
  else if c = '\r' then ['\\', 'r']
  else if isPrintable c then [c]
  else numericEscape c.toNat

def encode (s : Text) : Text :=
  let q := quoteFor s
  q :: s.flatMap (encodeChar q) ++ [q]

/-- One byte as it is written between quotes `q`. -/
def encodeByte (q : Char) (b : UInt8) : Text :=
  let c := Char.ofNat b.toNat
  if c = q ∨ c = '\\' then ['\\', c]
  else if c = '\t' then ['\\', 't']
  else if c = '\n' then ['\\', 'n']
  else if c = '\r' then ['\\', 'r']
  else if 32 ≤ b.toNat ∧ b.toNat < 127 then [c]
  else '\\' :: 'x' :: hex 2 b.toNat

/-- The written form of bytes. -/
def encodeBytes (bs : List UInt8) : Text :=
  let q := quoteFor (bs.map fun b => Char.ofNat b.toNat)
  'b' :: q :: bs.flatMap (encodeByte q) ++ [q]

end Stencil.Text.Quoted
