import Stencil.Text.Word.Spans

/-! # Letters, digits and word characters -/
namespace Stencil.Text

def isLetter (c : Char) : Bool :=
  if isAscii c then c.isAlpha else Word.letterSpans.has c.toNat

/-- Numerals of every kind: decimal digits, other digits, fractions, Roman numerals and so on. -/
def isNumeral (c : Char) : Bool :=
  if isAscii c then c.isDigit else Word.numeralSpans.has c.toNat

/-- Digits of a decimal system of any script. -/
def isDecimal (c : Char) : Bool :=
  if isAscii c then c.isDigit else Word.decimalSpans.has c.toNat

/-- Decimal digits, and digits such as superscripts that stand alone. -/
def isDigitLike (c : Char) : Bool :=
  isDecimal c || (!isAscii c && Word.otherDigitSpans.has c.toNat)

def isLetterOrNumeral (c : Char) : Bool := isLetter c || isNumeral c

/-- A character of a word: a letter, a numeral or the low line. -/
def isWord (c : Char) : Bool := isLetterOrNumeral c || c == '_'

/-- The value of a decimal digit of any script. -/
def digitValue? (c : Char) : Option Nat :=
  if isAscii c then
    if c.isDigit then some (c.toNat - 48) else none
  else
    Word.decimalSpans.findSome? fun s =>
      if s.1 ≤ c.toNat ∧ c.toNat ≤ s.2 then some ((c.toNat - s.1) % 10) else none

/-- The number that decimal digits of any script write. -/
def decimalValue? (s : Text) : Option Nat :=
  s.foldl (fun acc c => do return (← acc) * 10 + (← digitValue? c)) (some 0)

end Stencil.Text
