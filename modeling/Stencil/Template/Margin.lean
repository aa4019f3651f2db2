import Stencil.Text.Blank

/-! # Folding the margins of literal text -/
namespace Stencil.Margin

/-- Two or more blanks at the head become one space. -/
def foldHead (s : Text) : Text :=
  match s with
  | a :: b :: r => if Text.isBlank a && Text.isBlank b then ' ' :: Text.trimStart r else s
  | s => s

/-- The text without its margins, a space in front if it begins with one, and a space behind if
more was taken away than that. -/
def trimmed (s : Text) : Text :=
  let core := Text.strip s
  let spaced := s.head? = some ' '
  let before : Text := if spaced then [' '] else []
  let after : Text := if core.length + before.length < s.length then [' '] else []
  before ++ core ++ after

/-- Folds the margins of a text; a text of at most one character stays as it is. -/
def fold (s : Text) : Text :=
  let t := foldHead s
  if t.length ≤ 1 then t else trimmed t

end Stencil.Margin
