import Stencil.Text.Blank
import Stencil.Text.Quoted

/-! # The marks of a template -/
namespace Stencil

/-- Brackets, quotes, the point and white space have a meaning of their own in expressions. -/
def isReservedSeparator (c : Char) : Bool := "()[]\x7b\x7d'\".".toList.contains c || Text.isBlank c

/-- The marks that open and close an interpolation and the one that separates filters. -/
structure Dialect where
  opening : Text
  closing : Text
  separator : Char
  opening_ne_nil : opening ≠ []
  closing_ne_nil : closing ≠ []
  opening_ne_closing : opening ≠ closing
  separator_free : isReservedSeparator separator = false

namespace Dialect

def standardOpening : Text := "\x7b\x7b".toList
def standardClosing : Text := "\x7d\x7d".toList
def standardSeparator : Text := "|".toList

/-- Double braces and the vertical bar. -/
def standard : Dialect where
  opening := standardOpening
  closing := standardClosing
  separator := '|'
  opening_ne_nil := by decide
  closing_ne_nil := by decide
  opening_ne_closing := by decide
  separator_free := by decide

instance : Inhabited Dialect := ⟨standard⟩

/-- Why marks make no dialect. -/
inductive Fault
  | emptyDelimiter
  | equalDelimiters (mark : Text)
  | longSeparator (mark : Text)
  | reservedSeparator (mark : Text)
  | notMapping (path : Text)
  | unreadable (path : Text)
  deriving DecidableEq

def Fault.message : Fault → Text
  | emptyDelimiter => "delimiters must be non-empty strings".toList
  | equalDelimiters m =>
    "open_delimiter and close_delimiter must differ, got ".toList ++ Text.Quoted.encode m
  | longSeparator m =>
    "filter_separator must be a single character, got ".toList ++ Text.Quoted.encode m
  | reservedSeparator m =>
    "filter_separator must not be a bracket, quote, '.' or whitespace, got ".toList ++
      Text.Quoted.encode m
  | notMapping p => "配置文件顶层必须是映射: ".toList ++ p
  | unreadable p => p

/-- The dialect of the given marks; the first fault found is reported. -/
def ofMarks (opening closing separator : Text) : Except Fault Dialect :=
  if ho : opening = [] then .error .emptyDelimiter
  else if hc : closing = [] then .error .emptyDelimiter
  else if he : opening = closing then .error (.equalDelimiters opening)
  else match separator with
    | [c] =>
      if hs : isReservedSeparator c = false then .ok ⟨opening, closing, c, ho, hc, he, hs⟩
      else .error (.reservedSeparator separator)
    | s => .error (.longSeparator s)

end Dialect
end Stencil
