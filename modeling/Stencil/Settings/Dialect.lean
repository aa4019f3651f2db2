import Stencil.Settings.Document
import Stencil.Template.Dialect
import Stencil.Value.Written

/-! # Dialects from settings

A setting that is missing has its standard value, and settings of other names are passed over. -/
namespace Stencil.Dialect

def openingName : Text := "open_delimiter".toList
def closingName : Text := "close_delimiter".toList
def separatorName : Text := "filter_separator".toList

/-- The text of a setting, or a standard one. -/
def setting (es : List (Value × Value)) (name standard : Text) : Text :=
  ((Value.lookup? (.text name) es).map Value.shown).getD standard

def ofEntries (es : List (Value × Value)) : Except Fault Dialect :=
  ofMarks (setting es openingName standardOpening) (setting es closingName standardClosing)
    (setting es separatorName standardSeparator)

/-- The dialect that a value sets; one that counts as false sets nothing. -/
def ofValue (path : Text) (v : Value) : Except Fault Dialect :=
  if v.isTrue then
    match v.entries? with
    | some es => ofEntries es
    | none => .error (.notMapping path)
  else ofEntries []

/-- The dialect of the settings file at a path, given what the file holds. -/
def ofFile (path content : Text) : Except Fault Dialect :=
  match Settings.read? content with
  | some v => ofValue path v
  | none => .error (.unreadable path)

end Stencil.Dialect
