import Stencil.Text.Basic

/-! # Tokens of the expression language -/
namespace Stencil

/-- Reserved words. `reserved` are those that no expression uses. -/
inductive Keyword
  | true_ | false_ | none_ | and_ | or_ | not_ | in_ | is_ | if_ | else_ | for_ | async_ | await_
  | lambda_ | yield_ | from_
  | reserved (word : Text)
  deriving DecidableEq

/-- The reserved words that have a part in expressions. -/
def Keyword.inExpressions : List (Text × Keyword) :=
  [("True".toList, true_), ("False".toList, false_), ("None".toList, none_),
   ("and".toList, and_), ("or".toList, or_), ("not".toList, not_), ("in".toList, in_),
   ("is".toList, is_), ("if".toList, if_), ("else".toList, else_), ("for".toList, for_),
   ("async".toList, async_), ("await".toList, await_), ("lambda".toList, lambda_),
   ("yield".toList, yield_), ("from".toList, from_)]

/-- The reserved words of statements. -/
def Keyword.inStatements : List Text :=
  ["as".toList, "assert".toList, "break".toList, "class".toList, "continue".toList, "def".toList,
   "del".toList, "elif".toList, "except".toList, "finally".toList, "global".toList,
   "import".toList, "nonlocal".toList, "pass".toList, "raise".toList, "return".toList,
   "try".toList, "while".toList, "with".toList]

/-- The reserved word that a text is. -/
def Keyword.ofText? (s : Text) : Option Keyword :=
  match inExpressions.find? fun e => e.1 == s with
  | some e => some e.2
  | none => if inStatements.contains s then some (reserved s) else none

def isKeyword (s : Text) : Bool := (Keyword.ofText? s).isSome

/-- Marks of the expression grammar. `other` are those that no expression uses. -/
inductive Symbol
  | parenOpen | parenClose | squareOpen | squareClose | braceOpen | braceClose
  | comma | colon | walrus | dot | ellipsis | assign
  | plus | minus | star | doubleStar | slash | doubleSlash | percent | atSign
  | tilde | amp | bar | caret | shiftLeft | shiftRight
  | lt | gt | le | ge | eq | ne
  | other (mark : Text)
  deriving DecidableEq

/-- A token with all of its characters. -/
inductive Token
  | name (s : Text)
  | keyword (k : Keyword)
  | number (s : Text)
  | string (tag delimiter body : Text)
  | symbol (s : Symbol)
  | newline
  deriving DecidableEq

end Stencil
