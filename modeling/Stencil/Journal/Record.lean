import Stencil.Text.Basic

/-! # Records and the lines they are written as -/
namespace Stencil.Journal

inductive Level | debug | info | warning | error | critical
  deriving DecidableEq

namespace Level

def number : Level → Nat
  | debug => 10
  | info => 20
  | warning => 30
  | error => 40
  | critical => 50

def name : Level → Text
  | debug => "DEBUG".toList
  | info => "INFO".toList
  | warning => "WARNING".toList
  | error => "ERROR".toList
  | critical => "CRITICAL".toList

/-- The word for a level in the names of files. -/
def suffix : Level → Text
  | debug => "debug".toList
  | info => "info".toList
  | warning => "warning".toList
  | error => "error".toList
  | critical => "critical".toList

end Level

/-- A record: when, by which logger, how grave, where in the program, and what. -/
structure Record where
  stamp : Text
  logger : Text
  level : Level
  place : Text
  message : Text
  deriving DecidableEq

/-- A record as it stands in a file, with logger and place or without. -/
structure Line where
  record : Record
  detailed : Bool
  deriving DecidableEq

namespace Line

def dash : Text := " - ".toList

/-- The text of a line, with its end. -/
def text (l : Line) : Text :=
  let r := l.record
  let fields :=
    if l.detailed then [r.stamp, r.logger, r.level.name, r.place, r.message]
    else [r.stamp, r.level.name, r.message]
  Text.join dash fields ++ ['\n']

/-- The size of a line in a file, in bytes. -/
def size (l : Line) : Nat := l.text.foldr (fun c n => c.utf8Size + n) 0

end Line

/-- The files of a log directory: a level, and whether their lines are detailed. A file receives
every record of its level or a graver one. -/
def levelFiles : List (Level × Bool) :=
  [(.debug, true), (.info, false), (.warning, false), (.error, true)]

end Stencil.Journal
