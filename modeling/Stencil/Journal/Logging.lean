import Stencil.Journal.Rotation

/-! # Loggers and the instance in use

Each logger has sinks that its records and those of the loggers below it go to. At most one instance
is in use at a time. Asking for another directory closes it first. -/
namespace Stencil.Journal

/-- Where records go: nowhere, or to a file that takes them from a level on. -/
inductive Sink
  | silent
  | file (level : Level) (detailed : Bool) (directory : Text) (base : Path)
  deriving DecidableEq

def Sink.number : Sink → Nat
  | silent => 0
  | file level _ _ _ => level.number

/-- The use of a logger with a directory, or without one. -/
structure Instance where
  directory : Option Text
  name : Text
  deriving DecidableEq

/-- Everything that logging depends on. `verbose` are the loggers that take every record, and
`limit` is the size at which files are rotated, if it is not zero. -/
structure Logging where
  store : Store
  sinks : List (Text × List Sink)
  verbose : List Text
  current : Option Instance
  environment : Option Text
  limit : Nat

def rootName : Text := "root".toList

/-- The logger of a name; the empty name is that of the root. -/
def canonical (name : Text) : Text := if name.isEmpty then rootName else name

/-- The name above a dotted name, if it is one of its own. -/
def parent? (name : Text) : Option Text :=
  let p := ((name.reverse.dropWhile (· != '.')).drop 1).reverse
  if p.isEmpty || p == rootName then none else some p

/-- A logger and those above it, the root last. -/
def lineage (fuel : Nat) (name : Text) : List Text :=
  match fuel with
  | 0 => [rootName]
  | fuel + 1 =>
    match parent? name with
    | some p => name :: lineage fuel p
    | none => [name, rootName]

def ancestry (name : Text) : List Text :=
  if name = rootName then [rootName] else lineage name.length name

def fileName (name : Text) (level : Level) : Text :=
  name ++ '_' :: level.suffix ++ ".log".toList

/-- The path of a file that is named as seen from a directory. -/
def filePath (directory file : Text) : Path :=
  ((Path.ofText directory).join (Path.ofText file)).normal

/-- The sinks of a logger with a directory. -/
def fileSinks (directory name : Text) : List Sink :=
  levelFiles.map fun f => .file f.1 f.2 directory (filePath directory (fileName name f.1))

namespace Logging

/-- No instance, no sinks and no files. -/
def start (limit : Nat) (names : List Text) : Logging := ⟨[], [], names, none, none, limit⟩

def sinksOf (j : Logging) (name : Text) : List Sink :=
  ((j.sinks.find? fun e => e.1 == canonical name).map Prod.snd).getD []

def setSinks (j : Logging) (name : Text) (ss : List Sink) : Logging :=
  { j with sinks := (canonical name, ss) :: j.sinks.filter fun e => e.1 != canonical name }

def setVerbose (j : Logging) (name : Text) : Logging :=
  { j with verbose := canonical name :: j.verbose }

/-- The logger of a name set up for a directory. Sinks that are there are kept. -/
def construct (j : Logging) (directory : Option Text) (name : Text) :
    Logging × Except PathError Instance :=
  let j := j.setVerbose name
  if !(j.sinksOf name).isEmpty then (j, .ok ⟨directory, name⟩)
  else match directory with
    | none => (j.setSinks name [.silent], .ok ⟨none, name⟩)
    | some d =>
      match j.store.makeDirectory d with
      | (s, some e) => ({ j with store := s }, .error e)
      | (s, none) => ({ j with store := s }.setSinks name (fileSinks d name), .ok ⟨some d, name⟩)

/-- Takes the sinks of the instance in use away, and the instance with them. -/
def close (j : Logging) : Logging :=
  match j.current with
  | none => j
  | some i => { j.setSinks i.name [] with current := none }

/-- A text that says something. -/
def given (s : Option Text) : Option Text := s.filter fun t => !t.isEmpty

/-- The directory asked for, or else that of the environment. -/
def directoryFor (j : Logging) (directory : Option Text) : Option Text :=
  (given directory).or (given j.environment)

/-- Does a directory call for another instance? -/
def isOther (i : Instance) (directory : Option Text) : Bool :=
  directory.isSome && i.directory != directory

/-- The instance in use, made if there is none or if another directory is asked for. -/
def acquire (j : Logging) (directory : Option Text) (name : Text) :
    Logging × Except PathError Instance :=
  let d := j.directoryFor directory
  let j := if j.current.any fun i => isOther i d then j.close else j
  match j.current with
  | some i => (j, .ok i)
  | none =>
    match j.construct d name with
    | (j, .ok i) => ({ j with current := some i }, .ok i)
    | (j, .error e) => (j, .error e)

/-- Records of this level number or above are taken by a logger. The root takes warnings if it is
not asked for more. -/
def threshold (j : Logging) (name : Text) : Nat :=
  if (ancestry (canonical name)).any fun n => j.verbose.contains n then Level.debug.number
  else Level.warning.number

/-- A record given to a sink. -/
def deliver (limit : Nat) (r : Record) (s : Store) : Sink → Store
  | .silent => s
  | .file level detailed _ base =>
    if level.number ≤ r.level.number then Rotation.write limit s base ⟨r, detailed⟩ else s

/-- The sinks that a record of a logger reaches. -/
def reached (j : Logging) (name : Text) : List Sink := (ancestry (canonical name)).flatMap j.sinksOf

/-- A record on its way to every sink it reaches. -/
def log (j : Logging) (r : Record) : Logging :=
  if j.threshold r.logger ≤ r.level.number then
    { j with store := (j.reached r.logger).foldl (deliver j.limit r) j.store }
  else j

end Logging
end Stencil.Journal
