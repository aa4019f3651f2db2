import Stencil.Journal.Logging
import Stencil.Template.Compile

/-! # What compiling a template records -/
namespace Stencil.Journal

/-- The logger of the compiler. -/
def compilerName : Text := "uxexpr".toList

/-- The words for a source that the grammar does not read. -/
def malformedReason : Text := "invalid syntax".toList

def failed (expression : Text) : Text := "表达式编译失败: ".toList ++ expression

def reasonText (reason : Text) : Text := ", 错误: ".toList ++ reason

/-- The level and message of the record of a compilation; text without interpolations makes none. -/
def recordOf? (result : Except TemplateError Template) : Option (Level × Text) :=
  match result with
  | .ok (.text _) => none
  | .ok (.compiled c) =>
    some (.debug, "表达式编译成功: ".toList ++ c.expression ++ " -> ".toList ++ c.source)
  | .error .danglingPlaceholder => none
  | .error (.noPieces s) => some (.error, TemplateError.noPiecesMessage s)
  | .error (.compile ⟨expression, .emptyInterpolation⟩) =>
    some (.warning, failed expression ++ reasonText CompileError.emptyReason)
  | .error (.compile ⟨expression, .rejected source r⟩) =>
    some (.warning, failed expression ++ ", 代码: ".toList ++ source ++
      reasonText (r.reason?.getD malformedReason))

/-- Compiles a template of a dialect and records the outcome. -/
def Logging.compileIn (j : Logging) (d : Dialect) (stamp place s : Text) : Logging :=
  match recordOf? (Template.compile d s) with
  | none => j
  | some (level, message) => j.log ⟨stamp, compilerName, level, place, message⟩

/-- Compiles a template of the standard dialect and records the outcome. -/
def Logging.compile (j : Logging) (stamp place s : Text) : Logging :=
  j.compileIn .standard stamp place s

end Stencil.Journal
