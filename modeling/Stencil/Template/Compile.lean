import Stencil.Template.Emission
import Stencil.Template.Margin
import Stencil.Template.Source

/-! # Compiling templates -/
namespace Stencil

/-- A template that is ready to be evaluated. -/
structure Compiled where
  expression : Text
  source : Text
  tree : Tree
  body : Expr

/-- The written form of a compiled template. -/
def Compiled.written (c : Compiled) : Text :=
  "<CompiledExpression ".toList ++ Text.Quoted.encode c.expression ++ ['>']

/-- Why a template does not compile. -/
inductive CompileCause
  | emptyInterpolation
  | rejected (source : Text) (r : Rejection)
  deriving DecidableEq

/-- A template, without its blank margins, and why it does not compile. -/
structure CompileError where
  expression : Text
  cause : CompileCause
  deriving DecidableEq

namespace CompileError

/-- The message for a template and a reason, which may be empty. -/
def messageFor (expression reason : Text) : Text :=
  let failed := "表达式编译失败: ".toList ++ expression
  if reason.isEmpty then failed else failed ++ ", 错误: ".toList ++ reason

def emptyReason : Text := "空表达式".toList

def reason? (e : CompileError) : Option Text :=
  match e.cause with
  | .emptyInterpolation => some emptyReason
  | .rejected _ r => r.reason?

def message? (e : CompileError) : Option Text := e.reason?.map (messageFor e.expression)

end CompileError

/-- Why a template gives nothing. `noPieces` arises only from a division into pieces that finds
none, and `danglingPlaceholder` only from a text that holds placeholders of its own. -/
inductive TemplateError
  | danglingPlaceholder
  | noPieces (text : Text)
  | compile (e : CompileError)
  deriving DecidableEq

def TemplateError.noPiecesMessage (text : Text) : Text :=
  "分词结果为空: ".toList ++ Text.Quoted.encode text

/-- The result of compiling: a text without interpolations, or something to evaluate. -/
inductive Template
  | text (s : Text)
  | compiled (c : Compiled)

/-- The compiled form of a source. -/
def Compiled.ofSource (source expression : Text) : Except CompileError Compiled :=
  let result : Except Rejection Compiled := do
    let tree ← Tree.ofSource source
    return ⟨expression, source, tree, ← Emission.emit tree⟩
  match result with
  | .ok c => .ok c
  | .error r => .error ⟨expression, .rejected source r⟩

namespace Template

/-- How a text is divided into pieces. -/
abbrev Division := Text → List Piece

/-- The source of a text with interpolations, or the text folded. The text that holds
interpolations is divided without its blank margins. -/
inductive Draft
  | text (s : Text)
  | source (expression : Text) (pieces : List Piece) (source : Text)

def draft (d : Dialect) (divide : Division) (s : Text) : Except TemplateError Draft :=
  let core := Text.strip s
  if !Piece.occursIn d core then .ok (.text (Margin.fold s))
  else match divide core with
    | [] => .error (.noPieces core)
    | p :: ps =>
      match Source.ofPieces? d (p :: ps) with
      | none => .error .danglingPlaceholder
      | some src => .ok (.source core (p :: ps) src)

/-- The source of a template without compiling it. -/
def sourceBy (d : Dialect) (divide : Division) (s : Text) : Except TemplateError Text := do
  match ← draft d divide s with
  | .text t => return t
  | .source _ _ src => return src

def isEmptyInterpolation (p : Piece) : Bool := p.isInterpolation && p.text.isEmpty

def compileBy (d : Dialect) (divide : Division) (s : Text) : Except TemplateError Template := do
  match ← draft d divide s with
  | .text t => return .text t
  | .source expression pieces src =>
    if pieces.any isEmptyInterpolation then throw (.compile ⟨expression, .emptyInterpolation⟩)
    else match Compiled.ofSource src expression with
      | .ok c => return .compiled c
      | .error e => throw (.compile e)

/-- The source of a template in a dialect. -/
def source (d : Dialect) (s : Text) : Except TemplateError Text := sourceBy d (Piece.ofText d) s

/-- Compiles a template in a dialect. -/
def compile (d : Dialect) (s : Text) : Except TemplateError Template :=
  compileBy d (Piece.ofText d) s

end Template
end Stencil
