import Stencil.Text.Compose
import Stencil.Expr.Field
import Stencil.Expr.Lexer
import Stencil.Expr.Syntax

/-! # The grammar of expressions

Recursive descent over tokens. Every function reads the longest phrase of its kind at the head of
the tokens and returns it with the rest. The first argument bounds the depth of the descent;
`fuelFor` gives enough of it for any text. -/
namespace Stencil.Parser

abbrev Tokens := List Token

/-- An operator between operands and its level; a higher level binds closer. -/
def binaryOp? : Token → Option (BinaryOp × Nat)
  | .symbol .bar => some (.bitOr, 1)
  | .symbol .caret => some (.bitXor, 2)
  | .symbol .amp => some (.bitAnd, 3)
  | .symbol .shiftLeft => some (.shiftLeft, 4)
  | .symbol .shiftRight => some (.shiftRight, 4)
  | .symbol .plus => some (.add, 5)
  | .symbol .minus => some (.sub, 5)
  | .symbol .star => some (.mul, 6)
  | .symbol .slash => some (.div, 6)
  | .symbol .doubleSlash => some (.floorDiv, 6)
  | .symbol .percent => some (.mod, 6)
  | .symbol .atSign => some (.matMul, 6)
  | _ => none

/-- The comparison at the head of the tokens. -/
def comparison? : Tokens → Option (Comparison × Tokens)
  | .symbol .eq :: r => some (.eq, r)
  | .symbol .ne :: r => some (.ne, r)
  | .symbol .lt :: r => some (.lt, r)
  | .symbol .le :: r => some (.le, r)
  | .symbol .gt :: r => some (.gt, r)
  | .symbol .ge :: r => some (.ge, r)
  | .keyword .is_ :: .keyword .not_ :: r => some (.isNot, r)
  | .keyword .is_ :: r => some (.is, r)
  | .keyword .in_ :: r => some (.within, r)
  | .keyword .not_ :: .keyword .in_ :: r => some (.notWithin, r)
  | _ => none

def unaryOp? : Token → Option UnaryOp
  | .symbol .plus => some .plus
  | .symbol .minus => some .minus
  | .symbol .tilde => some .invert
  | _ => none

/-- The string literals at the head of the tokens, as tag and body. -/
def stringRun : Tokens → List (Text × Text) × Tokens
  | .string tag _ body :: ts => ((tag, body) :: (stringRun ts).1, (stringRun ts).2)
  | ts => ([], ts)

/-- The constant of neighbouring string literals, none of them a template: all text or all bytes. -/
def joinStrings? (ss : List (Text × Text)) : Option Literal :=
  if ss.all fun s => Quotation.isBytes s.1 then
    (ss.mapM fun s => Quotation.bytesOf? s.1 s.2).map fun bs => .bytes bs.flatten
  else if ss.any fun s => Quotation.isBytes s.1 then none
  else (ss.mapM fun s => Quotation.textOf? s.1 s.2).map fun xs => .text xs.flatten

/-- The expressions inside neighbouring string literals of which one is a template. -/
def templateFields? (ss : List (Text × Text)) : Option (List Text) :=
  if ss.any fun s => Quotation.isBytes s.1 then none
  else (ss.mapM fun s =>
    if Quotation.isTemplate s.1 then Field.expressions? (Quotation.isRaw s.1) s.2
    else (Quotation.textOf? s.1 s.2).map fun _ => []).map List.flatten

mutual

/-- May an iteration assign to it? -/
def isTarget : Expr → Bool
  | .name _ | .member _ _ | .item _ _ => true
  | .tuple es | .list es => areTargets es
  | .spread e => isTarget e
  | _ => false

def areTargets : List Expr → Bool
  | [] => true
  | e :: es => isTarget e && areTargets es

end

/-- The elements of a parenthesised list: a lone element without a comma is itself. -/
def tupleOr (es : List Expr) (comma : Bool) : Expr :=
  match es, comma with
  | [e], false => e
  | es, _ => .tuple es

/-- What the arguments read so far allow to follow. -/
inductive ArgumentStage | positional | named | spreadAll
  deriving DecidableEq

/-- Where in the parameters of a lambda the reading is: `bare` is behind a star that still needs a
named parameter. -/
inductive ParameterStage | first | plain | afterSlash | bare | keywordOnly | last
  deriving DecidableEq

mutual

/-- A lambda, or a disjunction with perhaps a condition behind it. -/
def expression : Nat → Tokens → Option (Expr × Tokens)
  | 0, _ => none
  | n + 1, .keyword .lambda_ :: ts => do
    let ts ← parameters n .first false ts
    let (_, ts) ← expression n ts
    return (.construct .lambda, ts)
  | n + 1, ts => do
    let (yes, ts) ← disjunction n ts
    match ts with
    | .keyword .if_ :: ts => do
      let (test, ts) ← disjunction n ts
      match ts with
      | .keyword .else_ :: ts => do
        let (no, ts) ← expression n ts
        return (.choose test yes no, ts)
      | _ => none
    | ts => return (yes, ts)

/-- The parameters of a lambda up to and with the colon. `optional` says that a default was
given. -/
def parameters : Nat → ParameterStage → (optional : Bool) → Tokens → Option Tokens
  | 0, _, _, _ => none
  | _ + 1, stage, _, .symbol .colon :: ts => if stage = .bare then none else some ts
  | n + 1, stage, _, .name _ :: .symbol .assign :: ts =>
    if stage = .last then none
    else do
      let (_, ts) ← expression n ts
      let next : ParameterStage :=
        match stage with
        | .first => .plain
        | .bare => .keywordOnly
        | s => s
      parameterEnd n next true ts
  | n + 1, stage, optional, .name _ :: ts =>
    let required := stage = .first ∨ stage = .plain ∨ stage = .afterSlash
    if stage = .last ∨ (optional ∧ required) then none
    else
      let next : ParameterStage :=
        match stage with
        | .first => .plain
        | .bare => .keywordOnly
        | s => s
      parameterEnd n next optional ts
  | n + 1, stage, optional, .symbol .slash :: ts =>
    if stage = .plain then parameterEnd n .afterSlash optional ts else none
  | n + 1, stage, optional, .symbol .star :: .name _ :: ts =>
    if stage = .first ∨ stage = .plain ∨ stage = .afterSlash then
      parameterEnd n .keywordOnly optional ts
    else none
  | n + 1, stage, optional, .symbol .star :: .symbol .comma :: ts =>
    if stage = .first ∨ stage = .plain ∨ stage = .afterSlash then parameters n .bare optional ts
    else none
  | n + 1, stage, optional, .symbol .doubleStar :: .name _ :: ts =>
    if stage = .last ∨ stage = .bare then none else parameterEnd n .last optional ts
  | _ + 1, _, _, _ => none

/-- The comma or the colon behind a parameter. -/
def parameterEnd : Nat → ParameterStage → (optional : Bool) → Tokens → Option Tokens
  | 0, _, _, _ => none
  | n + 1, stage, optional, .symbol .comma :: ts => parameters n stage optional ts
  | _ + 1, _, _, .symbol .colon :: ts => some ts
  | _ + 1, _, _, _ => none

def disjunction : Nat → Tokens → Option (Expr × Tokens)
  | 0, _ => none
  | n + 1, ts => do
    let (e, ts) ← conjunction n ts
    let (es, ts) ← alternatives n ts
    return (if es.isEmpty then e else .connect .or (e :: es), ts)

/-- The operands behind each further `or`. -/
def alternatives : Nat → Tokens → Option (List Expr × Tokens)
  | 0, _ => none
  | n + 1, .keyword .or_ :: ts => do
    let (e, ts) ← conjunction n ts
    let (es, ts) ← alternatives n ts
    return (e :: es, ts)
  | _ + 1, ts => some ([], ts)

def conjunction : Nat → Tokens → Option (Expr × Tokens)
  | 0, _ => none
  | n + 1, ts => do
    let (e, ts) ← inversion n ts
    let (es, ts) ← requirements n ts
    return (if es.isEmpty then e else .connect .and (e :: es), ts)

/-- The operands behind each further `and`. -/
def requirements : Nat → Tokens → Option (List Expr × Tokens)
  | 0, _ => none
  | n + 1, .keyword .and_ :: ts => do
    let (e, ts) ← inversion n ts
    let (es, ts) ← requirements n ts
    return (e :: es, ts)
  | _ + 1, ts => some ([], ts)

def inversion : Nat → Tokens → Option (Expr × Tokens)
  | 0, _ => none
  | n + 1, .keyword .not_ :: ts => do
    let (e, ts) ← inversion n ts
    return (.unary .not e, ts)
  | n + 1, ts => do
    let (e, ts) ← arithmetic n 1 ts
    let (cs, ts) ← comparisons n ts
    return (if cs.isEmpty then e else .compare e (cs.map Prod.fst) (cs.map Prod.snd), ts)

/-- Each further comparison with its operand. -/
def comparisons : Nat → Tokens → Option ((List (Comparison × Expr)) × Tokens)
  | 0, _ => none
  | n + 1, ts =>
    match comparison? ts with
    | some (c, ts) => do
      let (e, ts) ← arithmetic n 1 ts
      let (cs, ts) ← comparisons n ts
      return ((c, e) :: cs, ts)
    | none => some ([], ts)

/-- Operands joined by operators of at least the given level. -/
def arithmetic : Nat → (level : Nat) → Tokens → Option (Expr × Tokens)
  | 0, _, _ => none
  | n + 1, level, ts => do
    let (e, ts) ← factor n ts
    operators n level e ts

/-- Operators of at least the given level behind the operand `e`, grouped from the left. -/
def operators : Nat → (level : Nat) → Expr → Tokens → Option (Expr × Tokens)
  | 0, _, _, _ => none
  | _ + 1, _, e, [] => some (e, [])
  | n + 1, level, e, t :: ts =>
    match binaryOp? t with
    | some (op, k) =>
      if level ≤ k then do
        let (r, ts) ← arithmetic n (k + 1) ts
        operators n level (.binary op e r) ts
      else some (e, t :: ts)
    | none => some (e, t :: ts)

def factor : Nat → Tokens → Option (Expr × Tokens)
  | 0, _ => none
  | _ + 1, [] => none
  | n + 1, t :: ts =>
    match unaryOp? t with
    | some op => do
      let (e, ts) ← factor n ts
      return (.unary op e, ts)
    | none => do
      let (e, ts) ← awaited n (t :: ts)
      match ts with
      | .symbol .doubleStar :: ts => do
        let (r, ts) ← factor n ts
        return (.binary .pow e r, ts)
      | ts => return (e, ts)

def awaited : Nat → Tokens → Option (Expr × Tokens)
  | 0, _ => none
  | n + 1, .keyword .await_ :: ts => do
    let (_, ts) ← primary n ts
    return (.construct .await, ts)
  | n + 1, ts => primary n ts

def primary : Nat → Tokens → Option (Expr × Tokens)
  | 0, _ => none
  | n + 1, ts => do
    let (e, ts) ← atom n ts
    trailers n e ts

/-- Members, calls and subscripts behind `e`. -/
def trailers : Nat → Expr → Tokens → Option (Expr × Tokens)
  | 0, _, _ => none
  | n + 1, e, .symbol .dot :: .name s :: ts => trailers n (.member e (Text.compose s)) ts
  | _ + 1, _, .symbol .dot :: _ => none
  | n + 1, e, .symbol .parenOpen :: ts => do
    let ((args, named), ts) ← arguments n .positional true ts
    trailers n (.call e args named) ts
  | n + 1, e, .symbol .squareOpen :: ts => do
    let (key, ts) ← subscript n ts
    trailers n (.item e key) ts
  | _ + 1, e, ts => some (e, ts)

def atom : Nat → Tokens → Option (Expr × Tokens)
  | 0, _ => none
  | _ + 1, .name s :: ts => some (.name (Text.compose s), ts)
  | _ + 1, .keyword .true_ :: ts => some (.literal (.bool true), ts)
  | _ + 1, .keyword .false_ :: ts => some (.literal (.bool false), ts)
  | _ + 1, .keyword .none_ :: ts => some (.literal .none, ts)
  | _ + 1, .number s :: ts => some (.literal (Number.literal s), ts)
  | _ + 1, .symbol .ellipsis :: ts => some (.literal .ellipsis, ts)
  | n + 1, .string tag d body :: ts =>
    let (ss, rest) := stringRun (.string tag d body :: ts)
    if ss.any fun s => Quotation.isTemplate s.1 then do
      let fields ← templateFields? ss
      if allFields n fields then return (.construct .template, rest) else none
    else (joinStrings? ss).map fun l => (.literal l, rest)
  | n + 1, .symbol .parenOpen :: ts => paren n ts
  | n + 1, .symbol .squareOpen :: ts => square n ts
  | n + 1, .symbol .braceOpen :: ts => brace n ts
  | _ + 1, _ => none

/-- Are the texts of all fields well-formed expressions? -/
def allFields : Nat → List Text → Bool
  | 0, _ => false
  | _ + 1, [] => true
  | n + 1, s :: ss =>
    match Lexer.tokens? ('(' :: s ++ [')']) with
    | some (.symbol .parenOpen :: ts) =>
      match paren n ts with
      | some (_, []) => allFields n ss
      | _ => false
    | _ => false

/-- What stands behind an opening parenthesis, up to and with the closing one. -/
def paren : Nat → Tokens → Option (Expr × Tokens)
  | 0, _ => none
  | _ + 1, .symbol .parenClose :: ts => some (.tuple [], ts)
  | _ + 1, .keyword .yield_ :: .symbol .parenClose :: ts => some (.construct .yield, ts)
  | n + 1, .keyword .yield_ :: .keyword .from_ :: ts => do
    let (_, ts) ← expression n ts
    match ts with
    | .symbol .parenClose :: ts => return (.construct .yieldFrom, ts)
    | _ => none
  | n + 1, .keyword .yield_ :: ts => do
    let ts ← yielded n ts
    return (.construct .yield, ts)
  | n + 1, ts => do
    let (e, ts) ← element n ts
    match ts with
    | .symbol .parenClose :: ts => if e.isSpread then none else return (e, ts)
    | .symbol .comma :: ts => do
      let (es, ts) ← elements n .parenClose ts
      return (.tuple (e :: es), ts)
    | ts => do
      if e.isSpread then none
      else
        let ts ← clauses n ts
        match ts with
        | .symbol .parenClose :: ts => return (.construct .generator, ts)
        | _ => none

/-- The values behind a yield, up to and with the closing parenthesis. -/
def yielded : Nat → Tokens → Option Tokens
  | 0, _ => none
  | n + 1, ts => do
    let (_, ts) ← starExpression n ts
    match ts with
    | .symbol .parenClose :: ts => return ts
    | .symbol .comma :: .symbol .parenClose :: ts => return ts
    | .symbol .comma :: ts => yielded n ts
    | _ => none

/-- An expression or a spread. -/
def starExpression : Nat → Tokens → Option (Expr × Tokens)
  | 0, _ => none
  | n + 1, .symbol .star :: ts => do
    let (e, ts) ← arithmetic n 1 ts
    return (.spread e, ts)
  | n + 1, ts => expression n ts

/-- An element of a display: a spread, an assignment or an expression. -/
def element : Nat → Tokens → Option (Expr × Tokens)
  | 0, _ => none
  | n + 1, .symbol .star :: ts => do
    let (e, ts) ← arithmetic n 1 ts
    return (.spread e, ts)
  | n + 1, ts => assignment n ts

/-- An expression, or one that is given a name. -/
def assignment : Nat → Tokens → Option (Expr × Tokens)
  | 0, _ => none
  | n + 1, .name _ :: .symbol .walrus :: ts => do
    let (_, ts) ← expression n ts
    return (.construct .assignment, ts)
  | n + 1, ts => expression n ts

/-- The elements behind a comma, up to and with the closing mark. -/
def elements : Nat → (close : Symbol) → Tokens → Option (List Expr × Tokens)
  | 0, _, _ => none
  | _ + 1, _, [] => none
  | n + 1, close, t :: ts =>
    if t = .symbol close then some ([], ts)
    else do
      let (e, ts) ← element n (t :: ts)
      match ts with
      | .symbol .comma :: ts => do
        let (es, ts) ← elements n close ts
        return (e :: es, ts)
      | t :: ts => if t = .symbol close then return ([e], ts) else none
      | [] => none

/-- What stands behind an opening square bracket. -/
def square : Nat → Tokens → Option (Expr × Tokens)
  | 0, _ => none
  | _ + 1, .symbol .squareClose :: ts => some (.list [], ts)
  | n + 1, ts => do
    let (e, ts) ← element n ts
    match ts with
    | .symbol .squareClose :: ts => return (.list [e], ts)
    | .symbol .comma :: ts => do
      let (es, ts) ← elements n .squareClose ts
      return (.list (e :: es), ts)
    | ts =>
      if e.isSpread then none
      else do
        let ts ← clauses n ts
        match ts with
        | .symbol .squareClose :: ts => return (.construct .listComprehension, ts)
        | _ => none

/-- What stands behind an opening brace: a dictionary or a set. -/
def brace : Nat → Tokens → Option (Expr × Tokens)
  | 0, _ => none
  | _ + 1, .symbol .braceClose :: ts => some (.dict [], ts)
  | n + 1, .symbol .doubleStar :: ts => do
    let (es, ts) ← entries n (.symbol .doubleStar :: ts)
    return (.dict es, ts)
  | n + 1, .name s :: .symbol .walrus :: ts => do
    let (e, ts) ← element n (.name s :: .symbol .walrus :: ts)
    setRest n e ts
  | n + 1, ts => do
    let (e, ts) ← element n ts
    match ts with
    | .symbol .colon :: ts =>
      if e.isSpread then none
      else do
        let (v, ts) ← expression n ts
        match ts with
        | .symbol .braceClose :: ts => return (.dict [.pair e v], ts)
        | .symbol .comma :: ts => do
          let (es, ts) ← entries n ts
          return (.dict (.pair e v :: es), ts)
        | ts => do
          let ts ← clauses n ts
          match ts with
          | .symbol .braceClose :: ts => return (.construct .dictComprehension, ts)
          | _ => none
    | ts => setRest n e ts

/-- What follows the first element of a set. -/
def setRest : Nat → Expr → Tokens → Option (Expr × Tokens)
  | 0, _, _ => none
  | _ + 1, e, .symbol .braceClose :: ts => some (.set [e], ts)
  | n + 1, e, .symbol .comma :: ts => do
    let (es, ts) ← elements n .braceClose ts
    return (.set (e :: es), ts)
  | n + 1, e, ts =>
    if e.isSpread then none
    else do
      let ts ← clauses n ts
      match ts with
      | .symbol .braceClose :: ts => return (.construct .setComprehension, ts)
      | _ => none

/-- The entries of a dictionary up to and with the closing brace. -/
def entries : Nat → Tokens → Option (List Expr × Tokens)
  | 0, _ => none
  | _ + 1, .symbol .braceClose :: ts => some ([], ts)
  | n + 1, ts => do
    let (e, ts) ← entry n ts
    match ts with
    | .symbol .braceClose :: ts => return ([e], ts)
    | .symbol .comma :: ts => do
      let (es, ts) ← entries n ts
      return (e :: es, ts)
    | _ => none

/-- One entry of a dictionary: a spread dictionary, or a key and its value. -/
def entry : Nat → Tokens → Option (Expr × Tokens)
  | 0, _ => none
  | n + 1, .symbol .doubleStar :: ts => do
    let (e, ts) ← arithmetic n 1 ts
    return (.spreadAll e, ts)
  | n + 1, ts => do
    let (k, ts) ← expression n ts
    match ts with
    | .symbol .colon :: ts => do
      let (v, ts) ← expression n ts
      return (.pair k v, ts)
    | _ => none

/-- The arguments of a call up to and with the closing parenthesis. A generator may stand without
parentheses of its own where it is the `only` argument. -/
def arguments : Nat → ArgumentStage → (only : Bool) → Tokens →
    Option ((List Expr × List Expr) × Tokens)
  | 0, _, _, _ => none
  | _ + 1, _, _, .symbol .parenClose :: ts => some (([], []), ts)
  | n + 1, stage, _, .symbol .star :: ts =>
    if stage = .spreadAll then none
    else do
      let (e, ts) ← expression n ts
      let ((args, named), ts) ← argumentEnd n stage ts
      return ((.spread e :: args, named), ts)
  | n + 1, _, _, .symbol .doubleStar :: ts => do
    let (e, ts) ← expression n ts
    let ((args, named), ts) ← argumentEnd n .spreadAll ts
    return ((args, .spreadAll e :: named), ts)
  | n + 1, stage, _, .name s :: .symbol .assign :: ts => do
    let (e, ts) ← expression n ts
    let ((args, named), ts) ← argumentEnd n (if stage = .positional then .named else stage) ts
    return ((args, .named (Text.compose s) e :: named), ts)
  | n + 1, stage, only, ts =>
    if stage = .positional then do
      let (e, ts) ← assignment n ts
      match ts with
      | .symbol .comma :: ts => do
        let ((args, named), ts) ← arguments n stage false ts
        return ((e :: args, named), ts)
      | .symbol .parenClose :: ts => return (([e], []), ts)
      | ts =>
        if only then do
          let ts ← clauses n ts
          match ts with
          | .symbol .parenClose :: ts => return (([.construct .generator], []), ts)
          | _ => none
        else none
    else none

/-- The comma or the closing parenthesis behind an argument. -/
def argumentEnd : Nat → ArgumentStage → Tokens → Option ((List Expr × List Expr) × Tokens)
  | 0, _, _ => none
  | _ + 1, _, .symbol .parenClose :: ts => some (([], []), ts)
  | n + 1, stage, .symbol .comma :: ts => arguments n stage false ts
  | _ + 1, _, _ => none

/-- What stands in square brackets behind an operand. -/
def subscript : Nat → Tokens → Option (Expr × Tokens)
  | 0, _ => none
  | n + 1, ts => do
    let (e, ts) ← sliceItem n ts
    match ts with
    | .symbol .squareClose :: ts => return (tupleOr [e] e.isSpread, ts)
    | .symbol .comma :: ts => do
      let (es, ts) ← sliceItems n ts
      return (.tuple (e :: es), ts)
    | _ => none

def sliceItems : Nat → Tokens → Option (List Expr × Tokens)
  | 0, _ => none
  | _ + 1, .symbol .squareClose :: ts => some ([], ts)
  | n + 1, ts => do
    let (e, ts) ← sliceItem n ts
    match ts with
    | .symbol .squareClose :: ts => return ([e], ts)
    | .symbol .comma :: ts => do
      let (es, ts) ← sliceItems n ts
      return (e :: es, ts)
    | _ => none

/-- A slice, a spread, or an index. -/
def sliceItem : Nat → Tokens → Option (Expr × Tokens)
  | 0, _ => none
  | n + 1, .symbol .star :: ts => do
    let (e, ts) ← expression n ts
    return (.spread e, ts)
  | n + 1, .name s :: .symbol .walrus :: ts => assignment n (.name s :: .symbol .walrus :: ts)
  | n + 1, .symbol .colon :: ts => sliceRest n (.literal .none) ts
  | n + 1, ts => do
    let (e, ts) ← expression n ts
    match ts with
    | .symbol .colon :: ts => sliceRest n e ts
    | ts => return (e, ts)

/-- The rest of a slice behind its first colon. -/
def sliceRest : Nat → Expr → Tokens → Option (Expr × Tokens)
  | 0, _, _ => none
  | n + 1, low, ts => do
    let (high, ts) ← bound n ts
    match ts with
    | .symbol .colon :: ts => do
      let (step, ts) ← bound n ts
      return (.slice low high step, ts)
    | ts => return (.slice low high (.literal .none), ts)

/-- An end of a slice, which may be left out. -/
def bound : Nat → Tokens → Option (Expr × Tokens)
  | 0, _ => none
  | _ + 1, .symbol .colon :: ts => some (.literal .none, .symbol .colon :: ts)
  | _ + 1, .symbol .comma :: ts => some (.literal .none, .symbol .comma :: ts)
  | _ + 1, .symbol .squareClose :: ts => some (.literal .none, .symbol .squareClose :: ts)
  | n + 1, ts => expression n ts

/-- One or more iterations of a comprehension. -/
def clauses : Nat → Tokens → Option Tokens
  | 0, _ => none
  | n + 1, .keyword .async_ :: .keyword .for_ :: ts => clauses n (.keyword .for_ :: ts)
  | n + 1, .keyword .for_ :: ts => do
    let ts ← targets n ts
    let (_, ts) ← disjunction n ts
    let ts ← conditions n ts
    match ts with
    | .keyword .for_ :: ts => clauses n (.keyword .for_ :: ts)
    | .keyword .async_ :: ts => clauses n (.keyword .async_ :: ts)
    | ts => return ts
  | _ + 1, _ => none

/-- The targets of an iteration up to and with `in`. -/
def targets : Nat → Tokens → Option Tokens
  | 0, _ => none
  | n + 1, ts => do
    let (e, ts) ← target n ts
    if isTarget e then
      match ts with
      | .keyword .in_ :: ts => return ts
      | .symbol .comma :: .keyword .in_ :: ts => return ts
      | .symbol .comma :: ts => targets n ts
      | _ => none
    else none

/-- What may turn out to be a target: a primary, perhaps behind a star. -/
def target : Nat → Tokens → Option (Expr × Tokens)
  | 0, _ => none
  | n + 1, .symbol .star :: ts => arithmetic n 1 ts
  | n + 1, ts => arithmetic n 1 ts

/-- The conditions of an iteration. -/
def conditions : Nat → Tokens → Option Tokens
  | 0, _ => none
  | n + 1, .keyword .if_ :: ts => do
    let (_, ts) ← disjunction n ts
    conditions n ts
  | _ + 1, ts => some ts

end

section

-- The equations are proved here, once for all the proofs that open one of the functions.
attribute [local simp] expression parameters parameterEnd disjunction alternatives conjunction
  requirements inversion comparisons arithmetic operators factor awaited primary trailers atom
  allFields paren yielded starExpression element assignment elements square brace setRest entries
  entry arguments argumentEnd subscript sliceItems sliceItem sliceRest bound clauses targets
  target conditions

end

/-- Depth enough for a text of the given length. -/
def fuelFor (length : Nat) : Nat := 20 * (length + 4)

/-- Expressions with commas between, up to the end; a trailing comma counts. -/
def expressions (n : Nat) : Nat → Tokens → Option (List Expr × Bool)
  | 0, _ => none
  | k + 1, ts => do
    let (e, ts) ← expression n ts
    match ts with
    | [] => return ([e], false)
    | [.symbol .comma] => return ([e], true)
    | .symbol .comma :: ts => do
      let (es, _) ← expressions n k ts
      return (e :: es, true)
    | _ => none

/-- The expression that a whole text writes. -/
def parse? (s : Text) : Option Expr := do
  let ts ← Lexer.tokens? s
  let n := fuelFor s.length
  let (es, comma) ← expressions n n ts
  return tupleOr es comma

end Stencil.Parser
