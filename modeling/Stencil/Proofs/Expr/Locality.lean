import Stencil.Proofs.Expr.Calls

/-! # The grammar reads every phrase alike wherever it stands

All functions of the grammar call each other, so their contracts are shown together, by induction on
the depth of the descent. -/
namespace Stencil.Parser

variable {n : Nat}

/-- What the functions of the grammar find at depth `n`. -/
structure Local (n : Nat) : Prop where
  expression : Phrase expression 9 Expr.IsSingle n
  parameters (s : ParameterStage) (o : Bool) : Skips (fun m => parameters m s o) 1 n
  parameterEnd (s : ParameterStage) (o : Bool) : Skips (fun m => parameterEnd m s o) 1 n
  disjunction : Phrase disjunction 8 Expr.IsSingle n
  alternatives : Tail alternatives 1 Regulars n
  conjunction : Phrase conjunction 7 Expr.IsSingle n
  requirements : Tail requirements 1 Regulars n
  inversion : Phrase inversion 6 Expr.IsSingle n
  comparisons : Tail comparisons 1 Compared n
  arithmetic (level : Nat) : Phrase (fun m => arithmetic m level) 5 Expr.IsSingle n
  operators (level : Nat) (e : Expr) : e.IsSingle →
    Tail (fun m => operators m level e) 1 Expr.IsSingle n
  factor : Phrase factor 4 Expr.IsSingle n
  awaited : Phrase awaited 3 Expr.IsSingle n
  primary : Phrase primary 2 Expr.IsSingle n
  trailers (e : Expr) : e.IsSingle → Tail (fun m => trailers m e) 1 Expr.IsSingle n
  atom : Phrase atom 1 Expr.IsSingle n
  fields : FieldsHold n
  paren : Closed paren .parenClose 12 Expr.IsSingle n
  yields : YieldsHold n
  starExpression : Phrase starExpression 10 (·.isRegular = true) n
  element : Phrase element 11 (·.isRegular = true) n
  assignment : Phrase assignment 10 Expr.IsSingle n
  elements : ElementsHold n
  square : Closed square .squareClose 12 Expr.IsSingle n
  brace : Closed brace .braceClose 13 Expr.IsSingle n
  setRest (e : Expr) : e.isRegular = true →
    Closed (fun m => setRest m e) .braceClose 13 Expr.IsSingle n
  entries : Closed entries .braceClose 11 Regulars n
  entry : Phrase entry 10 (·.isRegular = true) n
  arguments (s : ArgumentStage) (o : Bool) :
    Closed (fun m => arguments m s o) .parenClose 11 RegularArguments n
  argumentEnd (s : ArgumentStage) :
    Closed (fun m => argumentEnd m s) .parenClose 1 RegularArguments n
  subscript : Closed subscript .squareClose 12 (·.isRegular = true) n
  sliceItems : Closed sliceItems .squareClose 12 Regulars n
  sliceItem : SliceItemsHold n
  sliceRest : SliceRestsHold n
  bound : BoundsHold n
  clauses : Iterates n
  targets : Skips targets 7 n
  target : Phrase target 6 Expr.IsSingle n
  conditions : SkipsTail conditions 1 n

/-- At depth zero nothing is found. -/
theorem Local.zero : Local 0 := by
  constructor <;> intros <;> intro <;> intros <;> contradiction

theorem Local.succ (h : Local n) : Local (n + 1) where
  expression := expression_phrase h.disjunction h.expression h.parameters
  parameters := parameters_skips h.expression h.parameters h.parameterEnd
  parameterEnd := parameterEnd_skips h.parameters
  disjunction := disjunction_phrase h.conjunction h.alternatives
  alternatives := alternatives_tail h.conjunction h.alternatives
  conjunction := conjunction_phrase h.inversion h.requirements
  requirements := requirements_tail h.inversion h.requirements
  inversion := inversion_phrase h.inversion (h.arithmetic 1) h.comparisons
  comparisons := comparisons_tail (h.arithmetic 1) h.comparisons
  arithmetic _ := arithmetic_phrase h.factor (h.operators _)
  operators _ _ he := operators_tail h.arithmetic (h.operators _) he
  factor := factor_phrase h.factor h.awaited
  awaited := awaited_phrase h.primary
  primary := primary_phrase h.atom h.trailers
  trailers _ he := trailers_tail h.trailers (h.arguments _ _) h.subscript he
  atom := atom_phrase h.fields h.paren h.square h.brace
  fields := fieldsHold h.paren h.fields
  paren := paren_closed h.expression h.element h.elements h.clauses h.yields
  yields := yieldsHold h.starExpression h.yields
  starExpression := starExpression_phrase (h.arithmetic 1) h.expression
  element := element_phrase (h.arithmetic 1) h.assignment
  assignment := assignment_phrase h.expression
  elements := elementsHold h.element h.elements
  square := square_closed h.element h.elements h.clauses
  brace := brace_closed h.element h.expression h.entries h.clauses h.setRest
  setRest _ he := setRest_closed h.elements h.clauses he
  entries := entries_closed h.entry h.entries
  entry := entry_phrase (h.arithmetic 1) h.expression
  arguments := arguments_closed h.expression h.assignment h.arguments h.argumentEnd h.clauses
  argumentEnd := argumentEnd_closed h.arguments
  subscript := subscript_closed h.sliceItem h.sliceItems
  sliceItems := sliceItems_closed h.sliceItem h.sliceItems
  sliceItem := sliceItemsHold h.expression h.assignment h.sliceRest
  sliceRest _ _ _ _ hlow h' := sliceRest_spec h.bound hlow h'
  bound _ _ _ h' := bound_spec h.expression h'
  clauses := clauses_iterates h.targets h.disjunction h.conditions h.clauses
  targets := targets_skips h.target h.targets
  target := target_phrase (h.arithmetic 1)
  conditions := conditions_skips h.disjunction h.conditions

/-- The contracts of the grammar hold at every depth. -/
theorem Local.all (n : Nat) : Local n := by
  induction n with
  | zero => exact Local.zero
  | succ n ih => exact ih.succ

end Stencil.Parser
