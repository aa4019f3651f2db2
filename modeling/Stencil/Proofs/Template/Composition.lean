import Stencil.Filter.Standard
import Stencil.Proofs.Template.Congruence
import Stencil.Proofs.Template.Single
import Stencil.Proofs.Template.Unwrapping
import Stencil.Proofs.Template.Wrapping

/-! # Pipelines are compositions

A template of one pipeline has the value of the nested calls, found in the order in which nested
calls are evaluated: the filters from the last to the first, the path, and then, filter by filter,
the further arguments and the call. -/
namespace Stencil

/-! ## Names, paths and filters have values -/

namespace Env

variable (env : Env)

/-- What a free name stands for: an entry of the data, or else a registered filter. -/
def freeValue (n : PlainName) : Outcome Value :=
  match env.data.entryNamed? n.text with
  | some v => .ok v
  | none =>
    match env.registry.find? n.text with
    | some id => .ok (.function id)
    | none => .error (.unbound n.text)

/-- The value of a free name at a place. -/
def resolve (place : List Nat) (n : PlainName) : Outcome Value :=
  Value.settled place (env.freeValue n)

/-- The place of an operation that is the first operand of another, and so on, `k` times. -/
def within (k : Nat) : List Nat := List.replicate k 1

/-- The members of a value, one of the other. The last of them is read within `k` operations. -/
def walk (k : Nat) : Value → List PlainName → Outcome Value
  | v, [] => .ok v
  | v, n :: ns => do
    walk k (← Value.settled (within (ns.length + k)) (member env.registry v n.text)) ns

/-- The value of a path within `k` operations. -/
def pathValue (k : Nat) (p : Pipeline.Path) : Outcome Value := do
  env.walk k (← env.resolve (within (p.steps.length + k)) p.head) p.steps

/-- The values of names that are the operands of an operation from the `i`-th on. -/
def resolveAll (place : List Nat) : Nat → List PlainName → Outcome (List Value)
  | _, [] => .ok []
  | i, n :: ns => do
    let v ← env.resolve (i :: place) n
    return v :: (← resolveAll place (i + 1) ns)

/-- Each filter with the value of its name. The names are resolved from the last to the first. -/
def callees : List Pipeline.Stage → Outcome (List (Pipeline.Stage × Value))
  | [] => .ok []
  | s :: ss => do
    let outer ← callees ss
    let f ← env.resolve (0 :: within ss.length) s.name
    return (s, f) :: outer

/-- A value passed from filter to filter. The further arguments of each are resolved in front of its
call. -/
def passThrough : Value → List (Pipeline.Stage × Value) → Outcome Value
  | v, [] => .ok v
  | v, (s, f) :: calls => do
    let place := within calls.length
    let vs ← env.resolveAll place 2 s.names
    passThrough (← Value.settled place (call env.registry f ⟨v :: vs, []⟩)) calls

/-- The value of a pipeline: the composition of its filters, applied to its path. -/
def composed (w : Pipeline.Written) : Outcome Value := do
  let calls ← env.callees w.stages
  let v ← env.pathValue w.stages.length w.path
  env.passThrough v calls

end Env

namespace Template

variable {d : Dialect} {s code source : Text} {e : Expr}

/-- A template of one interpolation compiles as the source of this does. -/
theorem compile_of_interpolation (hstrip : Text.strip s = s)
    (htext : Piece.ofText d s = [.interpolation code]) (hcode : code ≠ [])
    (hsource : Source.code? d code = some source) : compile d s =
      match Compiled.ofSource source s with
      | .ok c => .ok (.compiled c)
      | .error e => .error (.compile e) := by
  have hoccurs : Piece.occursIn d (Text.strip s) = true := by
    rw [hstrip]
    exact Piece.occursIn_of_mem (v := code) (htext ▸ List.mem_singleton_self _)
  have hpieces : Source.ofPieces? d (Piece.ofText d (Text.strip s)) = some source := by
    rw [hstrip, htext, Source.ofPieces?, Source.fragment?, hsource]
    rfl
  have hfull : [Piece.interpolation code].any isEmptyInterpolation = false := by
    simp [isEmptyInterpolation, Piece.text, hcode]
  have h := compile_of_source hoccurs hpieces
  rw [hstrip, htext, hfull, if_neg Bool.false_ne_true] at h
  exact h

/-- If the interpolation is read as one expression, and no sum of texts, the template has the value
of this expression. -/
theorem exists_compiled_of_interpolation (hstrip : Text.strip s = s)
    (htext : Piece.ofText d s = [.interpolation code]) (hcode : code ≠ [])
    (hsource : Source.code? d code = some source)
    (hparse : Parser.parse? (bracketed source) = some (.list [e])) (hspread : e.isSpread = false)
    (ha : e.IsAdmissible) (hsum : e.textSum? = none) :
    ∃ c, compile d s = .ok (.compiled c) ∧
      ∀ r data, c.render r data = e.eval ⟨r, data⟩ [] := by
  have hlisted : Expr.listed [e] = e := by
    rw [Expr.listed, hspread, if_neg Bool.false_ne_true]
  obtain ⟨c, hof, hc⟩ : ∃ c, Compiled.ofSource source s = .ok c ∧ c.source = source :=
    ⟨_, Compiled.ofSource_eq_ok_iff.2 ⟨_, by simp, hparse, by rwa [hlisted], rfl⟩, rfl⟩
  have hcompile : compile d s = .ok (.compiled c) := by
    rw [compile_of_interpolation hstrip htext hcode hsource, hof]
  subst hc
  obtain ⟨es, -, hes, hrender⟩ := render_eq_rendered hcompile
  cases hparse.symm.trans hes
  refine ⟨c, hcompile, fun r data => ?_⟩
  rw [hrender, hlisted, Expr.rendered, hsum]

end Template

namespace Pipeline

open Application Stencil.Expr

variable {env : Env}

theorem member_scope (hdata : env.data.entries?.isSome = true) (n : PlainName) :
    Env.member env.registry env.scope n.text = env.freeValue n :=
  Env.member_scope_of_entries? hdata n.ne_slotName n.not_isHidden

theorem eval_free (hdata : env.data.entries?.isSome = true) (place : List Nat) (n : PlainName) :
    eval env place (free n) = env.resolve place n := by
  rw [free, eval_member_scope, member_scope hdata, Env.resolve]

theorem eval_foldl_member (a : Application) (ns : List PlainName) (k : Nat) :
    eval env (Env.within k) (ns.foldl .member a).expr = (do
      let v ← eval env (Env.within (ns.length + k)) a.expr
      env.walk k v ns) := by
  induction ns generalizing a with
  | nil =>
    rw [List.length_nil, Nat.zero_add]
    exact (bind_pure _).symm
  | cons n ns ih =>
    have hwithin : 1 :: Env.within (ns.length + k) = Env.within ((n :: ns).length + k) := by
      rw [Env.within, Env.within, List.length_cons, Nat.add_right_comm, List.replicate_succ]
    rw [List.foldl_cons, ih, expr, eval, hwithin, bind_assoc]
    rfl

theorem evalItems_free (hdata : env.data.entries?.isSome = true) (place : List Nat) (i : Nat)
    (ns : List PlainName) :
    evalItems env place i (ns.map free) = env.resolveAll place i ns := by
  induction ns generalizing i with
  | nil => rfl
  | cons n ns ih =>
    rw [List.map_cons, evalItems_cons rfl, eval_free hdata, ih, Env.resolveAll]

/-- A call: the filter, the first argument, the further ones, and the call itself. -/
theorem eval_applied (hdata : env.data.entries?.isSome = true) (place : List Nat)
    (a : Application) (s : Stage) : eval env place (s.applied a).expr = (do
      let f ← env.resolve (0 :: place) s.name
      let v ← eval env (1 :: place) a.expr
      let vs ← env.resolveAll place 2 s.names
      Value.settled place (Env.call env.registry f ⟨v :: vs, []⟩)) := by
  have hspread : a.expr.isSpread = false := by cases a <;> rfl
  rw [Stage.applied, expr, eval, eval_free hdata, evalPositional_cons hspread,
    evalItems_free hdata]
  cases env.resolve (0 :: place) s.name with
  | error e => rfl
  | ok f =>
    cases eval env (1 :: place) a.expr with
    | error e => rfl
    | ok v =>
      cases env.resolveAll place 2 s.names <;> rfl

theorem length_of_callees {ss : List Stage} {calls : List (Stage × Value)}
    (h : env.callees ss = .ok calls) : calls.length = ss.length := by
  induction ss generalizing calls with
  | nil =>
    cases h
    rfl
  | cons s ss ih =>
    rw [Env.callees] at h
    cases houter : env.callees ss with
    | error e =>
      rw [houter] at h
      cases h
    | ok outer =>
      rw [houter] at h
      cases hf : env.resolve (0 :: Env.within ss.length) s.name with
      | error e =>
        rw [hf] at h
        cases h
      | ok f =>
        rw [hf] at h
        cases h
        rw [List.length_cons, List.length_cons, ih houter]

/-- The filters are resolved from the last to the first, and the innermost value is passed through
them. -/
theorem eval_foldl_applied (hdata : env.data.entries?.isSome = true) (a : Application)
    (ss : List Stage) : eval env [] (ss.foldl Stage.applied a).expr = (do
      let calls ← env.callees ss
      let v ← eval env (Env.within ss.length) a.expr
      env.passThrough v calls) := by
  induction ss generalizing a with
  | nil => exact (bind_pure _).symm
  | cons s ss ih =>
    -- The calls behind this one are around it: their names are resolved before it is evaluated.
    rw [List.foldl_cons, ih, Env.callees]
    cases houter : env.callees ss with
    | error e => rfl
    | ok outer =>
      have hpure : (.ok outer : Outcome (List (Stage × Value))) = pure outer := rfl
      have hwithin : 1 :: Env.within ss.length = Env.within (s :: ss).length := rfl
      have hpass : ∀ f v, env.passThrough v ((s, f) :: outer) = (do
          let vs ← env.resolveAll (Env.within ss.length) 2 s.names
          env.passThrough (← Value.settled (Env.within ss.length)
            (Env.call env.registry f ⟨v :: vs, []⟩)) outer) := by
        intro f v
        rw [Env.passThrough, length_of_callees houter]
      simp only [eval_applied hdata, hpure, hwithin, bind_assoc, pure_bind, hpass]

/-- The nested calls of a pipeline have the value of the composition. -/
theorem eval_application (hdata : env.data.entries?.isSome = true) (w : Written) :
    eval env [] w.application.expr = env.composed w := by
  rw [Written.application, eval_foldl_applied hdata, Path.application, eval_foldl_member, expr,
    eval_free hdata, Env.composed, Env.pathValue]

/-! ## Templates of one pipeline -/

namespace Written

variable (w : Written)

theorem ofText_template : Piece.ofText .standard w.template = [.interpolation w.core] := by
  have hne : w.inside ≠ [] := by simp [inside, w.core_ne_nil]
  have hbrace : '\x7d' ∉ w.inside := w.not_mem_inside (by decide) (by decide) (by decide)
  exact Piece.ofText_eq_interpolation_iff.2
    ⟨w.inside, rfl, Piece.closes_of_not_mem (q := ['\x7d']) rfl hne hbrace, w.strip_inside.symm⟩

theorem code?_core :
    Source.code? .standard w.core = some (w.application.written scopeMark) := by
  have hsep : Dialect.standard.separator = '|' := rfl
  rw [Source.code?, hsep, w.expand_core, w.application.scoped?_written]

/-- A template of one pipeline compiles exactly as its nested calls do. -/
theorem compile_template : Template.compile .standard w.template =
    match Compiled.ofSource (w.application.written scopeMark) w.template with
    | .ok c => .ok (.compiled c)
    | .error e => .error (.compile e) :=
  Template.compile_of_interpolation w.strip_template w.ofText_template w.core_ne_nil w.code?_core

end Written

/-- A pipeline of at most 199 filters compiles, and its value is that of the nested calls. -/
theorem exists_compiled (w : Written) (hlength : w.links.length ≤ 199) :
    ∃ c, Template.compile .standard w.template = .ok (.compiled c) ∧
      ∀ r data, c.render r data = eval ⟨r, data⟩ [] w.application.expr := by
  have hdepth : w.application.depth < Lexer.maxDepth := by
    rw [w.depth_application, Lexer.maxDepth]
    omega
  have hspread : w.application.expr.isSpread = false := by cases w.application <;> rfl
  exact Template.exists_compiled_of_interpolation w.strip_template w.ofText_template w.core_ne_nil
    w.code?_core (w.application.parse?_bracketed hdepth) hspread
    w.application.isAdmissible_expr w.application.textSum?_expr

/-- A path, a filter with a further argument, and a filter written without parentheses. -/
def tagsLine : Written where
  lead := ⟨[' '], rfl⟩
  path := ⟨⟨"user".toList, by decide⟩, [⟨"tags".toList, by decide⟩]⟩
  links :=
    [⟨⟨[' '], rfl⟩, ⟨[' '], rfl⟩, ⟨"join".toList, by decide⟩, some [⟨"sep".toList, by decide⟩]⟩,
      ⟨noBlanks, noBlanks, ⟨"upper".toList, by decide⟩, none⟩]
  trail := ⟨[' '], rfl⟩

def tagsData : Value :=
  .dict [(.text "user".toList, .dict [(.text "tags".toList, .list [.text ['a'], .text ['b']])]),
    (.text "sep".toList, .text ['-'])]

/-- From the 200th filter on, the nested calls have too many parentheses, and the template is
malformed. -/
theorem compile_of_many {w : Written} (hlength : 200 ≤ w.links.length) :
    Template.compile .standard w.template = .error (.compile ⟨w.template,
      .rejected (w.application.written scopeMark) .malformed⟩) := by
  have hdepth : Lexer.maxDepth ≤ w.application.depth := by
    rw [w.depth_application, Lexer.maxDepth]
    exact hlength
  have hsource : Compiled.ofSource (w.application.written scopeMark) w.template =
      .error ⟨w.template, .rejected (w.application.written scopeMark) .malformed⟩ := by
    rw [Compiled.ofSource, Tree.ofSource, w.application.parse?_bracketed_eq_none hdepth]
    rfl
  rw [w.compile_template, hsource]

/-- A name with the same filter behind it `n` times. -/
def repeated (n : Nat) : Written where
  lead := ⟨[' '], rfl⟩
  path := ⟨⟨['p'], by decide⟩, []⟩
  links := List.replicate n ⟨⟨[' '], rfl⟩, ⟨[' '], rfl⟩, ⟨['f'], by decide⟩, none⟩
  trail := ⟨[' '], rfl⟩

end Pipeline

end Stencil
