import Stencil.Proofs.Template.Acceptance

/-! # The value of a concatenation

A concatenation is the text of its parts, one behind the other. Its parts are evaluated in their
order, and the first that fails is the failure of the whole. -/
namespace Stencil

namespace Value

theorem content_settle {v : Value} {s : Text} (h : v.content = .text s) (place part : List Nat) :
    (v.settle place part).content = .text s := by
  obtain ⟨i, c⟩ := v
  cases h
  cases i <;> simp [settle, settleContent]

theorem content_keeping (v : Value) : (v.keeping (text v.shown)).content = .text v.shown := by
  obtain ⟨i, c⟩ := v
  cases c with
  | text s => simp [keeping, text, shown]
  | _ => simp [keeping, text, shown]

/-- To show a value that has been shown changes nothing. -/
theorem shown_shown (v : Value) (place : List Nat) :
    ((v.keeping (text v.shown)).settle place []).shown = v.shown := by
  have h := content_settle (content_keeping v) place []
  rw [shown, h]

end Value

namespace Expr

/-- The text of a value of an expression. -/
def shownText (env : Env) (e : Expr) : Outcome Text := do
  return (← e.eval env []).shown

/-- The texts of expressions, one behind the other. -/
def joinedText (env : Env) (es : List Expr) : Outcome Text := do
  return (← es.mapM (shownText env)).flatten

theorem shownText_text (env : Env) (s : Text) : shownText env (.text s) = .ok s := rfl

theorem evalParts_emitted {env : Env} {e : Expr} (he : e.isRegular = true) (rest : List Expr) :
    evalParts env [] (e.emitted ++ rest) = (do
      let s ← shownText env e
      return s ++ (← evalParts env [] rest)) := by
  rcases leaf_cases e with ⟨s, rfl, h⟩ | h
  · rw [emitted, h, shownText_text]
    cases s with
    | nil => exact (bind_pure (evalParts env [] rest)).symm
    | cons c s => rfl
  · rw [emitted, h]
    simp only [List.singleton_append, evalParts, eval, eval_lower he, shownText]
    cases eval env [] e with
    | error f => rfl
    | ok v =>
      change (do return ((v.keeping (Value.text v.shown)).settle [] []).shown ++
        (← evalParts env [] rest)) = _
      rw [Value.shown_shown]
      rfl

theorem evalParts_flatten {env : Env} {es : List Expr} (h : ∀ e ∈ es, e.isRegular = true) :
    evalParts env [] (es.map emitted).flatten = joinedText env es := by
  induction es with
  | nil => rfl
  | cons e es ih =>
    rw [List.map_cons, List.flatten_cons, evalParts_emitted (h e (by simp)),
      ih fun e he => h e (by simp [he]), joinedText, joinedText, List.mapM_cons]
    cases shownText env e with
    | error f => rfl
    | ok s => cases es.mapM (shownText env) <;> rfl

/-- What a template of this expression gives: the joined texts of a sum that begins with the empty
text, and the value of all else. -/
def rendered (env : Env) (e : Expr) : Outcome Value :=
  match e.textSum? with
  | some ps => do return (Value.text (← joinedText env ps)).settle [] []
  | none => e.eval env []

theorem isRegular_of_foldl {e : Expr} {es : List Expr}
    (h : (es.foldl (.binary .add) e).isRegular = true) :
    e.isRegular = true ∧ ∀ x ∈ es, x.isRegular = true := by
  induction es generalizing e with
  | nil => exact ⟨h, nofun⟩
  | cons x es ih =>
    obtain ⟨h₁, h₂⟩ := ih h
    rw [isRegular, Bool.and_eq_true] at h₁
    refine ⟨h₁.1, fun y hy => ?_⟩
    rcases List.mem_cons.1 hy with rfl | hy
    · exact h₁.2
    · exact h₂ y hy

theorem eval_joined_emitted {env : Env} {es : List Expr} (h : ∀ e ∈ es, e.isRegular = true) :
    (joined (es.map emitted).flatten).eval env [] =
      (do return (Value.text (← joinedText env es)).settle [] []) := by
  rw [eval, evalParts_flatten h]
  cases joinedText env es <;> rfl

/-- What a template is compiled to gives what its expression renders. -/
theorem eval_emission {e : Expr} (he : e.isRegular = true) (env : Env) :
    e.emission.eval env [] = e.rendered env := by
  rw [emission, rendered]
  cases h : e.textSum? with
  | none => exact eval_lower he env []
  | some ps =>
    rw [eq_foldl_of_textSum? h] at he
    exact eval_joined_emitted (isRegular_of_foldl he).2

end Expr

end Stencil
