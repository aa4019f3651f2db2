import Stencil.Proofs.Expr.Phrase
import Stencil.Proofs.Template.Congruence

/-! # Lowering keeps values

A member that is read through the helper is the member: the helper is called with the value and the
name, at the place of the member. All else is lowered part by part. -/
namespace Stencil

open Emission

namespace Expr

/-! ## What lowering does not change -/

theorem lowerAll_eq_map (es : List Expr) : lowerAll es = es.map lower := by
  induction es with
  | nil => rfl
  | cons e es ih => rw [lowerAll, ih, List.map_cons]

@[simp] theorem isSpread_lower (e : Expr) : (lower e).isSpread = e.isSpread := by
  cases e <;> rfl

@[simp] theorem isTextual_lower : ∀ e : Expr, isTextual (lower e) = isTextual e
  | literal _ | name _ | member _ _ | slice _ _ _ | call _ _ _ | connect _ _ | compare _ _ _
  | choose _ _ _ | list _ | tuple _ | set _ | dict _ | pair _ _ | spread _ | spreadAll _
  | named _ _ | construct _ | joined _ | shown _ | unary _ _ => rfl
  | binary op l r => by
    rw [lower, isTextual, isTextual, isTextual_lower l, isTextual_lower r]
  | item e k => by rw [lower, isTextual, isTextual, isTextual_lower e]

mutual

theorem isConstant_lower : ∀ e : Expr, isConstant (lower e) = isConstant e
  | literal _ | name _ | member _ _ | slice _ _ _ | call _ _ _ | connect _ _ | compare _ _ _
  | choose _ _ _ | list _ | set _ | dict _ | pair _ _ | spread _ | spreadAll _ | named _ _
  | construct _ | joined _ | shown _ => rfl
  | unary _ e => isConstant_lower e
  | binary op l r => by
    rw [lower, isConstant, isConstant, isConstant_lower l, isConstant_lower r, isTextual_lower]
  | item e k => by rw [lower, isConstant, isConstant, isConstant_lower e, isConstant_lower k]
  | tuple es => by rw [lower, isConstant, isConstant, areConstant_lowerAll es]

theorem areConstant_lowerAll : ∀ es : List Expr, areConstant (lowerAll es) = areConstant es
  | [] => rfl
  | e :: es => by
    rw [lowerAll, areConstant, areConstant, isConstant_lower e, areConstant_lowerAll es]

end

/-! ## Expressions -/

variable {env : Env} {e : Expr}

/-- The helper, called for a member, reads this member. -/
theorem eval_access (hs : e.isSpread = false) (n : Text) (place : List Nat) :
    eval env place (call (name helperName) [e, text n] []) = eval env place (member e n) := by
  have hname : eval env (0 :: place) (name helperName) = .ok .memberHelper := rfl
  have harg : evalItems env place 2 [text n] = .ok [⟨.common, .text n⟩] := rfl
  rw [eval.eq_6, eval.eq_3, hname, evalPositional_cons hs, harg]
  cases eval env (1 :: place) e with
  | error f => rfl
  | ok v => rfl

theorem alike_lower_member (he : Alike env env (lower e) e) (hs : e.isSpread = false) (n : Text) :
    Alike env env (lower (member e n)) (member e n) := by
  intro place
  rw [lower, eval_access (by simpa using hs)]
  exact Alike.member rfl he n place

mutual

/-- By the parts of an expression: only a member becomes something else. -/
theorem alikeIn_lower : ∀ e : Expr, e.isRegular = true → AlikeIn env env (lower e) e
  | literal _, _ | name _, _ | construct _, _ => .alone rfl rfl fun _ => rfl
  | member e n, h => by
    simp only [isRegular, Bool.and_eq_true, Bool.not_eq_true'] at h
    exact .alone rfl rfl (alike_lower_member (alikeIn_lower e h.2).alike h.1 n)
  | item e k, h => by
    rw [isRegular, Bool.and_eq_true] at h
    exact .alone rfl rfl
      (.item (alikeIn_lower e h.1).alike (alikeIn_lower k h.2).alike (isConstant_lower (item e k)))
  | slice l h s, hr => by
    simp only [isRegular, Bool.and_eq_true] at hr
    exact .alone rfl rfl (.slice (alikeIn_lower l hr.1.1).alike (alikeIn_lower h hr.1.2).alike
      (alikeIn_lower s hr.2).alike)
  | call fn args byName, h => by
    simp only [isRegular, Bool.and_eq_true] at h
    exact .alone rfl rfl (.call rfl (alikeIn_lower fn h.1.1).alike (forall₂_lowerAll args h.1.2)
      (forall₂_lowerAll byName h.2))
  | unary op e, h => by
    rw [isRegular] at h
    exact .alone rfl rfl (.unary op (alikeIn_lower e h).alike (isConstant_lower (unary op e)))
  | binary op l r, h => by
    rw [isRegular, Bool.and_eq_true] at h
    exact .alone rfl rfl (.binary op (alikeIn_lower l h.1).alike (alikeIn_lower r h.2).alike
      (isConstant_lower (binary op l r)))
  | connect c es, h => by
    rw [isRegular] at h
    exact .alone rfl rfl (.connect c (forall₂_lowerAll es h))
  | compare e ops es, h => by
    rw [isRegular, Bool.and_eq_true] at h
    exact .alone rfl rfl (.compare ops (alikeIn_lower e h.1).alike (forall₂_lowerAll es h.2))
  | choose t y n, h => by
    simp only [isRegular, Bool.and_eq_true] at h
    exact .alone rfl rfl (.choose (alikeIn_lower t h.1.1).alike (alikeIn_lower y h.1.2).alike
      (alikeIn_lower n h.2).alike)
  | list es, h => by
    rw [isRegular] at h
    exact .alone rfl rfl (.list (forall₂_lowerAll es h))
  | tuple es, h => by
    rw [isRegular] at h
    exact .alone rfl rfl (.tuple (forall₂_lowerAll es h) (isConstant_lower (tuple es)))
  | set es, h => by
    rw [isRegular] at h
    exact .alone rfl rfl (.set (forall₂_lowerAll es h) (areConstant_lowerAll es))
  | dict es, h => by
    rw [isRegular] at h
    exact .alone rfl rfl (.dict rfl (forall₂_lowerAll es h))
  | pair k v, h => by
    rw [isRegular, Bool.and_eq_true] at h
    exact .pair (alikeIn_lower k h.1).alike (alikeIn_lower v h.2).alike
  | spread e, h => by
    rw [isRegular] at h
    exact .spread (alikeIn_lower e h).alike
  | spreadAll e, h => by
    rw [isRegular] at h
    exact .spreadAll (alikeIn_lower e h).alike
  | named n e, h => by
    rw [isRegular] at h
    exact .named n (alikeIn_lower e h).alike
  | joined es, h => by
    rw [isRegular] at h
    exact .alone rfl rfl (.joined (forall₂_lowerAll es h))
  | shown e, h => by
    rw [isRegular] at h
    exact .alone rfl rfl (.shown (alikeIn_lower e h).alike)

theorem forall₂_lowerAll : ∀ es : List Expr, areRegular es = true →
    List.Forall₂ (AlikeIn env env) (lowerAll es) es
  | [], _ => .nil
  | e :: es, h => by
    rw [areRegular_cons, Bool.and_eq_true] at h
    exact .cons (alikeIn_lower e h.1) (forall₂_lowerAll es h.2)

end

/-- Reading members through the helper makes no difference to any value. -/
theorem eval_lower (he : e.isRegular = true) (env : Env) (place : List Nat) :
    (lower e).eval env place = e.eval env place :=
  (alikeIn_lower e he).alike place

end Expr

end Stencil
