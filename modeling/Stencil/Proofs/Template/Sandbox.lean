import Mathlib
import Stencil.Proofs.Expr.Contents
import Stencil.Proofs.Template.Factorization
import Stencil.Proofs.Template.Observation

/-! # What a compiled template can reach

A template is compiled to operators, displays, calls and conditions over the scope and the helper,
and the helper stands only where it is called for a member that is not hidden. So no step of the
evaluation reads a hidden member, whatever the data and the filters are. -/
namespace Stencil

open Emission

/-- A name under which a template may read a member. -/
def IsVisible (n : Text) : Prop :=
  ¬['_', '_'] <+: n ∧ n ≠ "format".toList ∧ n ≠ "format_map".toList

theorem Admission.isHidden_eq_false_iff {n : Text} :
    Admission.isHidden n = false ↔ IsVisible n := by
  have hlow : (Text.after? ['_', '_'] n).isSome = false ↔ ¬['_', '_'] <+: n := by
    rw [Option.isSome_eq_false_iff, Option.isNone_iff_eq_none, Text.after?_eq_none_iff]
  rw [isHidden, IsVisible, Bool.or_eq_false_iff, hlow]
  simp

namespace Expr

/-- Is the expression made of what templates may use, with each member read through the helper? The
helper has no other place, and the scope is the only name beside it. -/
inductive IsSandboxed : Expr → Prop
  | literal (l : Literal) : IsSandboxed (.literal l)
  | scope : IsSandboxed (.name Scoping.scopeName)
  | access {e : Expr} {n : Text} : IsSandboxed e → e.isSpread = false → IsVisible n →
      IsSandboxed (.call (.name helperName) [e, .text n] [])
  | item {e k : Expr} : IsSandboxed e → IsSandboxed k → IsSandboxed (.item e k)
  | slice {l h s : Expr} : IsSandboxed l → IsSandboxed h → IsSandboxed s →
      IsSandboxed (.slice l h s)
  | call {f : Expr} {args byName : List Expr} : IsSandboxed f → (∀ e ∈ args, IsSandboxed e) →
      (∀ e ∈ byName, IsSandboxed e) → IsSandboxed (.call f args byName)
  | unary {e : Expr} (op : UnaryOp) : IsSandboxed e → IsSandboxed (.unary op e)
  | binary {l r : Expr} (op : BinaryOp) : IsSandboxed l → IsSandboxed r →
      IsSandboxed (.binary op l r)
  | connect {es : List Expr} (c : Connective) : (∀ e ∈ es, IsSandboxed e) →
      IsSandboxed (.connect c es)
  | compare {e : Expr} {es : List Expr} (ops : List Comparison) : IsSandboxed e →
      (∀ e ∈ es, IsSandboxed e) → IsSandboxed (.compare e ops es)
  | choose {t y n : Expr} : IsSandboxed t → IsSandboxed y → IsSandboxed n →
      IsSandboxed (.choose t y n)
  | list {es : List Expr} : (∀ e ∈ es, IsSandboxed e) → IsSandboxed (.list es)
  | tuple {es : List Expr} : (∀ e ∈ es, IsSandboxed e) → IsSandboxed (.tuple es)
  | set {es : List Expr} : (∀ e ∈ es, IsSandboxed e) → IsSandboxed (.set es)
  | dict {es : List Expr} : (∀ e ∈ es, IsSandboxed e) → IsSandboxed (.dict es)
  | pair {k v : Expr} : IsSandboxed k → IsSandboxed v → IsSandboxed (.pair k v)
  | spread {e : Expr} : IsSandboxed e → IsSandboxed (.spread e)
  | spreadAll {e : Expr} : IsSandboxed e → IsSandboxed (.spreadAll e)
  | named {e : Expr} (n : Text) : IsSandboxed e → IsSandboxed (.named n e)

/-- A part of a concatenation: a text, or the text of a value. -/
inductive IsSandboxedPart : Expr → Prop
  | text (s : Text) : IsSandboxedPart (.text s)
  | shown {e : Expr} : e.IsSandboxed → IsSandboxedPart (.shown e)

/-- The expressions that templates are compiled to. -/
inductive IsSandboxedBody : Expr → Prop
  | single {e : Expr} : e.IsSandboxed → IsSandboxedBody e
  | joined {es : List Expr} : (∀ e ∈ es, IsSandboxedPart e) → IsSandboxedBody (.joined es)

end Expr

/-! ## What is emitted -/

namespace Admission

theorem checkKeys_values : ∀ {es : List Expr}, checkKeys es = .ok () → checkValues es = .ok () →
    ∀ e ∈ es, check e = .ok ()
  | [], _, _ => nofun
  | e :: es, hk, hv => by
    have h : check e = .ok () ∧ checkKeys es = .ok () ∧ checkValues es = .ok () := by
      cases e with
      | pair k v =>
        rw [checkKeys, Expr.ok_bind_iff] at hk
        rw [checkValues, Expr.ok_bind_iff] at hv
        exact ⟨Expr.ok_bind_iff.2 ⟨hk.1, hv.1⟩, hk.2, hv.2⟩
      | _ =>
        rw [checkKeys] at hk
        · rw [checkValues, Expr.ok_bind_iff] at hv
          · exact ⟨hv.1, hk, hv.2⟩
          all_goals nofun
        all_goals nofun
    exact List.forall_mem_cons.2 ⟨h.1, checkKeys_values h.2.1 h.2.2⟩

end Admission

namespace Expr

mutual

/-- What is checked and lowered stays within the sandbox. -/
theorem isSandboxed_lower : ∀ e : Expr, Admission.check e = .ok () → e.isRegular = true →
    (lower e).IsSandboxed
  | .literal l, _, _ => .literal l
  | .name n, h, _ => by
    rw [Admission.check] at h
    split_ifs at h with hn
    subst hn
    exact .scope
  | .member e n, h, hr => by
    rw [Admission.check] at h
    rw [isRegular, Bool.and_eq_true, Bool.not_eq_true'] at hr
    cases hn : Admission.isHidden n with
    | true => simp [hn] at h
    | false =>
      rw [hn] at h
      exact .access (isSandboxed_lower e h hr.2) (by simpa using hr.1)
        (Admission.isHidden_eq_false_iff.1 hn)
  | .item e k, h, hr => by
    rw [Admission.check, ok_bind_iff] at h
    rw [isRegular, Bool.and_eq_true] at hr
    exact .item (isSandboxed_lower e h.1 hr.1) (isSandboxed_lower k h.2 hr.2)
  | .slice l m s, h, hr => by
    simp only [Admission.check, ok_bind_iff] at h
    simp only [isRegular, Bool.and_eq_true] at hr
    exact .slice (isSandboxed_lower l h.1 hr.1.1) (isSandboxed_lower m h.2.1 hr.1.2)
      (isSandboxed_lower s h.2.2 hr.2)
  | .call f args byName, h, hr => by
    simp only [Admission.check, ok_bind_iff] at h
    simp only [isRegular, Bool.and_eq_true] at hr
    exact .call (isSandboxed_lower f h.1 hr.1.1)
      (areSandboxed_lower args ((checkAll_iff args).1 h.2.1) hr.1.2)
      (areSandboxed_lower byName ((checkAll_iff byName).1 h.2.2) hr.2)
  | .unary op e, h, hr => by
    rw [Admission.check] at h
    rw [isRegular] at hr
    exact .unary op (isSandboxed_lower e h hr)
  | .binary op l r, h, hr => by
    rw [Admission.check, ok_bind_iff] at h
    rw [isRegular, Bool.and_eq_true] at hr
    exact .binary op (isSandboxed_lower l h.1 hr.1) (isSandboxed_lower r h.2 hr.2)
  | .connect c es, h, hr => by
    rw [Admission.check, checkAll_iff] at h
    rw [isRegular] at hr
    exact .connect c (areSandboxed_lower es h hr)
  | .compare e ops es, h, hr => by
    rw [Admission.check, ok_bind_iff, checkAll_iff] at h
    rw [isRegular, Bool.and_eq_true] at hr
    exact .compare ops (isSandboxed_lower e h.1 hr.1) (areSandboxed_lower es h.2 hr.2)
  | .choose t y n, h, hr => by
    simp only [Admission.check, ok_bind_iff] at h
    simp only [isRegular, Bool.and_eq_true] at hr
    exact .choose (isSandboxed_lower t h.1 hr.1.1) (isSandboxed_lower y h.2.1 hr.1.2)
      (isSandboxed_lower n h.2.2 hr.2)
  | .list es, h, hr => by
    rw [Admission.check, checkAll_iff] at h
    rw [isRegular] at hr
    exact .list (areSandboxed_lower es h hr)
  | .tuple es, h, hr => by
    rw [Admission.check, checkAll_iff] at h
    rw [isRegular] at hr
    exact .tuple (areSandboxed_lower es h hr)
  | .set es, h, hr => by
    rw [Admission.check, checkAll_iff] at h
    rw [isRegular] at hr
    exact .set (areSandboxed_lower es h hr)
  | .dict es, h, hr => by
    rw [Admission.check, ok_bind_iff] at h
    rw [isRegular] at hr
    exact .dict (areSandboxed_lower es (Admission.checkKeys_values h.1 h.2) hr)
  | .pair k v, h, hr => by
    rw [Admission.check, ok_bind_iff] at h
    rw [isRegular, Bool.and_eq_true] at hr
    exact .pair (isSandboxed_lower k h.1 hr.1) (isSandboxed_lower v h.2 hr.2)
  | .spread e, h, hr => by
    rw [Admission.check] at h
    rw [isRegular] at hr
    exact .spread (isSandboxed_lower e h hr)
  | .spreadAll e, h, hr => by
    rw [Admission.check] at h
    rw [isRegular] at hr
    exact .spreadAll (isSandboxed_lower e h hr)
  | .named n e, h, hr => by
    rw [Admission.check] at h
    rw [isRegular] at hr
    exact .named n (isSandboxed_lower e h hr)
  | .construct _, h, _ | .joined _, h, _ | .shown _, h, _ => by
    rw [Admission.check] at h
    cases h

theorem areSandboxed_lower : ∀ es : List Expr, (∀ e ∈ es, Admission.check e = .ok ()) →
    areRegular es = true → ∀ e ∈ lowerAll es, e.IsSandboxed
  | [], _, _ => nofun
  | e :: es, h, hr => by
    rw [List.forall_mem_cons] at h
    rw [areRegular_cons, Bool.and_eq_true] at hr
    exact List.forall_mem_cons.2
      ⟨isSandboxed_lower e h.1 hr.1, areSandboxed_lower es h.2 hr.2⟩

end

/-- What stays within the sandbox is emitted. -/
theorem isSandboxedBody_emission {e : Expr} (h : e.IsAdmissible) (hr : e.isRegular = true) :
    e.emission.IsSandboxedBody := by
  unfold emission
  cases hs : e.textSum? with
  | none => exact .single (isSandboxed_lower e h.1 hr)
  | some ps =>
    refine .joined fun x hx => ?_
    obtain ⟨l, hl, hxl⟩ := List.mem_flatten.1 hx
    obtain ⟨p, hp, rfl⟩ := List.mem_map.1 hl
    have heq := eq_foldl_of_textSum? hs
    have hp' : p.IsAdmissible := ((isAdmissible_foldl_iff (.text []) ps).1 (heq ▸ h)).2 p hp
    have hpr : p.isRegular = true := (isRegular_of_foldl (heq ▸ hr)).2 p hp
    rcases leaf_cases p with ⟨s, rfl, hleaf⟩ | hleaf
    · rw [emitted, hleaf] at hxl
      dsimp only at hxl
      split_ifs at hxl
      · cases hxl
      · rw [List.mem_singleton.1 hxl]
        exact .text s
    · rw [emitted, hleaf] at hxl
      rw [List.mem_singleton.1 hxl]
      exact .shown (isSandboxed_lower p hp'.1 hpr)

end Expr

/-! ## What is evaluated -/

/-- An observed result is the result, and only members that are not hidden are read for it. -/
structure Observed.Tracks {α : Type} (o : Observed α) (r : Outcome α) : Prop where
  outcome : o.outcome = r
  visible : ∀ n ∈ o.reads, IsVisible n

namespace Observed

variable {α β : Type}

theorem Tracks.quiet (r : Outcome α) : (quiet r).Tracks r := ⟨rfl, nofun⟩

theorem Tracks.pure (a : α) : (pure a : Observed α).Tracks (.ok a) := .quiet _

theorem Tracks.bind {o : Observed α} {r : Outcome α} {f : α → Observed β} {g : α → Outcome β}
    (h : o.Tracks r) (hf : ∀ a, (f a).Tracks (g a)) : (o >>= f).Tracks (r >>= g) := by
  obtain ⟨ns, _⟩ := o
  obtain ⟨rfl, hv⟩ := h
  rename_i r
  cases r with
  | error e => exact ⟨rfl, hv⟩
  | ok a =>
    refine ⟨(hf a).outcome, fun n hn => ?_⟩
    rcases List.mem_append.1 hn with hn | hn
    · exact hv n hn
    · exact (hf a).visible n hn

theorem Tracks.map {o : Observed α} {r : Outcome α} (f : α → β) (h : o.Tracks r) :
    (do return f (← o)).Tracks (f <$> r) := by
  rw [map_eq_pure_bind]
  exact h.bind fun a => .pure _

theorem Tracks.ite {p : Prop} [Decidable p] {o q : Observed α} {r s : Outcome α}
    (ho : o.Tracks r) (hq : q.Tracks s) : (if p then o else q).Tracks (if p then r else s) := by
  split_ifs
  · exact ho
  · exact hq

end Observed

theorem Env.observeEntries_tracks (r : Registry) (v : Value) :
    (observeEntries r v).Tracks (spreadEntries r v) := by
  unfold observeEntries
  split
  next => exact ⟨rfl, by simp [IsVisible]⟩
  next => exact .quiet _

namespace Expr

/-- The observed evaluation of the expression is its evaluation, wherever it stands. -/
def Tracked (env : Env) (e : Expr) : Prop :=
  ∀ place, (observe env place e).Tracks (eval env place e)

/-- The same for what is evaluated of an element of a list. -/
def TrackedIn (env : Env) : Expr → Prop
  | spread e | spreadAll e | named _ e => Tracked env e
  | pair k v => Tracked env k ∧ Tracked env v
  | e => Tracked env e

variable {env : Env} {e : Expr} {es : List Expr}

theorem TrackedIn.tracked (h : TrackedIn env e) : Tracked env e := by
  cases e with
  | spread | spreadAll | named | pair => exact fun _ => .quiet _
  | _ => exact h

open Observed

theorem observeAnd_tracks (h : ∀ e ∈ es, TrackedIn env e) (place : List Nat) (i : Nat) :
    (observeAnd env place i es).Tracks (evalAnd env place i es) := by
  induction es generalizing i with
  | nil => exact .pure _
  | cons e es ih =>
    have he := (h e (by simp)).tracked
    have hes := ih fun e he => h e (by simp [he])
    cases es with
    | nil => exact he _
    | cons f es =>
      rw [observeAnd.eq_3 _ _ _ _ _ (by simp), evalAnd.eq_3 _ _ _ _ _ (by simp)]
      exact .bind (he _) fun v => .ite (hes _) (.pure v)

theorem observeOr_tracks (h : ∀ e ∈ es, TrackedIn env e) (place : List Nat) (i : Nat) :
    (observeOr env place i es).Tracks (evalOr env place i es) := by
  induction es generalizing i with
  | nil => exact .pure _
  | cons e es ih =>
    have he := (h e (by simp)).tracked
    have hes := ih fun e he => h e (by simp [he])
    cases es with
    | nil => exact he _
    | cons f es =>
      rw [observeOr.eq_3 _ _ _ _ _ (by simp), evalOr.eq_3 _ _ _ _ _ (by simp)]
      exact .bind (he _) fun v => .ite (.pure v) (hes _)

theorem observeChain_tracks (h : ∀ e ∈ es, TrackedIn env e) (place : List Nat) (i : Nat)
    (v : Value) (ops : List Comparison) :
    (observeChain env place i v ops es).Tracks (evalChain env place i v ops es) := by
  induction es generalizing i v ops with
  | nil => cases ops <;> exact .pure _
  | cons e es ih =>
    have he := (h e (by simp)).tracked
    have hes := ih fun e he => h e (by simp [he])
    cases ops with
    | nil => exact .pure _
    | cons c cs =>
      refine .bind (he _) fun w => .bind (.quiet _) fun b => .ite ?_ (.pure _)
      cases cs with
      | nil => exact .pure _
      | cons d cs => exact hes _ _ _

theorem observeItems_cons (he : e.isSpread = false) (place : List Nat) (i : Nat)
    (es : List Expr) : observeItems env place i (e :: es) = (do
      let v ← observe env (i :: place) e
      return v :: (← observeItems env place (i + 1) es)) :=
  observeItems.eq_3 _ _ _ _ _ fun x hx => by simp [hx, isSpread] at he

theorem observeItems_tracks (h : ∀ e ∈ es, TrackedIn env e) (place : List Nat) (i : Nat) :
    (observeItems env place i es).Tracks (evalItems env place i es) := by
  induction es generalizing i with
  | nil => exact .pure _
  | cons e es ih =>
    have he := h e (by simp)
    have hes := ih fun e he => h e (by simp [he])
    cases hs : e.isSpread with
    | true =>
      obtain ⟨x, rfl⟩ := exists_spread hs
      have hx : Tracked env x := he
      exact .bind (hx _) fun v => .bind (.quiet _) fun vs => .bind (hes _) fun ws => .pure _
    | false =>
      rw [observeItems_cons hs, evalItems_cons hs]
      exact .bind (he.tracked _) fun v => .bind (hes _) fun ws => .pure _

theorem observeSet_cons (he : e.isSpread = false) (place : List Nat) (i : Nat) (adding : Bool)
    (t : Table) (waiting : List Value) (es : List Expr) :
    observeSet env place i adding t waiting (e :: es) = (do
      let v ← observe env (i :: place) e
      if adding then observeSet env place (i + 1) true (← quiet (addHashable t [v])) [] es
      else observeSet env place (i + 1) false t (waiting ++ [v]) es) :=
  observeSet.eq_3 _ _ _ _ _ _ _ _ fun x hx => by simp [hx, isSpread] at he

theorem observeSet_tracks (h : ∀ e ∈ es, TrackedIn env e) (place : List Nat) (i : Nat)
    (adding : Bool) (t : Table) (waiting : List Value) :
    (observeSet env place i adding t waiting es).Tracks
      (evalSet env place i adding t waiting es) := by
  induction es generalizing i adding t waiting with
  | nil => exact .quiet _
  | cons e es ih =>
    have he := h e (by simp)
    have hes := ih fun e he => h e (by simp [he])
    cases hs : e.isSpread with
    | true =>
      obtain ⟨x, rfl⟩ := exists_spread hs
      have hx : Tracked env x := he
      exact .bind (.quiet _) fun t => .bind (hx _) fun v => .bind (.quiet _) fun u => hes _ _ _ _
    | false =>
      rw [observeSet_cons hs, evalSet_cons hs]
      exact .bind (he.tracked _) fun v => .ite (.bind (.quiet _) fun u => hes _ _ _ _) (hes _ _ _ _)

theorem observeDict_tracks (h : ∀ e ∈ es, TrackedIn env e) (place : List Nat) (i left : Nat)
    (adding : Bool) (done waiting : List (Value × Value)) :
    (observeDict env place i left adding done waiting es).Tracks
      (evalDict env place i left adding done waiting es) := by
  induction es generalizing i left adding done waiting with
  | nil => exact .quiet _
  | cons e es ih =>
    have he := h e (by simp)
    have hes := ih fun e he => h e (by simp [he])
    cases e with
    | spreadAll x =>
      have hx : Tracked env x := he
      exact .bind (.quiet _) fun done => .bind (hx _) fun v =>
        .bind (Env.observeEntries_tracks _ v) fun more => hes _ _ _ _ _
    | pair k v =>
      obtain ⟨hk, hv⟩ : Tracked env k ∧ Tracked env v := he
      exact .bind (hk _) fun key => .bind (hv _) fun value =>
        .ite (.bind (.quiet _) fun done => hes _ _ _ _ _) (hes _ _ _ _ _)
    | _ => exact .quiet _

theorem observePositional_cons (he : e.isSpread = false) (place : List Nat) (es : List Expr) :
    observePositional env place (e :: es) = (do
      let v ← observe env (1 :: place) e
      return .given (v :: (← observeItems env place 2 es))) :=
  observePositional.eq_4 _ _ _ _ (fun x hx => by simp [hx, isSpread] at he)
    fun x hx => by simp [hx, isSpread] at he

theorem observePositional_tracks (h : ∀ e ∈ es, TrackedIn env e) (place : List Nat) :
    (observePositional env place es).Tracks (evalPositional env place es) := by
  cases es with
  | nil => exact .pure _
  | cons e es =>
    have he := h e (by simp)
    have hes := fun i => observeItems_tracks (fun e he => h e (by simp [he]) : ∀ e ∈ es, _) place i
    cases hs : e.isSpread with
    | true =>
      obtain ⟨x, rfl⟩ := exists_spread hs
      have hx : Tracked env x := he
      cases es with
      | nil => exact .bind (hx _) fun v => .pure _
      | cons f es =>
        rw [observePositional.eq_3 _ _ _ _ (by simp), evalPositional.eq_3 _ _ _ _ (by simp)]
        exact .bind (hx _) fun v => .bind (.quiet _) fun vs => .bind (hes _) fun ws => .pure _
    | false =>
      rw [observePositional_cons hs, evalPositional_cons hs]
      exact .bind (he.tracked _) fun v => .bind (hes _) fun ws => .pure _

theorem observeNamed_tracks (h : ∀ e ∈ es, TrackedIn env e) (place : List Nat) (i : Nat)
    (done waiting : List (Value × Value)) :
    (observeNamed env place i done waiting es).Tracks (evalNamed env place i done waiting es) := by
  induction es generalizing i done waiting with
  | nil => exact .quiet _
  | cons e es ih =>
    have he := h e (by simp)
    have hes := ih fun e he => h e (by simp [he])
    cases e with
    | spreadAll x =>
      have hx : Tracked env x := he
      exact .bind (.quiet _) fun done => .bind (hx _) fun v =>
        .bind (Env.observeEntries_tracks _ v) fun more => .bind (.quiet _) fun done => hes _ _ _
    | named n x =>
      have hx : Tracked env x := he
      exact .bind (hx _) fun v => hes _ _ _
    | _ => exact .quiet _

theorem observeParts_tracks (h : ∀ e ∈ es, TrackedIn env e) (place : List Nat) :
    (observeParts env place es).Tracks (evalParts env place es) := by
  induction es with
  | nil => exact .pure _
  | cons e es ih =>
    have he := (h e (by simp)).tracked
    have hes := ih fun e he => h e (by simp [he])
    exact .bind (he _) fun v => .bind hes fun s => .pure _

theorem observe_access (hs : e.isSpread = false) (n : Text) (place : List Nat) :
    observe env place (call (name helperName) [e, text n] []) =
      observe env place (member e n) := by
  have hname : observe env (0 :: place) (name helperName) = pure .memberHelper := rfl
  have harg : observeItems env place 2 [text n] = pure [⟨.common, .text n⟩] := rfl
  rw [observe.eq_4, hname, observePositional_cons hs, harg, observe.eq_1]
  simp only [pure_bind, bind_assoc]
  exact congrArg (observe env (1 :: place) e >>= ·) (funext fun v => rfl)

/-- The helper is called for the member that it was called for in the source. -/
theorem access_tracked (he : Tracked env e) (hs : e.isSpread = false) {n : Text}
    (hn : IsVisible n) : Tracked env (call (name helperName) [e, text n] []) := by
  intro place
  rw [observe_access hs, eval_access hs]
  refine .bind (he _) fun v => ⟨rfl, ?_⟩
  simpa using hn

theorem call_tracked {f : Expr} {args byName : List Expr} (hf : Tracked env f)
    (hhelper : f.isHelper = false) (ha : ∀ e ∈ args, TrackedIn env e)
    (hn : ∀ e ∈ byName, TrackedIn env e) : Tracked env (call f args byName) := by
  intro place
  rw [observe, eval, hhelper]
  exact .bind (hf _) fun v => .bind (observePositional_tracks ha _) fun given =>
    .bind (observeNamed_tracks hn _ _ _ _) fun entries => .bind (.quiet _) fun positional =>
      .bind (.quiet _) fun named => .quiet _

theorem IsSandboxed.isHelper (h : e.IsSandboxed) : e.isHelper = false := by
  cases h with
  | scope => decide
  | _ => rfl

theorem IsSandboxed.trackedIn (h : e.IsSandboxed) (env : Env) : TrackedIn env e := by
  induction h with
  | literal l => exact fun _ => .quiet _
  | scope => exact fun _ => .quiet _
  | access _ hs hn ih => exact access_tracked ih.tracked hs hn
  | item _ _ ihe ihk =>
    exact fun _ => .bind (ihe.tracked _) fun v => .bind (ihk.tracked _) fun key => .quiet _
  | slice _ _ _ ihl ihh ihs =>
    exact fun _ => .bind (ihl.tracked _) fun l => .bind (ihh.tracked _) fun h =>
      .bind (ihs.tracked _) fun s => .quiet _
  | call hf _ _ ihf iha ihn => exact call_tracked ihf.tracked hf.isHelper iha ihn
  | unary op _ ih => exact fun _ => .bind (ih.tracked _) fun v => .quiet _
  | binary op _ _ ihl ihr =>
    exact fun _ => .bind (ihl.tracked _) fun v => .bind (ihr.tracked _) fun w => .quiet _
  | connect c _ ih =>
    intro place
    cases c with
    | and => exact observeAnd_tracks ih _ _
    | or => exact observeOr_tracks ih _ _
  | compare ops _ _ ihe ihes =>
    exact fun _ => .bind (ihe.tracked _) fun v => observeChain_tracks ihes _ _ _ _
  | choose _ _ _ iht ihy ihn =>
    exact fun _ => .bind (iht.tracked _) fun v => .ite (ihy.tracked _) (ihn.tracked _)
  | list _ ih => exact fun _ => .bind (observeItems_tracks ih _ _) fun vs => .quiet _
  | tuple _ ih => exact fun _ => .bind (observeItems_tracks ih _ _) fun vs => .quiet _
  | set _ ih =>
    intro place
    rw [observe, eval]
    exact .ite (.bind (.map readyTable (observeItems_tracks ih _ _)) fun t => .quiet _)
      (.bind (observeSet_tracks ih _ _ _ _ _) fun t => .quiet _)
  | dict _ ih => exact fun _ => .bind (observeDict_tracks ih _ _ _ _ _ _) fun es => .quiet _
  | pair _ _ ihk ihv => exact ⟨ihk.tracked, ihv.tracked⟩
  | spread _ ih => exact ih.tracked
  | spreadAll _ ih => exact ih.tracked
  | named n _ ih => exact ih.tracked

theorem IsSandboxedBody.tracked (h : e.IsSandboxedBody) (env : Env) : Tracked env e := by
  cases h with
  | single h => exact (h.trackedIn env).tracked
  | joined h =>
    refine fun place => .bind (observeParts_tracks (fun e he => ?_) place) fun s => .quiet _
    cases h e he with
    | text s => exact fun _ => .quiet _
    | shown hv => exact fun place => .bind ((hv.trackedIn env).tracked place) fun v => .quiet _

end Expr

/-- What a source is compiled to is made of nothing but what templates may use. It has no name but
the scope and the helper, and the helper is only called, for members that are not hidden. So
whatever the data and the filters are, no step of the evaluation reads a hidden member. -/
theorem Compiled.sandboxed {source expression : Text} {c : Compiled}
    (h : ofSource source expression = .ok c) :
    c.body.IsSandboxedBody ∧ ∀ (r : Registry) (data : Value),
      (c.body.observe ⟨r, data⟩ []).outcome = c.render r data ∧
        ∀ n ∈ (c.body.observe ⟨r, data⟩ []).reads, IsVisible n := by
  obtain ⟨es, -, hes, ha, rfl⟩ := ofSource_eq_ok_iff.1 h
  have hbody := Expr.isSandboxedBody_emission ha
    (Expr.isRegular_listed (Parser.isRegular_of_parse? hes))
  refine ⟨hbody, fun r data => ?_⟩
  obtain ⟨hout, hvis⟩ := hbody.tracked ⟨r, data⟩ []
  exact ⟨hout, hvis⟩

/-- A filter called with a member of a member. -/
theorem Compiled.sandboxed_call : ∃ c, ofSource "scope.f(scope.a.b)".toList [] = .ok c ∧
    c.body.IsSandboxedBody ∧ ∀ (r : Registry) (data : Value),
      (c.body.observe ⟨r, data⟩ []).outcome = c.render r data ∧
        ∀ n ∈ (c.body.observe ⟨r, data⟩ []).reads, IsVisible n := by
  have hparse : Parser.parse? (bracketed "scope.f(scope.a.b)".toList) =
      some (.list [.call (.member (.name Scoping.scopeName) ['f'])
        [.member (.member (.name Scoping.scopeName) ['a']) ['b']] []]) := by
    rw [Parser.parse?_eq (c := Parser.inSquares
      [.name "scope".toList, .symbol .dot, .name ['f'], .symbol .parenOpen, .name "scope".toList,
        .symbol .dot, .name ['a'], .symbol .dot, .name ['b'], .symbol .parenClose])
      (by decide +kernel)]
    cbv
  obtain ⟨c, hc⟩ : ∃ c, ofSource "scope.f(scope.a.b)".toList [] = .ok c :=
    ⟨_, ofSource_eq_ok_iff.2 ⟨_, by simp, hparse, ⟨rfl, rfl⟩, rfl⟩⟩
  exact ⟨c, hc, sandboxed hc⟩

end Stencil
