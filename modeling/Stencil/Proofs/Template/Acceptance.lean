import Stencil.Proofs.Template.Lowering

/-! # Which expressions are accepted

A tree is emitted if and only if the expression it was made from may be used, and so may each of its
parts. -/
namespace Stencil

open Emission

namespace Expr

/-! ## Sums -/

theorem summands_foldl (e : Expr) (es : List Expr) :
    (es.foldl (.binary .add) e).summands = (e.summands.1, e.summands.2 ++ es) := by
  induction es generalizing e with
  | nil => simp
  | cons x es ih =>
    rw [List.foldl_cons, ih, summands]
    simp

theorem foldl_summands (e : Expr) : e.summands.2.foldl (.binary .add) e.summands.1 = e := by
  fun_induction summands e with
  | case1 l r ih => rw [List.foldl_append, List.foldl_cons, List.foldl_nil, ih]
  | case2 e h => rfl

/-- The operands behind the empty text that a sum begins with. -/
def textSum? (e : Expr) : Option (List Expr) :=
  match e.summands with
  | (.literal (.text []), p :: ps) => some (p :: ps)
  | _ => none

theorem tree_ofExpr (e : Expr) : Tree.ofExpr e =
    match e.textSum? with
    | some ps => .concat (ps.map Leaf.ofExpr)
    | none => .leaf (.ofExpr e) := by
  unfold Tree.ofExpr
  split
  next p ps hs => rw [textSum?, hs]
  next hs =>
    have : e.textSum? = none := by
      unfold textSum?
      split
      next p ps hs' => exact (hs p ps hs').elim
      next => rfl
    rw [this]

theorem textSum?_foldl {es : List Expr} (h : es ≠ []) :
    (es.foldl (Expr.binary .add) (Expr.text [])).textSum? = some es := by
  obtain ⟨x, es, rfl⟩ := List.exists_cons_of_ne_nil h
  rw [textSum?, summands_foldl]
  rfl

theorem eq_foldl_of_textSum? {e : Expr} {ps : List Expr} (h : e.textSum? = some ps) :
    e = ps.foldl (Expr.binary .add) (Expr.text []) := by
  have hfold := foldl_summands e
  unfold textSum? at h
  split at h
  next p qs hs =>
    cases h
    rw [hs] at hfold
    exact hfold.symm
  next => cases h

/-! ## Admission -/

/-- May a template use the expression, and are all calls in it well formed? -/
def IsAdmissible (e : Expr) : Prop :=
  Admission.check e = .ok () ∧ namesOnce (lower e) = true

theorem ok_bind_iff {α : Type} {x : Except Rejection Unit} {y : Except Rejection α} {a : α} :
    (do x; y) = .ok a ↔ x = .ok () ∧ y = .ok a := by
  cases x with
  | error r => exact ⟨nofun, nofun⟩
  | ok u => exact ⟨fun h => ⟨rfl, h⟩, fun h => h.2⟩

theorem checkAll_iff (es : List Expr) :
    Admission.checkAll es = .ok () ↔ ∀ e ∈ es, Admission.check e = .ok () := by
  induction es with
  | nil => simp [Admission.checkAll]
  | cons e es ih => rw [Admission.checkAll, ok_bind_iff, List.forall_mem_cons, ih]

theorem allNamesOnce_iff (es : List Expr) :
    allNamesOnce es = true ↔ ∀ e ∈ es, namesOnce e = true := by
  induction es with
  | nil => simp [allNamesOnce]
  | cons e es ih => rw [allNamesOnce, Bool.and_eq_true, List.forall_mem_cons, ih]

theorem allNamesOnce_lowerAll_iff (es : List Expr) :
    allNamesOnce (lowerAll es) = true ↔ ∀ e ∈ es, namesOnce (lower e) = true := by
  rw [lowerAll_eq_map, allNamesOnce_iff, List.forall_mem_map]

theorem isAdmissible_text (s : Text) : (Expr.text s).IsAdmissible := ⟨rfl, rfl⟩

theorem not_isAdmissible_construct (k : Construct) : ¬(Expr.construct k).IsAdmissible :=
  fun h => nomatch h.1

theorem isAdmissible_binary_iff (op : BinaryOp) (l r : Expr) :
    (Expr.binary op l r).IsAdmissible ↔ l.IsAdmissible ∧ r.IsAdmissible := by
  unfold IsAdmissible
  rw [Admission.check, ok_bind_iff, lower, namesOnce, Bool.and_eq_true]
  exact and_and_and_comm

theorem isAdmissible_tuple_iff (es : List Expr) :
    (Expr.tuple es).IsAdmissible ↔ ∀ e ∈ es, e.IsAdmissible := by
  unfold IsAdmissible
  rw [Admission.check, checkAll_iff, lower, namesOnce, allNamesOnce_lowerAll_iff]
  exact ⟨fun h e he => ⟨h.1 e he, h.2 e he⟩,
    fun h => ⟨fun e he => (h e he).1, fun e he => (h e he).2⟩⟩

theorem isAdmissible_foldl_iff (e : Expr) (es : List Expr) :
    (es.foldl (.binary .add) e).IsAdmissible ↔ e.IsAdmissible ∧ ∀ x ∈ es, x.IsAdmissible := by
  induction es generalizing e with
  | nil => simp
  | cons x es ih =>
    rw [List.foldl_cons, ih, isAdmissible_binary_iff, List.forall_mem_cons, and_assoc]

/-! ## Emission -/

/-- What a part of a concatenation becomes. -/
def emitted (e : Expr) : List Expr :=
  match Leaf.ofExpr e with
  | .literal s => if s.isEmpty then [] else [.text s]
  | .sub e => [.shown (lower e)]

/-- Leaves are texts, or expressions as they are. -/
theorem leaf_cases (e : Expr) :
    (∃ s, e = .text s ∧ Leaf.ofExpr e = .literal s) ∨ Leaf.ofExpr e = .sub e := by
  unfold Leaf.ofExpr
  split
  next s => exact .inl ⟨s, rfl, rfl⟩
  next => exact .inr rfl

theorem part_ofExpr (e : Expr) :
    part (Leaf.ofExpr e) = (do Admission.check e; return e.emitted) := by
  rcases leaf_cases e with ⟨s, rfl, h⟩ | h
  · rfl
  · rw [emitted, h]
    unfold part prepare
    simp

theorem mapM_part (es : List Expr) : (es.map Leaf.ofExpr).mapM part =
    (do Admission.checkAll es; return es.map emitted) := by
  induction es with
  | nil => rfl
  | cons e es ih =>
    rw [List.map_cons, List.mapM_cons, ih, part_ofExpr, Admission.checkAll]
    cases Admission.check e with
    | error r => rfl
    | ok u => cases Admission.checkAll es <;> rfl

theorem namesOnce_emitted (e : Expr) :
    allNamesOnce e.emitted = namesOnce (lower e) := by
  rcases leaf_cases e with ⟨s, rfl, h⟩ | h
  · rw [emitted, h]
    cases s <;> rfl
  · rw [emitted, h]
    simp [allNamesOnce, namesOnce]

theorem allNamesOnce_flatten (es : List Expr) :
    allNamesOnce (es.map emitted).flatten = true ↔ ∀ e ∈ es, namesOnce (lower e) = true := by
  simp only [allNamesOnce_iff, List.mem_flatten, List.mem_map]
  constructor
  · intro h e he
    rw [← namesOnce_emitted, allNamesOnce_iff]
    exact fun x hx => h x ⟨_, ⟨e, he, rfl⟩, hx⟩
  · rintro h x ⟨_, ⟨e, he, rfl⟩, hx⟩
    have := h e he
    rw [← namesOnce_emitted, allNamesOnce_iff] at this
    exact this x hx

theorem emit_eq_ok_iff {t : Tree} {b : Expr} :
    emit t = .ok b ↔ ofTree t = .ok b ∧ namesOnce b = true := by
  unfold emit
  cases ofTree t with
  | error r => exact ⟨nofun, nofun⟩
  | ok e =>
    change (if namesOnce e then Except.ok e else Except.error Rejection.malformed) = .ok b ↔ _
    constructor
    · intro h
      split_ifs at h with hn
      cases h
      exact ⟨rfl, hn⟩
    · rintro ⟨h, hn⟩
      cases h
      rw [if_pos hn]

/-- A concatenation is emitted if and only if each of its parts may be used. -/
theorem emit_concat_iff {es : List Expr} {b : Expr} :
    emit (.concat (es.map Leaf.ofExpr)) = .ok b ↔
      (∀ e ∈ es, e.IsAdmissible) ∧ b = .joined (es.map emitted).flatten := by
  have hof : ofTree (.concat (es.map Leaf.ofExpr)) = .ok b ↔
      Admission.checkAll es = .ok () ∧ b = .joined (es.map emitted).flatten := by
    rw [ofTree, mapM_part]
    cases Admission.checkAll es with
    | error r => exact ⟨nofun, nofun⟩
    | ok u => exact ⟨fun h => ⟨rfl, (Except.ok.inj h).symm⟩, fun h => congrArg Except.ok h.2.symm⟩
  rw [emit_eq_ok_iff, hof, checkAll_iff]
  constructor
  · rintro ⟨⟨hc, rfl⟩, hn⟩
    rw [namesOnce, allNamesOnce_flatten] at hn
    exact ⟨fun e he => ⟨hc e he, hn e he⟩, rfl⟩
  · rintro ⟨h, rfl⟩
    refine ⟨⟨fun e he => (h e he).1, rfl⟩, ?_⟩
    rw [namesOnce, allNamesOnce_flatten]
    exact fun e he => (h e he).2

theorem emit_leaf_iff {e b : Expr} :
    emit (.leaf (Leaf.ofExpr e)) = .ok b ↔ e.IsAdmissible ∧ b = lower e := by
  have hof : ofTree (.leaf (Leaf.ofExpr e)) = .ok b ↔
      Admission.check e = .ok () ∧ b = lower e := by
    rcases leaf_cases e with ⟨s, rfl, h⟩ | h
    · rw [h]
      exact ⟨fun h => ⟨rfl, (Except.ok.inj h).symm⟩, fun h => congrArg Except.ok h.2.symm⟩
    · rw [h, ofTree, prepare, ok_bind_iff]
      exact and_congr_right fun _ => ⟨fun h => (Except.ok.inj h).symm, fun h => by rw [h]; rfl⟩
  rw [emit_eq_ok_iff, hof]
  constructor
  · rintro ⟨⟨hc, rfl⟩, hn⟩
    exact ⟨⟨hc, hn⟩, rfl⟩
  · rintro ⟨h, rfl⟩
    exact ⟨⟨h.1, rfl⟩, h.2⟩

/-- The offence of an expression that stands alone is reported. -/
theorem emit_leaf_of_error {e : Expr} {r : Rejection} (h : Admission.check e = .error r) :
    emit (.leaf (.sub e)) = .error r := by
  rw [emit, ofTree, prepare, h]
  rfl

/-- What an expression is compiled to. -/
def emission (e : Expr) : Expr :=
  match e.textSum? with
  | some ps => .joined (ps.map emitted).flatten
  | none => lower e

/-- A tree is emitted if and only if its expression may be used. -/
theorem emit_ofExpr_iff {e b : Expr} :
    emit (Tree.ofExpr e) = .ok b ↔ e.IsAdmissible ∧ b = e.emission := by
  rw [tree_ofExpr, emission]
  cases h : e.textSum? with
  | none => exact emit_leaf_iff
  | some ps =>
    have hsum := isAdmissible_foldl_iff (.text []) ps
    rw [← eq_foldl_of_textSum? h] at hsum
    rw [hsum]
    simp [emit_concat_iff, isAdmissible_text]

end Expr

end Stencil
