import Stencil.Proofs.Expr.Contents

/-! # Members and calls of names

A name with members and calls behind it is read by the layers above the primaries as what the
primary is. How deep the descent has to be for this does not matter, so the statements here are
about every depth that is large enough. -/
namespace Stencil.Parser

variable {α β γ : Type} {c r : Tokens} {v : Expr}

/-! ## Depth -/

/-- Every depth that is large enough gives this result. -/
def Eventually (f : Nat → Option α) (p : α) : Prop := ∃ N, ∀ m, N ≤ m → f m = some p

namespace Eventually

variable {f : Nat → Option α} {g : Nat → Option β} {h : Nat → Option γ} {p : α} {q : β} {a : γ}

theorem succ (hg : Eventually g q) (hf : ∀ m, g m = some q → f (m + 1) = some p) :
    Eventually f p := by
  obtain ⟨N, hN⟩ := hg
  refine ⟨N + 1, fun m hm => ?_⟩
  obtain ⟨m, rfl⟩ : ∃ i, m = i + 1 := ⟨m - 1, by omega⟩
  exact hf m (hN m (by omega))

theorem succ₂ (hg : Eventually g q) (hh : Eventually h a)
    (hf : ∀ m, g m = some q → h m = some a → f (m + 1) = some p) : Eventually f p := by
  obtain ⟨N, hN⟩ := hg
  obtain ⟨K, hK⟩ := hh
  refine ⟨max N K + 1, fun m hm => ?_⟩
  obtain ⟨m, rfl⟩ : ∃ i, m = i + 1 := ⟨m - 1, by omega⟩
  exact hf m (hN m (by omega)) (hK m (by omega))

end Eventually

/-! ## Primaries -/

/-- The tokens are a primary of this value, which begins with a member of a name: together with what
stands behind them they are read as the value with these trailers. -/
structure IsPrimary (c : Tokens) (v : Expr) : Prop where
  head : ∃ s d, c = .name s :: .symbol .dot :: d
  reads : ∀ r p, Eventually (trailers · v r) p → Eventually (primary · (c ++ r)) p

theorem isPrimary_member (s w : Text) : IsPrimary [.name s, .symbol .dot, .name w]
    (.member (.name (Text.compose s)) (Text.compose w)) := by
  refine ⟨⟨s, _, rfl⟩, fun r p h => ?_⟩
  have hatom : Eventually (atom · (.name s :: .symbol .dot :: .name w :: r))
      (.name (Text.compose s), .symbol .dot :: .name w :: r) := ⟨1, fun m hm => by
    obtain ⟨m, rfl⟩ : ∃ i, m = i + 1 := ⟨m - 1, by omega⟩
    exact atom.eq_2 m s _⟩
  have hmember : Eventually
      (trailers · (.name (Text.compose s)) (.symbol .dot :: .name w :: r)) p :=
    h.succ fun m hm => (trailers.eq_2 _ m w r).trans hm
  apply hatom.succ₂ hmember
  intro m ha hm
  simp only [List.cons_append, List.nil_append] at ha ⊢
  rw [primary, ha]
  exact hm

namespace IsPrimary

theorem member (h : IsPrimary c v) (w : Text) :
    IsPrimary (c ++ [.symbol .dot, .name w]) (.member v (Text.compose w)) := by
  obtain ⟨s, d, hd⟩ := h.head
  refine ⟨⟨s, d ++ [.symbol .dot, .name w], by simp [hd]⟩, fun r p hr => ?_⟩
  rw [List.append_assoc]
  apply h.reads
  exact hr.succ fun m hm => (trailers.eq_2 v m w r).trans hm

theorem expression (h : IsPrimary c v) (hr : follow r = none) :
    Eventually (Parser.expression · (c ++ r)) (v, r) := by
  have hends : EndsOperand r := .inl hr
  obtain ⟨s, d, rfl⟩ := h.head
  obtain ⟨N, hN⟩ := h.reads r (v, r) ⟨1, fun m hm => by
    obtain ⟨m, rfl⟩ : ∃ i, m = i + 1 := ⟨m - 1, by omega⟩
    exact trailers_end hends.noTrailer m v⟩
  -- So many layers lie between an expression and its primaries.
  refine ⟨N + 7, fun m hm => ?_⟩
  obtain ⟨m, rfl⟩ : ∃ i, m = i + 1 + 2 + 4 := ⟨m - 7, by omega⟩
  have h₁ : factor (m + 2) (.name s :: (.symbol .dot :: d ++ r)) = some (v, r) :=
    factor_of_primary rfl hends (hN m (by omega))
  apply expression_of_arithmetic (m := m + 1 + 2) (t := .name s) rfl hr
  rw [arithmetic, List.append_eq, h₁]
  exact operators_end (endsAt_of_follow hr 1) (m + 1) v

theorem assignment (h : IsPrimary c v) (hr : follow r = none) :
    Eventually (Parser.assignment · (c ++ r)) (v, r) := by
  obtain ⟨s, d, rfl⟩ := h.head
  apply (h.expression hr).succ
  intro m hm
  rw [Parser.assignment.eq_3 _ m fun a q hq => by cases hq]
  exact hm

theorem element (h : IsPrimary c v) (hr : follow r = none) :
    Eventually (Parser.element · (c ++ r)) (v, r) := by
  obtain ⟨s, d, rfl⟩ := h.head
  apply (h.assignment hr).succ
  intro m hm
  rw [Parser.element.eq_3 _ m fun q hq => by cases hq]
  exact hm

theorem unmarked (h : IsPrimary c v) (r : Tokens) : Unmarked (c ++ r) := by
  obtain ⟨s, d, rfl⟩ := h.head
  constructor <;> nofun

end IsPrimary

/-! ## Calls -/

/-- The first argument of a call and those behind it. -/
def argumentTokens (c : Tokens) (cs : List Tokens) : Tokens := c ++ cs.flatMap (.symbol .comma :: ·)

/-- Arguments by position, up to the closing parenthesis. -/
theorem arguments_positional {cs : List Tokens} {vs : List Expr} (hc : IsPrimary c v)
    (hcs : List.Forall₂ IsPrimary cs vs) (only : Bool) (r : Tokens) :
    Eventually (arguments · .positional only (argumentTokens c cs ++ .symbol .parenClose :: r))
      ((v :: vs, []), r) := by
  induction hcs generalizing c v only with
  | nil =>
    rw [argumentTokens, List.flatMap_nil, List.append_nil]
    apply (hc.assignment (r := .symbol .parenClose :: r) rfl).succ
    intro m hm
    rw [arguments_unmarked (hc.unmarked _), if_pos rfl, hm]
    rfl
  | @cons d w cs vs hd _ ih =>
    have h₀ : argumentTokens c (d :: cs) ++ .symbol .parenClose :: r =
        c ++ .symbol .comma :: (argumentTokens d cs ++ .symbol .parenClose :: r) := by
      simp [argumentTokens]
    rw [h₀]
    have hcomma : follow (.symbol .comma :: (argumentTokens d cs ++ .symbol .parenClose :: r)) =
        none := rfl
    apply (hc.assignment hcomma).succ₂ (ih hd false)
    intro m hm hrest
    rw [arguments_unmarked (hc.unmarked _), if_pos rfl, hm, Option.bind_some, argumentRest, hrest]
    rfl

theorem IsPrimary.call {f d : Tokens} {w : Expr} {cs : List Tokens} {vs : List Expr}
    (hf : IsPrimary f w) (hd : IsPrimary d v) (hcs : List.Forall₂ IsPrimary cs vs) :
    IsPrimary (f ++ .symbol .parenOpen :: (argumentTokens d cs ++ [.symbol .parenClose]))
      (.call w (v :: vs) []) := by
  obtain ⟨s, e, he⟩ := hf.head
  refine ⟨⟨s, _, by rw [he]; rfl⟩, fun r p hr => ?_⟩
  have h₀ : f ++ .symbol .parenOpen :: (argumentTokens d cs ++ [.symbol .parenClose]) ++ r =
      f ++ .symbol .parenOpen :: (argumentTokens d cs ++ .symbol .parenClose :: r) := by simp
  rw [h₀]
  apply hf.reads
  apply (arguments_positional hd hcs true r).succ₂ hr
  intro m hm hrest
  rw [trailers, hm]
  exact hrest

/-- A primary in square brackets is a list of one element. -/
theorem IsPrimary.isOperand_inSquares (h : IsPrimary c v) (hb : Balanced c) :
    IsOperand (inSquares c) (.list [v]) := by
  obtain ⟨N, hN⟩ := h.element (r := [.symbol .squareClose]) rfl
  have hclose : Parser.element N (c ++ [.symbol .squareClose]) = _ := hN N (Nat.le_refl N)
  have hatom : atom (N + 2) (inSquares c ++ []) = some (.list [v], []) := by
    obtain ⟨s, d, rfl⟩ := h.head
    rw [List.append_nil, inSquares, atom, square_isDisplay _ _ (by simp), hclose]
    rfl
  exact ((isDelimited_squares hb).2 _ [] _ (.inl rfl) hatom).2

end Stencil.Parser
