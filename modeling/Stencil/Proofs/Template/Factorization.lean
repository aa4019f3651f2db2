import Mathlib.Data.List.Chain
import Mathlib.Logic.ExistsUnique
import Stencil.Proofs.Template.Compilation

/-! # The one factorization of a text

The marks of a dialect divide a text in one way only: each interpolation opens where its opening mark
stands first, holds something, and ends with the first closing mark behind that. The pieces of a text
are the parts of this factorization. -/
namespace Stencil

namespace Text

/-- Of the places in `s` from `low` on, `n` is the first at which `p` stands. -/
structure FirstAt (p s : Text) (low n : Nat) : Prop where
  low_le : low ≤ n
  here : p <+: s.drop n
  before : ∀ k, low ≤ k → k < n → ¬p <+: s.drop k

variable {p s a b : Text}

theorem after?_eq_none_iff : after? p s = none ↔ ¬p <+: s := by
  rw [Option.eq_none_iff_forall_ne_some]
  constructor
  · rintro h ⟨r, hr⟩
    exact h r (after?_eq_some_iff.2 hr.symm)
  · rintro h r hr
    exact h ⟨r, (after?_eq_some_iff.1 hr).symm⟩

/-- What stands behind the mark does not matter for where it stands first. -/
theorem prefix_of_append (h : p <+: a ++ p ++ b) : p <+: a ++ p :=
  List.prefix_of_prefix_length_le h (List.prefix_append _ _) (by simp)

theorem firstAt_cons_iff {c : Char} {low n : Nat} :
    FirstAt p (c :: s) (low + 1) (n + 1) ↔ FirstAt p s low n := by
  constructor
  · rintro ⟨h₁, h₂, h₃⟩
    refine ⟨by omega, h₂, fun k hl hk => h₃ (k + 1) (by omega) (by omega)⟩
  · rintro ⟨h₁, h₂, h₃⟩
    refine ⟨by omega, h₂, fun k hl hk => ?_⟩
    obtain ⟨j, rfl⟩ := Nat.exists_eq_add_of_le' (Nat.le_trans (Nat.le_add_left 1 low) hl)
    exact h₃ j (by omega) (by omega)

theorem firstAt_nil : FirstAt p ([] ++ p) 0 0 :=
  ⟨Nat.le_refl 0, List.prefix_rfl, fun _ _ h => absurd h (Nat.not_lt_zero _)⟩

/-- One more character in front, where the mark does not stand. -/
theorem firstAt_succ_iff {c : Char} :
    FirstAt p (c :: a ++ p) 0 (a.length + 1) ↔
      ¬p <+: c :: a ++ p ∧ FirstAt p (a ++ p) 0 a.length := by
  constructor
  · rintro ⟨-, h₁, h₂⟩
    exact ⟨h₂ 0 (by omega) (by omega), by omega, h₁,
      fun k _ hk => h₂ (k + 1) (by omega) (by omega)⟩
  · rintro ⟨h, -, h₁, h₂⟩
    refine ⟨by omega, h₁, fun k _ hk => ?_⟩
    cases k with
    | zero => exact h
    | succ k => exact h₂ k (by omega) (by omega)

/-- Nothing in front of the place where the mark stands first holds the mark. -/
theorem FirstAt.not_infix (h : FirstAt p (a ++ p) 0 a.length) (hp : p ≠ []) : ¬p <:+: a := by
  rintro ⟨u, v, rfl⟩
  have hpos := List.length_pos_iff.2 hp
  refine h.before u.length (by omega) (by simp; omega) ⟨v ++ p, ?_⟩
  simp

/-- A text is broken where the mark stands first. -/
theorem breakAt?_eq_some_iff :
    breakAt? p s = some (a, b) ↔ s = a ++ p ++ b ∧ FirstAt p (a ++ p) 0 a.length := by
  induction s generalizing a with
  | nil =>
    constructor
    · intro h
      obtain ⟨r, hr, he⟩ := Option.map_eq_some_iff.1 h
      cases he
      exact ⟨eq_append_of_after? hr, firstAt_nil⟩
    · rintro ⟨h, -⟩
      obtain ⟨rfl, rfl, rfl⟩ : a = [] ∧ p = [] ∧ b = [] := by simpa using h.symm
      rfl
  | cons c s ih =>
    cases hp : after? p (c :: s) with
    | some r =>
      have hs := after?_eq_some_iff.1 hp
      simp only [breakAt?, hp, Option.some.injEq, Prod.mk.injEq]
      constructor
      · rintro ⟨rfl, rfl⟩
        exact ⟨hs, firstAt_nil⟩
      · rintro ⟨h, hf⟩
        rcases a with _ | ⟨x, a⟩
        · exact ⟨rfl, List.append_cancel_left (hs.symm.trans h)⟩
        · have hpre : p <+: x :: a ++ p ++ b := ⟨r, hs.symm.trans h⟩
          exact absurd (prefix_of_append hpre) (firstAt_succ_iff.1 hf).1
    | none =>
      have hs := after?_eq_none_iff.1 hp
      simp only [breakAt?, hp, Option.map_eq_some_iff]
      constructor
      · rintro ⟨⟨x, y⟩, hxy, he⟩
        cases he
        obtain ⟨rfl, hf⟩ := ih.1 hxy
        refine ⟨rfl, firstAt_succ_iff.2 ⟨fun h => hs ?_, hf⟩⟩
        exact h.trans (List.prefix_append (c :: x ++ p) y)
      · rintro ⟨h, hf⟩
        rcases a with _ | ⟨x, a⟩
        · exact absurd ⟨b, h.symm⟩ hs
        · obtain ⟨rfl, rfl⟩ := List.cons.inj h
          exact ⟨(a, b), ih.2 ⟨rfl, (firstAt_succ_iff.1 hf).2⟩, rfl⟩

theorem breakAt?_isSome_iff : (breakAt? p s).isSome = true ↔ p <:+: s := by
  induction s with
  | nil =>
    rw [List.infix_nil, breakAt?, Option.isSome_map]
    cases p <;> simp [after?]
  | cons c s ih =>
    rw [List.infix_cons_iff, breakAt?]
    cases hp : after? p (c :: s) with
    | some r => simp [after?_eq_some_iff.1 hp]
    | none => simp [after?_eq_none_iff.1 hp, ih]

end Text

namespace Piece

open Text (FirstAt)

variable {d : Dialect} {s l e r : Text}

/-! ## The first interpolation -/

/-- The text holds a closing mark first where it ends, its first character apart. -/
def Closes (d : Dialect) (e : Text) : Prop :=
  e ≠ [] ∧ FirstAt d.closing (e ++ d.closing) 1 e.length

/-- The text holds an opening mark first where it ends. -/
def Opens (d : Dialect) (l : Text) : Prop := FirstAt d.opening (l ++ d.opening) 0 l.length

/-- There is an interpolation somewhere in the text. -/
def HoldsInterpolation (d : Dialect) (s : Text) : Prop :=
  ∃ x, x ≠ [] ∧ d.opening ++ x ++ d.closing <:+: s

theorem inside?_eq_some_iff :
    inside? d s = some (e, r) ↔ s = d.opening ++ e ++ d.closing ++ r ∧ Closes d e := by
  unfold inside? Closes
  cases ho : Text.after? d.opening s with
  | none =>
    simp only [Option.bind_eq_bind, Option.bind_none, reduceCtorEq, false_iff, not_and]
    rintro rfl
    exact absurd (by simp) (Text.after?_eq_none_iff.1 ho)
  | some t =>
    obtain rfl := Text.eq_append_of_after? ho
    rcases t with _ | ⟨c, t⟩
    · simp only [Option.bind_eq_bind, Option.bind_some, reduceCtorEq, false_iff, not_and]
      intro h he
      simp [he] at h
    · simp only [Option.bind_eq_bind, Option.bind_some, Option.map_eq_some_iff, Prod.exists]
      constructor
      · rintro ⟨x, y, hxy, he⟩
        cases he
        obtain ⟨rfl, hf⟩ := Text.breakAt?_eq_some_iff.1 hxy
        exact ⟨by simp, by simp, Text.firstAt_cons_iff.2 hf⟩
      · rintro ⟨h, hne, hf⟩
        obtain ⟨x, e, rfl⟩ := List.exists_cons_of_ne_nil hne
        simp only [List.append_assoc, List.append_cancel_left_eq, List.cons_append,
          List.cons.injEq] at h
        obtain ⟨rfl, rfl⟩ := h
        refine ⟨e, r, Text.breakAt?_eq_some_iff.2 ⟨by simp, Text.firstAt_cons_iff.1 hf⟩, rfl⟩

theorem inside?_eq_none_iff :
    inside? d s = none ↔ ∀ x, x ≠ [] → ¬d.opening ++ x ++ d.closing <+: s := by
  constructor
  · rintro h x hx ⟨r, rfl⟩
    obtain ⟨c, x, rfl⟩ := List.exists_cons_of_ne_nil hx
    have hb : (Text.breakAt? d.closing (x ++ d.closing ++ r)).isSome = true :=
      Text.breakAt?_isSome_iff.2 ⟨x, r, by simp⟩
    obtain ⟨m, hm⟩ := Option.isSome_iff_exists.1 hb
    have ha := Text.after?_append d.opening (c :: x ++ d.closing ++ r)
    simp only [List.append_assoc, List.cons_append] at h ha hm
    simp [inside?, ha, hm] at h
  · intro h
    rw [Option.eq_none_iff_forall_ne_some]
    rintro ⟨e, r⟩ he
    obtain ⟨rfl, hne, -⟩ := inside?_eq_some_iff.1 he
    exact h e hne (List.prefix_append _ _)

theorem next?_eq_none_iff : next? d s = none ↔ ¬HoldsInterpolation d s := by
  unfold HoldsInterpolation
  induction s with
  | nil => simp +contextual [next?]
  | cons c s ih =>
    cases hi : inside? d (c :: s) with
    | some m =>
      obtain ⟨hs, hne, -⟩ := inside?_eq_some_iff.1 hi
      simp only [next?, hi, reduceCtorEq, false_iff, not_not]
      exact ⟨m.1, hne, (hs ▸ List.prefix_append _ _ : _ <+: c :: s).isInfix⟩
    | none =>
      have hnone := inside?_eq_none_iff.1 hi
      simp only [next?, hi, Option.map_eq_none_iff, ih, List.infix_cons_iff]
      constructor
      · rintro h ⟨x, hx, hp | hp⟩
        · exact hnone x hx hp
        · exact h ⟨x, hx, hp⟩
      · rintro h ⟨x, hx, hp⟩
        exact h ⟨x, hx, .inr hp⟩

theorem occursIn_iff_holds : occursIn d s = true ↔ HoldsInterpolation d s := by
  rw [occursIn, Option.isSome_iff_ne_none, ne_eq, next?_eq_none_iff, not_not]

/-- The next interpolation opens where an opening mark stands first: behind every opening mark in
front of it the same closing mark would end an interpolation. -/
theorem next?_eq_some_iff : next? d s = some (l, e, r) ↔
    s = l ++ d.opening ++ e ++ d.closing ++ r ∧ Opens d l ∧ Closes d e := by
  unfold Opens
  induction s generalizing l with
  | nil =>
    simp only [next?, reduceCtorEq, false_iff, not_and]
    intro h
    simp [d.opening_ne_nil] at h
  | cons c s ih =>
    cases hi : inside? d (c :: s) with
    | some m =>
      obtain ⟨hs, hc⟩ := inside?_eq_some_iff.1 hi
      simp only [next?, hi, Option.some.injEq, Prod.mk.injEq]
      constructor
      · rintro ⟨rfl, rfl⟩
        exact ⟨hs, Text.firstAt_nil, hc⟩
      · rintro ⟨h, ho, hc'⟩
        rcases l with _ | ⟨x, l⟩
        · exact ⟨rfl, Option.some.inj (hi.symm.trans (inside?_eq_some_iff.2 ⟨h, hc'⟩))⟩
        · have hpre : d.opening <+: x :: l ++ d.opening ++ (e ++ d.closing ++ r) :=
            ⟨m.1 ++ d.closing ++ m.2, by
              rw [← List.append_assoc, ← List.append_assoc, ← hs, h]
              simp⟩
          exact absurd (Text.prefix_of_append hpre) (Text.firstAt_succ_iff.1 ho).1
    | none =>
      have hnone := inside?_eq_none_iff.1 hi
      simp only [next?, hi, Option.map_eq_some_iff, Prod.exists]
      constructor
      · rintro ⟨x, y, z, hxyz, he⟩
        cases he
        obtain ⟨rfl, ho, hc⟩ := ih.1 hxyz
        refine ⟨rfl, Text.firstAt_succ_iff.2 ⟨?_, ho⟩, hc⟩
        rintro ⟨y, hy⟩
        have hy' : y ≠ [] := by
          rintro rfl
          have := congrArg List.length hy
          simp at this
          omega
        refine hnone (y ++ e) (by simp [hy']) ⟨r, ?_⟩
        rw [← List.append_assoc, hy]
        simp
      · rintro ⟨h, ho, hc⟩
        rcases l with _ | ⟨x, l⟩
        · exact absurd ⟨r, h.symm⟩ (hnone e hc.1)
        · obtain ⟨rfl, rfl⟩ := List.cons.inj h
          exact ⟨l, e, r, ih.2 ⟨rfl, (Text.firstAt_succ_iff.1 ho).2, hc⟩, rfl⟩

/-! ## Factorizations -/

/-- A text as interpolations, each with the text in front of it, and the text behind the last. -/
structure Factorization where
  slots : List (Text × Text)
  last : Text

namespace Factorization

/-- The text with the marks put back. -/
def text (d : Dialect) (f : Factorization) : Text :=
  f.slots.flatMap (fun m => m.1 ++ d.opening ++ m.2 ++ d.closing) ++ f.last

/-- The literal texts that are not empty and the codes without their blank margins, in order. -/
def pieces (f : Factorization) : List Piece :=
  f.slots.flatMap (fun m => ofLiteral m.1 ++ [interpolation (Text.strip m.2)]) ++ ofLiteral f.last

/-- Each interpolation opens as early and closes as early as it can, and the last text holds none. -/
structure Divides (d : Dialect) (s : Text) (f : Factorization) : Prop where
  text_eq : f.text d = s
  opens : ∀ m ∈ f.slots, Opens d m.1
  closes : ∀ m ∈ f.slots, Closes d m.2
  last : ¬HoldsInterpolation d f.last

variable {f g : Factorization} {t : Text} {ms : List (Text × Text)}

theorem divides_nil_iff : Divides d s ⟨[], t⟩ ↔ s = t ∧ next? d s = none := by
  rw [next?_eq_none_iff]
  constructor
  · rintro ⟨rfl, -, -, h⟩
    exact ⟨rfl, h⟩
  · rintro ⟨rfl, h⟩
    exact ⟨rfl, by simp, by simp, h⟩

theorem divides_cons_iff : Divides d s ⟨(l, e) :: ms, t⟩ ↔
    ∃ r, next? d s = some (l, e, r) ∧ Divides d r ⟨ms, t⟩ := by
  constructor
  · rintro ⟨rfl, ho, hc, hl⟩
    refine ⟨_, next?_eq_some_iff.2 ⟨?_, ho (l, e) (by simp), hc (l, e) (by simp)⟩, rfl,
      fun m hm => ho m (by simp [hm]), fun m hm => hc m (by simp [hm]), hl⟩
    simp [text]
  · rintro ⟨r, h, rfl, ho, hc, hl⟩
    obtain ⟨rfl, ho', hc'⟩ := next?_eq_some_iff.1 h
    refine ⟨by simp [text], ?_, ?_, hl⟩
    · simpa [ho'] using ho
    · simpa [hc'] using hc

theorem exists_divides (d : Dialect) (s : Text) : ∃ f, Divides d s f := by
  induction hn : s.length using Nat.strongRecOn generalizing s with
  | _ n ih =>
  cases h : next? d s with
  | none => exact ⟨⟨[], s⟩, divides_nil_iff.2 ⟨rfl, h⟩⟩
  | some m =>
    obtain ⟨⟨ms, t⟩, hf⟩ := ih m.2.2.length (hn ▸ next?_length h) m.2.2 rfl
    exact ⟨⟨(m.1, m.2.1) :: ms, t⟩, divides_cons_iff.2 ⟨m.2.2, h, hf⟩⟩

theorem Divides.unique (hf : Divides d s f) (hg : Divides d s g) : f = g := by
  obtain ⟨ms, t⟩ := f
  obtain ⟨ns, u⟩ := g
  induction ms generalizing s ns with
  | nil =>
    obtain ⟨rfl, hs⟩ := divides_nil_iff.1 hf
    rcases ns with _ | ⟨n, ns⟩
    · rw [(divides_nil_iff.1 hg).1]
    · obtain ⟨r, hr, -⟩ := divides_cons_iff.1 hg
      cases hs.symm.trans hr
  | cons m ms ih =>
    obtain ⟨r, hr, hms⟩ := divides_cons_iff.1 hf
    rcases ns with _ | ⟨n, ns⟩
    · cases hr.symm.trans (divides_nil_iff.1 hg).2
    · obtain ⟨q, hq, hns⟩ := divides_cons_iff.1 hg
      obtain ⟨l, e⟩ := m
      cases hr.symm.trans hq
      cases ih hms ns hns
      rfl

theorem Divides.ofText_eq (hf : Divides d s f) : ofText d s = f.pieces := by
  obtain ⟨ms, t⟩ := f
  induction ms generalizing s with
  | nil =>
    obtain ⟨rfl, hs⟩ := divides_nil_iff.1 hf
    exact ofText_of_none hs
  | cons m ms ih =>
    obtain ⟨r, hr, hf⟩ := divides_cons_iff.1 hf
    rw [ofText_of_some hr, ih hf]
    simp [pieces]

/-! ## The pieces -/

theorem literal_mem_ofLiteral {t : Text} : literal l ∈ ofLiteral t ↔ l = t ∧ l ≠ [] := by
  cases t with
  | nil => simp +contextual [ofLiteral]
  | cons c t => simp +contextual [ofLiteral]

theorem not_holdsInterpolation_of_opens (h : Opens d l) : ¬HoldsInterpolation d l := by
  rintro ⟨x, -, hx⟩
  refine h.not_infix d.opening_ne_nil (List.IsInfix.trans ?_ hx)
  rw [List.append_assoc]
  exact (List.prefix_append _ _).isInfix

theorem Divides.of_literal_mem (hf : Divides d s f) (h : literal l ∈ f.pieces) :
    l ≠ [] ∧ ¬HoldsInterpolation d l := by
  rw [pieces, List.mem_append, List.mem_flatMap] at h
  rcases h with ⟨m, hm, h⟩ | h
  · obtain ⟨rfl, hne⟩ : l = m.1 ∧ l ≠ [] := by simpa [literal_mem_ofLiteral] using h
    exact ⟨hne, not_holdsInterpolation_of_opens (hf.opens m hm)⟩
  · obtain ⟨rfl, hne⟩ := literal_mem_ofLiteral.1 h
    exact ⟨hne, hf.last⟩

/-- Of two neighbours one is an interpolation at least. -/
def Alternate (p q : Piece) : Prop := p.isInterpolation = true ∨ q.isInterpolation = true

theorem isChain_pieces (f : Factorization) : f.pieces.IsChain Alternate := by
  obtain ⟨ms, t⟩ := f
  induction ms with
  | nil =>
    rw [pieces, List.flatMap_nil, List.nil_append, ofLiteral]
    split <;> simp
  | cons m ms ih =>
    have hcons : pieces ⟨m :: ms, t⟩ =
        ofLiteral m.1 ++ interpolation (Text.strip m.2) :: pieces ⟨ms, t⟩ := by simp [pieces]
    have hbehind : (interpolation (Text.strip m.2) :: pieces ⟨ms, t⟩).IsChain Alternate :=
      List.isChain_cons.2 ⟨fun _ _ => .inl rfl, ih⟩
    rw [hcons, ofLiteral]
    split
    · exact hbehind
    · exact List.isChain_cons_cons.2 ⟨.inr rfl, hbehind⟩

end Factorization

theorem occursIn_iff_mem : occursIn d s = true ↔ ∃ code, interpolation code ∈ ofText d s := by
  constructor
  · intro h
    obtain ⟨m, hm⟩ := Option.isSome_iff_exists.1 h
    exact ⟨Text.strip m.2.1, by rw [ofText_of_some hm]; simp⟩
  · rintro ⟨code, h⟩
    exact occursIn_of_mem h

open Factorization in
/-- A text has exactly one factorization, and its pieces are the parts of it. So literal pieces hold
something but no interpolation, no two of them are neighbours, and there is an interpolation in the
text if there is one among the pieces. -/
theorem unique_factorization (d : Dialect) (s : Text) :
    (∃! f : Factorization, f.Divides d s) ∧
    (∀ f : Factorization, f.Divides d s → ofText d s = f.pieces) ∧
    (∀ l, literal l ∈ ofText d s → l ≠ [] ∧ ¬HoldsInterpolation d l) ∧
    (ofText d s).IsChain Alternate ∧
    (occursIn d s = true ↔ ∃ code, interpolation code ∈ ofText d s) := by
  obtain ⟨f, hf⟩ := exists_divides d s
  have hpieces := hf.ofText_eq
  refine ⟨⟨f, hf, fun g hg => hg.unique hf⟩, fun g hg => hg.ofText_eq, fun l hl => ?_, ?_,
    occursIn_iff_mem⟩
  · exact hf.of_literal_mem (hpieces ▸ hl)
  · rw [hpieces]
    exact isChain_pieces f

end Piece

end Stencil
