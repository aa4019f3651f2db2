import Stencil.Proofs.Template.Leftmost

/-! # Only prefixes are inserted

The scope is put in front of the free names that stand outside the literals, at these places and no
others, and no other character of the expression is touched. -/
namespace Stencil

namespace Text

/-- The blank characters by their code points. -/
def blanks : List Nat :=
  [9, 10, 11, 12, 13, 28, 29, 30, 31, 32, 0x85, 0xa0, 0x1680, 0x2000, 0x2001, 0x2002, 0x2003,
    0x2004, 0x2005, 0x2006, 0x2007, 0x2008, 0x2009, 0x200a, 0x2028, 0x2029, 0x202f, 0x205f, 0x3000]

theorem toNat_mem_blanks {c : Char} (h : isBlank c = true) : c.toNat ∈ blanks := by
  simp only [isBlank, Bool.or_eq_true, Bool.and_eq_true, decide_eq_true_eq, beq_iff_eq] at h
  simp only [blanks, List.mem_cons, List.not_mem_nil, or_false]
  omega

theorem not_isBlank_of {p : Char → Bool} (hp : (blanks.all fun n => !p (Char.ofNat n)) = true)
    {c : Char} (h : p c = true) : isBlank c = false := by
  cases hb : isBlank c with
  | false => rfl
  | true =>
    have := List.all_eq_true.1 hp _ (toNat_mem_blanks hb)
    rw [Char.ofNat_toNat, h] at this
    cases this

/-- No part of a word is blank. -/
theorem not_isBlank_of_isWord {c : Char} (h : isWord c = true) : isBlank c = false :=
  not_isBlank_of (by decide +kernel) h

theorem trimEnd_append_blank {c : Char} (h : isBlank c = true) (s : Text) :
    trimEnd (s ++ [c]) = trimEnd s := by
  simp [trimEnd, h]

theorem trimEnd_append_solid {c : Char} (h : isBlank c = false) (s : Text) :
    trimEnd (s ++ [c]) = s ++ [c] := by
  simp [trimEnd, h]

end Text

/-! ## Insertions -/

/-- `t` is `s` with `w` put in front of the characters at the positions in `P`, if `s` begins at
the position `i`. -/
inductive Inserted (w : Text) (P : Nat → Prop) : Nat → Text → Text → Prop
  | nil {i : Nat} : Inserted w P i [] []
  | keep {i : Nat} {c : Char} {s t : Text} : ¬P i → Inserted w P (i + 1) s t →
      Inserted w P i (c :: s) (c :: t)
  | insert {i : Nat} {c : Char} {s t : Text} : P i → Inserted w P (i + 1) s t →
      Inserted w P i (c :: s) (w ++ c :: t)

namespace Inserted

variable {w s t u v : Text} {P Q : Nat → Prop} {i : Nat}

theorem append (hs : Inserted w P i s t) (hu : Inserted w P (i + s.length) u v) :
    Inserted w P i (s ++ u) (t ++ v) := by
  induction hs with
  | nil => exact hu
  | keep hp _ ih =>
    refine .keep hp (ih ?_)
    rwa [List.length_cons, Nat.add_comm _ 1, ← Nat.add_assoc] at hu
  | insert hp _ ih =>
    rw [List.append_assoc, List.cons_append]
    refine .insert hp (ih ?_)
    rwa [List.length_cons, Nat.add_comm _ 1, ← Nat.add_assoc] at hu

/-- Where a text is cut, the text with the insertions can be cut. -/
theorem exists_append {x : Text} (h : Inserted w P i (s ++ u) x) :
    ∃ t v, x = t ++ v ∧ Inserted w P i s t ∧ Inserted w P (i + s.length) u v := by
  induction s generalizing i x with
  | nil => exact ⟨[], x, rfl, .nil, h⟩
  | cons c s ih =>
    cases h with
    | keep hp h =>
      obtain ⟨t, v, rfl, ht, hv⟩ := ih h
      refine ⟨c :: t, v, rfl, .keep hp ht, ?_⟩
      rwa [List.length_cons, Nat.add_comm _ 1, ← Nat.add_assoc]
    | insert hp h =>
      obtain ⟨t, v, rfl, ht, hv⟩ := ih h
      refine ⟨w ++ c :: t, v, by simp, .insert hp ht, ?_⟩
      rwa [List.length_cons, Nat.add_comm _ 1, ← Nat.add_assoc]

/-- Positions may be counted from elsewhere, and only those in the text matter. -/
theorem shift {k : Nat} (h : Inserted w P (k + i) s t)
    (hPQ : ∀ j, i ≤ j → j < i + s.length → (P (k + j) ↔ Q j)) : Inserted w Q i s t := by
  generalize hm : k + i = m at h
  induction h generalizing i with
  | nil => exact .nil
  | keep hp _ ih =>
    subst hm
    refine .keep (fun hq => hp ((hPQ _ (Nat.le_refl _) (by simp)).2 hq))
      (ih (fun j hj hlt => hPQ j (by omega) ?_) (by omega))
    simp only [List.length_cons]
    omega
  | insert hp _ ih =>
    subst hm
    refine .insert ((hPQ _ (Nat.le_refl _) (by simp)).1 hp)
      (ih (fun j hj hlt => hPQ j (by omega) ?_) (by omega))
    simp only [List.length_cons]
    omega

/-- Only the positions in the text matter. -/
theorem congr (h : Inserted w P i s t) (hPQ : ∀ k, i ≤ k → k < i + s.length → (P k ↔ Q k)) :
    Inserted w Q i s t :=
  shift (k := 0) (by rwa [Nat.zero_add]) fun j hj hlt => by rw [Nat.zero_add, hPQ j hj hlt]

theorem refl (hP : ∀ k, i ≤ k → k < i + s.length → ¬P k) : Inserted w P i s s := by
  induction s generalizing i with
  | nil => exact .nil
  | cons c s ih =>
    refine .keep (hP i (Nat.le_refl _) (by simp)) (ih fun k hk hlt => hP k (by omega) ?_)
    simp only [List.length_cons]
    omega

theorem eq_of_forall_not (h : Inserted w P i s t) (hP : ∀ k, i ≤ k → k < i + s.length → ¬P k) :
    t = s := by
  induction h with
  | nil => rfl
  | keep _ _ ih =>
    rw [ih fun k hk hlt => hP k (by omega) (by simp only [List.length_cons]; omega)]
  | insert hp => exact absurd hp (hP _ (Nat.le_refl _) (by simp))

theorem length_le (h : Inserted w P i s t) : s.length ≤ t.length := by
  induction h with
  | nil => exact Nat.le_refl _
  | keep _ _ ih => simpa using ih
  | insert _ _ ih =>
    simp only [List.length_append, List.length_cons]
    omega

/-- Where the text gets no longer, nothing is put in. -/
theorem not_of_length_le (h : Inserted w P i s t) (hw : w ≠ []) (hlen : t.length ≤ s.length) :
    ∀ k, i ≤ k → k < i + s.length → ¬P k := by
  have hpos := List.length_pos_iff.2 hw
  induction h with
  | nil =>
    intro k hk hlt
    exact absurd hlt (Nat.not_lt.2 hk)
  | @keep i c s t hp _ ih =>
    simp only [List.length_cons] at hlen ⊢
    intro k hk hlt
    by_cases hki : k = i
    · exact hki ▸ hp
    · exact ih (by omega) k (by omega) (by omega)
  | insert _ htail =>
    have := htail.length_le
    simp only [List.length_append, List.length_cons] at hlen
    omega

/-- In front of the first insertion the text is as it was. -/
theorem exists_first (h : Inserted w P i s t) :
    t = s ∨ ∃ a b u, s = a ++ b ∧ t = a ++ w ++ u ∧ P (i + a.length) := by
  induction h with
  | nil => exact .inl rfl
  | @keep i c s t _ _ ih =>
    rcases ih with rfl | ⟨a, b, u, rfl, rfl, hp⟩
    · exact .inl rfl
    · refine .inr ⟨c :: a, b, u, rfl, rfl, ?_⟩
      rwa [List.length_cons, Nat.add_comm a.length, ← Nat.add_assoc]
  | @insert i c s t hp => exact .inr ⟨[], c :: s, c :: t, rfl, rfl, hp⟩

/-- If all that is put in stands in front, nothing is put in elsewhere. -/
theorem not_of_append (h : Inserted w P i s (w ++ s)) (hw : w ≠ []) (hp : P i) :
    ∀ k, i < k → k < i + s.length → ¬P k := by
  generalize ht : w ++ s = t at h
  cases h with
  | nil =>
    intro k hk hlt
    exact absurd hlt (Nat.not_lt.2 (Nat.le_of_lt hk))
  | keep hno => exact absurd hp hno
  | @insert _ _ _ u _ htail =>
    obtain rfl := (List.cons.inj (List.append_cancel_left ht)).2
    intro k hk hlt
    rw [List.length_cons] at hlt
    exact htail.not_of_length_le hw (Nat.le_refl _) k hk (by omega)

/-- What is put in elsewhere, and not in front, gives the same text as in front of it only if it
commutes with the part before it. -/
theorem exists_commute (h : Inserted w P i s (w ++ s)) (hw : w ≠ []) (hp : ¬P i) :
    ∃ a b, s = a ++ b ∧ a ≠ [] ∧ w ++ a = a ++ w ∧ P (i + a.length) := by
  rcases h.exists_first with ht | ⟨a, b, u, rfl, ht, ha⟩
  · exact absurd (by simpa using ht) hw
  · refine ⟨a, b, rfl, ?_, ?_, ha⟩
    · rintro rfl
      exact hp ha
    · rw [← List.append_assoc] at ht
      exact (List.append_inj ht (by rw [List.length_append, List.length_append, Nat.add_comm])).1

/-- What no insertion splits is found again, and each side of it is the side of the text with the
insertions. -/
theorem exists_infix {a l b : Text} (h : Inserted w P i s t) (hs : s = a ++ l ++ b)
    (hP : ∀ k, i + a.length ≤ k → k < i + a.length + l.length → ¬P k) :
    ∃ a' b', t = a' ++ l ++ b' ∧ Inserted w P i a a' ∧
      Inserted w P (i + a.length + l.length) b b' := by
  rw [hs, List.append_assoc] at h
  obtain ⟨a', u, rfl, ha, hu⟩ := h.exists_append
  obtain ⟨x, b', rfl, hx, hb⟩ := hu.exists_append
  obtain rfl : x = l := hx.eq_of_forall_not hP
  exact ⟨a', b', (List.append_assoc _ _ _).symm, ha, hb⟩

/-- Something is put in front of the whole text at most. -/
theorem head {x : Text} {c : Char} (hyes : P i → x = w) (hno : ¬P i → x = [])
    (hP : ∀ k, i < k → k < i + (c :: s).length → ¬P k) : Inserted w P i (c :: s) (x ++ c :: s) := by
  have htail : Inserted w P (i + 1) s s := refl fun k hk hlt => hP k (by omega) (by
    simp only [List.length_cons]
    omega)
  by_cases hp : P i
  · rw [hyes hp]
    exact .insert hp htail
  · rw [hno hp]
    exact .keep hp htail

end Inserted

namespace Scoping

open Lexer (isQuote isQuote_iff takeWhile_append_of_head)

/-! ## Free names -/

/-- Between `p` and `r` stands a whole name, a word that begins with no digit. -/
structure IsName (p w r : Text) : Prop where
  head : ∃ c v, w = c :: v ∧ Text.isDecimal c = false
  word : ∀ c ∈ w, Text.isWord c = true
  before : ∀ c ∈ p.getLast?, Text.isWord c = false
  behind : ∀ c ∈ r.head?, Text.isWord c = false

/-- The name is no keyword, no member of what stands before it and not given to an argument. -/
structure IsFreeName (p w r : Text) : Prop extends IsName p w r where
  keyword : isKeyword w = false
  member : (Text.trimEnd p).getLast? ≠ some '.'
  argument : ∀ u, Text.trimStart r = '=' :: u → u.head? = some '='

/-- A free name begins at the position `i` of the text. -/
def FreeNameAt (t : Text) (i : Nat) : Prop :=
  ∃ p w r, t = p ++ w ++ r ∧ p.length = i ∧ IsFreeName p w r

theorem namesArgument_eq_false_iff {r : Text} :
    namesArgument r = false ↔ ∀ u, Text.trimStart r = '=' :: u → u.head? = some '=' := by
  unfold namesArgument
  rcases Text.trimStart r with _ | ⟨c, _ | ⟨d, u⟩⟩
  · simp
  · by_cases hc : c = '='
    · subst hc
      simp
    · simp [hc]
  · by_cases hc : c = '='
    · subst hc
      by_cases hd : d = '='
      · subst hd
        simp
      · simp [hd]
    · simp [hc]

variable {scope b g s r v : Text} {solid : Option Char}

/-- The word behind `b` tells whether a free name begins there. -/
theorem freeNameAt_iff : FreeNameAt (b ++ s) b.length ↔
    IsFreeName b (s.takeWhile Text.isWord) (s.dropWhile Text.isWord) := by
  constructor
  · rintro ⟨p, w, r, h, hlen, hf⟩
    rw [List.append_assoc] at h
    obtain ⟨rfl, rfl⟩ := List.append_inj h.symm hlen
    have hhead : (r.head?.all fun c => !Text.isWord c) = true := by
      simpa [Option.all_eq_true] using hf.behind
    obtain ⟨htake, hdrop⟩ := takeWhile_append_of_head hf.word hhead
    rwa [htake, hdrop]
  · intro hf
    exact ⟨b, _, _, by rw [List.append_assoc, List.takeWhile_append_dropWhile], rfl, hf⟩

theorem not_freeNameAt_of_not_isWord {c : Char} (hc : Text.isWord c = false) :
    ¬FreeNameAt (b ++ c :: s) b.length := by
  rw [freeNameAt_iff]
  intro hf
  obtain ⟨x, u, hx, -⟩ := hf.head
  rw [List.takeWhile_cons_of_neg (by simp [hc])] at hx
  cases hx

/-- No name begins inside of a word. -/
theorem not_freeNameAt_of_inside (hv : ∀ c ∈ v, Text.isWord c = true) {k : Nat}
    (hk : b.length < k) (hlt : k < b.length + v.length) : ¬FreeNameAt (b ++ (v ++ s)) k := by
  rintro ⟨p, w, r, h, rfl, hf⟩
  obtain ⟨j, hj⟩ : ∃ j, p.length = b.length + (j + 1) := ⟨p.length - b.length - 1, by omega⟩
  have hp : p = b ++ v.take (j + 1) := by
    have := congrArg (List.take p.length) h
    rw [List.append_assoc, List.take_left' rfl, hj, List.take_length_add_append,
      List.take_append_of_le_length (by omega)] at this
    exact this.symm
  have hne : v.take (j + 1) ≠ [] := by
    intro h
    have := congrArg List.length h
    rw [List.length_take, List.length_nil] at this
    omega
  have hlast := hf.before ((v.take (j + 1)).getLast hne) (by
    rw [hp, List.getLast?_append_of_ne_nil _ hne, List.getLast?_eq_some_getLast hne]
    rfl)
  rw [hv _ ((List.take_sublist _ _).subset (List.getLast_mem hne))] at hlast
  cases hlast

/-- What is put in front of a word is put in front of free names. -/
theorem isFreeName_iff (hne : v ≠ []) (hv : ∀ c ∈ v, Text.isWord c = true)
    (hb : ∀ c ∈ b.getLast?, Text.isWord c = false) (hs : ∀ c ∈ s.head?, Text.isWord c = false)
    (hsolid : solid = some '.' ↔ (Text.trimEnd b).getLast? = some '.') :
    IsFreeName b v s ↔ (!v.head?.any Text.isDecimal && isFree v solid s) = true := by
  obtain ⟨c, v, rfl⟩ := List.exists_cons_of_ne_nil hne
  simp only [isFree, List.head?_cons, Option.any_some, Bool.and_eq_true, Bool.not_eq_true',
    bne_iff_ne, ne_eq, hsolid, namesArgument_eq_false_iff]
  constructor
  · intro hf
    obtain ⟨_, _, hc, hd⟩ := hf.head
    cases hc
    exact ⟨hd, ⟨hf.keyword, hf.member⟩, hf.argument⟩
  · rintro ⟨hd, ⟨hk, hm⟩, ha⟩
    exact ⟨⟨⟨c, v, rfl, hd⟩, hv, hb, hs⟩, hk, hm, ha⟩

/-! ## Names in a gap -/

/-- The text `b` and the character `solid` agree on whether a point stands behind the last blanks,
and no word runs across the end of `b`. -/
structure IsResumption (b : Text) (solid : Option Char) (g : Text) : Prop where
  point : solid = some '.' ↔ (Text.trimEnd b).getLast? = some '.'
  apart : ∀ c ∈ g.head?, Text.isWord c = true → ∀ x ∈ b.getLast?, Text.isWord x = false

/-- The gap `g` ends with a word only if nothing stands behind it. -/
structure IsClosed (g r : Text) : Prop where
  last : r ≠ [] → ∀ c ∈ g.getLast?, Text.isWord c = false
  solid : ∀ c ∈ r.head?, Text.isBlank c = false
  value : r.head? ≠ some '='

theorem IsResumption.nil : IsResumption [] none g where
  point := by simp [Text.trimEnd]
  apart := by simp

/-- The search goes on behind what is no word. -/
theorem IsResumption.step {c : Char} (h : IsResumption b solid (c :: g))
    (hw : Text.isWord c = false) :
    IsResumption (b ++ [c]) (if Text.isBlank c then solid else some c) g where
  point := by
    cases hb : Text.isBlank c with
    | true => rw [if_pos rfl, Text.trimEnd_append_blank hb, h.point]
    | false => simp [Text.trimEnd_append_solid hb]
  apart := by simp [hw]

/-- The search goes on behind a whole word. -/
theorem IsResumption.word (hne : v ≠ []) (hv : ∀ c ∈ v, Text.isWord c = true)
    (hg : ∀ c ∈ g.head?, Text.isWord c = false) : IsResumption (b ++ v) v.getLast? g where
  point := by
    obtain ⟨v, c, rfl⟩ := (List.eq_nil_or_concat v).resolve_left hne
    have hb := Text.not_isBlank_of_isWord (hv c (by simp))
    rw [List.concat_eq_append, ← List.append_assoc, Text.trimEnd_append_solid hb]
    simp
  apart := by
    intro c hc hw
    rw [hg c hc] at hw
    cases hw

theorem isClosed_nil (g : Text) : IsClosed g [] :=
  ⟨fun h => absurd rfl h, by simp, by simp⟩

theorem IsClosed.of_append {a : Text} (h : IsClosed (a ++ g) r) : IsClosed g r where
  last := fun hr c hc => h.last hr c (by
    rw [Option.mem_def] at hc ⊢
    rw [List.getLast?_append, hc]
    rfl)
  solid := h.solid
  value := h.value

/-- Nothing that is left of a word stands behind the gap. -/
theorem IsClosed.head (hr : IsClosed (v ++ g) r) (hne : v ≠ [])
    (hv : ∀ c ∈ v, Text.isWord c = true) (hg : ∀ c ∈ g.head?, Text.isWord c = false) :
    ∀ c ∈ (g ++ r).head?, Text.isWord c = false := by
  rcases g with _ | ⟨d, g⟩
  · rcases r with _ | ⟨d, r⟩
    · simp
    · have hlast := hr.last (by simp) (v.getLast hne) (by
        rw [List.append_nil]
        exact List.getLast?_eq_some_getLast hne)
      rw [hv _ (List.getLast_mem hne)] at hlast
      cases hlast
  · exact hg

theorem inserted_word (hb : IsResumption b solid (v ++ g)) (hr : IsClosed (v ++ g) r)
    (hne : v ≠ []) (hv : ∀ c ∈ v, Text.isWord c = true)
    (hg : ∀ c ∈ g.head?, Text.isWord c = false) :
    Inserted (scope ++ ['.']) (FreeNameAt (b ++ (v ++ (g ++ r)))) b.length v
      (prefixed scope v solid g ++ v) := by
  have hbehind := hr.head hne hv hg
  have hbefore : ∀ x ∈ b.getLast?, Text.isWord x = false := by
    obtain ⟨c, u, rfl⟩ := List.exists_cons_of_ne_nil hne
    exact hb.apart c rfl (hv c (by simp))
  obtain ⟨htake, hdrop⟩ := takeWhile_append_of_head hv
    (r := g ++ r) (by simpa [Option.all_eq_true] using hbehind)
  have hiff : FreeNameAt (b ++ (v ++ (g ++ r))) b.length ↔
      (!v.head?.any Text.isDecimal && isFree v solid g) = true := by
    rw [freeNameAt_iff, htake, hdrop, isFreeName_iff hne hv hbefore hbehind hb.point, isFree,
      isFree, namesArgument_append hr.solid hr.value]
  have hinside : ∀ k, b.length < k → k < b.length + v.length →
      ¬FreeNameAt (b ++ (v ++ (g ++ r))) k := fun k hk hlt => not_freeNameAt_of_inside hv hk hlt
  obtain ⟨c, u, rfl⟩ := List.exists_cons_of_ne_nil hne
  exact .head (fun h => if_pos (hiff.1 h)) (fun h => if_neg fun h' => h (hiff.2 h')) hinside

/-- In a gap, the scope is put in front of the free names of the text. -/
theorem inserted_qualifyFrom (scope : Text) (hb : IsResumption b solid g) (hr : IsClosed g r) :
    Inserted (scope ++ ['.']) (FreeNameAt (b ++ (g ++ r))) b.length g
      (qualifyFrom scope solid g) := by
  -- A whole word is read at once. What is read goes over to `b`, so the text stays the same.
  induction hn : g.length using Nat.strongRecOn generalizing b g solid with
  | _ n ih =>
  subst hn
  rcases g with _ | ⟨c, g⟩
  · rw [qualifyFrom]
    exact .nil
  cases hw : Text.isWord c with
  | false =>
    have htail := ih g.length (by simp) (hb.step hw) (hr.of_append (a := [c])) rfl
    rw [List.append_assoc, List.singleton_append, List.length_append, List.length_singleton,
      ← List.cons_append] at htail
    have hkeep := Inserted.keep (c := c) (not_freeNameAt_of_not_isWord hw) htail
    cases hblank : Text.isBlank c with
    | true =>
      rw [qualifyFrom_blank hw hblank]
      simpa [hblank] using hkeep
    | false =>
      rw [qualifyFrom_solid hw hblank]
      simpa [hblank] using hkeep
  | true =>
    rw [qualifyFrom_word hw]
    have hlen := (List.dropWhile_sublist Text.isWord (l := g)).length_le
    have hg : c :: g = c :: g.takeWhile Text.isWord ++ g.dropWhile Text.isWord := by
      rw [List.cons_append, List.takeWhile_append_dropWhile]
    have hv : ∀ x ∈ c :: g.takeWhile Text.isWord, Text.isWord x = true :=
      List.forall_mem_cons.2 ⟨hw, fun x hx => List.mem_takeWhile_imp hx⟩
    have hhead := Text.head?_dropWhile Text.isWord g
    generalize g.takeWhile Text.isWord = u at hg hv ⊢
    generalize g.dropWhile Text.isWord = y at hg hlen hhead ⊢
    rw [hg] at hb hr ⊢
    have htail := ih y.length (by simp only [List.length_cons]; omega)
      (IsResumption.word (b := b) (by simp) hv hhead) hr.of_append rfl
    rw [List.append_assoc, List.length_append] at htail
    rw [List.append_assoc _ y]
    exact (inserted_word hb hr (by simp) hv hhead).append htail

/-! ## The whole text -/

/-- A free name begins at the position `i`, and none of the literals covers it. -/
def FreeOutside (t : Text) (ms : List (Nat × Text)) (i : Nat) : Prop :=
  FreeNameAt t i ∧ ∀ m ∈ ms, ¬(m.1 ≤ i ∧ i < m.1 + m.2.length)

theorem le_of_mem_spans {i : Nat} {rest : List (Text × Text)} {m : Nat × Text}
    (h : m ∈ spans i g rest) : i + g.length ≤ m.1 := by
  induction rest generalizing i g with
  | nil => cases h
  | cons p rest ih =>
    rcases List.mem_cons.1 h with rfl | h
    · exact Nat.le_refl _
    · have := ih h
      omega

/-- A literal is found at its place. -/
theorem Leftmost.literalAt {t : Text} {i : Nat} {ms : List (Nat × Text)} (h : Leftmost t i ms) :
    ∀ m ∈ ms, LiteralAt t m.1 m.2 := by
  induction ms generalizing i with
  | nil => simp
  | cons m ms ih => exact List.forall_mem_cons.2 ⟨h.2.1, ih h.2.2.2⟩

/-- What stands in front of a literal and what it begins with belong to no name. -/
theorem isClosed_of_matches {l : Text} (hp : mayPrecedeLiteral (b ++ g).getLast? = true)
    (hm : Matches l r) (s : Text) : IsClosed g (l ++ s) := by
  obtain ⟨c, u, rfl, hc⟩ := hm.head
  have hsolid : Text.isBlank c = false ∧ c ≠ '=' := by
    rcases hc with hc | hc
    · exact ⟨Text.not_isBlank_of_isWord (isWord_of_isTagLetter hc), by rintro rfl; cases hc⟩
    · exact ⟨not_isBlank_of_isQuote hc, by rintro rfl; cases hc⟩
  refine ⟨fun _ x hx => ?_, fun x hx => ?_, fun h => hsolid.2 (Option.some.inj h)⟩
  · rw [List.getLast?_append, hx] at hp
    simp only [Option.some_or, mayPrecedeLiteral, Option.all_some, Bool.and_eq_true] at hp
    simpa using hp.1
  · cases hx
    exact hsolid.1

/-- Behind a literal no name goes on, and none is a member. -/
theorem isResumption_of_matches {l : Text} (hm : Matches l r) :
    IsResumption (b ++ l) (some mark) g := by
  obtain ⟨q, hlast, hq⟩ := hm.getLast?
  obtain ⟨l, rfl⟩ := List.getLast?_eq_some_iff.1 hlast
  have hword : Text.isWord q = false := by
    rcases isQuote_iff.1 hq with rfl | rfl <;> decide
  rw [← List.append_assoc]
  refine ⟨?_, fun _ _ _ x hx => ?_⟩
  · have hdot : mark ≠ '.' ∧ q ≠ '.' := ⟨by decide, by rintro rfl; cases hq⟩
    rw [Text.trimEnd_append_solid (not_isBlank_of_isQuote hq)]
    simp [hdot]
  · rw [List.getLast?_concat] at hx
    cases hx
    exact hword

/-- In a weave, the scope is put in front of the free names that stand outside the literals. -/
theorem inserted_weave (scope : Text) {t : Text} {rest : List (Text × Text)}
    (ht : t = b ++ weave g rest) (hms : Leftmost t b.length (spans b.length g rest))
    (hb : IsResumption b solid g) :
    Inserted (scope ++ ['.']) (FreeOutside t (spans b.length g rest)) b.length (weave g rest)
      (weave (qualifyFrom scope solid g)
        (rest.map fun p => (p.1, qualifyFrom scope (some mark) p.2))) := by
  induction rest generalizing b g solid with
  | nil =>
    have hgap := inserted_qualifyFrom scope hb (isClosed_nil g)
    rw [List.append_nil] at hgap
    rw [weave_nil] at ht ⊢
    rw [List.map_nil, weave_nil, ht]
    exact hgap.congr fun k _ _ => (and_iff_left (by simp [spans])).symm
  | cons p rest ih =>
    obtain ⟨l, g'⟩ := p
    obtain ⟨-, hat, -, htail⟩ := hms
    have hlen : b.length + g.length = (b ++ g).length := List.length_append.symm
    have ht' : t = b ++ g ++ (l ++ weave g' rest) := by rw [ht, weave_cons, List.append_assoc]
    have hat' := hat
    rw [ht', hlen] at hat'
    obtain ⟨hp, u, hu⟩ := literalAt_iff.1 hat'
    obtain ⟨-, hm⟩ := literal?_eq_some_iff.1 hu
    have hclosed := isClosed_of_matches hp hm (weave g' rest)
    have hgap := inserted_qualifyFrom scope hb hclosed
    rw [← List.append_assoc, ← ht'] at hgap
    have hpos : (b ++ g ++ l).length = b.length + g.length + l.length := by
      simp only [List.length_append]
    have hnext := ih (b := b ++ g ++ l) (g := g')
      (by rw [ht', List.append_assoc _ l]) (by rwa [hpos]) (isResumption_of_matches hm)
    rw [hpos] at hnext
    have hspans : spans b.length g ((l, g') :: rest) =
        (b.length + g.length, l) :: spans (b.length + g.length + l.length) g' rest := rfl
    rw [weave_cons, List.map_cons, weave_cons, hspans]
    refine (hgap.congr fun k _ hk => ?_).append (.append (.refl fun k hk hlt h => ?_)
      (hnext.congr fun k hk _ => ?_))
    · refine (and_iff_left fun m hmem hc => ?_).symm
      have := le_of_mem_spans (hspans ▸ hmem : m ∈ spans b.length g ((l, g') :: rest))
      omega
    · exact h.2 (b.length + g.length, l) List.mem_cons_self ⟨hk, hlt⟩
    · refine and_congr_right fun _ => ?_
      rw [List.forall_mem_cons]
      refine (and_iff_right fun hc => ?_).symm
      exact absurd hc.2 (Nat.not_lt.2 hk)

/-- An expression without marks has a scoped form. It is the expression without its blank margins
and with the scope and a point in front of the free names outside its literals, which are the
leftmost matches of their pattern. No other character is touched, and each literal stays what it is
and where it is. -/
theorem prefixes_only {scope s : Text} (hscope : mark ∉ scope) (hs : mark ∉ s) :
    ∃ t ms, scoped? scope s = some t ∧
      (∀ ns, Leftmost (Text.strip s) 0 ns ↔ ns = ms) ∧
      Inserted (scope ++ ['.']) (FreeOutside (Text.strip s) ms) 0 (Text.strip s) t ∧
      ∀ m ∈ ms, ∃ a b a' b', Text.strip s = a ++ m.2 ++ b ∧ a.length = m.1 ∧
        t = a' ++ m.2 ++ b' ∧
        Inserted (scope ++ ['.']) (FreeOutside (Text.strip s) ms) 0 a a' ∧
        Inserted (scope ++ ['.']) (FreeOutside (Text.strip s) ms) (m.1 + m.2.length) b b' := by
  obtain ⟨g, rest, hweave, hmask, hleft⟩ := exists_weave [] (Text.strip s) 0
  rw [List.nil_append, List.length_nil] at hleft
  have hmark : mark ∉ weave g rest := fun h => hs (Text.mem_of_mem_strip (hweave ▸ h))
  have hscoped := scoped?_of_mask hscope hmask (fun h => hmark (List.mem_append_left _ h))
    fun p hp h => hmark (List.mem_append_right g (List.mem_flatMap.2
      ⟨p, hp, List.mem_append_right _ h⟩))
  have hins := inserted_weave scope (b := []) hweave hleft .nil
  rw [← hweave, List.length_nil] at hins
  refine ⟨_, _, hscoped, fun ns => ⟨fun h => h.unique hleft, fun h => h ▸ hleft⟩, hins, ?_⟩
  intro m hm
  obtain ⟨a, b, hab, hlen, -⟩ := hleft.literalAt m hm
  obtain ⟨a', b', ht, ha, hb⟩ := hins.exists_infix hab fun k hk hlt h => h.2 m hm (by omega)
  rw [Nat.zero_add, hlen] at hb
  exact ⟨a, b, a', b', hab, hlen, ht, ha, hb⟩

/-- Members, argument names, keywords and the letters of a number stay as they are. A quote that is
never closed begins no literal, so the name behind it gets the scope. -/
theorem prefixes_only_unclosed :
    mark ∉ scopeName ∧ mark ∉ " a . b(k =c, k == 1e5) if not Rb'if a' else \"d ".toList ∧
      scoped? scopeName " a . b(k =c, k == 1e5) if not Rb'if a' else \"d ".toList =
        some "scope.a . b(k =scope.c, scope.k == 1e5) if not Rb'if a' else \"scope.d".toList ∧
      ∃ ms, (∀ ns, Leftmost "a . b(k =c, k == 1e5) if not Rb'if a' else \"d".toList 0 ns ↔
          ns = ms) ∧
        Inserted "scope.".toList
          (FreeOutside "a . b(k =c, k == 1e5) if not Rb'if a' else \"d".toList ms) 0
          "a . b(k =c, k == 1e5) if not Rb'if a' else \"d".toList
          "scope.a . b(k =scope.c, scope.k == 1e5) if not Rb'if a' else \"scope.d".toList := by
  have hscope : mark ∉ scopeName := by decide
  have hs : mark ∉ " a . b(k =c, k == 1e5) if not Rb'if a' else \"d ".toList := by decide
  have hstrip : Text.strip " a . b(k =c, k == 1e5) if not Rb'if a' else \"d ".toList =
      "a . b(k =c, k == 1e5) if not Rb'if a' else \"d".toList := by decide
  have hscoped : scoped? scopeName " a . b(k =c, k == 1e5) if not Rb'if a' else \"d ".toList =
      some "scope.a . b(k =scope.c, scope.k == 1e5) if not Rb'if a' else \"scope.d".toList := by
    decide +kernel
  obtain ⟨t, ms, ht, hms, hins, -⟩ := prefixes_only hscope hs
  obtain rfl := Option.some.inj (hscoped.symm.trans ht)
  rw [hstrip] at hms hins
  exact ⟨hscope, hs, hscoped, ms, hms, hins⟩

end Scoping

end Stencil
