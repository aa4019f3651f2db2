import Stencil.Proofs.Template.Placeholders

/-! # Where literals are found

One pattern says what a string literal is, for any text, however malformed. The literals that are
taken out of a text are its leftmost matches, each sought from the end of the one before it. -/
namespace Stencil

namespace Scoping

open Lexer (isQuote isQuote_iff)
open Text (FirstAt breakAt?_eq_some_iff)

/-! ## The pattern -/

/-- What may stand between the quotes `q` of a literal on one line. -/
inductive IsLineBody (q : Char) : Text → Prop
  | nil : IsLineBody q []
  | plain {c : Char} {s : Text} : c ≠ q → c ≠ '\n' → c ≠ '\\' → IsLineBody q s →
      IsLineBody q (c :: s)
  | escape {c : Char} {s : Text} : c ≠ '\n' → IsLineBody q s → IsLineBody q ('\\' :: c :: s)

/-- At most two letters, and a quote. -/
structure IsOpening (tag : Text) (q : Char) : Prop where
  letters : ∀ c ∈ tag, isTagLetter c = true
  short : tag.length ≤ 2
  quote : isQuote q = true

/-- The literal `l` is matched in front of `r`. Three quotes open it wherever three more of them
come behind, and then the first of these close it. -/
inductive Matches : Text → Text → Prop
  | block {tag body r : Text} {q : Char} : IsOpening tag q →
      FirstAt [q, q, q] (body ++ [q, q, q]) 0 body.length →
      Matches (tag ++ q :: q :: q :: (body ++ [q, q, q])) r
  | line {tag body r : Text} {q : Char} : IsOpening tag q → IsLineBody q body →
      (∀ s, body ++ q :: r = q :: q :: s → ¬[q, q, q] <:+: s) →
      Matches (tag ++ q :: (body ++ [q])) r

variable {q : Char} {s l r : Text}

theorem line?_eq_some_iff (hq : isQuote q = true) :
    line? q s = some (l, r) ↔ ∃ body, l = body ++ [q] ∧ s = l ++ r ∧ IsLineBody q body := by
  constructor
  · intro h
    fun_induction line? q s generalizing l with
    | case1 => cases h
    | case2 s =>
      cases h
      exact ⟨[], rfl, rfl, .nil⟩
    | case3 => cases h
    | case4 => cases h
    | case5 => cases h
    | case6 d s hd _ _ ih =>
      obtain ⟨⟨a, b⟩, hab, he⟩ := Option.map_eq_some_iff.1 h
      cases he
      obtain ⟨body, rfl, rfl, hbody⟩ := ih hab
      exact ⟨'\\' :: d :: body, rfl, rfl, .escape hd hbody⟩
    | case7 c s hc hn hb ih =>
      obtain ⟨⟨a, b⟩, hab, he⟩ := Option.map_eq_some_iff.1 h
      cases he
      obtain ⟨body, rfl, rfl, hbody⟩ := ih hab
      exact ⟨c :: body, rfl, rfl, .plain hc hn hb hbody⟩
  · rintro ⟨body, rfl, rfl, hbody⟩
    have hescape : '\\' ≠ q := (quote_facts hq).2.2.symm
    induction hbody with
    | nil => simp [line?.eq_def]
    | plain hc hn hb _ ih =>
      rw [List.append_assoc, List.singleton_append] at ih
      rw [line?.eq_def]
      simp [hc, hn, hb, ih]
    | escape hn _ ih =>
      rw [List.append_assoc, List.singleton_append] at ih
      rw [line?.eq_def]
      simp [hescape, hn, ih]

theorem block?_eq_some_iff : block? q s = some (l, r) ↔
    ∃ body, l = body ++ [q, q, q] ∧ s = l ++ r ∧
      FirstAt [q, q, q] (body ++ [q, q, q]) 0 body.length := by
  rw [block?, Option.map_eq_some_iff]
  constructor
  · rintro ⟨⟨a, b⟩, hab, he⟩
    cases he
    obtain ⟨rfl, hfirst⟩ := breakAt?_eq_some_iff.1 hab
    exact ⟨a, rfl, rfl, hfirst⟩
  · rintro ⟨body, rfl, rfl, hfirst⟩
    exact ⟨(body, r), breakAt?_eq_some_iff.2 ⟨rfl, hfirst⟩, rfl⟩

/-- Two more quotes, and behind them the rest of a literal that three quotes close. -/
theorem block?_eq_none_iff :
    (Text.after? [q, q] s).bind (block? q) = none ↔
      ∀ t, s = q :: q :: t → ¬[q, q, q] <:+: t := by
  rw [Option.bind_eq_none_iff]
  have hnone : ∀ t, block? q t = none ↔ ¬[q, q, q] <:+: t := by
    intro t
    rw [block?, Option.map_eq_none_iff, ← Text.breakAt?_isSome_iff, Bool.not_eq_true,
      Option.isSome_eq_false_iff, Option.isNone_iff_eq_none]
  simp only [Text.after?_eq_some_iff, hnone]
  rfl

theorem quoted?_of_isQuote (hq : isQuote q = true) : quoted? (q :: s) =
    match (Text.after? [q, q] s).bind (block? q) with
    | some (body, rest) => some (q :: q :: q :: body, rest)
    | none => (line? q s).map fun p => (q :: p.1, p.2) := by
  unfold quoted?
  exact if_pos (isQuote_iff.1 hq)

/-- What is read at the head of a text is what the pattern matches there. -/
theorem literal?_eq_some_iff : literal? s = some (l, r) ↔ s = l ++ r ∧ Matches l r := by
  constructor
  · intro h
    have hs := literal?_eq_append h
    refine ⟨hs, ?_⟩
    unfold literal? at h
    dsimp only at h
    split_ifs at h with hlen
    obtain ⟨⟨a, b⟩, hab, he⟩ := Option.map_eq_some_iff.1 h
    cases he
    have hletters : ∀ c ∈ s.takeWhile isTagLetter, isTagLetter c = true := fun c hc =>
      List.mem_takeWhile_imp hc
    obtain ⟨q, t, ht⟩ : ∃ q t, s.dropWhile isTagLetter = q :: t := by
      cases hd : s.dropWhile isTagLetter with
      | nil =>
        rw [hd] at hab
        cases hab
      | cons q t => exact ⟨q, t, rfl⟩
    rw [ht] at hab
    cases hq : isQuote q with
    | false =>
      rw [quoted?_of_not_isQuote hq] at hab
      cases hab
    | true =>
      have hopening : IsOpening (s.takeWhile isTagLetter) q := ⟨hletters, by omega, hq⟩
      rw [quoted?_of_isQuote hq] at hab
      split at hab
      next body rest hlong =>
        cases hab
        obtain ⟨u, -, hblock⟩ := Option.bind_eq_some_iff.1 hlong
        obtain ⟨body, rfl, -, hfirst⟩ := block?_eq_some_iff.1 hblock
        exact .block hopening hfirst
      next hshort =>
        obtain ⟨⟨a, b⟩, hline, he⟩ := Option.map_eq_some_iff.1 hab
        cases he
        obtain ⟨body, rfl, rfl, hbody⟩ := (line?_eq_some_iff hq).1 hline
        refine .line hopening hbody fun u hu => block?_eq_none_iff.1 hshort u ?_
        rw [← hu]
        simp
  · rintro ⟨rfl, hm⟩
    cases hm with
    | @block tag body _ q ho hfirst =>
      have hbreak : Text.breakAt? [q, q, q] (body ++ [q, q, q] ++ r) = some (body, r) :=
        breakAt?_eq_some_iff.2 ⟨rfl, hfirst⟩
      have happ : tag ++ q :: q :: q :: (body ++ [q, q, q]) ++ r =
          tag ++ q :: (q :: q :: (body ++ [q, q, q] ++ r)) := by simp
      rw [happ, literal?_tagged ho.letters ho.short ho.quote, quoted?_block ho.quote hbreak]
      rfl
    | @line tag body _ q ho hbody hshort =>
      have hline : line? q (body ++ q :: r) = some (body ++ [q], r) :=
        (line?_eq_some_iff ho.quote).2 ⟨body, rfl, by simp, hbody⟩
      have happ : tag ++ q :: (body ++ [q]) ++ r = tag ++ q :: (body ++ q :: r) := by simp
      rw [happ, literal?_tagged ho.letters ho.short ho.quote, quoted?_of_isQuote ho.quote,
        block?_eq_none_iff.2 hshort, hline]
      rfl

theorem Matches.ne_nil (h : Matches l r) : l ≠ [] := by
  cases h <;> simp

/-- A literal begins with one of its letters or a quote. -/
theorem Matches.head (h : Matches l r) :
    ∃ c t, l = c :: t ∧ (isTagLetter c = true ∨ isQuote c = true) := by
  have hopening : ∀ {tag u : Text} {q : Char}, IsOpening tag q →
      ∃ c t, tag ++ q :: u = c :: t ∧ (isTagLetter c = true ∨ isQuote c = true) := by
    intro tag u q ho
    rcases tag with _ | ⟨c, tag⟩
    · exact ⟨q, u, rfl, .inr ho.quote⟩
    · exact ⟨c, tag ++ q :: u, rfl, .inl (ho.letters c (by simp))⟩
  cases h with
  | block ho => exact hopening ho
  | line ho => exact hopening ho

theorem Matches.getLast? (h : Matches l r) : ∃ q, l.getLast? = some q ∧ isQuote q = true := by
  cases h with
  | @block tag body _ q ho => exact ⟨q, by simp [List.getLast?_cons], ho.quote⟩
  | @line tag body _ q ho => exact ⟨q, by simp [List.getLast?_cons], ho.quote⟩

/-! ## The leftmost matches -/

/-- The pattern matches the literal `l` at the position `i`, behind nothing that keeps a literal
from beginning there. -/
def LiteralAt (t : Text) (i : Nat) (l : Text) : Prop :=
  ∃ p r, t = p ++ l ++ r ∧ p.length = i ∧ mayPrecedeLiteral p.getLast? = true ∧ Matches l r

/-- The leftmost matches in the text from the position `i` on, each behind the one before it. A
match is given by its position and the literal. -/
def Leftmost (t : Text) (i : Nat) : List (Nat × Text) → Prop
  | [] => ∀ k l, i ≤ k → ¬LiteralAt t k l
  | m :: ms => i ≤ m.1 ∧ LiteralAt t m.1 m.2 ∧ (∀ k l, i ≤ k → k < m.1 → ¬LiteralAt t k l) ∧
      Leftmost t (m.1 + m.2.length) ms

variable {t p : Text} {i : Nat} {ms : List (Nat × Text)}

/-- At the end of `p` stands what is read there. -/
theorem literalAt_iff : LiteralAt (p ++ s) p.length l ↔
    mayPrecedeLiteral p.getLast? = true ∧ ∃ r, literal? s = some (l, r) := by
  simp only [literal?_eq_some_iff]
  constructor
  · rintro ⟨p', r, h, hlen, hp, hm⟩
    rw [List.append_assoc] at h
    obtain ⟨rfl, rfl⟩ := List.append_inj h.symm hlen
    exact ⟨hp, r, rfl, hm⟩
  · rintro ⟨hp, r, rfl, hm⟩
    exact ⟨p, r, (List.append_assoc _ _ _).symm, rfl, hp, hm⟩

theorem LiteralAt.le (h : LiteralAt t i l) : i + l.length ≤ t.length := by
  obtain ⟨p, r, rfl, rfl, -⟩ := h
  simp

theorem LiteralAt.pos (h : LiteralAt t i l) : 0 < l.length := by
  obtain ⟨p, r, -, -, -, hm⟩ := h
  exact List.length_pos_iff.2 hm.ne_nil

theorem LiteralAt.unique {m : Text} (h : LiteralAt t i l) (h' : LiteralAt t i m) : l = m := by
  obtain ⟨p, r, ht, rfl, -⟩ := id h
  rw [ht, List.append_assoc] at h h'
  obtain ⟨-, a, ha⟩ := literalAt_iff.1 h
  obtain ⟨-, b, hb⟩ := literalAt_iff.1 h'
  cases ha.symm.trans hb
  rfl

/-- There is one way only to find the leftmost matches. -/
theorem Leftmost.unique {ns : List (Nat × Text)} (h : Leftmost t i ms) (h' : Leftmost t i ns) :
    ms = ns := by
  induction ms generalizing i ns with
  | nil =>
    cases ns with
    | nil => rfl
    | cons n ns => exact absurd h'.2.1 (h _ _ h'.1)
  | cons m ms ih =>
    cases ns with
    | nil => exact absurd h.2.1 (h' _ _ h.1)
    | cons n ns =>
      obtain ⟨hle, hat, hleft, hrest⟩ := h
      obtain ⟨hle', hat', hleft', hrest'⟩ := h'
      have hpos : m.1 = n.1 := by
        rcases Nat.lt_trichotomy m.1 n.1 with hlt | heq | hlt
        · exact absurd hat (hleft' _ _ hle hlt)
        · exact heq
        · exact absurd hat' (hleft _ _ hle' hlt)
      have htext : m.2 = n.2 := (hpos ▸ hat).unique hat'
      obtain rfl : m = n := Prod.ext hpos htext
      rw [ih hrest hrest']

/-- The search may begin one character earlier, where nothing is found. -/
theorem Leftmost.back (h : Leftmost t (i + 1) ms) (hn : ∀ l, ¬LiteralAt t i l) :
    Leftmost t i ms := by
  have hstep : ∀ {k}, i ≤ k → k = i ∨ i + 1 ≤ k := fun hk => by omega
  cases ms with
  | nil =>
    intro k l hk
    rcases hstep hk with rfl | hk
    · exact hn l
    · exact h k l hk
  | cons m ms =>
    obtain ⟨hle, hat, hleft, hrest⟩ := h
    refine ⟨by omega, hat, fun k l hk hlt => ?_, hrest⟩
    rcases hstep hk with rfl | hk
    · exact hn l
    · exact hleft k l hk hlt

/-! ## What is taken out -/

/-- The literals of a weave, each with its position, if the weave begins at `i`. -/
def spans (i : Nat) (g : Text) : List (Text × Text) → List (Nat × Text)
  | [] => []
  | p :: rest => (i + g.length, p.1) :: spans (i + g.length + p.1.length) p.2 rest

theorem spans_cons (i : Nat) (c : Char) (g : Text) (rest : List (Text × Text)) :
    spans i (c :: g) rest = spans (i + 1) g rest := by
  cases rest with
  | nil => rfl
  | cons p rest =>
    have hlen : i + (c :: g).length = i + 1 + g.length := by
      rw [List.length_cons]
      omega
    rw [spans, spans, hlen]

theorem masked_cons (n : Nat) (c : Char) (g : Text) (rest : List (Text × Text)) :
    masked n (c :: g) rest = c :: masked n g rest := by
  cases rest <;> rfl

/-- The literals that are taken out behind `p` are the leftmost matches there. -/
theorem exists_weave (p s : Text) (n : Nat) :
    ∃ g rest, s = weave g rest ∧
      maskFrom n p.getLast? s = ⟨masked n g rest, rest.map Prod.fst⟩ ∧
      Leftmost (p ++ s) p.length (spans p.length g rest) := by
  -- What is read goes over to `p`, so the positions stay those in the whole text.
  induction hn : s.length using Nat.strongRecOn generalizing p s n with
  | _ k ih =>
  subst hn
  rcases s with _ | ⟨c, s⟩
  · refine ⟨[], [], rfl, by rw [maskFrom]; rfl, fun k l hk h => ?_⟩
    have hle := h.le
    have hpos := h.pos
    rw [List.append_nil] at hle
    omega
  cases hl : if mayPrecedeLiteral p.getLast? then literal? (c :: s) else none with
  | none =>
    obtain ⟨g, rest, rfl, hmask, hleft⟩ := ih s.length (by simp) (p ++ [c]) s n rfl
    rw [List.getLast?_concat] at hmask
    rw [List.append_assoc, List.singleton_append, List.length_append, List.length_singleton,
      ← spans_cons] at hleft
    refine ⟨c :: g, rest, rfl, ?_, hleft.back fun l h => ?_⟩
    · rw [maskFrom_cons_of_none hl, hmask, masked_cons]
    · obtain ⟨hp, r, hr⟩ := literalAt_iff.1 h
      rw [if_pos hp, hr] at hl
      cases hl
  | some m =>
    obtain ⟨l, r⟩ := m
    split_ifs at hl with hp
    obtain ⟨hs, hm⟩ := literal?_eq_some_iff.1 hl
    have hlast : (p ++ l).getLast? = l.getLast? := List.getLast?_append_of_ne_nil p hm.ne_nil
    have hlen : r.length < (c :: s).length := by
      have := List.length_pos_iff.2 hm.ne_nil
      rw [hs, List.length_append]
      omega
    obtain ⟨g, rest, rfl, hmask, hleft⟩ := ih r.length hlen (p ++ l) r (n + 1) rfl
    rw [hlast] at hmask
    rw [hs] at hl ⊢
    rw [List.append_assoc, List.length_append] at hleft
    refine ⟨[], (l, g) :: rest, (weave_cons [] (l, g) rest).symm, ?_, Nat.le_refl _, ?_, ?_, hleft⟩
    · rw [maskFrom_literal hp hm.ne_nil hl, hmask]
      rfl
    · exact literalAt_iff.2 ⟨hp, _, hl⟩
    · intro k l' hk hlt
      exact absurd hlt (by simpa using hk)

end Scoping

end Stencil
