import Stencil.Proofs.Expr.Expressions

/-! # The iterations of a comprehension -/
namespace Stencil.Parser

variable {n : Nat}

theorem target_phrase (ha : Phrase (fun m => arithmetic m 1) 5 Expr.IsSingle n) :
    Phrase target 6 Expr.IsSingle (n + 1) := by
  intro ts v rest h
  by_cases hs : ∃ s, ts = .symbol .star :: s
  · obtain ⟨s, rfl⟩ := hs
    exact IsPhrase.behind (φ := fun e => e) rfl
      (fun _ _ => by rw [target]; simp only [Prod.eta, Option.bind_fun_some]) ha
      (fun _ he => he) (by omega) h
  · exact IsPhrase.same [.symbol .star]
      (fun m ts h => target.eq_3 ts m fun s hs => by simp [hs] at h) ha (by omega)
      (by simpa [List.head?_eq_some_iff] using hs) h

/-! ## The targets of one iteration -/

section Targets

variable {m : Nat} {ts r : Tokens} {e : Expr}

theorem targets_in (h : target m ts = some (e, .keyword .in_ :: r)) (he : isTarget e = true) :
    targets (m + 1) ts = some r := by
  rw [targets]
  simp only [h, he, Option.bind_eq_bind, Option.bind_some, if_true]
  rfl

theorem targets_comma_in (h : target m ts = some (e, .symbol .comma :: .keyword .in_ :: r))
    (he : isTarget e = true) : targets (m + 1) ts = some r := by
  rw [targets]
  simp only [h, he, Option.bind_eq_bind, Option.bind_some, if_true]
  rfl

theorem targets_comma (h : target m ts = some (e, .symbol .comma :: r)) (he : isTarget e = true)
    (hr : ∀ s, r = .keyword .in_ :: s → False) : targets (m + 1) ts = targets m r := by
  rw [targets]
  simp only [h, he, Option.bind_eq_bind, Option.bind_some, if_true]

end Targets

theorem targets_skips (ht : Phrase target 6 Expr.IsSingle n) (hts : Skips targets 7 n) :
    Skips targets 7 (n + 1) := by
  intro ts rest h
  cases h₁ : target n ts with
  | none => simp [targets, h₁] at h
  | some p =>
  obtain ⟨e, r⟩ := p
  cases he : isTarget e with
  | false => simp [targets, h₁, he] at h
  | true =>
  obtain ⟨u, a, rfl, hba, -, hra⟩ := ht _ _ _ h₁
  rw [targets] at h
  simp only [h₁, he, Option.bind_eq_bind, Option.bind_some, if_true] at h
  split at h
  next r' =>
    cases h
    have hin : Balanced [.keyword .in_] := .single rfl
    refine ⟨u, a ++ [Token.keyword .in_], by simp, hba.append hin, ?_⟩
    intro m q hm _
    obtain ⟨m, rfl⟩ : ∃ i, m = i + 1 := ⟨m - 1, by omega⟩
    simp only [size_cons, size_append] at hm
    have e₁ := hra m (.keyword .in_ :: q) (by simp; omega) (follow_cons (by simp) _ _)
    exact targets_in (by simpa using e₁) he
  next r' =>
    cases h
    have hin : Balanced [.symbol .comma, .keyword .in_] := (Balanced.single rfl).cons rfl
    refine ⟨u, a ++ [Token.symbol .comma, .keyword .in_], by simp, hba.append hin, ?_⟩
    intro m q hm _
    obtain ⟨m, rfl⟩ : ∃ i, m = i + 1 := ⟨m - 1, by omega⟩
    simp only [size_cons, size_append] at hm
    have e₁ := hra m (.symbol .comma :: .keyword .in_ :: q) (by simp; omega)
      (follow_cons (by simp) _ _)
    exact targets_comma_in (by simpa using e₁) he
  next r' hin =>
    obtain ⟨w, d, rfl, hbd, hrd⟩ := hts _ _ h
    refine ⟨u, a ++ .symbol .comma :: (w :: d), by simp, hba.append (hbd.cons rfl), ?_⟩
    intro m q hm _
    obtain ⟨m, rfl⟩ : ∃ i, m = i + 1 := ⟨m - 1, by omega⟩
    simp only [size_cons, size_append, Token.size_symbol] at hm
    have e₁ := hra m (.symbol .comma :: (w :: d ++ q)) (by simp; omega)
      (follow_cons (by simp) _ _)
    have e₀ : u :: (a ++ .symbol .comma :: (w :: d)) ++ q =
        u :: a ++ .symbol .comma :: (w :: d ++ q) := by simp
    rw [e₀, targets_comma e₁ he fun s hs => hin (d ++ rest) (by rw [← (List.cons.inj hs).1]; rfl)]
    exact hrd m q (by simp; omega) trivial
  next => cases h

/-! ## Conditions -/

/-- What `f` passes over at depth `n` is a stretch that may be empty. -/
def SkipsTail (f : Nat → Tokens → Option Tokens) (k n : Nat) : Prop :=
  ∀ ts rest, f n ts = some rest → ∃ c, ts = c ++ rest ∧ Balanced c ∧
    ∀ m r, 20 * size c + k ≤ m → follow r = follow rest → f m (c ++ r) = some r

theorem conditions_skips (hd : Phrase disjunction 8 Expr.IsSingle n)
    (hc : SkipsTail conditions 1 n) :
    SkipsTail conditions 1 (n + 1) := by
  intro ts rest h
  by_cases hif : ∃ s, ts = .keyword .if_ :: s
  · obtain ⟨s, rfl⟩ := hif
    have step : ∀ m q, conditions (m + 1) (.keyword .if_ :: q) =
        (disjunction m q).bind fun p => conditions m p.2 := fun m q => by rw [conditions]; rfl
    rw [step] at h
    obtain ⟨⟨e, r⟩, h₁, h₂⟩ := Option.bind_eq_some_iff.1 h
    obtain ⟨u, a, rfl, hba, -, hra⟩ := hd _ _ _ h₁
    obtain ⟨d, rfl, hbd, hrd⟩ := hc _ _ h₂
    refine ⟨.keyword .if_ :: (u :: a ++ d), by simp, (hba.append hbd).cons rfl, ?_⟩
    intro m q hm hfo
    obtain ⟨m, rfl⟩ : ∃ i, m = i + 1 := ⟨m - 1, by omega⟩
    simp only [size_cons, size_append, Token.size_keyword] at hm
    have e₁ := hra m (d ++ q) (by simp; omega) (follow_append d hfo)
    have e₂ := hrd m q (by omega) hfo
    rw [List.cons_append, step, List.append_assoc, e₁]
    exact e₂
  · have hif' : ∀ s, ts = .keyword .if_ :: s → False := fun s hs => hif ⟨s, hs⟩
    rw [conditions.eq_3 ts n hif'] at h
    cases h
    refine ⟨[], rfl, .nil, ?_⟩
    intro m q hm hfo
    obtain ⟨m, rfl⟩ : ∃ i, m = i + 1 := ⟨m - 1, by omega⟩
    exact conditions.eq_3 q m (not_cons_of_follow rfl hfo hif')

/-! ## Iterations -/

/-- A word that begins an iteration. -/
def IsIteration (t : Token) : Prop := t = .keyword .for_ ∨ t = .keyword .async_

/-- The targets of an iteration, what they run over, and its conditions. -/
def clauseHead (m : Nat) (ts : Tokens) : Option Tokens :=
  (targets m ts).bind fun r => (disjunction m r).bind fun p => conditions m p.2

theorem clauseHead_skips (ht : Skips targets 7 n) (hd : Phrase disjunction 8 Expr.IsSingle n)
    (hc : SkipsTail conditions 1 n) {ts rest : Tokens} (h : clauseHead n ts = some rest) :
    IsSkip clauseHead 8 (fun r => follow r = follow rest) ts rest := by
  obtain ⟨r₁, h₁, h'⟩ := Option.bind_eq_some_iff.1 h
  obtain ⟨⟨e, r₂⟩, h₂, h₃⟩ := Option.bind_eq_some_iff.1 h'
  obtain ⟨u, a, rfl, hba, hra⟩ := ht _ _ h₁
  obtain ⟨w, b, rfl, hbb, -, hrb⟩ := hd _ _ _ h₂
  obtain ⟨c, rfl, hbc, hrc⟩ := hc _ _ h₃
  refine ⟨u, a ++ (w :: b ++ c), by simp, hba.append (hbb.append hbc), ?_⟩
  intro m q hm hfo
  simp only [size_cons, size_append] at hm
  have e₁ := hra m (w :: b ++ (c ++ q)) (by simp; omega) trivial
  have e₂ := hrb m (c ++ q) (by simp; omega) (follow_append c hfo)
  have e₃ := hrc m q (by omega) hfo
  have e₀ : u :: (a ++ (w :: b ++ c)) ++ q = u :: a ++ (w :: b ++ (c ++ q)) := by simp
  rw [e₀, clauseHead, e₁, Option.bind_some, e₂]
  exact e₃

section Clauses

variable {m : Nat} {ts r : Tokens}

/-- Behind the word `for` stand the head of an iteration and, perhaps, a further one. -/
theorem clauses_for (m : Nat) (ts : Tokens) :
    clauses (m + 1) (.keyword .for_ :: ts) = (clauseHead m ts).bind fun r =>
      match r with
      | .keyword .for_ :: r => clauses m (.keyword .for_ :: r)
      | .keyword .async_ :: r => clauses m (.keyword .async_ :: r)
      | r => some r := by
  rw [clauses, clauseHead]
  simp only [Option.bind_assoc, Option.bind_eq_bind]
  rfl

theorem clauses_more {t : Token} (h : clauseHead m ts = some (t :: r)) (ht : IsIteration t) :
    clauses (m + 1) (.keyword .for_ :: ts) = clauses m (t :: r) := by
  rw [clauses_for, h]
  rcases ht with rfl | rfl <;> rfl

theorem clauses_last (h : clauseHead m ts = some r)
    (hr : ∀ t s, IsIteration t → r = t :: s → False) :
    clauses (m + 1) (.keyword .for_ :: ts) = some r := by
  rw [clauses_for, h, Option.bind_some]
  split
  next s => exact (hr _ s (.inl rfl) rfl).elim
  next s => exact (hr _ s (.inr rfl) rfl).elim
  next => rfl

end Clauses

theorem head_of_clauses {m : Nat} {ts rest : Tokens} (h : clauses m ts = some rest) :
    ∃ t s, ts = t :: s ∧ IsIteration t := by
  unfold clauses at h
  split at h
  · cases h
  · exact ⟨_, _, rfl, .inr rfl⟩
  · exact ⟨_, _, rfl, .inl rfl⟩
  · cases h

/-- What the iterations of a comprehension pass over at depth `n`. -/
def Iterates (n : Nat) : Prop :=
  ∀ ts rest, clauses n ts = some rest → IsSkip clauses 1 (fun r => follow r = follow rest) ts rest

theorem clauses_iterates (ht : Skips targets 7 n) (hd : Phrase disjunction 8 Expr.IsSingle n)
    (hc : SkipsTail conditions 1 n) (hcl : Iterates n) : Iterates (n + 1) := by
  intro ts rest h
  obtain ⟨t, s, rfl, hit⟩ := head_of_clauses h
  rcases hit.symm with rfl | rfl
  · by_cases hf : ∃ q, s = .keyword .for_ :: q
    · obtain ⟨q, rfl⟩ := hf
      rw [clauses] at h
      refine IsSkip.prefixed (hcl _ _ h) (.keyword .async_) [] (by decide) ?_ (by omega)
      intro m q hq
      obtain ⟨q, rfl⟩ := List.head?_eq_some_iff.1 hq
      exact clauses.eq_2 m q
    · rw [clauses.eq_4] at h
      · cases h
      · rintro q hq
        exact hf ⟨q, (List.cons.inj hq).2⟩
      · nofun
  obtain ⟨r, h₁, -⟩ := Option.bind_eq_some_iff.1 ((clauses_for n s).symm.trans h)
  by_cases hi : ∃ t r', r = t :: r' ∧ IsIteration t
  · obtain ⟨t, r', rfl, hit⟩ := hi
    rw [clauses_more h₁ hit] at h
    obtain ⟨u, a, rfl, hba, hra⟩ := clauseHead_skips ht hd hc h₁
    obtain ⟨x, d, hx, hbd, hrd⟩ := hcl _ _ h
    obtain ⟨rfl, rfl⟩ := List.cons.inj hx
    have hnot : t ≠ .keyword .not_ := by rcases hit with rfl | rfl <;> simp
    refine ⟨.keyword .for_, u :: a ++ (t :: d), by simp, (hba.append hbd).cons rfl, ?_⟩
    intro m q hm hfo
    obtain ⟨m, rfl⟩ : ∃ i, m = i + 1 := ⟨m - 1, by omega⟩
    simp only [size_cons, size_append, Token.size_keyword] at hm
    have e₁ := hra m (t :: (d ++ q)) (by simp; omega) (follow_cons hnot _ _)
    have e₀ : .keyword .for_ :: (u :: a ++ (t :: d)) ++ q =
        .keyword .for_ :: (u :: a ++ t :: (d ++ q)) := by simp
    rw [e₀, clauses_more e₁ hit]
    exact hrd m q (by simp; omega) hfo
  · have hi' : ∀ t r', IsIteration t → r = t :: r' → False := fun t r' ht hr => hi ⟨t, r', hr, ht⟩
    cases (clauses_last h₁ hi').symm.trans h
    obtain ⟨u, a, rfl, hba, hra⟩ := clauseHead_skips ht hd hc h₁
    refine ⟨.keyword .for_, u :: a, rfl, hba.cons rfl, ?_⟩
    intro m q hm hfo
    obtain ⟨m, rfl⟩ : ∃ i, m = i + 1 := ⟨m - 1, by omega⟩
    simp only [size_cons, Token.size_keyword] at hm
    refine clauses_last (hra m q (by simp; omega) hfo) fun t s hit hs => ?_
    have hstop : t.isStop = false := by rcases hit with rfl | rfl <;> rfl
    exact not_cons_of_follow hstop hfo (fun x hx => hi' t x hit hx) s hs

end Stencil.Parser
