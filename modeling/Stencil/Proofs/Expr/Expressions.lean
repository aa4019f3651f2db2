import Stencil.Proofs.Expr.Operands

/-! # Expressions, lambdas and assignments read phrases -/
namespace Stencil.Parser

variable {n : Nat}

/-! ## Parameters of a lambda -/

/-- The stage behind a named parameter. -/
def ParameterStage.behindName : ParameterStage → ParameterStage
  | .first => .plain
  | .bare => .keywordOnly
  | s => s

theorem parameters_default {m : Nat} {stage : ParameterStage} {o : Bool} {s : Text} {ts : Tokens} :
    parameters (m + 1) stage o (.name s :: .symbol .assign :: ts) =
      if stage = .last then none
      else (expression m ts).bind fun p => parameterEnd m stage.behindName true p.2 := by
  cases stage <;> rw [parameters] <;> first | rfl | nofun

theorem parameters_name {m : Nat} {stage : ParameterStage} {o : Bool} {s : Text} {ts : Tokens}
    (h : ts.head? ≠ some (.symbol .assign)) :
    parameters (m + 1) stage o (.name s :: ts) =
      if stage = .last ∨ (o ∧ (stage = .first ∨ stage = .plain ∨ stage = .afterSlash)) then none
      else parameterEnd m stage.behindName o ts := by
  cases stage <;> rw [parameters] <;>
    first
      | rfl
      | exact fun r hr => h (by rw [hr]; rfl)
      | nofun

theorem head_of_parameterEnd {m : Nat} {stage : ParameterStage} {o : Bool} {ts rest : Tokens}
    (h : parameterEnd m stage o ts = some rest) :
    ∃ s r, ts = .symbol s :: r ∧ (s = .comma ∨ s = .colon) := by
  unfold parameterEnd at h
  split at h
  · cases h
  · exact ⟨_, _, rfl, .inl rfl⟩
  · exact ⟨_, _, rfl, .inr rfl⟩
  · cases h

theorem named_isBracket {s : Symbol} {x : Text} (hs : (Token.symbol s).isBracket = false) :
    ∀ u ∈ [.symbol s, .name x], Token.isBracket u = false := by
  simpa using ⟨hs, rfl⟩

/-- A default value is read, and then the end of the parameter. -/
theorem parameters_default_skip (he : Phrase expression 9 Expr.IsSingle n)
    (hend : ∀ s o, Skips (fun m => parameterEnd m s o) 1 n) {stage : ParameterStage} {o : Bool}
    {s : Text} {ts rest : Tokens}
    (h : parameters (n + 1) stage o (.name s :: .symbol .assign :: ts) = some rest) :
    IsSkip (fun m => parameters m stage o) 1 (fun _ => True) (.name s :: .symbol .assign :: ts)
      rest := by
  rw [parameters_default] at h
  split_ifs at h with hl
  obtain ⟨⟨e, r⟩, h₁, h₂⟩ := Option.bind_eq_some_iff.1 h
  obtain ⟨u, a, rfl, hba, -, hra⟩ := he _ _ _ h₁
  obtain ⟨w, d, rfl, hbd, hrd⟩ := hend _ _ _ _ h₂
  -- the value is read alike in front of every rest, as `not in` cannot begin behind it
  have hw : w ≠ .keyword .not_ := by
    obtain ⟨x, _, hx, -⟩ := head_of_parameterEnd h₂
    simp [(List.cons.inj hx).1]
  refine ⟨.name s, .symbol .assign :: (u :: a ++ (w :: d)), by simp,
    ((hba.append hbd).cons rfl).cons rfl, ?_⟩
  intro m r hm hfo
  obtain ⟨m, rfl⟩ : ∃ i, m = i + 1 := ⟨m - 1, by omega⟩
  simp only [size_cons, size_append, Token.size_name, Token.size_symbol] at hm
  have e₁ := hra m (w :: (d ++ r)) (by simp; omega) (follow_cons hw _ _)
  have e₂ := hrd m r (by simp; omega) trivial
  have e₀ : .name s :: .symbol .assign :: (u :: a ++ (w :: d)) ++ r =
      .name s :: .symbol .assign :: (u :: a ++ w :: (d ++ r)) := by simp
  change parameters (m + 1) stage o _ = _
  rw [e₀, parameters_default, if_neg hl, e₁]
  exact e₂

/-- A star stands alone, with parameters behind its comma, or in front of the name of one. -/
theorem parameters_star_skip (hp : ∀ s o, Skips (fun m => parameters m s o) 1 n)
    (hend : ∀ s o, Skips (fun m => parameterEnd m s o) 1 n) {stage : ParameterStage} {o : Bool}
    {ts rest : Tokens} (h : parameters (n + 1) stage o (.symbol .star :: ts) = some rest) :
    IsSkip (fun m => parameters m stage o) 1 (fun _ => True) (.symbol .star :: ts) rest := by
  rcases ts with _ | ⟨u, ts⟩
  · cases h
  cases u with
  | name s =>
    rw [parameters] at h
    split_ifs at h with hl
    refine IsSkip.prefixed (hend _ _ _ _ h) _ [.name s] (named_isBracket rfl) ?_ (by omega)
    intro m q hq
    change parameters (m + 1) stage o (.symbol .star :: .name s :: q) = _
    rw [parameters, if_pos hl]
  | symbol s =>
    cases s with
    | comma =>
      rw [parameters] at h
      split_ifs at h with hl
      refine IsSkip.prefixed (hp _ _ _ _ h) _ [.symbol .comma] (by decide) ?_ (by omega)
      intro m q hq
      change parameters (m + 1) stage o (.symbol .star :: .symbol .comma :: q) = _
      rw [parameters, if_pos hl]
    | _ => cases h
  | _ => cases h

theorem parameters_skips (he : Phrase expression 9 Expr.IsSingle n)
    (hp : ∀ s o, Skips (fun m => parameters m s o) 1 n)
    (hend : ∀ s o, Skips (fun m => parameterEnd m s o) 1 n) (stage : ParameterStage) (o : Bool) :
    Skips (fun m => parameters m stage o) 1 (n + 1) := by
  intro ts rest h
  change parameters (n + 1) stage o ts = some rest at h
  rcases ts with _ | ⟨t, ts⟩
  · cases h
  cases t with
  | name s =>
    by_cases ha : ts.head? = some (.symbol .assign)
    · obtain ⟨ts, rfl⟩ := List.head?_eq_some_iff.1 ha
      exact parameters_default_skip he hend h
    · rw [parameters_name ha] at h
      split_ifs at h with hl
      refine IsSkip.prefixed (hend _ _ _ _ h) (.name s) [] (by simp [Token.isBracket]) ?_ (by omega)
      intro m q hq
      change parameters (m + 1) stage o (.name s :: q) = _
      rw [parameters_name (hq ▸ ha), if_neg hl]
  | symbol s =>
    cases s with
    | colon =>
      rw [parameters] at h
      split_ifs at h with hl
      cases h
      refine ⟨_, [], rfl, .single rfl, ?_⟩
      intro m r hm _
      obtain ⟨m, rfl⟩ : ∃ i, m = i + 1 := ⟨m - 1, by simp at hm; omega⟩
      change parameters (m + 1) stage o (.symbol .colon :: r) = _
      rw [parameters, if_neg hl]
    | slash =>
      rw [parameters] at h
      split_ifs at h with hl
      refine IsSkip.prefixed (hend _ _ _ _ h) _ [] (by decide) ?_ (by omega)
      intro m q hq
      change parameters (m + 1) stage o (.symbol .slash :: q) = _
      rw [parameters, if_pos hl]
    | star => exact parameters_star_skip hp hend h
    | doubleStar =>
      rcases ts with _ | ⟨u, ts⟩
      · cases h
      cases u with
      | name s =>
        rw [parameters] at h
        split_ifs at h with hl
        refine IsSkip.prefixed (hend _ _ _ _ h) _ [.name s] (named_isBracket rfl) ?_ (by omega)
        intro m q hq
        change parameters (m + 1) stage o (.symbol .doubleStar :: .name s :: q) = _
        rw [parameters, if_neg hl]
      | _ => cases h
    | _ => cases h
  | _ => cases h

theorem parameterEnd_skips (hp : ∀ s o, Skips (fun m => parameters m s o) 1 n)
    (stage : ParameterStage) (o : Bool) : Skips (fun m => parameterEnd m stage o) 1 (n + 1) := by
  intro ts rest h
  change parameterEnd (n + 1) stage o ts = some rest at h
  obtain ⟨s, r, rfl, rfl | rfl⟩ := head_of_parameterEnd h
  · rw [parameterEnd] at h
    refine IsSkip.prefixed (hp _ _ _ _ h) _ [] (by decide) ?_ (by omega)
    intro m q _
    exact parameterEnd.eq_2 stage o m q
  · rw [parameterEnd] at h
    cases h
    refine ⟨_, [], rfl, .single rfl, ?_⟩
    intro m q hm _
    obtain ⟨m, rfl⟩ : ∃ i, m = i + 1 := ⟨m - 1, by simp at hm; omega⟩
    exact parameterEnd.eq_3 stage o m q

/-! ## Expressions -/

theorem expression_lambda {m : Nat} {ts : Tokens} :
    expression (m + 1) (.keyword .lambda_ :: ts) =
      (parameters m .first false ts).bind fun r =>
        (expression m r).bind fun p => some (.construct .lambda, p.2) := by
  rw [expression]
  rfl

theorem expression_choose {m : Nat} {ts r q : Tokens} {y t : Expr}
    (hl : ∀ s, ts = .keyword .lambda_ :: s → False)
    (hy : disjunction m ts = some (y, .keyword .if_ :: r))
    (ht : disjunction m r = some (t, .keyword .else_ :: q)) :
    expression (m + 1) ts = (expression m q).bind fun p => some (.choose t y p.1, p.2) := by
  rw [expression.eq_3 ts m hl]
  simp only [hy, ht, Option.bind_eq_bind, Option.bind_some]
  rfl

theorem expression_plain {m : Nat} {ts r : Tokens} {y : Expr}
    (hl : ∀ s, ts = .keyword .lambda_ :: s → False) (hy : disjunction m ts = some (y, r))
    (hr : ∀ s, r = .keyword .if_ :: s → False) : expression (m + 1) ts = some (y, r) := by
  rw [expression.eq_3 ts m hl]
  simp only [hy, Option.bind_eq_bind, Option.bind_some]
  rfl

/-- The parameters of a lambda and its body are a phrase behind the keyword. -/
theorem expression_lambda_phrase (he : Phrase expression 9 Expr.IsSingle n)
    (hp : ∀ s o, Skips (fun m => parameters m s o) 1 n) {ts rest : Tokens} {v : Expr}
    (h : expression (n + 1) (.keyword .lambda_ :: ts) = some (v, rest)) :
    IsPhrase expression 9 Expr.IsSingle (.keyword .lambda_ :: ts) v rest := by
  rw [expression_lambda] at h
  obtain ⟨r, h₁, h₂⟩ := Option.bind_eq_some_iff.1 h
  obtain ⟨⟨e, r'⟩, h₃, h₄⟩ := Option.bind_eq_some_iff.1 h₂
  cases h₄
  obtain ⟨u, a, rfl, hba, hra⟩ := hp _ _ _ _ h₁
  obtain ⟨w, d, rfl, hbd, -, hrd⟩ := he _ _ _ h₃
  refine ⟨.keyword .lambda_, u :: a ++ (w :: d), by simp, (hba.append hbd).cons rfl,
    ⟨rfl, rfl⟩, ?_⟩
  intro m r hm hfo
  obtain ⟨m, rfl⟩ : ∃ i, m = i + 1 := ⟨m - 1, by omega⟩
  simp only [size_cons, size_append, Token.size_keyword] at hm
  have e₁ : parameters m .first false _ = _ := hra m (w :: d ++ r) (by simp; omega) trivial
  have e₂ := hrd m r (by simp; omega) hfo
  have e₀ : .keyword .lambda_ :: (u :: a ++ (w :: d)) ++ r =
      .keyword .lambda_ :: (u :: a ++ (w :: d ++ r)) := by simp
  rw [e₀, expression_lambda, e₁, Option.bind_some, e₂]
  rfl

/-- Two disjunctions and an expression, with `if` and `else` between them, are a phrase. -/
theorem expression_choose_phrase (hd : Phrase disjunction 8 Expr.IsSingle n)
    (he : Phrase expression 9 Expr.IsSingle n) {ts r q rest : Tokens} {y t v : Expr}
    (hl : ∀ s, ts = .keyword .lambda_ :: s → False)
    (hy : disjunction n ts = some (y, .keyword .if_ :: r))
    (ht : disjunction n r = some (t, .keyword .else_ :: q))
    (h : expression (n + 1) ts = some (v, rest)) :
    IsPhrase expression 9 Expr.IsSingle ts v rest := by
  rw [expression_choose hl hy ht] at h
  obtain ⟨⟨x, r₃⟩, hx, hv⟩ := Option.bind_eq_some_iff.1 h
  cases hv
  obtain ⟨u, a, rfl, hba, hya, hra⟩ := hd _ _ _ hy
  obtain ⟨w, b, rfl, hbb, htb, hrb⟩ := hd _ _ _ ht
  obtain ⟨z, d, rfl, hbd, hxd, hrd⟩ := he _ _ _ hx
  have hu : ∀ q s, u :: a ++ q = .keyword .lambda_ :: s → False :=
    fun q s hs => hl _ (congrArg (· :: _) (List.cons.inj hs).1)
  refine ⟨u, a ++ .keyword .if_ :: (w :: b ++ .keyword .else_ :: (z :: d)), by simp,
    hba.append ((hbb.append (hbd.cons rfl)).cons rfl),
    ⟨by simp [Expr.isRegular, hya.1, htb.1, hxd.1], rfl⟩, ?_⟩
  intro m r hm hfo
  obtain ⟨m, rfl⟩ : ∃ i, m = i + 1 := ⟨m - 1, by omega⟩
  simp only [size_cons, size_append, Token.size_keyword] at hm
  have e₁ := hra m (.keyword .if_ :: (w :: b ++ .keyword .else_ :: (z :: d ++ r)))
    (by simp; omega) (follow_cons (by simp) _ _)
  have e₂ := hrb m (.keyword .else_ :: (z :: d ++ r)) (by simp; omega)
    (follow_cons (by simp) _ _)
  have e₃ := hrd m r (by simp; omega) hfo
  have e₀ : u :: (a ++ .keyword .if_ :: (w :: b ++ .keyword .else_ :: (z :: d))) ++ r =
      u :: a ++ .keyword .if_ :: (w :: b ++ .keyword .else_ :: (z :: d ++ r)) := by simp
  rw [e₀, expression_choose (hu _) e₁ e₂, e₃]
  rfl

theorem expression_phrase (hd : Phrase disjunction 8 Expr.IsSingle n)
    (he : Phrase expression 9 Expr.IsSingle n)
    (hp : ∀ s o, Skips (fun m => parameters m s o) 1 n) :
    Phrase expression 9 Expr.IsSingle (n + 1) := by
  intro ts v rest h
  by_cases hlam : ∃ s, ts = .keyword .lambda_ :: s
  · obtain ⟨s, rfl⟩ := hlam
    exact expression_lambda_phrase he hp h
  have hl : ∀ s, ts = .keyword .lambda_ :: s → False := fun s hs => hlam ⟨s, hs⟩
  cases h₁ : disjunction n ts with
  | none => simp [expression.eq_3 ts n hl, h₁] at h
  | some p =>
  obtain ⟨y, r₁⟩ := p
  by_cases hif : ∃ s, r₁ = .keyword .if_ :: s
  · obtain ⟨s, rfl⟩ := hif
    cases h₂ : disjunction n s with
    | none =>
      rw [expression.eq_3 _ n hl] at h
      simp only [h₁, h₂, Option.bind_eq_bind, Option.bind_some, Option.bind_none,
        reduceCtorEq] at h
    | some p =>
    obtain ⟨t, r₂⟩ := p
    by_cases helse : ∃ q, r₂ = .keyword .else_ :: q
    · obtain ⟨q, rfl⟩ := helse
      exact expression_choose_phrase hd he hl h₁ h₂ h
    · rw [expression.eq_3 _ n hl] at h
      simp only [h₁, h₂, Option.bind_eq_bind, Option.bind_some] at h
      split at h
      next q => exact absurd ⟨q, rfl⟩ helse
      next => cases h
  · have hif' : ∀ s, r₁ = .keyword .if_ :: s → False := fun s hs => hif ⟨s, hs⟩
    cases (expression_plain hl h₁ hif').symm.trans h
    obtain ⟨u, a, rfl, hba, hya, hra⟩ := hd _ _ _ h₁
    have hu : ∀ q s, u :: a ++ q = .keyword .lambda_ :: s → False :=
      fun q s hs => hl _ (congrArg (· :: _) (List.cons.inj hs).1)
    refine ⟨u, a, rfl, hba, hya, ?_⟩
    intro m r hm hfo
    obtain ⟨m, rfl⟩ : ∃ i, m = i + 1 := ⟨m - 1, by omega⟩
    exact expression_plain (hu r) (hra m r (by omega) hfo) (not_cons_of_follow rfl hfo hif')

/-! ## Assignments and spreads -/

theorem assignment_phrase (he : Phrase expression 9 Expr.IsSingle n) :
    Phrase assignment 10 Expr.IsSingle (n + 1) := by
  intro ts v rest h
  by_cases hw : ∃ s q, ts = .name s :: .symbol .walrus :: q
  · obtain ⟨s, q, rfl⟩ := hw
    rw [assignment] at h
    obtain ⟨⟨e, r⟩, h₁, h₂⟩ := Option.bind_eq_some_iff.1 h
    cases h₂
    obtain ⟨u, a, rfl, hba, -, hra⟩ := he _ _ _ h₁
    refine ⟨.name s, .symbol .walrus :: (u :: a), by simp, (hba.cons rfl).cons rfl, ⟨rfl, rfl⟩, ?_⟩
    intro m r hm hfo
    obtain ⟨m, rfl⟩ : ∃ i, m = i + 1 := ⟨m - 1, by omega⟩
    simp only [size_cons, Token.size_name, Token.size_symbol] at hm
    have e := hra m r (by simp; omega) hfo
    rw [List.cons_append, List.cons_append, assignment, e]
    rfl
  · have hw' : ∀ s q, ts = .name s :: .symbol .walrus :: q → False := fun s q h => hw ⟨s, q, h⟩
    rw [assignment.eq_3 ts n hw'] at h
    obtain ⟨u, a, rfl, hba, hva, hra⟩ := he _ _ _ h
    refine ⟨u, a, rfl, hba, hva, ?_⟩
    intro m r hm hfo
    obtain ⟨m, rfl⟩ : ∃ i, m = i + 1 := ⟨m - 1, by omega⟩
    rw [assignment.eq_3 _ m (not_named_of_follow rfl hfo hw')]
    exact hra m r (by omega) hfo

/-- An expression, or one behind a star. -/
theorem spread_phrase {f g : Nat → Tokens → Option (Expr × Tokens)} {k kg : Nat}
    (hstar : ∀ m ts, f (m + 1) (.symbol .star :: ts) =
      (arithmetic m 1 ts).bind fun p => some (.spread p.1, p.2))
    (hother : ∀ m ts, (∀ t ∈ [Token.symbol .star], ts.head? ≠ some t) → f (m + 1) ts = g m ts)
    (ha : Phrase (fun m => arithmetic m 1) 5 Expr.IsSingle n) (hg : Phrase g kg Expr.IsSingle n)
    (hk : kg < k) : Phrase f k (·.isRegular = true) (n + 1) := by
  intro ts v rest h
  by_cases hs : ∃ s, ts = .symbol .star :: s
  · obtain ⟨s, rfl⟩ := hs
    exact IsPhrase.behind (φ := .spread) rfl hstar ha
      (fun e he => by simpa [Expr.isRegular] using he.1) (by omega) h
  · have hg' : Phrase g kg (·.isRegular = true) n := by
      intro ts v rest h
      obtain ⟨u, a, hts, hb, hv, hr⟩ := hg _ _ _ h
      exact ⟨u, a, hts, hb, hv.1, hr⟩
    exact IsPhrase.same [.symbol .star] hother hg' hk
      (by simpa [List.head?_eq_some_iff] using hs) h

theorem starExpression_phrase (ha : Phrase (fun m => arithmetic m 1) 5 Expr.IsSingle n)
    (he : Phrase expression 9 Expr.IsSingle n) :
    Phrase starExpression 10 (·.isRegular = true) (n + 1) :=
  spread_phrase (fun _ _ => by rw [starExpression]; rfl)
    (fun m ts h => starExpression.eq_3 ts m fun s hs => by simp [hs] at h) ha he (by omega)

theorem element_phrase (ha : Phrase (fun m => arithmetic m 1) 5 Expr.IsSingle n)
    (hg : Phrase assignment 10 Expr.IsSingle n) : Phrase element 11 (·.isRegular = true) (n + 1) :=
  spread_phrase (fun _ _ => by rw [element]; rfl)
    (fun m ts h => element.eq_3 ts m fun s hs => by simp [hs] at h) ha hg (by omega)

end Stencil.Parser
