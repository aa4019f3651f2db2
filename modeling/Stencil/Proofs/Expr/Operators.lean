import Stencil.Proofs.Expr.Phrase

/-! # Operands and operators read phrases -/
namespace Stencil.Parser

variable {n : Nat}

theorem alternatives_tail (hc : Phrase conjunction 7 Expr.IsSingle n)
    (ha : Tail alternatives 1 Regulars n) : Tail alternatives 1 Regulars (n + 1) :=
  Tail.repeated (.keyword .or_) rfl rfl (fun _ _ => by rw [alternatives]; rfl)
    (fun m ts h => alternatives.eq_3 ts m h) hc (by omega) ha

theorem requirements_tail (hi : Phrase inversion 6 Expr.IsSingle n)
    (hr : Tail requirements 1 Regulars n) : Tail requirements 1 Regulars (n + 1) :=
  Tail.repeated (.keyword .and_) rfl rfl (fun _ _ => by rw [requirements]; rfl)
    (fun m ts h => requirements.eq_3 ts m h) hi (by omega) hr

theorem isSingle_joined {c : Connective} {e : Expr} {es : List Expr} (he : e.IsSingle)
    (hes : Regulars es) : (if es.isEmpty then e else .connect c (e :: es)).IsSingle := by
  cases es with
  | nil => exact he
  | cons x xs =>
    refine ⟨?_, rfl⟩
    have := Regulars.cons he.1 hes
    simpa [Expr.isRegular, Regulars] using this

theorem disjunction_phrase (hc : Phrase conjunction 7 Expr.IsSingle n)
    (ha : Tail alternatives 1 Regulars n) : Phrase disjunction 8 Expr.IsSingle (n + 1) :=
  fun _ _ _ h => IsPhrase.andThen (h := fun _ => alternatives) []
    (fun _ _ _ => by rw [disjunction]; rfl) hc (fun _ _ => ha) (fun _ _ => isSingle_joined)
    (by omega) (by omega) (by simp) h

theorem conjunction_phrase (hi : Phrase inversion 6 Expr.IsSingle n)
    (hr : Tail requirements 1 Regulars n) : Phrase conjunction 7 Expr.IsSingle (n + 1) :=
  fun _ _ _ h => IsPhrase.andThen (h := fun _ => requirements) []
    (fun _ _ _ => by rw [conjunction]; rfl) hi (fun _ _ => hr) (fun _ _ => isSingle_joined)
    (by omega) (by omega) (by simp) h

/-! ## Comparisons -/

/-- A comparison is one or two tokens, and which one it is does not depend on what follows its
operand. -/
theorem comparison?_spec {ts : Tokens} {c : Comparison} {r : Tokens}
    (h : comparison? ts = some (c, r)) : ∃ t k, ts = t :: k ++ r ∧ Balanced (t :: k) ∧
      ∀ u s q, r = u :: s → comparison? (t :: k ++ u :: q) = some (c, u :: q) := by
  unfold comparison? at h
  split at h
  case h_8 r' hn =>
    cases h
    refine ⟨_, [], rfl, .single rfl, ?_⟩
    rintro u s q rfl
    exact comparison?.eq_8 _ fun x hx => hn s (by rw [(List.cons.inj hx).1])
  case h_11 => cases h
  case h_7 | h_10 =>
    cases h
    exact ⟨_, [_], rfl, (Balanced.single rfl).cons rfl, fun _ _ _ _ => rfl⟩
  all_goals
    cases h
    exact ⟨_, [], rfl, .single rfl, fun _ _ _ _ => rfl⟩

/-- Where no comparison stands, none stands in front of tokens that look the same. -/
theorem comparison?_none {ts q : Tokens} (h : comparison? ts = none) (hf : follow q = follow ts) :
    comparison? q = none := by
  cases hq : comparison? q with
  | none => rfl
  | some p =>
  exfalso
  unfold comparison? at hq
  split at hq
  case h_11 => cases hq
  case h_10 =>
    obtain ⟨q', rfl⟩ := eq_cons_of_follow rfl hf.symm
    rcases q' with _ | ⟨u, q'⟩
    · simp [follow, Token.isStop] at hf
    · have hu : u = .keyword .in_ := by simpa [follow, Token.isStop] using hf
      simp [hu, comparison?] at h
  case h_7 | h_8 =>
    obtain ⟨q', rfl⟩ := eq_cons_of_follow rfl hf.symm
    unfold comparison? at h
    split at h <;> simp_all
  all_goals
    obtain ⟨q', rfl⟩ := eq_cons_of_follow rfl hf.symm
    cases h

/-- Operands of comparisons. -/
def Compared (cs : List (Comparison × Expr)) : Prop := Regulars (cs.map Prod.snd)

theorem comparisons_tail (ha : Phrase (fun m => arithmetic m 1) 5 Expr.IsSingle n)
    (hc : Tail comparisons 1 Compared n) : Tail comparisons 1 Compared (n + 1) := by
  intro ts v rest h
  rw [comparisons] at h
  split at h
  next c ts' hcmp =>
    obtain ⟨t, k, rfl, hb, hread⟩ := comparison?_spec hcmp
    obtain ⟨⟨e, r₁⟩, h₁, h⟩ := Option.bind_eq_some_iff.1 h
    obtain ⟨⟨cs, r₂⟩, h₂, h⟩ := Option.bind_eq_some_iff.1 h
    cases h
    obtain ⟨u, a, rfl, hba, hea, hra⟩ := ha _ _ _ h₁
    obtain ⟨d, rfl, hbd, hed, hrd⟩ := hc _ _ _ h₂
    refine ⟨t :: k ++ (u :: a ++ d), by simp, hb.append (hba.append hbd), .cons hea.1 hed, ?_⟩
    intro m r hm hf
    obtain ⟨m, rfl⟩ : ∃ i, m = i + 1 := ⟨m - 1, by omega⟩
    have := t.size_pos
    simp only [size_append, size_cons] at hm
    have e₁ := hra m (d ++ r) (by simp; omega) (follow_append d hf)
    have e₂ := hrd m r (by omega) hf
    have e₀ : t :: k ++ (u :: a ++ d) ++ r = t :: k ++ u :: (a ++ d ++ r) := by simp
    rw [e₀, comparisons, hread u _ _ rfl]
    simp only [List.cons_append, List.append_assoc] at e₁ ⊢
    simp [e₁, e₂]
  next hcmp =>
    cases h
    refine ⟨[], rfl, .nil, .nil, ?_⟩
    intro m r hm hf
    obtain ⟨m, rfl⟩ : ∃ i, m = i + 1 := ⟨m - 1, by omega⟩
    rw [List.nil_append, comparisons, comparison?_none hcmp hf]

theorem inversion_phrase (hi : Phrase inversion 6 Expr.IsSingle n)
    (ha : Phrase (fun m => arithmetic m 1) 5 Expr.IsSingle n)
    (hc : Tail comparisons 1 Compared n) : Phrase inversion 6 Expr.IsSingle (n + 1) := by
  intro ts v rest h
  by_cases hn : ∃ s, ts = .keyword .not_ :: s
  · obtain ⟨s, rfl⟩ := hn
    exact IsPhrase.behind (φ := .unary .not) rfl (fun _ _ => by rw [inversion]; rfl) hi
      (fun e he => ⟨by simpa [Expr.isRegular] using he.1, rfl⟩) (by omega) h
  · refine IsPhrase.andThen (h := fun _ => comparisons)
      (φ := fun e cs =>
        if cs.isEmpty then e else .compare e (cs.map Prod.fst) (cs.map Prod.snd))
      [.keyword .not_] ?_ ha (fun _ _ => hc) ?_ (by omega) (by omega) ?_ h
    · intro m ts hts
      exact inversion.eq_3 ts m fun s hs => by simp [hs] at hts
    · rintro e (_ | ⟨c, cs⟩) he hcs
      · exact he
      · refine ⟨?_, rfl⟩
        have : e.isRegular && Expr.areRegular (List.map Prod.snd (c :: cs)) := by
          rw [he.1]; exact hcs
        simpa [Expr.isRegular] using this
    · simpa [List.head?_eq_some_iff] using hn

/-! ## Arithmetic -/

/-- Do the tokens begin with no operator of at least the given level? -/
def EndsAt (level : Nat) (ts : Tokens) : Prop :=
  ∀ t s op k, ts = t :: s → binaryOp? t = some (op, k) → k < level

theorem EndsAt.of_follow {level : Nat} {r q : Tokens} (h : EndsAt level r)
    (hf : follow q = follow r) : EndsAt level q := by
  rintro t s op k rfl hk
  have ht : t.isStop = false := by
    cases t with
    | symbol s => cases s <;> first | rfl | simp [binaryOp?] at hk
    | _ => rfl
  obtain ⟨q', rfl⟩ := eq_cons_of_follow ht hf.symm
  exact h t q' op k rfl hk

theorem operators_end {level : Nat} {ts : Tokens} (h : EndsAt level ts) (m : Nat) (e : Expr) :
    operators (m + 1) level e ts = some (e, ts) := by
  cases ts with
  | nil => rw [operators]
  | cons t ts =>
    rw [operators]
    cases hk : binaryOp? t with
    | none => rfl
    | some p =>
      have := h t ts p.1 p.2 rfl hk
      simp [Nat.not_le.2 this]

theorem operators_tail {level : Nat}
    (ha : ∀ l, Phrase (fun m => arithmetic m l) 5 Expr.IsSingle n)
    (ho : ∀ e : Expr, e.IsSingle → Tail (fun m => operators m level e) 1 Expr.IsSingle n) {e : Expr}
    (he : e.IsSingle) : Tail (fun m => operators m level e) 1 Expr.IsSingle (n + 1) := by
  intro ts v rest h
  by_cases hend : EndsAt level ts
  · obtain ⟨rfl, rfl⟩ := Prod.mk.inj (Option.some.inj ((operators_end hend n e).symm.trans h))
    refine ⟨[], rfl, .nil, he, ?_⟩
    intro m r hm hf
    obtain ⟨m, rfl⟩ : ∃ i, m = i + 1 := ⟨m - 1, by omega⟩
    exact operators_end (hend.of_follow hf) m e
  · simp only [EndsAt, Classical.not_forall, Nat.not_lt] at hend
    obtain ⟨t, s, op, k, rfl, hk, hl⟩ := hend
    have step : ∀ m q, operators (m + 1) level e (t :: q) =
        (arithmetic m (k + 1) q).bind fun p => operators m level (.binary op e p.1) p.2 := by
      intro m q
      rw [operators]
      simp [hk, hl]
    obtain ⟨⟨x, r₁⟩, h₁, h₂⟩ := Option.bind_eq_some_iff.1 ((step n s).symm.trans h)
    obtain ⟨u, a, rfl, hba, hea, hra⟩ := ha _ _ _ _ h₁
    have hx : (Expr.binary op e x).IsSingle := ⟨by simp [Expr.isRegular, he.1, hea.1], rfl⟩
    obtain ⟨d, rfl, hbd, hed, hrd⟩ := ho _ hx _ _ _ h₂
    have ht : t.isBracket = false := by
      cases t with
      | symbol s => cases s <;> first | rfl | simp [binaryOp?] at hk
      | _ => rfl
    refine ⟨t :: (u :: a ++ d), by simp, (hba.append hbd).cons ht, hed, ?_⟩
    intro m r hm hf
    obtain ⟨m, rfl⟩ : ∃ i, m = i + 1 := ⟨m - 1, by omega⟩
    have := t.size_pos
    simp only [size_append, size_cons] at hm
    have e₁ := hra m (d ++ r) (by simp; omega) (follow_append d hf)
    have e₂ := hrd m r (by omega) hf
    change operators (m + 1) level e (t :: (u :: a ++ d ++ r)) = some (v, r)
    rw [step, List.append_assoc]
    exact (congrArg (Option.bind · _) e₁).trans e₂

theorem arithmetic_phrase {level : Nat} (hf : Phrase factor 4 Expr.IsSingle n)
    (ho : ∀ e : Expr, e.IsSingle → Tail (fun m => operators m level e) 1 Expr.IsSingle n) :
    Phrase (fun m => arithmetic m level) 5 Expr.IsSingle (n + 1) :=
  fun _ _ _ h => IsPhrase.andThen (f := fun m => arithmetic m level)
    (h := fun e m => operators m level e) (φ := fun _ e => e) []
    (fun m ts _ => by rw [arithmetic]; simp only [Prod.eta, Option.bind_fun_some]; rfl)
    hf ho (fun _ _ _ he => he) (by omega) (by omega)
    (by simp) h

end Stencil.Parser
