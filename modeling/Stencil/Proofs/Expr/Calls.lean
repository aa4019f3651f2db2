import Stencil.Proofs.Expr.Displays

/-! # Arguments and subscripts go up to the mark that closes them -/
namespace Stencil.Parser

variable {n : Nat}

/-! ## Arguments -/

theorem RegularArguments.nil : RegularArguments ([], []) := ⟨.nil, .nil⟩

theorem head_of_argumentEnd {m : Nat} {stage : ArgumentStage} {ts : Tokens}
    {p : (List Expr × List Expr) × Tokens} (h : argumentEnd m stage ts = some p) :
    ∃ s r, ts = .symbol s :: r ∧ (s = .comma ∨ s = .parenClose) := by
  unfold argumentEnd at h
  split at h
  · cases h
  · exact ⟨_, _, rfl, .inr rfl⟩
  · exact ⟨_, _, rfl, .inl rfl⟩
  · cases h

theorem argumentEnd_closed
    (ha : ∀ s o, Closed (fun m => arguments m s o) .parenClose 11 RegularArguments n)
    (stage : ArgumentStage) :
    Closed (fun m => argumentEnd m stage) .parenClose 1 RegularArguments (n + 1) := by
  intro ts v rest h
  change argumentEnd (n + 1) stage ts = some (v, rest) at h
  obtain ⟨s, r, rfl, rfl | rfl⟩ := head_of_argumentEnd h
  · rw [argumentEnd] at h
    obtain ⟨d, rfl, hbd, hv, hrd⟩ := ha _ _ _ _ _ h
    refine ⟨.symbol .comma :: d, rfl, hbd.cons rfl, hv, ?_⟩
    intro m r hm
    simp only [size_cons, Token.size_symbol] at hm
    obtain ⟨m, rfl⟩ : ∃ i, m = i + 1 := ⟨m - 1, by omega⟩
    exact (argumentEnd.eq_3 stage m _).trans (hrd m r (by omega))
  · rw [argumentEnd] at h
    cases h
    refine ⟨[], rfl, .nil, .nil, ?_⟩
    intro m r hm
    obtain ⟨m, rfl⟩ : ∃ i, m = i + 1 := ⟨m - 1, by omega⟩
    exact argumentEnd.eq_2 stage m r

/-- An argument behind a mark, and what follows it. -/
theorem marked_argument (he : Phrase expression 9 Expr.IsSingle n)
    (hend : ∀ s, Closed (fun m => argumentEnd m s) .parenClose 1 RegularArguments n)
    {f : Nat → Tokens → Option ((List Expr × List Expr) × Tokens)} (stage : ArgumentStage)
    {φ : Expr → List Expr × List Expr → List Expr × List Expr} (t : Token) (pre : Tokens)
    (hpre : Balanced (t :: pre))
    (hf : ∀ m q, f (m + 1) (t :: pre ++ q) = (expression m q).bind fun p =>
      (argumentEnd m stage p.2).bind fun r => some (φ p.1 r.1, r.2))
    (hφ : ∀ e p, e.isRegular = true → RegularArguments p → RegularArguments (φ e p))
    {ts rest : Tokens} {v : List Expr × List Expr}
    (h : f (n + 1) (t :: pre ++ ts) = some (v, rest)) :
    ∃ c, t :: pre ++ ts = c ++ .symbol .parenClose :: rest ∧ Balanced c ∧ RegularArguments v ∧
      ∀ m r, 20 * size c + 11 ≤ m → f m (c ++ .symbol .parenClose :: r) = some (v, r) := by
  rw [hf] at h
  obtain ⟨⟨e, r₁⟩, h₁, h₂⟩ := Option.bind_eq_some_iff.1 h
  obtain ⟨⟨p, r₂⟩, h₃, h₄⟩ := Option.bind_eq_some_iff.1 h₂
  cases h₄
  obtain ⟨u, a, rfl, hba, hea, hra⟩ := he _ _ _ h₁
  obtain ⟨d, rfl, hbd, hp, hrd⟩ := hend _ _ _ _ h₃
  refine ⟨t :: pre ++ (u :: a ++ d), by simp, hpre.append (hba.append hbd), hφ e p hea.1 hp, ?_⟩
  intro m q hm
  obtain ⟨m, rfl⟩ : ∃ i, m = i + 1 := ⟨m - 1, by omega⟩
  simp only [size_cons, size_append] at hm
  have := t.size_pos
  have e₁ := hra m (d ++ .symbol .parenClose :: q) (by simp; omega)
    (follow_append d (follow_cons (by simp) _ _))
  have e₂ : argumentEnd m stage _ = _ := hrd m q (by omega)
  have e₀ : t :: pre ++ (u :: a ++ d) ++ .symbol .parenClose :: q =
      t :: pre ++ (u :: a ++ (d ++ .symbol .parenClose :: q)) := by simp
  rw [e₀, hf, e₁, Option.bind_some, e₂]
  rfl

theorem RegularArguments.given {e : Expr} {p : List Expr × List Expr} (he : e.isRegular = true)
    (hp : RegularArguments p) : RegularArguments (e :: p.1, p.2) := ⟨.cons he hp.1, hp.2⟩

theorem RegularArguments.named {e : Expr} {p : List Expr × List Expr} (he : e.isRegular = true)
    (hp : RegularArguments p) : RegularArguments (p.1, e :: p.2) := ⟨hp.1, .cons he hp.2⟩

/-- The tokens begin neither with the end of the arguments nor with the mark of one. -/
structure Unmarked (ts : Tokens) : Prop where
  close : ∀ r, ts = .symbol .parenClose :: r → False
  star : ∀ r, ts = .symbol .star :: r → False
  doubleStar : ∀ r, ts = .symbol .doubleStar :: r → False
  named : ∀ s r, ts = .name s :: .symbol .assign :: r → False

/-- What follows an argument without a mark. -/
def argumentRest (m : Nat) (only : Bool) (e : Expr) (ts : Tokens) :
    Option ((List Expr × List Expr) × Tokens) :=
  match ts with
  | .symbol .comma :: r =>
    (arguments m .positional false r).bind fun q => some ((e :: q.1.1, q.1.2), q.2)
  | .symbol .parenClose :: r => some (([e], []), r)
  | r =>
    if only then
      (clauses m r).bind fun
        | .symbol .parenClose :: q => some (([.construct .generator], []), q)
        | _ => none
    else none

theorem arguments_unmarked {m : Nat} {only : Bool} {ts : Tokens} {stage : ArgumentStage}
    (hu : Unmarked ts) : arguments (m + 1) stage only ts =
      if stage = .positional then
        (assignment m ts).bind fun p => argumentRest m only p.1 p.2
      else none := by
  rw [arguments.eq_6 stage only ts m hu.close hu.star hu.doubleStar hu.named]
  by_cases hs : stage = .positional
  · subst hs
    rfl
  · rw [if_neg hs, if_neg hs]

theorem argumentRest_closed
    (ha : ∀ s o, Closed (fun m => arguments m s o) .parenClose 11 RegularArguments n)
    (hcl : Iterates n) (only : Bool) {e : Expr} (he : e.isRegular = true) :
    Closed (fun m => argumentRest m only e) .parenClose 1 RegularArguments n := by
  intro ts v rest h
  change argumentRest n only e ts = some (v, rest) at h
  unfold argumentRest at h
  split at h
  next r =>
    obtain ⟨⟨p, r₂⟩, h₁, h₂⟩ := Option.bind_eq_some_iff.1 h
    cases h₂
    obtain ⟨d, rfl, hbd, hp, hrd⟩ := ha _ _ _ _ _ h₁
    refine ⟨.symbol .comma :: d, rfl, hbd.cons rfl, .given he hp, ?_⟩
    intro m q hm
    simp only [size_cons, Token.size_symbol] at hm
    have e₁ : arguments m .positional false _ = _ := hrd m q (by omega)
    change argumentRest m only e (.symbol .comma :: (d ++ .symbol .parenClose :: q)) = _
    rw [argumentRest, e₁]
    rfl
  next r =>
    cases h
    exact ⟨[], rfl, .nil, .given he .nil, fun _ _ _ => rfl⟩
  next h₁ h₂ =>
    split_ifs at h with honly
    obtain ⟨r, hr, h₃⟩ := Option.bind_eq_some_iff.1 h
    split at h₃
    next r =>
      cases h₃
      obtain ⟨t, d, rfl, hd, hit, hread⟩ := hcl.closing rfl hr
      refine ⟨t :: d, rfl, hd, .given rfl .nil, ?_⟩
      intro m q hm
      change argumentRest m only e (t :: d ++ .symbol .parenClose :: q) = _
      rw [argumentRest, if_pos honly, hread .parenClose rfl m q (by omega)]
      · rfl
      · intro s hs
        rcases hit with rfl | rfl <;> cases (List.cons.inj hs).1
      · exact fun s hs => hd.head_opens rfl (List.cons.inj hs).1
    next => cases h₃

theorem arguments_closed (he : Phrase expression 9 Expr.IsSingle n)
    (has : Phrase assignment 10 Expr.IsSingle n)
    (ha : ∀ s o, Closed (fun m => arguments m s o) .parenClose 11 RegularArguments n)
    (hend : ∀ s, Closed (fun m => argumentEnd m s) .parenClose 1 RegularArguments n)
    (hcl : Iterates n) (stage : ArgumentStage) (only : Bool) :
    Closed (fun m => arguments m stage only) .parenClose 11 RegularArguments (n + 1) := by
  intro ts v rest h
  by_cases h₁ : ∃ r, ts = .symbol .parenClose :: r
  · obtain ⟨r, rfl⟩ := h₁
    cases (arguments.eq_2 stage only n r).symm.trans h
    refine ⟨[], rfl, .nil, .nil, ?_⟩
    intro m r hm
    obtain ⟨m, rfl⟩ : ∃ i, m = i + 1 := ⟨m - 1, by omega⟩
    exact arguments.eq_2 stage only m r
  by_cases h₂ : ∃ r, ts = .symbol .star :: r
  · obtain ⟨r, rfl⟩ := h₂
    have hs : stage ≠ .spreadAll := by
      rintro rfl
      cases (arguments.eq_3 .spreadAll only n r).symm.trans h
    refine marked_argument he hend stage (φ := fun e p => (.spread e :: p.1, p.2))
      (.symbol .star) [] (.single rfl) ?_
      (fun e p he hp => .given (by simpa [Expr.isRegular] using he) hp) h
    intro m q
    refine (arguments.eq_3 stage only m q).trans ?_
    rw [if_neg hs]
    rfl
  by_cases h₃ : ∃ r, ts = .symbol .doubleStar :: r
  · obtain ⟨r, rfl⟩ := h₃
    exact marked_argument he hend _ (φ := fun e p => (p.1, .spreadAll e :: p.2))
      (.symbol .doubleStar) [] (.single rfl) (fun m q => arguments.eq_4 stage only m q)
      (fun e p he hp => .named (by simpa [Expr.isRegular] using he) hp) h
  by_cases h₄ : ∃ s r, ts = .name s :: .symbol .assign :: r
  · obtain ⟨s, r, rfl⟩ := h₄
    exact marked_argument he hend _ (φ := fun e p => (p.1, .named (Text.compose s) e :: p.2))
      (.name s) [.symbol .assign] ((Balanced.single rfl).cons rfl)
      (fun m q => arguments.eq_5 stage only m s q)
      (fun e p he hp => .named (by simpa [Expr.isRegular] using he) hp) h
  have hu : Unmarked ts := ⟨fun r hr => h₁ ⟨r, hr⟩, fun r hr => h₂ ⟨r, hr⟩,
    fun r hr => h₃ ⟨r, hr⟩, fun s r hr => h₄ ⟨s, r, hr⟩⟩
  change arguments (n + 1) stage only ts = some (v, rest) at h
  rw [arguments_unmarked hu] at h
  split_ifs at h with hs
  obtain ⟨⟨e, r⟩, h₅, h₆⟩ := Option.bind_eq_some_iff.1 h
  obtain ⟨u, a, rfl, hba, hea, hra⟩ := has _ _ _ h₅
  obtain ⟨d, rfl, hbd, hv, hrd⟩ := argumentRest_closed ha hcl only hea.1 _ _ _ h₆
  refine ⟨u :: a ++ d, by simp, hba.append hbd, hv, ?_⟩
  intro m q hm
  obtain ⟨m, rfl⟩ : ∃ i, m = i + 1 := ⟨m - 1, by omega⟩
  simp only [size_cons, size_append] at hm
  have := u.size_pos
  have hfo : follow (d ++ .symbol .parenClose :: q) = follow (d ++ .symbol .parenClose :: rest) :=
    follow_append d (follow_cons (by simp) _ _)
  have e₁ := hra m (d ++ .symbol .parenClose :: q) (by simp; omega) hfo
  have hu' : Unmarked (u :: a ++ (d ++ .symbol .parenClose :: q)) :=
    ⟨fun r hr => hba.head_opens rfl (List.cons.inj hr).1,
      fun r hr => hu.star _ (congrArg (· :: _) (List.cons.inj hr).1),
      fun r hr => hu.doubleStar _ (congrArg (· :: _) (List.cons.inj hr).1),
      not_named_of_follow rfl hfo hu.named⟩
  rw [List.append_assoc]
  refine (arguments_unmarked hu').trans ?_
  rw [if_pos hs, e₁]
  exact hrd m q (by omega)

/-! ## Subscripts -/

/-- The ends of a slice look at the next token, a stop included. -/
def Alike (r q : Tokens) : Prop := r.head? = q.head? ∧ follow r = follow q

theorem Alike.cons {t : Token} (ht : t ≠ .keyword .not_) (r q : Tokens) :
    Alike (t :: r) (t :: q) := ⟨rfl, follow_cons ht r q⟩

/-- The tokens are a stretch that `f` reads as a part of a slice, and a rest. -/
def IsSlicePart (f : Nat → Tokens → Option (Expr × Tokens)) (k : Nat) (ts : Tokens) (v : Expr)
    (rest : Tokens) : Prop :=
  ∃ c, ts = c ++ rest ∧ Balanced c ∧ v.isRegular = true ∧ Reads f k c v (Alike · rest)

theorem bound_spec (he : Phrase expression 9 Expr.IsSingle n) {ts rest : Tokens} {v : Expr}
    (h : bound (n + 1) ts = some (v, rest)) : IsSlicePart bound 10 ts v rest := by
  by_cases hs : ∃ s ∈ [Symbol.colon, .comma, .squareClose], ∃ r, ts = .symbol s :: r
  · obtain ⟨s, hs, r, rfl⟩ := hs
    have step : ∀ m q, bound (m + 1) (.symbol s :: q) = some (.literal .none, .symbol s :: q) := by
      simp only [List.mem_cons, List.not_mem_nil, or_false] at hs
      rcases hs with rfl | rfl | rfl <;> intro m q <;> rw [bound]
    cases (step n r).symm.trans h
    refine ⟨[], rfl, .nil, rfl, ?_⟩
    intro m q hm hq
    obtain ⟨m, rfl⟩ : ∃ i, m = i + 1 := ⟨m - 1, by omega⟩
    obtain ⟨q, rfl⟩ := List.head?_eq_some_iff.1 hq.1
    exact step m q
  · have step : ∀ m q, q.head? = ts.head? → bound (m + 1) q = expression m q := by
      intro m q hq
      refine bound.eq_5 q m ?_ ?_ ?_
      all_goals
        rintro r rfl
        obtain ⟨r', rfl⟩ := List.head?_eq_some_iff.1 hq.symm
        exact hs ⟨_, by simp, r', rfl⟩
    rw [step n ts rfl] at h
    obtain ⟨u, a, rfl, hba, hea, hra⟩ := he _ _ _ h
    refine ⟨u :: a, rfl, hba, hea.1, ?_⟩
    intro m q hm hq
    obtain ⟨m, rfl⟩ : ∃ i, m = i + 1 := ⟨m - 1, by omega⟩
    rw [step m (u :: a ++ q) rfl]
    exact hra m q (by omega) hq.2

theorem sliceRest_step {m : Nat} {low high : Expr} {ts r : Tokens}
    (h : bound m ts = some (high, .symbol .colon :: r)) : sliceRest (m + 1) low ts =
      (bound m r).bind fun p => some (.slice low high p.1, p.2) := by
  rw [sliceRest]
  simp only [h, Option.bind_eq_bind, Option.bind_some]
  rfl

theorem sliceRest_plain {m : Nat} {low high : Expr} {ts r : Tokens}
    (h : bound m ts = some (high, r)) (hr : ∀ s, r = .symbol .colon :: s → False) :
    sliceRest (m + 1) low ts = some (.slice low high (.literal .none), r) := by
  rw [sliceRest]
  simp only [h, Option.bind_eq_bind, Option.bind_some]
  rfl

/-- What bounds are read as at depth `n`. -/
def BoundsHold (n : Nat) : Prop :=
  ∀ ts v rest, bound n ts = some (v, rest) → IsSlicePart bound 10 ts v rest

theorem sliceRest_spec (hb : BoundsHold n) {low v : Expr} {ts rest : Tokens}
    (hlow : low.isRegular = true) (h : sliceRest (n + 1) low ts = some (v, rest)) :
    IsSlicePart (fun m => sliceRest m low) 11 ts v rest := by
  cases h₁ : bound n ts with
  | none => simp [sliceRest, h₁] at h
  | some p =>
  obtain ⟨high, r⟩ := p
  obtain ⟨c, rfl, hbc, hhigh, hrc⟩ := hb _ _ _ h₁
  by_cases hr : ∃ s, r = .symbol .colon :: s
  · obtain ⟨s, rfl⟩ := hr
    rw [sliceRest_step h₁] at h
    obtain ⟨⟨x, r₂⟩, h₂, h₃⟩ := Option.bind_eq_some_iff.1 h
    cases h₃
    obtain ⟨d, rfl, hbd, hx, hrd⟩ := hb _ _ _ h₂
    refine ⟨c ++ .symbol .colon :: d, by simp, hbc.append (hbd.cons rfl),
      by simp [Expr.isRegular, hlow, hhigh, hx], ?_⟩
    intro m q hm hq
    obtain ⟨m, rfl⟩ : ∃ i, m = i + 1 := ⟨m - 1, by omega⟩
    simp only [size_cons, size_append, Token.size_symbol] at hm
    have e₁ := hrc m (.symbol .colon :: (d ++ q)) (by omega) (.cons (by simp) _ _)
    have e₂ := hrd m q (by omega) hq
    have e₀ : c ++ .symbol .colon :: d ++ q = c ++ .symbol .colon :: (d ++ q) := by simp
    rw [e₀]
    exact (sliceRest_step e₁).trans (by rw [e₂]; rfl)
  · have hr' : ∀ s, r = .symbol .colon :: s → False := fun s hs => hr ⟨s, hs⟩
    cases (sliceRest_plain h₁ hr').symm.trans h
    refine ⟨c, rfl, hbc, by simp [Expr.isRegular, hlow, hhigh], ?_⟩
    intro m q hm hq
    obtain ⟨m, rfl⟩ : ∃ i, m = i + 1 := ⟨m - 1, by omega⟩
    exact sliceRest_plain (hrc m q (by omega) hq) (not_cons_of_follow rfl hq.2 hr')

/-- What the rest of a slice is read as at depth `n`. -/
def SliceRestsHold (n : Nat) : Prop :=
  ∀ (low : Expr) ts v rest, low.isRegular = true → sliceRest n low ts = some (v, rest) →
    IsSlicePart (fun m => sliceRest m low) 11 ts v rest

/-- What an item of a subscript is read as at depth `n`. -/
def SliceItemsHold (n : Nat) : Prop :=
  ∀ ts v rest, sliceItem n ts = some (v, rest) → ∃ u c, ts = u :: c ++ rest ∧ Balanced (u :: c) ∧
    v.isRegular = true ∧ Reads sliceItem 11 (u :: c) v (Alike · rest)

/-- The tokens begin with an expression or with the lower end of a slice. -/
structure IsPlainItem (ts : Tokens) : Prop where
  star : ∀ r, ts = .symbol .star :: r → False
  named : ∀ s r, ts = .name s :: .symbol .walrus :: r → False
  colon : ∀ r, ts = .symbol .colon :: r → False

theorem sliceItem_slice {m : Nat} {ts r : Tokens} {e : Expr} (hp : IsPlainItem ts)
    (h : expression m ts = some (e, .symbol .colon :: r)) :
    sliceItem (m + 1) ts = sliceRest m e r := by
  rw [sliceItem.eq_5 ts m hp.star hp.named hp.colon]
  simp only [h, Option.bind_eq_bind, Option.bind_some]

theorem sliceItem_plain {m : Nat} {ts r : Tokens} {e : Expr} (hp : IsPlainItem ts)
    (h : expression m ts = some (e, r)) (hr : ∀ s, r = .symbol .colon :: s → False) :
    sliceItem (m + 1) ts = some (e, r) := by
  rw [sliceItem.eq_5 ts m hp.star hp.named hp.colon]
  simp only [h, Option.bind_eq_bind, Option.bind_some]
  rfl

theorem sliceItemsHold (he : Phrase expression 9 Expr.IsSingle n)
    (ha : Phrase assignment 10 Expr.IsSingle n) (hs : SliceRestsHold n) :
    SliceItemsHold (n + 1) := by
  intro ts v rest h
  by_cases h₁ : ∃ r, ts = .symbol .star :: r
  · obtain ⟨r, rfl⟩ := h₁
    obtain ⟨u, c, hts, hb, hv, hr⟩ := IsPhrase.behind (f := sliceItem) (k := 11) (φ := .spread)
      (R := (·.isRegular = true)) rfl (fun _ _ => by rw [sliceItem]; rfl) he
      (fun e he => by simpa [Expr.isRegular] using he.1) (by omega) h
    exact ⟨u, c, hts, hb, hv, fun m q hm hq => hr m q hm hq.2⟩
  by_cases h₂ : ∃ s r, ts = .name s :: .symbol .walrus :: r
  · obtain ⟨s, r, rfl⟩ := h₂
    rw [sliceItem] at h
    obtain ⟨u, c, hts, hb, hv, hr⟩ := ha _ _ _ h
    refine ⟨u, c, hts, hb, hv.1, ?_⟩
    intro m q hm hq
    obtain ⟨m, rfl⟩ : ∃ i, m = i + 1 := ⟨m - 1, by omega⟩
    obtain ⟨q', hq'⟩ : ∃ q', u :: c ++ q = .name s :: .symbol .walrus :: q' := by
      obtain ⟨rfl, hc⟩ := List.cons.inj hts
      rcases c with _ | ⟨w, c⟩
      · obtain ⟨q', rfl⟩ := eq_cons_of_follow rfl (hq.2.trans (congrArg follow hc.symm))
        exact ⟨q', rfl⟩
      · exact ⟨c ++ q, by rw [(List.cons.inj hc).1]; rfl⟩
    rw [hq', sliceItem, ← hq']
    exact hr m q (by omega) hq.2
  by_cases h₃ : ∃ r, ts = .symbol .colon :: r
  · obtain ⟨r, rfl⟩ := h₃
    rw [sliceItem] at h
    obtain ⟨c, rfl, hb, hv, hr⟩ := hs _ _ _ _ rfl h
    refine ⟨.symbol .colon, c, rfl, hb.cons rfl, hv, ?_⟩
    intro m q hm hq
    simp only [size_cons, Token.size_symbol] at hm
    obtain ⟨m, rfl⟩ : ∃ i, m = i + 1 := ⟨m - 1, by omega⟩
    rw [List.cons_append, sliceItem]
    exact hr m q (by omega) hq
  have hp : IsPlainItem ts :=
    ⟨fun r hr => h₁ ⟨r, hr⟩, fun s r hr => h₂ ⟨s, r, hr⟩, fun r hr => h₃ ⟨r, hr⟩⟩
  cases h₄ : expression n ts with
  | none => simp [sliceItem.eq_5 ts n hp.star hp.named hp.colon, h₄] at h
  | some p =>
  obtain ⟨e, r⟩ := p
  obtain ⟨u, a, rfl, hba, hea, hra⟩ := he _ _ _ h₄
  have hu : ∀ q, follow q = follow r → IsPlainItem (u :: a ++ q) := fun q hq =>
    ⟨fun r hr => hp.star _ (congrArg (· :: _) (List.cons.inj hr).1),
      not_named_of_follow rfl hq hp.named,
      fun r hr => hp.colon _ (congrArg (· :: _) (List.cons.inj hr).1)⟩
  by_cases hc : ∃ s, r = .symbol .colon :: s
  · obtain ⟨s, rfl⟩ := hc
    rw [sliceItem_slice hp h₄] at h
    obtain ⟨d, rfl, hbd, hv, hrd⟩ := hs _ _ _ _ hea.1 h
    refine ⟨u, a ++ .symbol .colon :: d, by simp, hba.append (hbd.cons rfl), hv, ?_⟩
    intro m q hm hq
    obtain ⟨m, rfl⟩ : ∃ i, m = i + 1 := ⟨m - 1, by omega⟩
    simp only [size_cons, size_append, Token.size_symbol] at hm
    have hfo := follow_cons (t := .symbol .colon) (by simp) (d ++ q) (d ++ rest)
    have e₁ := hra m (.symbol .colon :: (d ++ q)) (by simp; omega) hfo
    have e₀ : u :: (a ++ .symbol .colon :: d) ++ q = u :: a ++ .symbol .colon :: (d ++ q) := by
      simp
    rw [e₀, sliceItem_slice (hu _ hfo) e₁]
    exact hrd m q (by omega) hq
  · have hc' : ∀ s, r = .symbol .colon :: s → False := fun s hs => hc ⟨s, hs⟩
    cases (sliceItem_plain hp h₄ hc').symm.trans h
    refine ⟨u, a, rfl, hba, hea.1, ?_⟩
    intro m q hm hq
    obtain ⟨m, rfl⟩ : ∃ i, m = i + 1 := ⟨m - 1, by omega⟩
    exact sliceItem_plain (hu q hq.2) (hra m q (by omega) hq.2)
      (not_cons_of_follow rfl hq.2 hc')

/-! ## Items between square brackets -/

theorem SliceItemsHold.findsItems (hi : SliceItemsHold n) : FindsItems sliceItem 11 n := by
  intro ts e s rest h
  obtain ⟨u, c, rfl, hb, he, hr⟩ := hi _ _ _ h
  exact ⟨u, c, rfl, hb, he, fun m r hm => hr m _ hm (.cons (by simp) _ _)⟩

theorem sliceItems_readsItem :
    ReadsItem sliceItems sliceItems sliceItem .squareClose (fun e => [e]) List.cons where
  last hts he := by
    rw [sliceItems.eq_3 _ _ hts, he]
    rfl
  comma hts he := by
    rw [sliceItems.eq_3 _ _ hts, he]
    rfl

theorem sliceItems_closed (hi : SliceItemsHold n)
    (hs : Closed sliceItems .squareClose 12 Regulars n) :
    Closed sliceItems .squareClose 12 Regulars (n + 1) := by
  intro ts v rest h
  by_cases hc : ∃ s, ts = .symbol .squareClose :: s
  · obtain ⟨s, rfl⟩ := hc
    rw [sliceItems] at h
    cases h
    refine ⟨[], rfl, .nil, .nil, ?_⟩
    intro m r hm
    obtain ⟨m, rfl⟩ : ∃ i, m = i + 1 := ⟨m - 1, by omega⟩
    exact sliceItems.eq_2 m r
  have hts : ∀ s, ts = .symbol .squareClose :: s → False := fun s h => hc ⟨s, h⟩
  obtain ⟨e, s, r, hitem, hmark⟩ : ∃ e s r, sliceItem n ts = some (e, .symbol s :: r) ∧
      (s = .squareClose ∨ s = .comma) := by
    rw [sliceItems.eq_3 ts n hts] at h
    obtain ⟨⟨e, r⟩, h₁, h₂⟩ := Option.bind_eq_some_iff.1 h
    simp only at h₂
    split at h₂
    next r => exact ⟨e, _, r, h₁, .inl rfl⟩
    next r => exact ⟨e, _, r, h₁, .inr rfl⟩
    next => cases h₂
  exact sliceItems_readsItem.closed rfl hi.findsItems hs (fun _ he => .cons he .nil)
    (fun _ _ he hes => .cons he hes) hitem hmark h

theorem isRegular_tupleOr {e : Expr} (he : e.isRegular = true) (comma : Bool) :
    (tupleOr [e] comma).isRegular = true := by
  cases comma
  · exact he
  · simpa [tupleOr, Expr.isRegular] using he

theorem Regulars.isRegular_tuple {es : List Expr} (h : Regulars es) :
    (Expr.tuple es).isRegular = true := by
  rw [Expr.isRegular]
  exact h

theorem subscript_readsItem : ReadsItem subscript sliceItems sliceItem .squareClose
    (fun e => tupleOr [e] e.isSpread) (fun e es => .tuple (e :: es)) where
  last _ he := by
    rw [subscript, he]
    rfl
  comma _ he := by
    rw [subscript, he]
    rfl

theorem subscript_closed (hi : SliceItemsHold n)
    (hs : Closed sliceItems .squareClose 12 Regulars n) :
    Closed subscript .squareClose 12 (·.isRegular = true) (n + 1) := by
  intro ts v rest h
  obtain ⟨e, s, r, hitem, hmark⟩ : ∃ e s r, sliceItem n ts = some (e, .symbol s :: r) ∧
      (s = .squareClose ∨ s = .comma) := by
    rw [subscript] at h
    obtain ⟨⟨e, r⟩, h₁, h₂⟩ := Option.bind_eq_some_iff.1 h
    simp only at h₂
    split at h₂
    next r => exact ⟨e, _, r, h₁, .inl rfl⟩
    next r => exact ⟨e, _, r, h₁, .inr rfl⟩
    next => cases h₂
  exact subscript_readsItem.closed (P := (·.isRegular = true)) rfl hi.findsItems hs
    (fun _ he => isRegular_tupleOr he _) (fun _ _ he hes => (Regulars.cons he hes).isRegular_tuple)
    hitem hmark h

end Stencil.Parser
