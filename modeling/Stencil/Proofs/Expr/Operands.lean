import Stencil.Proofs.Expr.Fields
import Stencil.Proofs.Expr.Operators

/-! # Factors, primaries and atoms read phrases -/
namespace Stencil.Parser

variable {n : Nat}

theorem unary_isBracket {t : Token} {op : UnaryOp} (h : unaryOp? t = some op) :
    t.isBracket = false := by
  unfold unaryOp? at h
  split at h <;> first | rfl | cases h

/-- Without an operator in front, a factor is an operand and perhaps a power of it. -/
theorem factor_power {t : Token} (hu : unaryOp? t = none) {m : Nat} {ts r : Tokens} {e : Expr}
    (h : awaited m (t :: ts) = some (e, .symbol .doubleStar :: r)) :
    factor (m + 1) (t :: ts) = (factor m r).bind fun q => some (.binary .pow e q.1, q.2) := by
  rw [factor]
  simp only [hu, h]
  rfl

theorem factor_plain {t : Token} (hu : unaryOp? t = none) {m : Nat} {ts r : Tokens} {e : Expr}
    (h : awaited m (t :: ts) = some (e, r)) (hr : ∀ s, r = .symbol .doubleStar :: s → False) :
    factor (m + 1) (t :: ts) = some (e, r) := by
  rw [factor]
  simp only [hu, h, Option.bind_eq_bind, Option.bind_some]
  rfl

theorem factor_phrase (hf : Phrase factor 4 Expr.IsSingle n)
    (ha : Phrase awaited 3 Expr.IsSingle n) : Phrase factor 4 Expr.IsSingle (n + 1) := by
  intro ts v rest h
  rcases ts with _ | ⟨t, ts⟩
  · rw [factor] at h
    cases h
  cases hu : unaryOp? t with
  | some op =>
    refine IsPhrase.behind (φ := .unary op) (unary_isBracket hu) ?_ hf
      (fun e he => ⟨by simpa [Expr.isRegular] using he.1, rfl⟩) (by omega) h
    intro m s
    rw [factor]
    simp only [hu]
    rfl
  | none =>
    cases h₁ : awaited n (t :: ts) with
    | none => simp [factor, hu, h₁] at h
    | some p =>
    obtain ⟨e, r₁⟩ := p
    obtain ⟨u, a, hts, hba, hea, hra⟩ := ha _ _ _ h₁
    obtain ⟨rfl, rfl⟩ := List.cons.inj hts
    by_cases hp : ∃ s, r₁ = .symbol .doubleStar :: s
    · obtain ⟨s, rfl⟩ := hp
      rw [factor_power hu h₁] at h
      obtain ⟨⟨x, r₂⟩, h₃, h₄⟩ := Option.bind_eq_some_iff.1 h
      cases h₄
      obtain ⟨w, d, rfl, hbd, hed, hrd⟩ := hf _ _ _ h₃
      refine ⟨t, a ++ .symbol .doubleStar :: (w :: d), by simp,
        hba.append (hbd.cons rfl), ⟨by simp [Expr.isRegular, hea.1, hed.1], rfl⟩, ?_⟩
      intro m r hm hfo
      obtain ⟨m, rfl⟩ : ∃ i, m = i + 1 := ⟨m - 1, by omega⟩
      simp only [size_append, size_cons, Token.size_symbol] at hm
      have e₁ := hra m (.symbol .doubleStar :: (w :: d ++ r)) (by simp; omega) rfl
      have e₂ := hrd m r (by simp; omega) hfo
      have e₀ : t :: (a ++ .symbol .doubleStar :: (w :: d)) ++ r =
          t :: a ++ .symbol .doubleStar :: (w :: d ++ r) := by simp
      rw [e₀]
      exact (factor_power hu e₁).trans (by rw [e₂]; rfl)
    · have hp' : ∀ s, r₁ = .symbol .doubleStar :: s → False := fun s hs => hp ⟨s, hs⟩
      cases (factor_plain hu h₁ hp').symm.trans h
      refine ⟨t, a, rfl, hba, hea, ?_⟩
      intro m r hm hfo
      obtain ⟨m, rfl⟩ : ∃ i, m = i + 1 := ⟨m - 1, by omega⟩
      exact factor_plain hu (hra m r (by omega) hfo) (not_cons_of_follow rfl hfo hp')

theorem awaited_phrase (hp : Phrase primary 2 Expr.IsSingle n) :
    Phrase awaited 3 Expr.IsSingle (n + 1) := by
  intro ts v rest h
  by_cases ha : ∃ s, ts = .keyword .await_ :: s
  · obtain ⟨s, rfl⟩ := ha
    exact IsPhrase.behind (φ := fun _ => .construct .await) rfl
      (fun _ _ => by rw [awaited]; rfl) hp (fun _ _ => ⟨rfl, rfl⟩) (by omega) h
  · refine IsPhrase.same [.keyword .await_] ?_ hp (by omega) ?_ h
    · intro m ts hts
      exact awaited.eq_3 ts m fun s hs => by simp [hs] at hts
    · simpa [List.head?_eq_some_iff] using ha

theorem primary_phrase (ha : Phrase atom 1 Expr.IsSingle n)
    (ht : ∀ e : Expr, e.IsSingle → Tail (fun m => trailers m e) 1 Expr.IsSingle n) :
    Phrase primary 2 Expr.IsSingle (n + 1) :=
  fun _ _ _ h => IsPhrase.andThen (h := fun e m => trailers m e) (φ := fun _ e => e) []
    (fun m ts _ => by rw [primary]; simp only [Prod.eta, Option.bind_fun_some]; rfl) ha ht
    (fun _ _ _ he => he) (by omega) (by omega) (by simp) h


/-! ## Atoms -/

theorem IsPhrase.leaf {α : Type} {f : Nat → Tokens → Option (α × Tokens)} {k : Nat} {P : α → Prop}
    {t : Token} {v w : α} {ts rest : Tokens} (ht : t.isBracket = false)
    (hf : ∀ m s, f (m + 1) (t :: s) = some (v, s)) (hv : P v)
    (h : f (n + 1) (t :: ts) = some (w, rest)) : IsPhrase f k P (t :: ts) w rest := by
  cases (hf n ts).symm.trans h
  refine ⟨t, [], rfl, .single ht, hv, ?_⟩
  intro m r hm _
  have := t.size_pos
  obtain ⟨m, rfl⟩ : ∃ i, m = i + 1 := ⟨m - 1, by simp at hm; omega⟩
  exact hf m r

/-- What stands in brackets is a phrase with them. -/
theorem IsPhrase.group {α : Type} {f g : Nat → Tokens → Option (α × Tokens)} {k kg : Nat}
    {P : α → Prop} {s close : Symbol} {v : α} {ts rest : Tokens}
    (hs : Lexer.closing? s = some close) (hf : ∀ m q, f (m + 1) (.symbol s :: q) = g m q)
    (hg : Closed g close kg P n) (hk : kg < k + 40)
    (h : f (n + 1) (.symbol s :: ts) = some (v, rest)) :
    IsPhrase f k P (.symbol s :: ts) v rest := by
  rw [hf] at h
  obtain ⟨c, rfl, hc, hv, hr⟩ := hg _ _ _ h
  refine ⟨.symbol s, c ++ [.symbol close], by simp, by simpa using hc.group hs, hv, ?_⟩
  intro m r hm _
  simp only [size_cons, size_append, Token.size_symbol, size_nil] at hm
  obtain ⟨m, rfl⟩ : ∃ i, m = i + 1 := ⟨m - 1, by omega⟩
  have e := hr m r (by omega)
  rw [List.cons_append, hf, List.append_assoc]
  exact e

/-- The literals of a run and their tokens. -/
def bodySize (ss : List (Text × Text)) : Nat := (ss.map fun s => s.2.length + 1).sum

theorem stringRun_spec {ts : Tokens} {ss : List (Text × Text)} {rest : Tokens}
    (h : stringRun ts = (ss, rest)) : ∃ c, ts = c ++ rest ∧ Balanced c ∧ size c = bodySize ss ∧
      ∀ r, follow r = follow rest → stringRun (c ++ r) = (ss, r) := by
  induction ts generalizing ss with
  | nil =>
    cases h
    refine ⟨[], rfl, .nil, rfl, fun r hr => ?_⟩
    cases r with
    | nil => rfl
    | cons t r => cases t <;> first | rfl | simp [follow, Token.isStop] at hr
  | cons t ts ih =>
    by_cases ht : ∃ tag d body, t = .string tag d body
    · obtain ⟨tag, d, body, rfl⟩ := ht
      cases h
      obtain ⟨c, hc, hb, hs, hr⟩ := ih rfl
      refine ⟨.string tag d body :: c, by rw [List.cons_append, ← hc], hb.cons rfl, ?_, ?_⟩
      · simp [bodySize, Token.size, hs]
      · intro r hfo
        rw [List.cons_append, stringRun, hr r hfo]
    · have hstop : ∀ q, (∀ tag d body s, q = .string tag d body :: s → False) →
          stringRun q = ([], q) := fun q hq => stringRun.eq_2 q hq
      have hq : ∀ tag d body s, t :: ts = .string tag d body :: s → False :=
        fun tag d body s he => ht ⟨tag, d, body, (List.cons.inj he).1⟩
      cases (hstop _ hq).symm.trans h
      refine ⟨[], rfl, .nil, rfl, fun r hr => hstop r fun tag d body => ?_⟩
      exact not_cons_of_follow rfl hr (hq tag d body)

theorem room_flatten_le {f : Text × Text → Option (List Text)}
    (hf : ∀ s fs, f s = some fs → Field.room fs ≤ s.2.length) {ss : List (Text × Text)}
    {fss : List (List Text)} (h : ss.mapM f = some fss) :
    Field.room fss.flatten + ss.length ≤ bodySize ss := by
  induction ss generalizing fss with
  | nil =>
    cases h
    simp [bodySize]
  | cons s ss ih =>
    rw [List.mapM_cons] at h
    obtain ⟨fs, h₁, h⟩ := Option.bind_eq_some_iff.1 h
    obtain ⟨gss, h₂, h⟩ := Option.bind_eq_some_iff.1 h
    cases h
    have := hf s fs h₁
    have := ih h₂
    simp [bodySize] at this ⊢
    omega

theorem room_le_of_templateFields? {ss : List (Text × Text)} {fields : List Text}
    (h : templateFields? ss = some fields) : Field.room fields + ss.length ≤ bodySize ss := by
  unfold templateFields? at h
  split_ifs at h
  obtain ⟨fss, hm, rfl⟩ := Option.map_eq_some_iff.1 h
  refine room_flatten_le ?_ hm
  intro s fs hs
  split_ifs at hs
  · exact Field.expressions?_room hs
  · obtain ⟨x, _, rfl⟩ := Option.map_eq_some_iff.1 hs
    simp

theorem atom_string {m : Nat} {tag d body : Text} {ts : Tokens} :
    atom (m + 1) (.string tag d body :: ts) =
      if (stringRun (.string tag d body :: ts)).1.any fun s => Quotation.isTemplate s.1 then
        (templateFields? (stringRun (.string tag d body :: ts)).1).bind fun fields =>
          if allFields m fields then
            some (.construct .template, (stringRun (.string tag d body :: ts)).2)
          else none
      else (joinStrings? (stringRun (.string tag d body :: ts)).1).map fun l =>
        (.literal l, (stringRun (.string tag d body :: ts)).2) := by
  rw [atom]
  rfl

theorem atom_string_phrase (hf : FieldsHold n) {tag d body : Text} {ts rest : Tokens} {v : Expr}
    (h : atom (n + 1) (.string tag d body :: ts) = some (v, rest)) :
    IsPhrase atom 1 Expr.IsSingle (.string tag d body :: ts) v rest := by
  obtain ⟨ss, r, hrun⟩ : ∃ ss r, stringRun (.string tag d body :: ts) = (ss, r) := ⟨_, _, rfl⟩
  obtain ⟨c, hc, hb, hs, hr⟩ := stringRun_spec hrun
  have hne : ∃ t c', c = t :: c' := by
    rcases c with _ | ⟨t, c⟩
    · have h₁ : ss = (tag, body) :: (stringRun ts).1 := (congrArg Prod.fst hrun).symm
      simp [h₁, bodySize] at hs
      omega
    · exact ⟨t, c, rfl⟩
  obtain ⟨t, c, rfl⟩ := hne
  obtain ⟨rfl, hts⟩ := List.cons.inj hc
  have hpos : 1 ≤ ss.length := by
    have h₁ : ss = (tag, body) :: (stringRun ts).1 := (congrArg Prod.fst hrun).symm
    simp [h₁]
  rw [atom_string, hrun] at h
  simp only at h
  split_ifs at h with ht
  · obtain ⟨fields, h₁, h₂⟩ := Option.bind_eq_some_iff.1 h
    split_ifs at h₂ with ha
    cases h₂
    have hroom := room_le_of_templateFields? h₁
    refine ⟨_, c, hc, hb, ⟨rfl, rfl⟩, ?_⟩
    intro m q hm hfo
    obtain ⟨m, rfl⟩ : ∃ i, m = i + 1 := ⟨m - 1, by omega⟩
    have hq := hr q hfo
    rw [List.cons_append] at hq ⊢
    rw [atom_string, hq]
    simp only [ht, if_true, h₁, Option.bind_some, hf fields ha m (by omega)]
  · obtain ⟨l, h₁, h₂⟩ := Option.map_eq_some_iff.1 h
    cases h₂
    refine ⟨_, c, hc, hb, ⟨rfl, rfl⟩, ?_⟩
    intro m q hm hfo
    obtain ⟨m, rfl⟩ : ∃ i, m = i + 1 := ⟨m - 1, by omega⟩
    have hq := hr q hfo
    rw [List.cons_append] at hq ⊢
    rw [atom_string, hq]
    simp [ht, h₁]

theorem atom_phrase (hf : FieldsHold n) (hp : Closed paren .parenClose 12 Expr.IsSingle n)
    (hs : Closed square .squareClose 12 Expr.IsSingle n)
    (hb : Closed brace .braceClose 13 Expr.IsSingle n) : Phrase atom 1 Expr.IsSingle (n + 1) := by
  intro ts v rest h
  rcases ts with _ | ⟨t, ts⟩
  · cases h
  cases t with
  | name s => exact .leaf rfl (fun _ _ => by rw [atom]) ⟨rfl, rfl⟩ h
  | number s => exact .leaf rfl (fun _ _ => by rw [atom]) ⟨rfl, rfl⟩ h
  | newline => cases h
  | string tag d body => exact atom_string_phrase hf h
  | keyword k =>
    cases k with
    | true_ | false_ | none_ => exact .leaf rfl (fun _ _ => by rw [atom]) ⟨rfl, rfl⟩ h
    | _ => cases h
  | symbol s =>
    cases s with
    | ellipsis => exact .leaf rfl (fun _ _ => by rw [atom]) ⟨rfl, rfl⟩ h
    | parenOpen => exact .group rfl (fun _ _ => by rw [atom]) hp (by omega) h
    | squareOpen => exact .group rfl (fun _ _ => by rw [atom]) hs (by omega) h
    | braceOpen => exact .group rfl (fun _ _ => by rw [atom]) hb (by omega) h
    | _ => cases h

/-! ## Trailers -/

/-- The arguments of a call are regular. -/
def RegularArguments (p : List Expr × List Expr) : Prop := Regulars p.1 ∧ Regulars p.2

/-- Brackets behind an operand and what follows them. -/
theorem IsTail.bracketed {α β : Type} {f : Nat → Tokens → Option (β × Tokens)}
    {g : Nat → Tokens → Option (α × Tokens)} {h : α → Nat → Tokens → Option (β × Tokens)}
    {P : α → Prop} {Q : β → Prop} {k kg kh : Nat} {s close : Symbol} {v : β} {ts rest : Tokens}
    (hs : Lexer.closing? s = some close)
    (hf : ∀ m q, f (m + 1) (.symbol s :: q) = (g m q).bind fun p => h p.1 m p.2)
    (hg : Closed g close kg P n) (hh : ∀ a, P a → Tail (h a) kh Q n) (hkg : kg < k + 40)
    (hkh : kh < k + 40) (hv : f (n + 1) (.symbol s :: ts) = some (v, rest)) :
    IsTail f k Q (.symbol s :: ts) v rest := by
  rw [hf] at hv
  obtain ⟨⟨a, r⟩, h₁, h₂⟩ := Option.bind_eq_some_iff.1 hv
  obtain ⟨c, rfl, hc, ha, hr⟩ := hg _ _ _ h₁
  obtain ⟨d, rfl, hd, hq, hdr⟩ := hh a ha _ _ _ h₂
  refine ⟨.symbol s :: (c ++ [.symbol close]) ++ d, by simp, (hc.group hs).append hd, hq, ?_⟩
  intro m r hm hfo
  simp only [size_cons, size_append, Token.size_symbol, size_nil] at hm
  obtain ⟨m, rfl⟩ : ∃ i, m = i + 1 := ⟨m - 1, by omega⟩
  have e₁ := hr m (d ++ r) (by omega)
  have e₂ := hdr m r (by omega) hfo
  have e₀ : .symbol s :: (c ++ [.symbol close]) ++ d ++ r =
      .symbol s :: (c ++ .symbol close :: (d ++ r)) := by simp
  rw [e₀, hf, e₁]
  exact e₂

/-- Do the tokens begin with no trailer? -/
def NoTrailer (ts : Tokens) : Prop :=
  ∀ s ∈ [Symbol.dot, .parenOpen, .squareOpen], ts.head? ≠ some (.symbol s)

theorem trailers_end {ts : Tokens} (h : NoTrailer ts) (m : Nat) (e : Expr) :
    trailers (m + 1) e ts = some (e, ts) := by
  refine trailers.eq_6 e ts m ?_ ?_ ?_ ?_
  all_goals
    intros
    subst_vars
    simp [NoTrailer] at h

theorem not_isStop_of_trailer :
    ∀ s ∈ [Symbol.dot, .parenOpen, .squareOpen], (Token.symbol s).isStop = false := by
  decide

/-- A point and a name behind an operand. -/
theorem trailers_member {e : Expr} (he : e.IsSingle)
    (ht : ∀ e : Expr, e.IsSingle → Tail (fun m => trailers m e) 1 Expr.IsSingle n) {ts : Tokens}
    {v : Expr} {rest : Tokens} (h : trailers (n + 1) e (.symbol .dot :: ts) = some (v, rest)) :
    IsTail (fun m => trailers m e) 1 Expr.IsSingle (.symbol .dot :: ts) v rest := by
  by_cases hn : ∃ s q, ts = .name s :: q
  · obtain ⟨s, q, rfl⟩ := hn
    rw [trailers] at h
    have hm : (Expr.member e (Text.compose s)).IsSingle :=
      ⟨by simp [Expr.isRegular, he.1, he.2], rfl⟩
    obtain ⟨d, rfl, hd, hv, hr⟩ := ht _ hm _ _ _ h
    refine ⟨.symbol .dot :: .name s :: d, rfl, (hd.cons rfl).cons rfl, hv, ?_⟩
    intro m r hle hfo
    obtain ⟨m, rfl⟩ : ∃ i, m = i + 1 := ⟨m - 1, by omega⟩
    simp only [size_cons, Token.size_symbol, Token.size_name] at hle
    exact (trailers.eq_2 e m s (d ++ r)).trans (hr m r (by omega) hfo)
  · rw [trailers.eq_3 e n ts fun s q hq => hn ⟨s, q, hq⟩] at h
    cases h

theorem trailers_tail
    (ht : ∀ e : Expr, e.IsSingle → Tail (fun m => trailers m e) 1 Expr.IsSingle n)
    (ha : Closed (fun m => arguments m .positional true) .parenClose 11 RegularArguments n)
    (hs : Closed subscript .squareClose 12 (·.isRegular = true) n) {e : Expr} (he : e.IsSingle) :
    Tail (fun m => trailers m e) 1 Expr.IsSingle (n + 1) := by
  intro ts v rest h
  by_cases hend : NoTrailer ts
  · cases (trailers_end hend n e).symm.trans h
    refine ⟨[], rfl, .nil, he, ?_⟩
    intro m r hm hfo
    obtain ⟨m, rfl⟩ : ∃ i, m = i + 1 := ⟨m - 1, by omega⟩
    refine trailers_end ?_ m e
    intro s hmem hr
    exact hend s hmem (head?_of_follow (not_isStop_of_trailer s hmem) hfo hr)
  · simp only [NoTrailer, Classical.not_forall, Classical.not_not] at hend
    obtain ⟨s, hmem, hhead⟩ := hend
    obtain ⟨ts, rfl⟩ := List.head?_eq_some_iff.1 hhead
    simp only [List.mem_cons, List.not_mem_nil, or_false] at hmem
    rcases hmem with rfl | rfl | rfl
    · exact trailers_member he ht h
    · exact IsTail.bracketed (h := fun p m => trailers m (.call e p.1 p.2)) rfl
        (fun m q => by rw [trailers]; rfl) ha
        (fun p hp => ht _
          ⟨by simpa [Expr.isRegular, he.1, RegularArguments, Regulars] using hp, rfl⟩)
        (by omega) (by omega) h
    · exact IsTail.bracketed (h := fun key m => trailers m (.item e key)) rfl
        (fun m q => by rw [trailers]; rfl) hs
        (fun key hk => ht _ ⟨by simp [Expr.isRegular, he.1, hk], rfl⟩) (by omega) (by omega) h

end Stencil.Parser
