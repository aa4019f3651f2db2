import Mathlib.Data.List.Forall2
import Stencil.Proofs.Expr.Locality

/-! # Sums of operands

An operand that nothing goes on with is read by every layer of the grammar as what the atom in it
is, and operands with plus signs between are read as a sum that groups from the left. -/
namespace Stencil.Parser

/-- Do the layers above the atoms leave the token to the atoms? -/
def isAtomHead : Token → Bool
  | .keyword k => k != .lambda_ && k != .not_ && k != .await_
  | .symbol s => s != .plus && s != .minus && s != .tilde && s != .star && !Lexer.isClosing s
  | .name _ => false
  | _ => true

/-- Do the layers above the primaries leave the token to the primaries? -/
def isPrimaryHead : Token → Bool
  | .name _ => true
  | t => isAtomHead t

variable {t : Token} {c r : Tokens} {m : Nat} {e v : Expr}

/-- Does nothing go on with an operand of a sum? -/
def EndsOperand (r : Tokens) : Prop := follow r = none ∨ r.head? = some (.symbol .plus)

theorem ne_cons_of_endsOperand (hr : EndsOperand r) (ht : t.isStop = false)
    (hp : t ≠ .symbol .plus) : ∀ s, r = t :: s → False := by
  rintro s rfl
  rcases hr with hr | hr
  · simp [follow, ht] at hr
  · exact hp (Option.some.inj hr)

theorem isPrimaryHead_of_isAtomHead (ht : isAtomHead t = true) : isPrimaryHead t = true := by
  cases t <;> first | rfl | exact ht

theorem ne_cons_of_isAtomHead {u : Token} (ht : isAtomHead t = true) (hu : isAtomHead u = false) :
    ∀ s, t :: c = u :: s → False := by
  intro s hs
  rw [(List.cons.inj hs).1, hu] at ht
  cases ht

theorem ne_cons_of_isPrimaryHead {u : Token} (ht : isPrimaryHead t = true)
    (hu : isPrimaryHead u = false) : ∀ s, t :: c = u :: s → False := by
  intro s hs
  rw [(List.cons.inj hs).1, hu] at ht
  cases ht

/-! ## From the atom upwards -/

theorem EndsOperand.noTrailer (hr : EndsOperand r) : NoTrailer r := by
  intro s hs hhead
  obtain ⟨q, rfl⟩ := List.head?_eq_some_iff.1 hhead
  have hp : Token.symbol s ≠ .symbol .plus := by
    intro he
    rw [Token.symbol.inj he] at hs
    revert hs
    decide
  exact ne_cons_of_endsOperand hr (not_isStop_of_trailer s hs) hp q rfl

theorem factor_of_primary (ht : isPrimaryHead t = true) (hr : EndsOperand r)
    (h : primary m (t :: c) = some (v, r)) : factor (m + 2) (t :: c) = some (v, r) := by
  have hu : unaryOp? t = none := by
    cases t with
    | symbol s => cases s <;> first | rfl | cases ht
    | _ => rfl
  refine factor_plain hu ?_ (ne_cons_of_endsOperand hr rfl nofun)
  rw [awaited.eq_3 (t :: c) m (ne_cons_of_isPrimaryHead ht rfl)]
  exact h

theorem factor_of_atom (ht : isAtomHead t = true) (hr : EndsOperand r)
    (h : atom m (t :: c) = some (v, r)) : factor (m + 3) (t :: c) = some (v, r) := by
  obtain ⟨m, rfl⟩ : ∃ i, m = i + 1 := by
    cases m with
    | zero => simp [atom] at h
    | succ m => exact ⟨m, rfl⟩
  have h₁ : primary (m + 2) (t :: c) = some (v, r) := by
    rw [primary, h]
    exact trailers_end hr.noTrailer m v
  exact factor_of_primary (isPrimaryHead_of_isAtomHead ht) hr h₁

theorem endsAt_of_follow (hr : follow r = none) (level : Nat) : EndsAt level r :=
  EndsAt.of_follow (r := []) nofun hr

theorem ne_cons_of_follow (hr : follow r = none) (ht : t.isStop = false) :
    ∀ s, r = t :: s → False := by
  rintro s rfl
  simp [follow, ht] at hr

theorem comparison?_of_follow (hr : follow r = none) : comparison? r = none :=
  comparison?_none (show comparison? [] = none from rfl) hr

theorem expression_of_arithmetic (ht : isPrimaryHead t = true) (hr : follow r = none)
    (h : arithmetic m 1 (t :: c) = some (v, r)) : expression (m + 4) (t :: c) = some (v, r) := by
  obtain ⟨m, rfl⟩ : ∃ i, m = i + 1 := by
    cases m with
    | zero => simp [arithmetic] at h
    | succ m => exact ⟨m, rfl⟩
  have hnot : ∀ s, t :: c = .keyword .not_ :: s → False := ne_cons_of_isPrimaryHead ht rfl
  have hlambda : ∀ s, t :: c = .keyword .lambda_ :: s → False := ne_cons_of_isPrimaryHead ht rfl
  have h₁ : inversion (m + 2) (t :: c) = some (v, r) := by
    rw [inversion.eq_3 (t :: c) (m + 1) hnot, h]
    simp [comparisons, comparison?_of_follow hr]
  have h₂ : conjunction (m + 3) (t :: c) = some (v, r) := by
    rw [conjunction, h₁]
    simp [requirements.eq_3 r (m + 1) (ne_cons_of_follow hr rfl)]
  have h₃ : disjunction (m + 4) (t :: c) = some (v, r) := by
    rw [disjunction, h₂]
    simp [alternatives.eq_3 r (m + 2) (ne_cons_of_follow hr rfl)]
  rw [expression.eq_3 (t :: c) (m + 4) hlambda, h₃]
  simp only [Option.bind_eq_bind, Option.bind_some]
  split
  next s => exact (ne_cons_of_follow hr rfl s rfl).elim
  next => rfl

theorem element_of_expression (ht : isAtomHead t = true)
    (h : expression m (t :: c) = some (v, r)) : element (m + 2) (t :: c) = some (v, r) := by
  have hstar : ∀ s, t :: c = .symbol .star :: s → False := ne_cons_of_isAtomHead ht rfl
  have hname : ∀ s q, t :: c = .name s :: .symbol .walrus :: q → False :=
    fun s q => ne_cons_of_isAtomHead ht rfl _
  rw [element.eq_3 (t :: c) (m + 1) hstar, assignment.eq_3 (t :: c) m hname, h]

/-! ## From the top downwards -/

theorem exists_of_bind {α β : Type} {f : Nat → Tokens → Option α} {g : Nat → Tokens → Option β}
    {n : Nat} {ts : Tokens} {p : α} (h₀ : f 0 ts = none)
    (hf : ∀ m, ∃ k : β → Option α, f (m + 1) ts = (g m ts).bind k) (h : f n ts = some p) :
    ∃ m q, g m ts = some q := by
  cases n with
  | zero => cases h₀.symm.trans h
  | succ n =>
    obtain ⟨k, hk⟩ := hf n
    obtain ⟨q, hq, -⟩ := Option.bind_eq_some_iff.1 (hk.symm.trans h)
    exact ⟨n, q, hq⟩

theorem arithmetic_of_expression (ht : isAtomHead t = true) {n : Nat} {p : Expr × Tokens}
    (h : expression n (t :: c) = some p) : ∃ m q, arithmetic m 1 (t :: c) = some q := by
  have hnot : ∀ s, t :: c = .keyword .not_ :: s → False := ne_cons_of_isAtomHead ht rfl
  have hlambda : ∀ s, t :: c = .keyword .lambda_ :: s → False := ne_cons_of_isAtomHead ht rfl
  obtain ⟨_, _, h₁⟩ := exists_of_bind (g := disjunction) (by rw [expression])
    (fun m => ⟨_, expression.eq_3 (t :: c) m hlambda⟩) h
  obtain ⟨_, _, h₂⟩ := exists_of_bind (g := conjunction) (by rw [disjunction])
    (fun m => ⟨_, by rw [disjunction]; rfl⟩) h₁
  obtain ⟨_, _, h₃⟩ := exists_of_bind (g := inversion) (by rw [conjunction])
    (fun m => ⟨_, by rw [conjunction]; rfl⟩) h₂
  exact exists_of_bind (g := fun m => arithmetic m 1) (by rw [inversion])
    (fun m => ⟨_, inversion.eq_3 (t :: c) m hnot⟩) h₃

theorem atom_of_arithmetic (ht : isAtomHead t = true) {n level : Nat} {p : Expr × Tokens}
    (h : arithmetic n level (t :: c) = some p) : ∃ m q, atom m (t :: c) = some q := by
  have hawait : ∀ s, t :: c = .keyword .await_ :: s → False := ne_cons_of_isAtomHead ht rfl
  have hu : unaryOp? t = none := by
    cases t with
    | symbol s => cases s <;> first | rfl | cases ht
    | _ => rfl
  obtain ⟨_, _, h₁⟩ := exists_of_bind (f := fun m => arithmetic m level) (g := factor)
    (by rw [arithmetic]) (fun m => ⟨_, by rw [arithmetic]; rfl⟩) h
  obtain ⟨_, _, h₂⟩ := exists_of_bind (g := awaited) (by rw [factor])
    (fun m => ⟨_, by rw [factor]; simp only [hu]; rfl⟩) h₁
  obtain ⟨_, _, h₃⟩ := exists_of_bind (g := primary) (by rw [awaited])
    (fun m => ⟨some, by rw [awaited.eq_3 (t :: c) m hawait, Option.bind_fun_some]⟩) h₂
  exact exists_of_bind (g := atom) (by rw [primary]) (fun m => ⟨_, by rw [primary]; rfl⟩) h₃

theorem expression_of_element (ht : isAtomHead t = true) {n : Nat} {p : Expr × Tokens}
    (h : element n (t :: c) = some p) : ∃ m q, expression m (t :: c) = some q := by
  have hstar : ∀ s, t :: c = .symbol .star :: s → False := ne_cons_of_isAtomHead ht rfl
  have hname : ∀ s q, t :: c = .name s :: .symbol .walrus :: q → False :=
    fun s q => ne_cons_of_isAtomHead ht rfl _
  obtain ⟨_, _, h₁⟩ := exists_of_bind (g := assignment) (by rw [element])
    (fun m => ⟨some, by rw [element.eq_3 (t :: c) m hstar, Option.bind_fun_some]⟩) h
  exact exists_of_bind (g := expression) (by rw [assignment])
    (fun m => ⟨some, by rw [assignment.eq_3 (t :: c) m hname, Option.bind_fun_some]⟩) h₁

/-! ## Operands -/

/-- What a function finds at some depth it finds at every depth that is large enough. -/
theorem Phrase.eventually {α : Type} {f : Nat → Tokens → Option (α × Tokens)} {k n : Nat}
    {P : α → Prop} (hf : Phrase f k P n) {ts : Tokens} {p : α × Tokens} (h : f n ts = some p) :
    ∃ N, ∀ m, N ≤ m → f m ts = some p := by
  obtain ⟨t, c, rfl, -, -, hr⟩ := hf ts p.1 p.2 h
  exact ⟨20 * size (t :: c) + k, fun m hm => hr m p.2 hm rfl⟩

/-- The tokens are an operand: they are read as an atom of this value where they end. -/
def IsOperand (c : Tokens) (v : Expr) : Prop :=
  (∃ t s, c = t :: s ∧ isAtomHead t = true) ∧
    ∀ m r, 20 * size c + 1 ≤ m → EndsOperand r → atom m (c ++ r) = some (v, r)

/-- An atom that begins with these tokens ends with them. -/
def IsDelimited (c : Tokens) : Prop :=
  (∃ t s, c = t :: s ∧ isAtomHead t = true) ∧
    ∀ m r p, EndsOperand r → atom m (c ++ r) = some p → p.2 = r ∧ IsOperand c p.1

theorem IsOperand.unique {c : Tokens} {v w : Expr} (h : IsOperand c v) (h' : IsOperand c w) :
    v = w := by
  have e := h.2 _ [] (Nat.le_refl _) (.inl rfl)
  rw [h'.2 _ [] (Nat.le_refl _) (.inl rfl)] at e
  cases e
  rfl

theorem IsOperand.isDelimited (h : IsOperand c v) : IsDelimited c := by
  refine ⟨h.1, fun m r p hr hp => ?_⟩
  obtain ⟨N, hN⟩ := (Local.all m).atom.eventually hp
  cases (hN (max N (20 * size c + 1)) (by omega)).symm.trans (h.2 _ r (by omega) hr)
  exact ⟨rfl, h⟩

theorem IsOperand.factor (h : IsOperand c v) (hm : 20 * size c + 4 ≤ m) (hr : EndsOperand r) :
    factor m (c ++ r) = some (v, r) := by
  obtain ⟨⟨t, s, rfl, ht⟩, ha⟩ := h
  obtain ⟨m, rfl⟩ : ∃ i, m = i + 3 := ⟨m - 3, by omega⟩
  exact factor_of_atom ht hr (ha m r (by omega) hr)

theorem IsOperand.arithmetic (h : IsOperand c v) {level : Nat} (hm : 20 * size c + 5 ≤ m)
    (hr : EndsOperand r) (hl : EndsAt level r) :
    arithmetic m level (c ++ r) = some (v, r) := by
  obtain ⟨m, rfl⟩ : ∃ i, m = i + 2 := ⟨m - 2, by omega⟩
  rw [Parser.arithmetic, h.factor (by omega) hr]
  exact operators_end hl m v

theorem IsOperand.expression (h : IsOperand c v) (hm : 20 * size c + 9 ≤ m)
    (hr : follow r = none) : expression m (c ++ r) = some (v, r) := by
  obtain ⟨t, s, rfl, ht⟩ := h.1
  obtain ⟨m, rfl⟩ : ∃ i, m = i + 4 := ⟨m - 4, by omega⟩
  exact expression_of_arithmetic (isPrimaryHead_of_isAtomHead ht) hr
    (h.arithmetic (by omega) (.inl hr) (endsAt_of_follow hr 1))

/-- What stands in brackets is delimited by them. -/
theorem isDelimited_group {f : Nat → Tokens → Option (Expr × Tokens)} {a b : Symbol} {ts : Tokens}
    (ha : isAtomHead (.symbol a) = true) (hab : Lexer.closing? a = some b)
    (hatom : ∀ m s, atom (m + 1) (.symbol a :: s) = f m s)
    (hf : ∀ n, Closed f b 12 Expr.IsSingle n) (hb : Balanced ts) :
    IsDelimited (.symbol a :: (ts ++ [.symbol b])) := by
  refine ⟨⟨_, _, rfl, ha⟩, ?_⟩
  rintro m r ⟨v, q⟩ - h
  obtain ⟨m, rfl⟩ : ∃ i, m = i + 1 := by
    cases m with
    | zero => simp [atom] at h
    | succ m => exact ⟨m, rfl⟩
  rw [List.cons_append, hatom, List.append_assoc, List.singleton_append] at h
  obtain ⟨d, hd, hbd, -, hread⟩ := hf m _ _ _ h
  have hcl := (Lexer.isClosing_of_closing? hab).1
  obtain ⟨rfl, -, rfl⟩ := hb.closing_unique hbd hcl hcl hd
  refine ⟨rfl, ⟨_, _, rfl, ha⟩, fun m r hm _ => ?_⟩
  simp only [size_cons, size_append, Token.size_symbol, size_nil] at hm
  obtain ⟨m, rfl⟩ : ∃ i, m = i + 1 := ⟨m - 1, by omega⟩
  rw [List.cons_append, hatom, List.append_assoc, List.singleton_append]
  exact hread m r (by omega)

theorem isDelimited_parens {ts : Tokens} (hb : Balanced ts) :
    IsDelimited (.symbol .parenOpen :: (ts ++ [.symbol .parenClose])) :=
  isDelimited_group rfl rfl (fun m s => by rw [atom]) (fun n => (Local.all n).paren) hb

theorem isDelimited_squares {ts : Tokens} (hb : Balanced ts) :
    IsDelimited (.symbol .squareOpen :: (ts ++ [.symbol .squareClose])) :=
  isDelimited_group rfl rfl (fun m s => by rw [atom]) (fun n => (Local.all n).square) hb

/-! ## Sums -/

/-- Each of the operands with a plus sign in front. -/
def chain (cs : List Tokens) : Tokens := cs.flatMap (.symbol .plus :: ·)

theorem endsOperand_chain (cs : List Tokens) (hr : follow r = none) :
    EndsOperand (chain cs ++ r) := by
  cases cs with
  | nil => exact .inl hr
  | cons c cs => exact .inr rfl

theorem endsAt_chain (cs : List Tokens) (hr : follow r = none) : EndsAt 6 (chain cs ++ r) := by
  cases cs with
  | nil => exact endsAt_of_follow hr 6
  | cons c cs =>
    rintro t s op k h hk
    rw [← (List.cons.inj h).1] at hk
    cases hk
    decide

theorem operators_plus (m : Nat) (e : Expr) (c : Tokens) :
    operators (m + 1) 1 e (.symbol .plus :: c) =
      (arithmetic m 6 c).bind fun p => operators m 1 (.binary .add e p.1) p.2 := by
  rw [operators]
  rfl

/-- Operands with plus signs in front are added one by one. -/
theorem operators_chain {cs : List Tokens} {es : List Expr} (h : List.Forall₂ IsOperand cs es)
    (hr : follow r = none) (hm : 20 * size (chain cs) + 1 ≤ m) (e : Expr) :
    operators m 1 e (chain cs ++ r) = some (es.foldl (.binary .add) e, r) := by
  induction h generalizing m e with
  | nil =>
    obtain ⟨m, rfl⟩ : ∃ i, m = i + 1 := ⟨m - 1, by omega⟩
    exact operators_end (endsAt_of_follow hr 1) m e
  | @cons c v cs es hc _ ih =>
    have hs : size (chain (c :: cs)) = 1 + size c + size (chain cs) := by
      simp [chain]
      omega
    have hch : chain (c :: cs) ++ r = .symbol .plus :: (c ++ (chain cs ++ r)) := by
      simp [chain]
    obtain ⟨m, rfl⟩ : ∃ i, m = i + 1 := ⟨m - 1, by omega⟩
    rw [hch, operators_plus,
      hc.arithmetic (by omega) (endsOperand_chain cs hr) (endsAt_chain cs hr)]
    exact ih (by omega) (.binary .add e v)

/-- If a sum of delimited operands is read at all, each operand is. -/
theorem operands_of_operators {cs : List Tokens} (hcs : ∀ c ∈ cs, IsDelimited c)
    (hr : follow r = none) {n : Nat} {e : Expr} {p : Expr × Tokens}
    (h : operators n 1 e (chain cs ++ r) = some p) : ∃ es, List.Forall₂ IsOperand cs es := by
  induction cs generalizing n e with
  | nil => exact ⟨[], .nil⟩
  | cons c cs ih =>
    have hch : chain (c :: cs) ++ r = .symbol .plus :: (c ++ (chain cs ++ r)) := by
      simp [chain]
    obtain ⟨n, rfl⟩ : ∃ i, n = i + 1 := by
      cases n with
      | zero => simp [operators] at h
      | succ n => exact ⟨n, rfl⟩
    rw [hch, operators_plus] at h
    obtain ⟨q, h₁, h₂⟩ := Option.bind_eq_some_iff.1 h
    obtain ⟨⟨t, s, hc, ht⟩, hd⟩ := hcs c (by simp)
    obtain ⟨m, a, h₃⟩ := atom_of_arithmetic (c := s ++ (chain cs ++ r)) ht
      (by rw [hc] at h₁; exact h₁)
    obtain ⟨hq, hv⟩ := hd m _ a (endsOperand_chain cs hr) (by rw [hc]; exact h₃)
    -- the depth of the descent makes no difference to what is read
    obtain ⟨N, hN⟩ := ((Local.all n).arithmetic 6).eventually h₁
    have h₄ := hv.arithmetic (m := max N (20 * size c + 5)) (by omega)
      (endsOperand_chain cs hr) (endsAt_chain cs hr)
    cases (hN _ (by omega)).symm.trans h₄
    obtain ⟨es, hes⟩ := ih (fun c hc => hcs c (by simp [hc])) h₂
    exact ⟨a.1 :: es, .cons hv hes⟩

/-- A sum with the operand `c` in front, in square brackets. -/
def listedSum (c : Tokens) (cs : List Tokens) : Tokens :=
  .symbol .squareOpen :: (c ++ chain cs ++ [.symbol .squareClose])

theorem head?_ne_close (ht : isAtomHead t = true) :
    ∀ u ∈ [Token.symbol .squareClose], (t :: c).head? ≠ some u := by
  intro u hu he
  rw [List.mem_singleton.1 hu] at he
  exact ne_cons_of_isAtomHead (c := c) ht (u := .symbol .squareClose) rfl c
    (by rw [Option.some.inj he])

theorem listedSum_append (c : Tokens) (cs : List Tokens) (r : Tokens) : listedSum c cs ++ r =
    .symbol .squareOpen :: (c ++ (chain cs ++ .symbol .squareClose :: r)) := by
  simp [listedSum]

theorem isOperand_listedSum {c : Tokens} {cs : List Tokens} {e : Expr} {es : List Expr}
    (hc : IsOperand c e) (hcs : List.Forall₂ IsOperand cs es) :
    IsOperand (listedSum c cs) (.list [es.foldl (.binary .add) e]) := by
  refine ⟨⟨_, _, rfl, rfl⟩, fun m r hm _ => ?_⟩
  have hclose : follow (.symbol .squareClose :: r) = none := rfl
  have hs : size (listedSum c cs) = 2 + size c + size (chain cs) := by
    simp [listedSum]
    omega
  obtain ⟨m, rfl⟩ : ∃ i, m = i + 9 := ⟨m - 9, by omega⟩
  have e₁ : arithmetic (m + 1) 1 (c ++ (chain cs ++ .symbol .squareClose :: r)) =
      some (es.foldl (.binary .add) e, .symbol .squareClose :: r) := by
    rw [arithmetic, hc.factor (by omega) (endsOperand_chain cs hclose)]
    exact operators_chain hcs hclose (by omega) e
  obtain ⟨t, s, rfl, ht⟩ := hc.1
  have e₂ : element (m + 7) (t :: (s ++ (chain cs ++ .symbol .squareClose :: r))) = _ :=
    element_of_expression ht
      (expression_of_arithmetic (isPrimaryHead_of_isAtomHead ht) hclose e₁)
  rw [listedSum_append, atom, List.cons_append, square_isDisplay _ _ (head?_ne_close ht), e₂]
  rfl

/-- If a sum of delimited operands in brackets is read at all, each operand is. -/
theorem operands_of_listedSum {c : Tokens} {cs : List Tokens} {e : Expr} (hc : IsOperand c e)
    (hcs : ∀ c ∈ cs, IsDelimited c) {n : Nat} {p : Expr × Tokens}
    (h : atom n (listedSum c cs ++ r) = some p) : ∃ es, List.Forall₂ IsOperand cs es := by
  have hclose : follow (.symbol .squareClose :: r) = none := rfl
  rw [listedSum_append] at h
  obtain ⟨t, s, rfl, ht⟩ := hc.1
  obtain ⟨k, rfl⟩ : ∃ k, n = k + 2 := by
    rcases n with _ | _ | k
    · simp [atom] at h
    · simp [atom, square] at h
    · exact ⟨k, rfl⟩
  rw [atom, List.cons_append, square_isDisplay _ _ (head?_ne_close ht)] at h
  obtain ⟨_, h₁, -⟩ := Option.bind_eq_some_iff.1 h
  obtain ⟨_, _, h₂⟩ := expression_of_element ht h₁
  obtain ⟨n, q, h₃⟩ := arithmetic_of_expression ht h₂
  obtain ⟨n, rfl⟩ : ∃ i, n = i + 1 := by
    cases n with
    | zero => simp [arithmetic] at h₃
    | succ n => exact ⟨n, rfl⟩
  rw [arithmetic] at h₃
  obtain ⟨⟨x, q⟩, h₄, h₅⟩ := Option.bind_eq_some_iff.1 h₃
  obtain ⟨N, hN⟩ := (Local.all n).factor.eventually h₄
  have h₆ := hc.factor (m := max N (20 * size (t :: s) + 4)) (by omega)
    (endsOperand_chain cs hclose)
  cases (hN _ (by omega)).symm.trans h₆
  exact operands_of_operators hcs hclose h₅

/-! ## Whole texts -/

section Whole

variable {s : Text}

theorem parse?_eq (hs : Lexer.tokens? s = some c) : parse? s =
    (expressions (fuelFor s.length) (fuelFor s.length) c).map fun p => tupleOr p.1 p.2 := by
  unfold parse?
  rw [hs, Option.bind_eq_bind, Option.bind_some, Option.bind_eq_bind, Option.map_eq_bind]
  rfl

theorem parse?_eq_none (hs : Lexer.tokens? s = none) : parse? s = none := by
  unfold parse?
  rw [hs]
  rfl

theorem parse?_of_operand (hs : Lexer.tokens? s = some c) (h : IsOperand c v) :
    parse? s = some v := by
  have hsize := Lexer.size_le_of_tokens? hs
  obtain ⟨n, hn⟩ : ∃ n, fuelFor s.length = n + 1 := ⟨20 * (s.length + 4) - 1, by
    unfold fuelFor
    omega⟩
  have e₁ := h.expression (m := fuelFor s.length) (r := []) (by
    unfold fuelFor
    omega) rfl
  rw [List.append_nil] at e₁
  rw [parse?_eq hs]
  rw [hn] at e₁ ⊢
  rw [expressions, e₁]
  rfl

theorem atom_of_parse? (hs : Lexer.tokens? s = some (t :: c)) (ht : isAtomHead t = true)
    (h : parse? s = some v) : ∃ m p, atom m (t :: c) = some p := by
  rw [parse?_eq hs] at h
  obtain ⟨p, h₁, -⟩ := Option.map_eq_some_iff.1 h
  generalize fuelFor s.length = n at h₁
  obtain ⟨_, _, h₂⟩ := exists_of_bind (f := expressions n) (g := fun _ => expression n)
    (by rw [expressions]) (fun m => ⟨_, by rw [expressions]; rfl⟩) h₁
  obtain ⟨_, _, h₃⟩ := arithmetic_of_expression ht h₂
  exact atom_of_arithmetic ht h₃

/-- A text of delimited tokens is read as the atom that they are. -/
theorem parse?_eq_some_iff (hs : Lexer.tokens? s = some c) (hd : IsDelimited c) :
    parse? s = some v ↔ IsOperand c v := by
  refine ⟨fun h => ?_, parse?_of_operand hs⟩
  obtain ⟨⟨t, q, rfl, ht⟩, hread⟩ := hd
  obtain ⟨m, p, h₁⟩ := atom_of_parse? hs ht h
  obtain ⟨-, hp⟩ := hread m [] p (.inl rfl) (by rw [List.append_nil]; exact h₁)
  rw [← Option.some.inj ((parse?_of_operand hs hp).symm.trans h)]
  exact hp

theorem areRegular_of_expressions {n k : Nat} {es : List Expr} {comma : Bool}
    (h : expressions n k c = some (es, comma)) : Expr.areRegular es = true := by
  induction k generalizing c es comma with
  | zero => cases h
  | succ k ih =>
    rw [expressions] at h
    obtain ⟨⟨x, q⟩, h₁, h₂⟩ := Option.bind_eq_some_iff.1 h
    obtain ⟨_, _, _, _, hx, _⟩ := (Local.all n).expression _ _ _ h₁
    simp only at h₂
    split at h₂
    · cases h₂
      simp [hx.1]
    · cases h₂
      simp [hx.1]
    · obtain ⟨⟨xs, b⟩, h₃, h₄⟩ := Option.bind_eq_some_iff.1 h₂
      cases h₄
      simp [hx.1, ih h₃]
    · cases h₂

/-- No member is read of a spread. -/
theorem isRegular_of_parse? (h : parse? s = some v) : v.isRegular = true := by
  unfold parse? at h
  obtain ⟨ts, -, h₁⟩ := Option.bind_eq_some_iff.1 h
  obtain ⟨⟨es, comma⟩, h₂, h₃⟩ := Option.bind_eq_some_iff.1 h₁
  have hr := areRegular_of_expressions h₂
  cases h₃
  unfold tupleOr
  split
  · simpa using hr
  · simpa [Expr.isRegular] using hr

end Whole

end Stencil.Parser
