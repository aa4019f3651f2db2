import Stencil.Proofs.Expr.Sums

/-! # The same tokens in parentheses and in square brackets

Nothing, a yield apart, is an element of a list and no element of a tuple. So from what the tokens
are in brackets of one kind follows what they are in the other. -/
namespace Stencil.Parser

variable {c : Tokens} {e v : Expr} {content : Content}

/-- The tokens in parentheses. -/
def inParens (c : Tokens) : Tokens := .symbol .parenOpen :: (c ++ [.symbol .parenClose])

/-- The tokens in square brackets. -/
def inSquares (c : Tokens) : Tokens := .symbol .squareOpen :: (c ++ [.symbol .squareClose])

theorem head?_append_ne {t : Token} (hne : c ≠ []) (h : c.head? ≠ some t) (r : Tokens) :
    (c ++ r).head? ≠ some t := by
  obtain ⟨u, c, rfl⟩ := List.exists_cons_of_ne_nil hne
  exact h

theorem head?_ne_of_balanced (hb : Balanced c) {s : Symbol} (hs : Lexer.isClosing s = true) :
    c.head? ≠ some (.symbol s) := by
  intro h
  obtain ⟨c, rfl⟩ := List.head?_eq_some_iff.1 h
  exact hb.head_opens hs rfl

theorem head?_ne_parens (hb : Balanced c) (hy : c.head? ≠ some (.keyword .yield_)) :
    ∀ t ∈ [Token.symbol .parenClose, .keyword .yield_], c.head? ≠ some t := by
  simpa using ⟨head?_ne_of_balanced hb rfl, hy⟩

theorem head?_ne_squares (hb : Balanced c) :
    ∀ t ∈ [Token.symbol .squareClose], c.head? ≠ some t := by
  simpa using head?_ne_of_balanced hb rfl

/-- What brackets of the kind `k` hold, if they can be read. -/
theorem exists_content {f : Nat → Tokens → Option (Expr × Tokens)} {k : DisplayKind}
    {heads : List Token} (hf : IsDisplay f k heads) (hb : Balanced c) (hne : c ≠ [])
    (hheads : ∀ t ∈ heads, c.head? ≠ some t) {n : Nat} {r q : Tokens}
    (h : f (n + 1) (c ++ .symbol k.close :: r) = some (v, q)) :
    ∃ e content, HasContent c e content := by
  have hl := Local.all n
  obtain ⟨u, d, e, content, hd, hbd, -, -, hc⟩ := display_spec hf hl.element hl.elements hl.clauses
    (fun t ht => head?_append_ne hne (hheads t ht) _) h
  obtain ⟨rfl, -, -⟩ := hb.closing_unique hbd k.isClosing_close k.isClosing_close hd
  exact ⟨e, content, hc⟩

theorem isOperand_inBrackets_iff {f : Nat → Tokens → Option (Expr × Tokens)} {k : DisplayKind}
    {heads : List Token} (hf : IsDisplay f k heads) {a : Symbol}
    (ha : isAtomHead (.symbol a) = true) (hatom : ∀ m s, atom (m + 1) (.symbol a :: s) = f m s)
    (hc : HasContent c e content) (hheads : ∀ t ∈ heads, c.head? ≠ some t) :
    IsOperand (.symbol a :: (c ++ [.symbol k.close])) v ↔ k.value e content = some v := by
  have hread : ∀ m r, 20 * size c + 12 ≤ m →
      atom (m + 1) (.symbol a :: (c ++ [.symbol k.close]) ++ r) =
        (k.value e content).map (·, r) := by
    intro m r hm
    rw [List.cons_append, hatom, List.append_assoc, List.singleton_append]
    exact hc.1 f k heads hf hheads m r hm
  have hsize : size (.symbol a :: (c ++ [.symbol k.close])) = size c + 2 := by
    simp
    omega
  constructor
  · rintro ⟨-, h⟩
    have e₁ := h (20 * size c + 42) [] (by omega) (.inl rfl)
    rw [hread _ [] (by omega)] at e₁
    obtain ⟨w, hw, he⟩ := Option.map_eq_some_iff.1 e₁
    cases he
    exact hw
  · intro h
    refine ⟨⟨_, _, rfl, ha⟩, fun m r hm _ => ?_⟩
    obtain ⟨m, rfl⟩ : ∃ i, m = i + 1 := ⟨m - 1, by omega⟩
    rw [hread m r (by omega), h]
    rfl

theorem isOperand_inSquares_iff (hc : HasContent c e content) (hb : Balanced c) :
    IsOperand (inSquares c) v ↔ DisplayKind.squares.value e content = some v :=
  isOperand_inBrackets_iff square_isDisplay rfl (fun m s => by rw [atom]) hc
    (head?_ne_squares hb)

theorem isOperand_inParens_iff (hc : HasContent c e content) (hb : Balanced c)
    (hy : c.head? ≠ some (.keyword .yield_)) :
    IsOperand (inParens c) v ↔ DisplayKind.parens.value e content = some v :=
  isOperand_inBrackets_iff paren_isDisplay rfl (fun m s => by rw [atom]) hc
    (head?_ne_parens hb hy)

theorem isOperand_inSquares_nil_iff : IsOperand (inSquares []) v ↔ v = .list [] := by
  have h : IsOperand (inSquares []) (.list []) := by
    refine ⟨⟨_, _, rfl, rfl⟩, fun m r hm _ => ?_⟩
    obtain ⟨m, rfl⟩ : ∃ i, m = i + 2 := ⟨m - 2, by simp [inSquares] at hm; omega⟩
    simp [inSquares, atom, square]
  exact ⟨fun hv => hv.unique h, fun hv => hv ▸ h⟩

theorem isOperand_inParens_nil_iff : IsOperand (inParens []) v ↔ v = .tuple [] := by
  have h : IsOperand (inParens []) (.tuple []) := by
    refine ⟨⟨_, _, rfl, rfl⟩, fun m r hm _ => ?_⟩
    obtain ⟨m, rfl⟩ : ∃ i, m = i + 2 := ⟨m - 2, by simp [inParens] at hm; omega⟩
    simp [inParens, atom, paren]
  exact ⟨fun hv => hv.unique h, fun hv => hv ▸ h⟩

/-- No element begins with `yield`. -/
theorem element_yield (n : Nat) (r : Tokens) : element n (.keyword .yield_ :: r) = none := by
  cases h : element n (.keyword .yield_ :: r) with
  | none => rfl
  | some p =>
    obtain ⟨_, _, h₁⟩ := expression_of_element rfl h
    obtain ⟨_, _, h₂⟩ := arithmetic_of_expression rfl h₁
    obtain ⟨m, q, h₃⟩ := atom_of_arithmetic rfl h₂
    cases m <;> simp [atom] at h₃

theorem content_of_inSquares (hb : Balanced c) (hne : c ≠ []) (h : IsOperand (inSquares c) v) :
    c.head? ≠ some (.keyword .yield_) ∧ ∃ e content, HasContent c e content := by
  obtain ⟨m, hm⟩ : ∃ m, square (m + 1) (c ++ .symbol DisplayKind.squares.close :: []) =
      some (v, []) := by
    have e₁ := h.2 (20 * size (inSquares c) + 2) [] (by omega) (.inl rfl)
    rw [List.append_nil, inSquares, atom] at e₁
    exact ⟨_, e₁⟩
  refine ⟨fun hy => ?_, exists_content square_isDisplay hb hne
    (head?_ne_squares hb) hm⟩
  obtain ⟨c, rfl⟩ := List.head?_eq_some_iff.1 hy
  rw [List.cons_append, square_isDisplay m _ (by simp), element_yield] at hm
  cases hm

theorem content_of_inParens (hb : Balanced c) (hne : c ≠ [])
    (hy : c.head? ≠ some (.keyword .yield_)) (h : IsOperand (inParens c) v) :
    ∃ e content, HasContent c e content := by
  obtain ⟨m, hm⟩ : ∃ m, paren (m + 1) (c ++ .symbol DisplayKind.parens.close :: []) =
      some (v, []) := by
    have e₁ := h.2 (20 * size (inParens c) + 2) [] (by omega) (.inl rfl)
    rw [List.append_nil, inParens, atom] at e₁
    exact ⟨_, e₁⟩
  exact exists_content paren_isDisplay hb hne (head?_ne_parens hb hy) hm

/-- A yield is read as one of the constructs that no template may use. -/
theorem construct_of_yield (hy : c.head? = some (.keyword .yield_)) (h : IsOperand (inParens c) v) :
    ∃ k, v = .construct k := by
  obtain ⟨c, rfl⟩ := List.head?_eq_some_iff.1 hy
  have e₁ := h.2 (20 * size (inParens (.keyword .yield_ :: c)) + 2) [] (by omega) (.inl rfl)
  rw [List.append_nil, inParens, atom, List.cons_append] at e₁
  generalize 20 * size (inParens (.keyword .yield_ :: c)) = m at e₁
  generalize c ++ [Token.symbol .parenClose] = ts at e₁
  by_cases h₁ : ∃ r, ts = .symbol .parenClose :: r
  · obtain ⟨r, rfl⟩ := h₁
    rw [paren] at e₁
    cases e₁
    exact ⟨_, rfl⟩
  by_cases h₂ : ∃ r, ts = .keyword .from_ :: r
  · obtain ⟨r, rfl⟩ := h₂
    rw [paren] at e₁
    obtain ⟨p, -, e₂⟩ := Option.bind_eq_some_iff.1 e₁
    simp only at e₂
    split at e₂
    · cases e₂
      exact ⟨_, rfl⟩
    · cases e₂
  · rw [paren.eq_5 _ _ (fun r hr => h₁ ⟨r, hr⟩) (fun r hr => h₂ ⟨r, hr⟩)] at e₁
    obtain ⟨p, -, e₂⟩ := Option.bind_eq_some_iff.1 e₁
    cases e₂
    exact ⟨_, rfl⟩

/-- Tokens that are an element and nothing else. -/
theorem HasContent.element (hc : HasContent c e .one) : ∃ m, element m c = some (e, []) :=
  ⟨_, hc.2 rfl _ (Nat.le_refl _)⟩

/-- A spread that stands alone is nothing in parentheses. -/
theorem not_isOperand_of_spread {m : Nat} (hb : Balanced c)
    (h : element m c = some (.spread e, [])) : ¬IsOperand (inParens c) v := by
  intro hv
  obtain ⟨t, d, hc, -, -, hread⟩ := (Local.all m).element c _ _ h
  rw [List.append_nil] at hc
  subst hc
  have hy : (t :: d).head? ≠ some (.keyword .yield_) := by
    intro hy
    rw [List.head?_cons] at hy
    cases hy
    rw [element_yield] at h
    cases h
  have e₁ := hv.2 (20 * size (inParens (t :: d)) + 2) [] (by omega) (.inl rfl)
  have e₂ := hread (20 * size (inParens (t :: d))) [.symbol .parenClose] (by simp [inParens]; omega)
    rfl
  have e₃ := paren_isDisplay (20 * size (inParens (t :: d))) (t :: d ++ [.symbol .parenClose])
    fun u hu => head?_append_ne (by simp) (head?_ne_parens hb hy u hu) _
  rw [List.append_nil, inParens, atom] at e₁
  rw [e₂] at e₃
  cases e₁.symm.trans e₃

/-! ## Texts that are one list

What goes on with an operand makes something else of it. So a text that is read as a list is the
list and nothing else. -/

variable {es : List Expr} {t : Token} {r q : Tokens} {n : Nat}

theorem trailers_list (h : trailers n e r = some (.list es, q)) : e = .list es ∧ q = r := by
  induction n generalizing e r with
  | zero => cases h
  | succ n ih =>
    by_cases hend : NoTrailer r
    · cases (trailers_end hend n e).symm.trans h
      exact ⟨rfl, rfl⟩
    · simp only [NoTrailer, Classical.not_forall, Classical.not_not] at hend
      obtain ⟨s, hs, hhead⟩ := hend
      obtain ⟨r, rfl⟩ := List.head?_eq_some_iff.1 hhead
      simp only [List.mem_cons, List.not_mem_nil, or_false] at hs
      rcases hs with rfl | rfl | rfl
      · rcases r with _ | ⟨u, r⟩
        · simp [trailers] at h
        · cases u with
          | name s =>
            rw [trailers] at h
            cases (ih h).1
          | _ => simp [trailers] at h
      · rw [trailers] at h
        obtain ⟨p, -, h₁⟩ := Option.bind_eq_some_iff.1 h
        cases (ih h₁).1
      · rw [trailers] at h
        obtain ⟨p, -, h₁⟩ := Option.bind_eq_some_iff.1 h
        cases (ih h₁).1

theorem operators_list {level : Nat} (h : operators n level e r = some (.list es, q)) :
    e = .list es ∧ q = r := by
  induction n generalizing e r with
  | zero => cases h
  | succ n ih =>
    rcases r with _ | ⟨t, r⟩
    · cases h
      exact ⟨rfl, rfl⟩
    rw [operators] at h
    split at h
    · split at h
      · obtain ⟨p, -, h₁⟩ := Option.bind_eq_some_iff.1 h
        cases (ih h₁).1
      · cases h
        exact ⟨rfl, rfl⟩
    · cases h
      exact ⟨rfl, rfl⟩

theorem factor_list (ht : isAtomHead t = true)
    (h : factor n (t :: c) = some (.list es, q)) : ∃ m, atom m (t :: c) = some (.list es, q) := by
  have hawait : ∀ s, t :: c = .keyword .await_ :: s → False := ne_cons_of_isAtomHead ht rfl
  have hu : unaryOp? t = none := by
    cases t with
    | symbol s => cases s <;> first | rfl | cases ht
    | _ => rfl
  rcases n with _ | _ | _ | n
  · cases h
  · simp [factor, hu, awaited] at h
  · simp [factor, hu, awaited.eq_3 (t :: c) _ hawait, primary] at h
  rw [factor] at h
  simp only [hu, awaited.eq_3 (t :: c) _ hawait] at h
  obtain ⟨⟨e, r⟩, h₁, h₂⟩ := Option.bind_eq_some_iff.1 h
  have h₃ : e = .list es ∧ q = r := by
    simp only at h₂
    split at h₂
    · obtain ⟨p, -, h₃⟩ := Option.bind_eq_some_iff.1 h₂
      cases h₃
    · cases h₂
      exact ⟨rfl, rfl⟩
  obtain ⟨rfl, rfl⟩ := h₃
  rw [primary] at h₁
  obtain ⟨⟨e, r⟩, h₄, h₅⟩ := Option.bind_eq_some_iff.1 h₁
  obtain ⟨rfl, rfl⟩ := trailers_list h₅
  exact ⟨n, h₄⟩

theorem comparisons_nil (h : comparisons n r = some ([], q)) : q = r := by
  cases n with
  | zero => cases h
  | succ n =>
    rw [comparisons] at h
    split at h
    · obtain ⟨p, -, h₁⟩ := Option.bind_eq_some_iff.1 h
      obtain ⟨p, -, h₂⟩ := Option.bind_eq_some_iff.1 h₁
      cases h₂
    · cases h
      rfl

theorem requirements_nil (h : requirements n r = some ([], q)) : q = r := by
  rcases n with _ | n
  · cases h
  by_cases hr : ∃ s, r = .keyword .and_ :: s
  · obtain ⟨s, rfl⟩ := hr
    rw [requirements] at h
    obtain ⟨p, -, h₁⟩ := Option.bind_eq_some_iff.1 h
    obtain ⟨p, -, h₂⟩ := Option.bind_eq_some_iff.1 h₁
    cases h₂
  · rw [requirements.eq_3 r n fun s hs => hr ⟨s, hs⟩] at h
    cases h
    rfl

theorem alternatives_nil (h : alternatives n r = some ([], q)) : q = r := by
  rcases n with _ | n
  · cases h
  by_cases hr : ∃ s, r = .keyword .or_ :: s
  · obtain ⟨s, rfl⟩ := hr
    rw [alternatives] at h
    obtain ⟨p, -, h₁⟩ := Option.bind_eq_some_iff.1 h
    obtain ⟨p, -, h₂⟩ := Option.bind_eq_some_iff.1 h₁
    cases h₂
  · rw [alternatives.eq_3 r n fun s hs => hr ⟨s, hs⟩] at h
    cases h
    rfl

theorem inversion_list (ht : isAtomHead t = true)
    (h : inversion n (t :: c) = some (.list es, q)) :
    ∃ m, atom m (t :: c) = some (.list es, q) := by
  rcases n with _ | _ | n
  · cases h
  · simp [inversion.eq_3 (t :: c) _ (ne_cons_of_isAtomHead ht rfl), arithmetic] at h
  rw [inversion.eq_3 (t :: c) _ (ne_cons_of_isAtomHead ht rfl)] at h
  obtain ⟨⟨e, r⟩, h₁, h₂⟩ := Option.bind_eq_some_iff.1 h
  obtain ⟨⟨cs, r'⟩, h₃, h₄⟩ := Option.bind_eq_some_iff.1 h₂
  rcases cs with _ | ⟨p, cs⟩
  · cases h₄
    obtain rfl := comparisons_nil h₃
    rw [arithmetic] at h₁
    obtain ⟨⟨e, r⟩, h₅, h₆⟩ := Option.bind_eq_some_iff.1 h₁
    obtain ⟨rfl, rfl⟩ := operators_list h₆
    exact factor_list ht h₅
  · cases h₄

theorem disjunction_list (ht : isAtomHead t = true)
    (h : disjunction n (t :: c) = some (.list es, q)) :
    ∃ m, atom m (t :: c) = some (.list es, q) := by
  rcases n with _ | _ | n
  · cases h
  · simp [disjunction, conjunction] at h
  rw [disjunction] at h
  obtain ⟨⟨e, r⟩, h₁, h₂⟩ := Option.bind_eq_some_iff.1 h
  obtain ⟨⟨cs, r'⟩, h₃, h₄⟩ := Option.bind_eq_some_iff.1 h₂
  rcases cs with _ | ⟨p, cs⟩
  · cases h₄
    obtain rfl := alternatives_nil h₃
    rw [conjunction] at h₁
    obtain ⟨⟨e, r⟩, h₅, h₆⟩ := Option.bind_eq_some_iff.1 h₁
    obtain ⟨⟨cs, r'⟩, h₇, h₈⟩ := Option.bind_eq_some_iff.1 h₆
    rcases cs with _ | ⟨p, cs⟩
    · cases h₈
      obtain rfl := requirements_nil h₇
      exact inversion_list ht h₅
    · cases h₈
  · cases h₄

theorem expression_list (ht : isAtomHead t = true)
    (h : expression n (t :: c) = some (.list es, q)) :
    ∃ m, atom m (t :: c) = some (.list es, q) := by
  rcases n with _ | n
  · cases h
  rw [expression.eq_3 (t :: c) n (ne_cons_of_isAtomHead ht rfl)] at h
  obtain ⟨⟨e, r⟩, h₁, h₂⟩ := Option.bind_eq_some_iff.1 h
  simp only at h₂
  split at h₂
  · obtain ⟨p, -, h₃⟩ := Option.bind_eq_some_iff.1 h₂
    split at h₃
    · obtain ⟨p, -, h₄⟩ := Option.bind_eq_some_iff.1 h₃
      cases h₄
    · cases h₃
  · cases h₂
    exact disjunction_list ht h₁

theorem expressions_single {k : Nat} (h : expressions n k c = some ([e], false)) :
    expression n c = some (e, []) := by
  cases k with
  | zero => cases h
  | succ k =>
    rw [expressions] at h
    obtain ⟨⟨x, r⟩, h₁, h₂⟩ := Option.bind_eq_some_iff.1 h
    simp only at h₂
    split at h₂
    · cases h₂
      exact h₁
    · cases h₂
    · obtain ⟨p, -, h₃⟩ := Option.bind_eq_some_iff.1 h₂
      simp at h₃
    · cases h₂

/-- A whole text that is a list is nothing but the list. -/
theorem atom_of_parse?_list {s : Text} (hs : Lexer.tokens? s = some (t :: c))
    (ht : isAtomHead t = true) (h : parse? s = some (.list es)) :
    ∃ m, atom m (t :: c) = some (.list es, []) := by
  rw [parse?_eq hs] at h
  obtain ⟨⟨xs, comma⟩, h₁, h₂⟩ := Option.map_eq_some_iff.1 h
  have hone : xs = [.list es] ∧ comma = false := by
    rcases xs with _ | ⟨x, _ | ⟨y, xs⟩⟩ <;> rcases comma with _ | _ <;> cases h₂
    exact ⟨rfl, rfl⟩
  obtain ⟨rfl, rfl⟩ := hone
  exact expression_list ht (expressions_single h₁)

end Stencil.Parser
