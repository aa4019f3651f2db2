import Stencil.Proofs.Expr.Iterations

/-! # Displays go up to the mark that closes them

Parentheses, lists and sets hold elements in the same way and differ in what they make of them.
What follows their first element is read by one function here, so a list can be read again as a
tuple. -/
namespace Stencil.Parser

variable {n : Nat}

/-! ## Elements -/

theorem elements_close (m : Nat) (close : Symbol) (ts : Tokens) :
    elements (m + 1) close (.symbol close :: ts) = some ([], ts) := by
  simp [elements]

theorem elements_more {m : Nat} {close : Symbol} {t : Token} {ts r : Tokens} {e : Expr}
    (ht : t ≠ .symbol close) (h : element m (t :: ts) = some (e, .symbol .comma :: r)) :
    elements (m + 1) close (t :: ts) =
      (elements m close r).bind fun p => some (e :: p.1, p.2) := by
  rw [elements, if_neg ht]
  simp only [h, Option.bind_eq_bind, Option.bind_some]
  rfl

theorem elements_last {m : Nat} {close : Symbol} {t : Token} {ts r : Tokens} {e : Expr}
    (hc : Lexer.isClosing close = true) (ht : t ≠ .symbol close)
    (h : element m (t :: ts) = some (e, .symbol close :: r)) :
    elements (m + 1) close (t :: ts) = some ([e], r) := by
  rw [elements, if_neg ht]
  simp only [h, Option.bind_eq_bind, Option.bind_some]
  cases close <;> first | rfl | cases hc

/-- The elements found at depth `n` are the same in front of any closing mark. -/
def ElementsHold (n : Nat) : Prop :=
  ∀ close ts es rest, Lexer.isClosing close = true → elements n close ts = some (es, rest) →
    ∃ c, ts = c ++ .symbol close :: rest ∧ Balanced c ∧ Regulars es ∧
      ∀ close', Lexer.isClosing close' = true → ∀ m r, 20 * size c + 12 ≤ m →
        elements m close' (c ++ .symbol close' :: r) = some (es, r)

theorem follow_closing {s : Symbol} (hs : Lexer.isClosing s = true) (r : Tokens) :
    follow (.symbol s :: r) = none :=
  follow_of_isStop (by simp [Token.isStop, hs]) r

/-- Iterations in front of a closing mark are the same in front of any. -/
theorem Iterates.closing (hcl : Iterates n) {close : Symbol} {ts r : Tokens}
    (hc : Lexer.isClosing close = true) (h : clauses n ts = some (.symbol close :: r)) :
    ∃ t d, ts = t :: d ++ .symbol close :: r ∧ Balanced (t :: d) ∧ IsIteration t ∧
      ∀ close', Lexer.isClosing close' = true → ∀ m q, 20 * size (t :: d) + 1 ≤ m →
        clauses m (t :: d ++ .symbol close' :: q) = some (.symbol close' :: q) := by
  obtain ⟨t, d, rfl, hd, hread⟩ := hcl _ _ h
  obtain ⟨t', _, ht', hit⟩ := head_of_clauses h
  obtain ⟨rfl, -⟩ := List.cons.inj ht'
  refine ⟨t, d, rfl, hd, hit, fun close' hc' m q hm => hread m _ hm ?_⟩
  exact (follow_closing hc' q).trans (follow_closing hc r).symm

theorem elementsHold (he : Phrase element 11 (·.isRegular = true) n) (hes : ElementsHold n) :
    ElementsHold (n + 1) := by
  intro close ts es rest hc h
  rcases ts with _ | ⟨t, ts⟩
  · simp [elements] at h
  by_cases ht : t = .symbol close
  · subst ht
    cases (elements_close n close ts).symm.trans h
    refine ⟨[], rfl, .nil, .nil, ?_⟩
    intro close' _ m r hm
    obtain ⟨m, rfl⟩ : ∃ i, m = i + 1 := ⟨m - 1, by omega⟩
    exact elements_close m close' r
  cases h₁ : element n (t :: ts) with
  | none => simp [elements, ht, h₁] at h
  | some p =>
  obtain ⟨e, r₁⟩ := p
  obtain ⟨u, a, hts, hba, hea, hra⟩ := he _ _ _ h₁
  obtain ⟨rfl, rfl⟩ := List.cons.inj hts
  rw [elements, if_neg ht] at h
  simp only [h₁, Option.bind_eq_bind, Option.bind_some] at h
  split at h
  next r₂ =>
    obtain ⟨⟨fs, r₃⟩, h₂, h₃⟩ := Option.bind_eq_some_iff.1 h
    cases h₃
    obtain ⟨d, rfl, hbd, hfs, hrd⟩ := hes _ _ _ _ hc h₂
    refine ⟨t :: a ++ .symbol .comma :: d, by simp, hba.append (hbd.cons rfl), .cons hea hfs, ?_⟩
    intro close' hc' m r hm
    obtain ⟨m, rfl⟩ : ∃ i, m = i + 1 := ⟨m - 1, by omega⟩
    simp only [size_cons, size_append, Token.size_symbol] at hm
    have e₁ := hra m (.symbol .comma :: (d ++ .symbol close' :: r)) (by simp; omega)
      (follow_cons (by simp) _ _)
    have e₂ := hrd close' hc' m r (by omega)
    have e₀ : t :: a ++ .symbol .comma :: d ++ .symbol close' :: r =
        t :: a ++ .symbol .comma :: (d ++ .symbol close' :: r) := by simp
    rw [e₀]
    exact (elements_more (hba.head_opens hc') e₁).trans (by rw [e₂]; rfl)
  next r₂ t' hcomma =>
    split_ifs at h with ht'
    subst ht'
    cases h
    refine ⟨t :: a, rfl, hba, .cons hea .nil, ?_⟩
    intro close' hc' m r hm
    obtain ⟨m, rfl⟩ : ∃ i, m = i + 1 := ⟨m - 1, by omega⟩
    have e₁ := hra m (.symbol close' :: r) (by omega)
      ((follow_closing hc' r).trans (follow_closing hc rest).symm)
    exact elements_last hc' (hba.head_opens hc') e₁
  next => cases h

/-! ## What follows the first element -/

/-- What brackets make of their elements: of a single one without a comma, of several, and of
iterations. -/
structure DisplayKind where
  close : Symbol
  one : Expr → Option Expr
  more : Expr → List Expr → Expr
  iteration : Construct
  isClosing_close : Lexer.isClosing close = true
  isSingle_one {e v : Expr} : e.isRegular = true → one e = some v → v.IsSingle
  isSingle_more {e : Expr} {es : List Expr} : e.isRegular = true → Regulars es →
    (more e es).IsSingle

/-- How elements go on behind the first. -/
inductive Content
  | one
  | more (es : List Expr)
  | iteration

namespace DisplayKind

def value (k : DisplayKind) (e : Expr) : Content → Option Expr
  | .one => k.one e
  | .more es => some (k.more e es)
  | .iteration => some (.construct k.iteration)

def parens : DisplayKind where
  close := .parenClose
  one e := if e.isSpread then none else some e
  more e es := .tuple (e :: es)
  iteration := .generator
  isClosing_close := rfl
  isSingle_one he hv := by
    split_ifs at hv with hs
    cases hv
    exact ⟨he, by simpa using hs⟩
  isSingle_more he hes := ⟨by simpa [Expr.isRegular, Regulars, he] using hes, rfl⟩

def squares : DisplayKind where
  close := .squareClose
  one e := some (.list [e])
  more e es := .list (e :: es)
  iteration := .listComprehension
  isClosing_close := rfl
  isSingle_one he hv := by
    cases hv
    exact ⟨by simpa [Expr.isRegular] using he, rfl⟩
  isSingle_more he hes := ⟨by simpa [Expr.isRegular, Regulars, he] using hes, rfl⟩

def braces : DisplayKind where
  close := .braceClose
  one e := some (.set [e])
  more e es := .set (e :: es)
  iteration := .setComprehension
  isClosing_close := rfl
  isSingle_one he hv := by
    cases hv
    exact ⟨by simpa [Expr.isRegular] using he, rfl⟩
  isSingle_more he hes := ⟨by simpa [Expr.isRegular, Regulars, he] using hes, rfl⟩

end DisplayKind

/-- Behind the first element of a display stand its closing mark, more elements or iterations. -/
def displayRest (k : DisplayKind) (m : Nat) (e : Expr) : Tokens → Option (Expr × Tokens)
  | [] => none
  | t :: ts =>
    if t = .symbol k.close then (k.one e).map (·, ts)
    else if t = .symbol .comma then (elements m k.close ts).bind fun p => some (k.more e p.1, p.2)
    else if e.isSpread then none
    else (clauses m (t :: ts)).bind fun r =>
      if r.head? = some (.symbol k.close) then some (.construct k.iteration, r.tail) else none

theorem displayRest_close (k : DisplayKind) (m : Nat) (e : Expr) (ts : Tokens) :
    displayRest k m e (.symbol k.close :: ts) = (k.one e).map (·, ts) := by
  rw [displayRest, if_pos rfl]

theorem displayRest_comma (k : DisplayKind) (m : Nat) (e : Expr) (ts : Tokens) :
    displayRest k m e (.symbol .comma :: ts) =
      (elements m k.close ts).bind fun p => some (k.more e p.1, p.2) := by
  have : Token.symbol .comma ≠ .symbol k.close := by
    intro h
    have := k.isClosing_close
    rw [← Token.symbol.inj h] at this
    cases this
  rw [displayRest, if_neg this, if_pos rfl]

theorem clauses_nil (m : Nat) : clauses m [] = none := by
  cases m <;> rw [clauses] <;> nofun

theorem displayRest_clauses (k : DisplayKind) (m : Nat) (e : Expr) {ts : Tokens}
    (h₁ : ∀ r, ts = .symbol k.close :: r → False) (h₂ : ∀ r, ts = .symbol .comma :: r → False) :
    displayRest k m e ts =
      if e.isSpread then none
      else (clauses m ts).bind fun r =>
        if r.head? = some (.symbol k.close) then some (.construct k.iteration, r.tail)
        else none := by
  cases ts with
  | nil => simp [displayRest, clauses_nil]
  | cons t ts =>
    have hclose : t ≠ .symbol k.close := fun ht => h₁ ts (by rw [ht])
    have hcomma : t ≠ .symbol .comma := fun ht => h₂ ts (by rw [ht])
    rw [displayRest, if_neg hclose, if_neg hcomma]

/-- Brackets of another kind go on alike and make of it what they make of its content. -/
theorem displayRest_spec (hes : ElementsHold n) (hcl : Iterates n) {k : DisplayKind} {e v : Expr}
    {ts rest : Tokens} (he : e.isRegular = true)
    (h : displayRest k n e ts = some (v, rest)) :
    ∃ d content, ts = d ++ .symbol k.close :: rest ∧ Balanced d ∧ k.value e content = some v ∧
      v.IsSingle ∧ (content = .one → d = []) ∧ ∀ (k' : DisplayKind) m r, 20 * size d + 12 ≤ m →
        displayRest k' m e (d ++ .symbol k'.close :: r) = (k'.value e content).map (·, r) := by
  rcases ts with _ | ⟨t, ts⟩
  · cases h
  by_cases hclose : t = .symbol k.close
  · subst hclose
    rw [displayRest_close] at h
    obtain ⟨w, hw, hp⟩ := Option.map_eq_some_iff.1 h
    cases hp
    exact ⟨[], .one, rfl, .nil, hw, k.isSingle_one he hw, fun _ => rfl,
      fun k' m r _ => displayRest_close k' m e r⟩
  by_cases hcomma : t = .symbol .comma
  · subst hcomma
    rw [displayRest_comma] at h
    obtain ⟨⟨es, r⟩, h₁, h₂⟩ := Option.bind_eq_some_iff.1 h
    cases h₂
    obtain ⟨d, rfl, hd, hr, hread⟩ := hes _ _ _ _ k.isClosing_close h₁
    refine ⟨.symbol .comma :: d, .more es, rfl, hd.cons rfl, rfl, k.isSingle_more he hr, nofun, ?_⟩
    intro k' m q hm
    simp only [size_cons, Token.size_symbol] at hm
    have e₁ := hread k'.close k'.isClosing_close m q (by omega)
    rw [List.cons_append, displayRest_comma, e₁]
    rfl
  · have h₁ : ∀ r, t :: ts = .symbol k.close :: r → False := fun r hr =>
      hclose (List.cons.inj hr).1
    have h₂ : ∀ r, t :: ts = .symbol .comma :: r → False := fun r hr =>
      hcomma (List.cons.inj hr).1
    rw [displayRest_clauses k n e h₁ h₂] at h
    split_ifs at h with hs
    obtain ⟨q, hq, h₄⟩ := Option.bind_eq_some_iff.1 h
    split_ifs at h₄ with hhead
    obtain ⟨q, rfl⟩ := List.head?_eq_some_iff.1 hhead
    cases h₄
    obtain ⟨x, d, hx, hd, hit, hr⟩ := hcl.closing k.isClosing_close hq
    obtain ⟨rfl, rfl⟩ := List.cons.inj hx
    refine ⟨t :: d, .iteration, rfl, hd, rfl, ⟨rfl, rfl⟩, nofun, ?_⟩
    intro k' m q' hm
    rw [displayRest_clauses, if_neg hs, hr k'.close k'.isClosing_close m q' (by omega)]
    · simp [DisplayKind.value]
    · intro r hr
      rcases hit with rfl | rfl <;> cases (List.cons.inj hr).1
    · intro r hr
      rcases hit with rfl | rfl <;> cases (List.cons.inj hr).1

/-! ## Parentheses and lists -/

theorem ite_head_close {α : Type} {close : Symbol} {r : Tokens} (v : Option α)
    (h : ∀ q, r = .symbol close :: q → False) :
    (if r.head? = some (.symbol close) then v else none) = none := by
  refine if_neg fun hr => ?_
  obtain ⟨q, rfl⟩ := List.head?_eq_some_iff.1 hr
  exact h q rfl

/-- But for tokens that begin with one of `heads`, `f` reads a first element and what follows it. -/
def IsDisplay (f : Nat → Tokens → Option (Expr × Tokens)) (k : DisplayKind) (heads : List Token) :
    Prop :=
  ∀ m ts, (∀ t ∈ heads, ts.head? ≠ some t) →
    f (m + 1) ts = (element m ts).bind fun p => displayRest k m p.1 p.2

/-- Between brackets of any kind, the tokens are the element `e` and this content behind it. -/
def HasContent (c : Tokens) (e : Expr) (content : Content) : Prop :=
  (∀ f (k : DisplayKind) heads, IsDisplay f k heads → (∀ t ∈ heads, c.head? ≠ some t) →
    ∀ m r, 20 * size c + 12 ≤ m →
      f m (c ++ .symbol k.close :: r) = (k.value e content).map (·, r)) ∧
    (content = .one → ∀ m, 20 * size c + 11 ≤ m → element m c = some (e, []))

/-- What a display holds does not depend on its brackets. -/
theorem display_spec {f : Nat → Tokens → Option (Expr × Tokens)} {k : DisplayKind}
    {heads : List Token} (hf : IsDisplay f k heads) (he : Phrase element 11 (·.isRegular = true) n)
    (hes : ElementsHold n) (hcl : Iterates n) {ts rest : Tokens} {v : Expr}
    (hts : ∀ t ∈ heads, ts.head? ≠ some t) (h : f (n + 1) ts = some (v, rest)) :
    ∃ u c e content, ts = u :: c ++ .symbol k.close :: rest ∧ Balanced (u :: c) ∧
      k.value e content = some v ∧ v.IsSingle ∧ HasContent (u :: c) e content := by
  rw [hf n ts hts] at h
  obtain ⟨⟨e, r⟩, h₁, h₂⟩ := Option.bind_eq_some_iff.1 h
  obtain ⟨u, a, rfl, hba, hea, hra⟩ := he _ _ _ h₁
  obtain ⟨d, content, rfl, hbd, hv, hs, hone, hrd⟩ := displayRest_spec hes hcl hea h₂
  have close : ∀ (k' : DisplayKind) q, follow (.symbol k'.close :: q) =
      follow (.symbol k.close :: rest) := fun k' q =>
    (follow_closing k'.isClosing_close q).trans (follow_closing k.isClosing_close _).symm
  refine ⟨u, a ++ d, e, content, by simp, hba.append hbd, hv, hs, ?_, ?_⟩
  · intro f' k' heads' hf' hu m q hm
    obtain ⟨m, rfl⟩ : ∃ i, m = i + 1 := ⟨m - 1, by omega⟩
    simp only [size_cons, size_append] at hm
    have e₁ := hra m (d ++ .symbol k'.close :: q) (by simp; omega) (follow_append d (close k' q))
    have e₂ := hrd k' m q (by have := u.size_pos; omega)
    have e₀ : u :: (a ++ d) ++ .symbol k'.close :: q =
        u :: a ++ (d ++ .symbol k'.close :: q) := by
      simp
    have hhead : ∀ t ∈ heads', (u :: a ++ (d ++ .symbol k'.close :: q)).head? ≠ some t := hu
    rw [e₀, hf' m _ hhead, e₁]
    exact e₂
  · intro hc m hm
    obtain rfl := hone hc
    rw [List.append_nil] at hm ⊢
    have e₁ := hra m [] (by omega) (follow_closing k.isClosing_close rest).symm
    rwa [List.append_nil] at e₁

theorem paren_isDisplay : IsDisplay paren .parens [.symbol .parenClose, .keyword .yield_] := by
  intro m ts h
  have hc : ∀ r, ts = .symbol .parenClose :: r → False := fun r hr => by simp [hr] at h
  have hy : ∀ r, ts = .keyword .yield_ :: r → False := fun r hr => by simp [hr] at h
  rw [paren.eq_6 ts m hc (fun r => hy _) (fun r => hy _) hy]
  refine congrArg (Option.bind _) (funext fun p => ?_)
  obtain ⟨e, r⟩ := p
  simp only
  split
  next q =>
    refine Eq.trans ?_ (displayRest_close .parens m e q).symm
    simp only [DisplayKind.parens]
    split <;> rfl
  next q => rw [displayRest_comma]; rfl
  next h₁ h₂ =>
    rw [displayRest_clauses .parens m e h₁ h₂]
    split
    · rfl
    · refine congrArg (Option.bind _) (funext fun q => ?_)
      split
      next => rfl
      next hq => exact (ite_head_close _ hq).symm

theorem square_isDisplay : IsDisplay square .squares [.symbol .squareClose] := by
  intro m ts h
  have hc : ∀ r, ts = .symbol .squareClose :: r → False := fun r hr => by simp [hr] at h
  rw [square.eq_3 ts m hc]
  refine congrArg (Option.bind _) (funext fun p => ?_)
  obtain ⟨e, r⟩ := p
  simp only
  split
  next q => exact (displayRest_close .squares m e q).symm
  next q => rw [displayRest_comma]; rfl
  next h₁ h₂ =>
    rw [displayRest_clauses .squares m e h₁ h₂]
    split
    · rfl
    · refine congrArg (Option.bind _) (funext fun q => ?_)
      split
      next => rfl
      next hq => exact (ite_head_close _ hq).symm

theorem display_closed {f : Nat → Tokens → Option (Expr × Tokens)} {k : DisplayKind}
    {heads : List Token} (hf : IsDisplay f k heads) (he : Phrase element 11 (·.isRegular = true) n)
    (hes : ElementsHold n) (hcl : Iterates n) {ts rest : Tokens} {v : Expr}
    (hts : ∀ t ∈ heads, ts.head? ≠ some t) (h : f (n + 1) ts = some (v, rest)) :
    ∃ c, ts = c ++ .symbol k.close :: rest ∧ Balanced c ∧ v.IsSingle ∧ ∀ m r,
      20 * size c + 12 ≤ m → f m (c ++ .symbol k.close :: r) = some (v, r) := by
  obtain ⟨u, c, e, content, rfl, hb, hv, hs, hr⟩ := display_spec hf he hes hcl hts h
  refine ⟨u :: c, rfl, hb, hs, fun m r hm => ?_⟩
  rw [hr.1 f k heads hf hts m r hm, hv]
  rfl

theorem square_closed (he : Phrase element 11 (·.isRegular = true) n) (hes : ElementsHold n)
    (hcl : Iterates n) : Closed square .squareClose 12 Expr.IsSingle (n + 1) := by
  intro ts v rest h
  by_cases hc : ts.head? = some (.symbol .squareClose)
  · obtain ⟨ts, rfl⟩ := List.head?_eq_some_iff.1 hc
    rw [square] at h
    cases h
    refine ⟨[], rfl, .nil, ⟨rfl, rfl⟩, ?_⟩
    intro m r hm
    obtain ⟨m, rfl⟩ : ∃ i, m = i + 1 := ⟨m - 1, by omega⟩
    exact square.eq_2 m r
  · exact display_closed square_isDisplay he hes hcl (by simpa using hc) h

/-! ## Yields -/

/-- The values of a yield found at depth `n` go up to the closing parenthesis. -/
def YieldsHold (n : Nat) : Prop :=
  ∀ ts rest, yielded n ts = some rest → ∃ c, ts = c ++ .symbol .parenClose :: rest ∧
    Balanced c ∧ ∀ m r, 20 * size c + 11 ≤ m → yielded m (c ++ .symbol .parenClose :: r) = some r

theorem yieldsHold (hs : Phrase starExpression 10 (·.isRegular = true) n) (hy : YieldsHold n) :
    YieldsHold (n + 1) := by
  intro ts rest h
  rw [yielded] at h
  obtain ⟨⟨e, r₁⟩, h₁, h₂⟩ := Option.bind_eq_some_iff.1 h
  obtain ⟨u, a, rfl, hba, -, hra⟩ := hs _ _ _ h₁
  simp only at h₂
  split at h₂
  next r =>
    cases h₂
    refine ⟨u :: a, rfl, hba, ?_⟩
    intro m q hm
    obtain ⟨m, rfl⟩ : ∃ i, m = i + 1 := ⟨m - 1, by omega⟩
    have e₁ := hra m (.symbol .parenClose :: q) (by omega) (follow_cons (by simp) _ _)
    rw [yielded, e₁]
    rfl
  next r =>
    cases h₂
    have hc : Balanced [.symbol .comma] := .single rfl
    refine ⟨u :: a ++ [Token.symbol .comma], by simp, hba.append hc, ?_⟩
    intro m q hm
    obtain ⟨m, rfl⟩ : ∃ i, m = i + 1 := ⟨m - 1, by omega⟩
    simp only [size_cons, size_append] at hm
    have e₁ := hra m (.symbol .comma :: .symbol .parenClose :: q) (by simp; omega)
      (follow_cons (by simp) _ _)
    rw [List.append_assoc, List.singleton_append, yielded, e₁]
    rfl
  next r hr =>
    obtain ⟨d, rfl, hbd, hrd⟩ := hy _ _ h₂
    obtain ⟨w, d, rfl⟩ : ∃ w d', d = w :: d' := by
      cases d with
      | nil => exact (hr rest rfl).elim
      | cons w d => exact ⟨w, d, rfl⟩
    refine ⟨u :: a ++ .symbol .comma :: (w :: d), by simp, hba.append (hbd.cons rfl), ?_⟩
    intro m q hm
    obtain ⟨m, rfl⟩ : ∃ i, m = i + 1 := ⟨m - 1, by omega⟩
    simp only [size_cons, size_append, Token.size_symbol] at hm
    have e₁ := hra m (.symbol .comma :: (w :: d ++ .symbol .parenClose :: q)) (by simp; omega)
      (follow_cons (by simp) _ _)
    have e₂ := hrd m q (by simp; omega)
    have e₀ : u :: a ++ .symbol .comma :: (w :: d) ++ .symbol .parenClose :: q =
        u :: a ++ .symbol .comma :: (w :: d ++ .symbol .parenClose :: q) := by simp
    rw [e₀, yielded, e₁, Option.bind_eq_bind, Option.bind_some]
    simp only
    split
    next h => cases h
    next h => exact absurd (List.cons.inj (List.cons.inj h).2).1 (hbd.head_opens rfl)
    next h =>
      obtain rfl := (List.cons.inj h).2
      exact e₂
    next h => exact absurd rfl (h _)
  next => cases h₂

theorem paren_yield_closed (he : Phrase expression 9 Expr.IsSingle n) (hy : YieldsHold n)
    {ts rest : Tokens} {v : Expr} (h : paren (n + 1) (.keyword .yield_ :: ts) = some (v, rest)) :
    ∃ c, .keyword .yield_ :: ts = c ++ .symbol .parenClose :: rest ∧ Balanced c ∧ v.IsSingle ∧
      ∀ m r, 20 * size c + 12 ≤ m → paren m (c ++ .symbol .parenClose :: r) = some (v, r) := by
  by_cases h₁ : ∃ q, ts = .symbol .parenClose :: q
  · obtain ⟨q, rfl⟩ := h₁
    rw [paren] at h
    cases h
    refine ⟨[.keyword .yield_], rfl, .single rfl, ⟨rfl, rfl⟩, ?_⟩
    intro m r hm
    obtain ⟨m, rfl⟩ : ∃ i, m = i + 1 := ⟨m - 1, by omega⟩
    exact paren.eq_3 m r
  by_cases h₂ : ∃ q, ts = .keyword .from_ :: q
  · obtain ⟨q, rfl⟩ := h₂
    rw [paren] at h
    obtain ⟨⟨e, r₁⟩, h₃, h₄⟩ := Option.bind_eq_some_iff.1 h
    obtain ⟨u, a, rfl, hba, -, hra⟩ := he _ _ _ h₃
    simp only at h₄
    split at h₄
    next r =>
      cases h₄
      refine ⟨.keyword .yield_ :: .keyword .from_ :: (u :: a), rfl, (hba.cons rfl).cons rfl,
        ⟨rfl, rfl⟩, ?_⟩
      intro m r hm
      obtain ⟨m, rfl⟩ : ∃ i, m = i + 1 := ⟨m - 1, by omega⟩
      simp only [size_cons, Token.size_keyword] at hm
      have e₁ := hra m (.symbol .parenClose :: r) (by simp; omega) (follow_cons (by simp) _ _)
      rw [List.cons_append, List.cons_append, paren, e₁]
      rfl
    next => cases h₄
  · have h₁' : ∀ q, ts = .symbol .parenClose :: q → False := fun q hq => h₁ ⟨q, hq⟩
    have h₂' : ∀ q, ts = .keyword .from_ :: q → False := fun q hq => h₂ ⟨q, hq⟩
    rw [paren.eq_5 n ts h₁' h₂'] at h
    obtain ⟨r, h₃, h₄⟩ := Option.bind_eq_some_iff.1 h
    cases h₄
    obtain ⟨d, rfl, hbd, hrd⟩ := hy _ _ h₃
    obtain ⟨w, d, rfl⟩ : ∃ w d', d = w :: d' := by
      cases d with
      | nil => exact (h₁' _ rfl).elim
      | cons w d => exact ⟨w, d, rfl⟩
    refine ⟨.keyword .yield_ :: (w :: d), rfl, hbd.cons rfl, ⟨rfl, rfl⟩, ?_⟩
    intro m r hm
    obtain ⟨m, rfl⟩ : ∃ i, m = i + 1 := ⟨m - 1, by omega⟩
    simp only [size_cons, Token.size_keyword] at hm
    have e₁ := hrd m r (by simp; omega)
    rw [List.cons_append, paren.eq_5, e₁]
    · rfl
    · exact fun q hq => hbd.head_opens rfl (List.cons.inj hq).1
    · exact fun q hq => h₂' _ (congrArg (· :: _) (List.cons.inj hq).1)

theorem paren_closed (he : Phrase expression 9 Expr.IsSingle n)
    (hel : Phrase element 11 (·.isRegular = true) n) (hes : ElementsHold n) (hcl : Iterates n)
    (hy : YieldsHold n) : Closed paren .parenClose 12 Expr.IsSingle (n + 1) := by
  intro ts v rest h
  by_cases hc : ts.head? = some (.symbol .parenClose)
  · obtain ⟨ts, rfl⟩ := List.head?_eq_some_iff.1 hc
    rw [paren] at h
    cases h
    refine ⟨[], rfl, .nil, ⟨rfl, rfl⟩, ?_⟩
    intro m r hm
    obtain ⟨m, rfl⟩ : ∃ i, m = i + 1 := ⟨m - 1, by omega⟩
    exact paren.eq_2 m r
  by_cases hyield : ts.head? = some (.keyword .yield_)
  · obtain ⟨ts, rfl⟩ := List.head?_eq_some_iff.1 hyield
    exact paren_yield_closed he hy h
  · exact display_closed paren_isDisplay hel hes hcl (by simpa using ⟨hc, hyield⟩) h

/-! ## Items up to a closing mark -/

/-- What `g` finds at depth `n` in front of a mark it finds there whatever stands behind the mark. -/
def FindsItems (g : Nat → Tokens → Option (Expr × Tokens)) (k n : Nat) : Prop :=
  ∀ ts e s rest, g n ts = some (e, .symbol s :: rest) → ∃ u c, ts = u :: c ++ .symbol s :: rest ∧
    Balanced (u :: c) ∧ e.isRegular = true ∧ ∀ m r, 20 * size (u :: c) + k ≤ m →
      g m (u :: c ++ .symbol s :: r) = some (e, .symbol s :: r)

theorem Phrase.findsItems {g : Nat → Tokens → Option (Expr × Tokens)} {k : Nat}
    (hg : Phrase g k (·.isRegular = true) n) : FindsItems g k n := by
  intro ts e s rest h
  obtain ⟨u, c, rfl, hb, he, hr⟩ := hg _ _ _ h
  exact ⟨u, c, rfl, hb, he, fun m r hm => hr m _ hm (follow_cons (by simp) _ _)⟩

/-- An item that `g` reads stands in front of the closing mark, or in front of a comma and what `f`
reads behind it. -/
structure ReadsItem {α : Type} (h : Nat → Tokens → Option (α × Tokens))
    (f : Nat → Tokens → Option (List Expr × Tokens)) (g : Nat → Tokens → Option (Expr × Tokens))
    (close : Symbol) (one : Expr → α) (more : Expr → List Expr → α) : Prop where
  last {m : Nat} {ts r : Tokens} {e : Expr} : (∀ s, ts = .symbol close :: s → False) →
    g m ts = some (e, .symbol close :: r) → h (m + 1) ts = some (one e, r)
  comma {m : Nat} {ts r : Tokens} {e : Expr} : (∀ s, ts = .symbol close :: s → False) →
    g m ts = some (e, .symbol .comma :: r) →
      h (m + 1) ts = (f m r).bind fun q => some (more e q.1, q.2)

theorem ReadsItem.closed {α : Type} {h : Nat → Tokens → Option (α × Tokens)}
    {f : Nat → Tokens → Option (List Expr × Tokens)} {g : Nat → Tokens → Option (Expr × Tokens)}
    {close : Symbol} {one : Expr → α} {more : Expr → List Expr → α} {P : α → Prop} {k : Nat}
    (hh : ReadsItem h f g close one more) (hc : Lexer.isClosing close = true)
    (hg : FindsItems g k n) (hf : Closed f close (k + 1) Regulars n)
    (hone : ∀ e : Expr, e.isRegular = true → P (one e))
    (hmore : ∀ (e : Expr) es, e.isRegular = true → Regulars es → P (more e es))
    {ts r rest : Tokens} {e : Expr} {s : Symbol} {v : α} (he : g n ts = some (e, .symbol s :: r))
    (hs : s = close ∨ s = .comma) (hv : h (n + 1) ts = some (v, rest)) :
    ∃ c, ts = c ++ .symbol close :: rest ∧ Balanced c ∧ P v ∧ ∀ m q, 20 * size c + (k + 1) ≤ m →
      h m (c ++ .symbol close :: q) = some (v, q) := by
  obtain ⟨u, a, rfl, hba, hea, hra⟩ := hg _ _ _ _ he
  have hu : ∀ q s, u :: a ++ q = .symbol close :: s → False :=
    fun q s hs => hba.head_opens hc (List.cons.inj hs).1
  by_cases hlast : s = close
  · subst hlast
    cases (hh.last (hu _) he).symm.trans hv
    refine ⟨u :: a, rfl, hba, hone e hea, ?_⟩
    intro m q hm
    obtain ⟨m, rfl⟩ : ∃ i, m = i + 1 := ⟨m - 1, by omega⟩
    exact hh.last (hu _) (hra m q (by omega))
  · obtain rfl := hs.resolve_left hlast
    rw [hh.comma (hu _) he] at hv
    obtain ⟨⟨es, r'⟩, hes, he'⟩ := Option.bind_eq_some_iff.1 hv
    cases he'
    obtain ⟨d, rfl, hbd, hed, hrd⟩ := hf _ _ _ hes
    refine ⟨u :: a ++ .symbol .comma :: d, by simp, hba.append (hbd.cons rfl),
      hmore e es hea hed, ?_⟩
    intro m q hm
    obtain ⟨m, rfl⟩ : ∃ i, m = i + 1 := ⟨m - 1, by omega⟩
    simp only [size_cons, size_append, Token.size_symbol] at hm
    have e₁ := hra m (d ++ .symbol close :: q) (by simp; omega)
    have e₂ := hrd m q (by omega)
    have e₀ : u :: a ++ .symbol .comma :: d ++ .symbol close :: q =
        u :: a ++ .symbol .comma :: (d ++ .symbol close :: q) := by simp
    rw [e₀, hh.comma (hu _) e₁, e₂]
    rfl

/-! ## Sets and dictionaries -/

theorem setRest_eq (m : Nat) (e : Expr) (ts : Tokens) :
    setRest (m + 1) e ts = displayRest .braces m e ts := by
  by_cases h₁ : ∃ r, ts = .symbol .braceClose :: r
  · obtain ⟨r, rfl⟩ := h₁
    rw [setRest]
    exact (displayRest_close .braces m e r).symm
  by_cases h₂ : ∃ r, ts = .symbol .comma :: r
  · obtain ⟨r, rfl⟩ := h₂
    rw [setRest, displayRest_comma]
    rfl
  have h₁' : ∀ r, ts = .symbol .braceClose :: r → False := fun r hr => h₁ ⟨r, hr⟩
  have h₂' : ∀ r, ts = .symbol .comma :: r → False := fun r hr => h₂ ⟨r, hr⟩
  rw [setRest.eq_4 e ts m h₁' h₂', displayRest_clauses .braces m e h₁' h₂']
  split
  · rfl
  · refine congrArg (Option.bind _) (funext fun q => ?_)
    split
    next => rfl
    next hq => exact (ite_head_close _ hq).symm

/-- What follows the first element of a set goes up to its closing brace. -/
theorem setRest_closed (hes : ElementsHold n) (hcl : Iterates n) {e : Expr}
    (he : e.isRegular = true) :
    Closed (fun m => setRest m e) .braceClose 13 Expr.IsSingle (n + 1) := by
  intro ts v rest h
  obtain ⟨d, content, rfl, hd, hv, hs, -, hr⟩ :=
    displayRest_spec hes hcl he ((setRest_eq n e ts).symm.trans h)
  refine ⟨d, rfl, hd, hs, fun m r hm => ?_⟩
  obtain ⟨m, rfl⟩ : ∃ i, m = i + 1 := ⟨m - 1, by omega⟩
  refine (setRest_eq m e _).trans ((hr .braces m r (by omega)).trans ?_)
  rw [hv]
  rfl

theorem entry_pair {m : Nat} {ts r : Tokens} {k : Expr}
    (hts : ∀ s, ts = .symbol .doubleStar :: s → False)
    (h : expression m ts = some (k, .symbol .colon :: r)) :
    entry (m + 1) ts = (expression m r).bind fun p => some (.pair k p.1, p.2) := by
  rw [entry.eq_3 ts m hts]
  simp only [h, Option.bind_eq_bind, Option.bind_some]
  rfl

theorem entry_phrase (ha : Phrase (fun m => arithmetic m 1) 5 Expr.IsSingle n)
    (he : Phrase expression 9 Expr.IsSingle n) : Phrase entry 10 (·.isRegular = true) (n + 1) := by
  intro ts v rest h
  by_cases hs : ∃ s, ts = .symbol .doubleStar :: s
  · obtain ⟨s, rfl⟩ := hs
    exact IsPhrase.behind (φ := .spreadAll) rfl (fun _ _ => by rw [entry]; rfl) ha
      (fun e he => by simpa [Expr.isRegular] using he.1) (by omega) h
  have hts : ∀ s, ts = .symbol .doubleStar :: s → False := fun s h => hs ⟨s, h⟩
  cases h₁ : expression n ts with
  | none => simp [entry.eq_3 ts n hts, h₁] at h
  | some p =>
  obtain ⟨k, r₁⟩ := p
  by_cases hc : ∃ s, r₁ = .symbol .colon :: s
  · obtain ⟨s, rfl⟩ := hc
    rw [entry_pair hts h₁] at h
    obtain ⟨⟨x, r₂⟩, h₂, h₃⟩ := Option.bind_eq_some_iff.1 h
    cases h₃
    obtain ⟨u, a, rfl, hba, hka, hra⟩ := he _ _ _ h₁
    obtain ⟨w, d, rfl, hbd, hxd, hrd⟩ := he _ _ _ h₂
    refine ⟨u, a ++ .symbol .colon :: (w :: d), by simp, hba.append (hbd.cons rfl),
      by simp [Expr.isRegular, hka.1, hxd.1], ?_⟩
    intro m r hm hfo
    obtain ⟨m, rfl⟩ : ∃ i, m = i + 1 := ⟨m - 1, by omega⟩
    simp only [size_cons, size_append, Token.size_symbol] at hm
    have e₁ := hra m (.symbol .colon :: (w :: d ++ r)) (by simp; omega)
      (follow_cons (by simp) _ _)
    have e₂ := hrd m r (by simp; omega) hfo
    have e₀ : u :: (a ++ .symbol .colon :: (w :: d)) ++ r =
        u :: a ++ .symbol .colon :: (w :: d ++ r) := by simp
    have hu : ∀ s, u :: a ++ .symbol .colon :: (w :: d ++ r) = .symbol .doubleStar :: s → False :=
      fun s hs => hts _ (congrArg (· :: _) (List.cons.inj hs).1)
    rw [e₀, entry_pair hu e₁, e₂]
    rfl
  · rw [entry.eq_3 ts n hts] at h
    simp only [h₁, Option.bind_eq_bind, Option.bind_some] at h
    split at h
    next s => exact absurd ⟨s, rfl⟩ hc
    next => cases h

theorem entries_readsItem : ReadsItem entries entries entry .braceClose (fun e => [e]) List.cons where
  last hts he := by
    rw [entries.eq_3 _ _ hts, he]
    rfl
  comma hts he := by
    rw [entries.eq_3 _ _ hts, he]
    rfl

theorem entries_closed (he : Phrase entry 10 (·.isRegular = true) n)
    (hes : Closed entries .braceClose 11 Regulars n) :
    Closed entries .braceClose 11 Regulars (n + 1) := by
  intro ts v rest h
  by_cases hc : ∃ s, ts = .symbol .braceClose :: s
  · obtain ⟨s, rfl⟩ := hc
    rw [entries] at h
    cases h
    refine ⟨[], rfl, .nil, .nil, ?_⟩
    intro m r hm
    obtain ⟨m, rfl⟩ : ∃ i, m = i + 1 := ⟨m - 1, by omega⟩
    exact entries.eq_2 m r
  have hts : ∀ s, ts = .symbol .braceClose :: s → False := fun s h => hc ⟨s, h⟩
  obtain ⟨e, s, r, hitem, hs⟩ : ∃ e s r, entry n ts = some (e, .symbol s :: r) ∧
      (s = .braceClose ∨ s = .comma) := by
    rw [entries.eq_3 ts n hts] at h
    obtain ⟨⟨e, r⟩, h₁, h₂⟩ := Option.bind_eq_some_iff.1 h
    simp only at h₂
    split at h₂
    next r => exact ⟨e, _, r, h₁, .inl rfl⟩
    next r => exact ⟨e, _, r, h₁, .inr rfl⟩
    next => cases h₂
  exact entries_readsItem.closed rfl he.findsItems hes (fun _ he => .cons he .nil)
    (fun _ _ he hes => .cons he hes) hitem hs h

/-- What follows the first entry of a dictionary. -/
def dictRest (m : Nat) (k v : Expr) (ts : Tokens) : Option (Expr × Tokens) :=
  match ts with
  | .symbol .braceClose :: ts => some (.dict [.pair k v], ts)
  | .symbol .comma :: ts => (entries m ts).bind fun p => some (.dict (.pair k v :: p.1), p.2)
  | ts => (clauses m ts).bind fun r =>
    match r with
    | .symbol .braceClose :: r => some (.construct .dictComprehension, r)
    | _ => none

theorem dictRest_closed (hes : Closed entries .braceClose 11 Regulars n) (hcl : Iterates n)
    {k x : Expr} (hk : k.isRegular = true) (hx : x.isRegular = true) :
    Closed (fun m => dictRest m k x) .braceClose 11 Expr.IsSingle n := by
  intro ts v rest h
  have hp : (Expr.pair k x).isRegular = true := by simp [Expr.isRegular, hk, hx]
  change dictRest n k x ts = some (v, rest) at h
  unfold dictRest at h
  split at h
  next r =>
    cases h
    exact ⟨[], rfl, .nil, ⟨by simpa [Expr.isRegular] using hp, rfl⟩, fun _ _ _ => rfl⟩
  next r =>
    obtain ⟨⟨es, r₂⟩, h₃, h₄⟩ := Option.bind_eq_some_iff.1 h
    cases h₄
    obtain ⟨d, rfl, hbd, hed, hrd⟩ := hes _ _ _ h₃
    refine ⟨.symbol .comma :: d, rfl, hbd.cons rfl,
      ⟨by rw [Expr.isRegular]; exact Regulars.cons hp hed, rfl⟩, ?_⟩
    intro m q hm
    simp only [size_cons, Token.size_symbol] at hm
    have e₂ := hrd m q (by omega)
    change dictRest m k x (.symbol .comma :: (d ++ .symbol .braceClose :: q)) = _
    rw [dictRest, e₂]
    rfl
  next h₁ h₂ =>
    obtain ⟨r, hr, h₃⟩ := Option.bind_eq_some_iff.1 h
    split at h₃
    next r =>
      cases h₃
      obtain ⟨t, d, rfl, hd, hit, hread⟩ := hcl.closing rfl hr
      refine ⟨t :: d, rfl, hd, ⟨rfl, rfl⟩, ?_⟩
      intro m q hm
      change dictRest m k x (t :: d ++ .symbol .braceClose :: q) = _
      rw [dictRest, hread .braceClose rfl m q (by omega)]
      · rfl
      · exact fun s hs => hd.head_opens rfl (List.cons.inj hs).1
      · intro s hs
        rcases hit with rfl | rfl <;> cases (List.cons.inj hs).1
    next => cases h₃

/-- A brace opens a dictionary or a set. -/
def opensSet (ts : Tokens) : Prop :=
  ts.head? ≠ some (.symbol .braceClose) ∧ ts.head? ≠ some (.symbol .doubleStar)

theorem brace_pair {m : Nat} {ts r q : Tokens} {k v : Expr} (hts : opensSet ts)
    (hw : ∀ s p, ts = .name s :: .symbol .walrus :: p → False)
    (h₁ : element m ts = some (k, .symbol .colon :: r)) (hk : k.isSpread = false)
    (h₂ : expression m r = some (v, q)) : brace (m + 1) ts = dictRest m k v q := by
  rw [brace.eq_5 ts m (fun s hs => hts.1 (by rw [hs]; rfl))
    (fun s hs => hts.2 (by rw [hs]; rfl)) hw]
  simp only [h₁, h₂, hk, Option.bind_eq_bind, Option.bind_some, Bool.false_eq_true, if_false]
  rfl

theorem brace_set {m : Nat} {ts r : Tokens} {e : Expr} (hts : opensSet ts)
    (h : element m ts = some (e, r)) (hr : ∀ s, r = .symbol .colon :: s → False) :
    brace (m + 1) ts = setRest m e r := by
  by_cases hw : ∃ s p, ts = .name s :: .symbol .walrus :: p
  · obtain ⟨s, p, rfl⟩ := hw
    rw [brace, h]
    rfl
  · rw [brace.eq_5 ts m (fun s hs => hts.1 (by rw [hs]; rfl)) (fun s hs => hts.2 (by rw [hs]; rfl))
      fun s p hp => hw ⟨s, p, hp⟩]
    simp only [h, Option.bind_eq_bind, Option.bind_some]

theorem setRest_colon (m : Nat) (e : Expr) {ts : Tokens} {p : Expr × Tokens} :
    setRest m e (.symbol .colon :: ts) ≠ some p := by
  rcases m with _ | m
  · rw [setRest]
    simp
  · have hcl : clauses m (.symbol .colon :: ts) = none := by
      cases m <;> rw [clauses] <;> nofun
    rw [setRest_eq, displayRest_clauses .braces m e (by nofun) (by nofun), hcl]
    split <;> simp

/-- The stretch up to a closing brace, read alike in front of every rest, with one value in it. -/
def IsBrace (ts : Tokens) (v : Expr) (rest : Tokens) : Prop :=
  ∃ c, ts = c ++ .symbol .braceClose :: rest ∧ Balanced c ∧ v.IsSingle ∧ ∀ m r,
    20 * size c + 13 ≤ m → brace m (c ++ .symbol .braceClose :: r) = some (v, r)

/-- A dictionary that begins with a spread. -/
theorem brace_spread_closed (hent : Closed entries .braceClose 11 Regulars n) {ts rest : Tokens}
    {v : Expr} (h : brace (n + 1) (.symbol .doubleStar :: ts) = some (v, rest)) :
    IsBrace (.symbol .doubleStar :: ts) v rest := by
  have step : ∀ m q, brace (m + 1) (.symbol .doubleStar :: q) =
      (entries m (.symbol .doubleStar :: q)).bind fun p => some (.dict p.1, p.2) :=
    fun m q => by rw [brace]; rfl
  rw [step] at h
  obtain ⟨⟨es, r⟩, h₁, h₂⟩ := Option.bind_eq_some_iff.1 h
  cases h₂
  obtain ⟨c, hts, hb, hes, hr⟩ := hent _ _ _ h₁
  refine ⟨c, hts, hb, ⟨by rw [Expr.isRegular]; exact hes, rfl⟩, ?_⟩
  obtain ⟨c, rfl⟩ : ∃ c', c = .symbol .doubleStar :: c' := by
    cases c with
    | nil => cases hts
    | cons t c => exact ⟨c, by rw [(List.cons.inj hts).1]⟩
  intro m q hm
  obtain ⟨m, rfl⟩ : ∃ i, m = i + 1 := ⟨m - 1, by omega⟩
  have e₁ := hr m q (by omega)
  rw [List.cons_append] at e₁ ⊢
  rw [step, e₁]
  rfl

/-- A dictionary that begins with a key and its value. -/
theorem brace_pair_closed (hel : Phrase element 11 (·.isRegular = true) n)
    (he : Phrase expression 9 Expr.IsSingle n) (hent : Closed entries .braceClose 11 Regulars n)
    (hcl : Iterates n) {ts r rest : Tokens} {k v : Expr} (hts : opensSet ts)
    (hkey : element n ts = some (k, .symbol .colon :: r))
    (h : brace (n + 1) ts = some (v, rest)) : IsBrace ts v rest := by
  -- an assignment is an element of a set, and `setRest` takes no colon
  have hw : ∀ s p, ts = .name s :: .symbol .walrus :: p → False := by
    rintro s p rfl
    rw [brace, hkey] at h
    exact setRest_colon n k h
  obtain ⟨hk, x, r₂, hx⟩ : k.isSpread = false ∧ ∃ x r₂, expression n r = some (x, r₂) := by
    rw [brace.eq_5 _ n (fun s hs => hts.1 (by rw [hs]; rfl)) (fun s hs => hts.2 (by rw [hs]; rfl))
      hw] at h
    simp only [hkey, Option.bind_eq_bind, Option.bind_some] at h
    split_ifs at h with hspread
    obtain ⟨⟨x, r₂⟩, hx, -⟩ := Option.bind_eq_some_iff.1 h
    exact ⟨by simpa using hspread, x, r₂, hx⟩
  rw [brace_pair hts hw hkey hk hx] at h
  obtain ⟨u, a, rfl, hba, hea, hra⟩ := hel _ _ _ hkey
  obtain ⟨w, b, rfl, hbb, hxb, hrb⟩ := he _ _ _ hx
  obtain ⟨d, rfl, hbd, hv, hrd⟩ := dictRest_closed hent hcl hea hxb.1 _ _ _ h
  refine ⟨u :: a ++ .symbol .colon :: (w :: b ++ d), by simp,
    hba.append ((hbb.append hbd).cons rfl), hv, ?_⟩
  intro m q hm
  obtain ⟨m, rfl⟩ : ∃ i, m = i + 1 := ⟨m - 1, by omega⟩
  simp only [size_cons, size_append, Token.size_symbol] at hm
  have e₁ := hra m (.symbol .colon :: (w :: b ++ (d ++ .symbol .braceClose :: q)))
    (by simp; omega) (follow_cons (by simp) _ _)
  have e₂ := hrb m (d ++ .symbol .braceClose :: q) (by simp; omega)
    (follow_append d (follow_cons (by simp) _ _))
  have e₀ : u :: a ++ .symbol .colon :: (w :: b ++ d) ++ .symbol .braceClose :: q =
      u :: a ++ .symbol .colon :: (w :: b ++ (d ++ .symbol .braceClose :: q)) := by simp
  have hopens : ∀ r, opensSet (u :: a ++ r) := fun _ => hts
  rw [e₀, brace_pair (hopens _) (not_named_of_follow rfl (follow_cons (by simp) _ _) hw) e₁ hk e₂]
  exact hrd m q (by omega)

/-- A set begins with an element that no colon follows. -/
theorem brace_set_closed (hel : Phrase element 11 (·.isRegular = true) n)
    (hset : ∀ e : Expr, e.isRegular = true →
      Closed (fun m => setRest m e) .braceClose 13 Expr.IsSingle n) {ts r rest : Tokens}
    {e v : Expr} (hts : opensSet ts) (he : element n ts = some (e, r))
    (hr : ∀ s, r = .symbol .colon :: s → False) (h : brace (n + 1) ts = some (v, rest)) :
    IsBrace ts v rest := by
  rw [brace_set hts he hr] at h
  obtain ⟨u, a, rfl, hba, hea, hra⟩ := hel _ _ _ he
  obtain ⟨d, rfl, hbd, hv, hrd⟩ := hset e hea _ _ _ h
  refine ⟨u :: a ++ d, by simp, hba.append hbd, hv, ?_⟩
  intro m q hm
  obtain ⟨m, rfl⟩ : ∃ i, m = i + 1 := ⟨m - 1, by omega⟩
  simp only [size_cons, size_append] at hm
  have := u.size_pos
  have e₁ := hra m (d ++ .symbol .braceClose :: q) (by simp; omega)
    (follow_append d (follow_cons (by simp) _ _))
  have hopens : opensSet (u :: a ++ (d ++ .symbol .braceClose :: q)) := hts
  rw [List.append_assoc, brace_set hopens e₁]
  · exact hrd m q (by omega)
  · intro s hs
    rcases d with _ | ⟨w, d⟩
    · cases hs
    · exact hr _ (congrArg (· :: _) (List.cons.inj hs).1)

theorem brace_closed (hel : Phrase element 11 (·.isRegular = true) n)
    (he : Phrase expression 9 Expr.IsSingle n) (hent : Closed entries .braceClose 11 Regulars n)
    (hcl : Iterates n)
    (hset : ∀ e : Expr, e.isRegular = true →
      Closed (fun m => setRest m e) .braceClose 13 Expr.IsSingle n) :
    Closed brace .braceClose 13 Expr.IsSingle (n + 1) := by
  intro ts v rest h
  by_cases hc : ts.head? = some (.symbol .braceClose)
  · obtain ⟨ts, rfl⟩ := List.head?_eq_some_iff.1 hc
    rw [brace] at h
    cases h
    refine ⟨[], rfl, .nil, ⟨rfl, rfl⟩, ?_⟩
    intro m r hm
    obtain ⟨m, rfl⟩ : ∃ i, m = i + 1 := ⟨m - 1, by omega⟩
    exact brace.eq_2 m r
  by_cases hd : ts.head? = some (.symbol .doubleStar)
  · obtain ⟨ts, rfl⟩ := List.head?_eq_some_iff.1 hd
    exact brace_spread_closed hent h
  cases h₁ : element n ts with
  | none =>
    by_cases hw : ∃ s p, ts = .name s :: .symbol .walrus :: p
    · obtain ⟨s, p, rfl⟩ := hw
      simp [brace, h₁] at h
    · rw [brace.eq_5 ts n (fun s hs => hc (by rw [hs]; rfl)) (fun s hs => hd (by rw [hs]; rfl))
        fun s p hp => hw ⟨s, p, hp⟩] at h
      simp [h₁] at h
  | some p =>
  obtain ⟨e, r⟩ := p
  by_cases hcolon : ∃ s, r = .symbol .colon :: s
  · obtain ⟨s, rfl⟩ := hcolon
    exact brace_pair_closed hel he hent hcl ⟨hc, hd⟩ h₁ h
  · exact brace_set_closed hel hset ⟨hc, hd⟩ h₁ (fun s hs => hcolon ⟨s, hs⟩) h

end Stencil.Parser
