import Mathlib.Algebra.GroupWithZero.Nat
import Mathlib.Tactic.SplitIfs
import Stencil.Expr.Parser
import Stencil.Proofs.Expr.Nesting

/-! # Phrases of the grammar

A reading function finds a phrase at the head of the tokens. Its phrase nests, and the function
reads it alike wherever it stands: before every rest that does not go on with it, and at every depth
that the size of the phrase allows. The notions are stated here, and the modules beside this one
show them for each function of the grammar. -/
namespace Stencil

/-- How much a token holds: the expressions of a template literal are read inside of it. -/
def Token.size : Token → Nat
  | .string _ _ body => body.length + 1
  | _ => 1

@[simp] theorem Token.size_name (s : Text) : (name s).size = 1 := rfl
@[simp] theorem Token.size_keyword (k : Keyword) : (keyword k).size = 1 := rfl
@[simp] theorem Token.size_symbol (s : Symbol) : (symbol s).size = 1 := rfl

theorem Token.size_pos (t : Token) : 1 ≤ t.size := by
  cases t <;> simp [size]

/-- Does the token end every phrase in front of it? -/
def Token.isStop : Token → Bool
  | .symbol s => Lexer.isClosing s || s == .comma
  | _ => false

mutual

/-- Is no member read of a spread? -/
def Expr.isRegular : Expr → Bool
  | .literal _ | .name _ | .construct _ => true
  | .member e _ => !e.isSpread && isRegular e
  | .unary _ e | .spread e | .spreadAll e | .named _ e | .shown e => isRegular e
  | .item e k | .pair e k | .binary _ e k => isRegular e && isRegular k
  | .slice l h s => isRegular l && isRegular h && isRegular s
  | .choose t y n => isRegular t && isRegular y && isRegular n
  | .call f args byName => isRegular f && areRegular args && areRegular byName
  | .compare e _ es => isRegular e && areRegular es
  | .connect _ es | .list es | .tuple es | .set es | .dict es | .joined es => areRegular es

def Expr.areRegular : List Expr → Bool
  | [] => true
  | e :: es => isRegular e && areRegular es

end

namespace Expr

@[simp] theorem areRegular_cons (e : Expr) (es : List Expr) :
    areRegular (e :: es) = (isRegular e && areRegular es) := by rw [areRegular]

@[simp] theorem areRegular_nil : areRegular [] = true := by rw [areRegular]

/-- A regular expression that stands for one value. -/
def IsSingle (e : Expr) : Prop := e.isRegular = true ∧ e.isSpread = false

end Expr

namespace Parser

/-- Regular expressions, some of which may be spreads. -/
def Regulars (es : List Expr) : Prop := Expr.areRegular es = true

theorem Regulars.nil : Regulars [] := Expr.areRegular_nil

theorem Regulars.cons {e : Expr} {es : List Expr} (he : e.isRegular = true) (hes : Regulars es) :
    Regulars (e :: es) := by
  simpa [Regulars, he] using hes

variable {α β γ : Type}

def size (ts : Tokens) : Nat := (ts.map Token.size).sum

@[simp] theorem size_nil : size [] = 0 := rfl

@[simp] theorem size_cons (t : Token) (ts : Tokens) : size (t :: ts) = t.size + size ts := by
  simp [size]

@[simp] theorem size_append (a b : Tokens) : size (a ++ b) = size a + size b := by
  simp [size]

/-- What a phrase sees of the tokens behind it: nothing if they begin with a stop, and otherwise the
next token and whether it is the first half of `not in`. -/
def follow : Tokens → Option (Token × Bool)
  | [] => none
  | t :: r =>
    if t.isStop then none
    else some (t, t == .keyword .not_ && r.head? == some (.keyword .in_))

@[simp] theorem follow_nil : follow [] = none := rfl

theorem follow_of_isStop {t : Token} (ht : t.isStop = true) (r : Tokens) :
    follow (t :: r) = none := by
  simp [follow, ht]

/-- But for `not`, the next token is all that a phrase sees. -/
theorem follow_cons {t : Token} (ht : t ≠ .keyword .not_) (r q : Tokens) :
    follow (t :: r) = follow (t :: q) := by
  have : (t == .keyword .not_) = false := by simpa using ht
  simp [follow, this]

/-- The next token is the same for tokens that look the same, unless it is a stop. -/
theorem eq_cons_of_follow {r q : Tokens} {t : Token} (ht : t.isStop = false)
    (h : follow r = follow (t :: q)) : ∃ q', r = t :: q' := by
  rcases r with _ | ⟨u, r⟩
  · simp [follow, ht] at h
  · simp only [follow, ht] at h
    split_ifs at h with hu hf
    · simp at hf
    · simp only [Option.some.injEq, Prod.mk.injEq] at h
      exact ⟨r, by rw [h.1]⟩

theorem not_cons_of_follow {r q : Tokens} {t : Token} (ht : t.isStop = false)
    (h : follow q = follow r) (hr : ∀ s, r = t :: s → False) : ∀ s, q = t :: s → False := by
  rintro s rfl
  obtain ⟨q', hq⟩ := eq_cons_of_follow ht h.symm
  exact hr q' hq

/-- A name with the mark `key` behind it does not come about by what follows a phrase. -/
theorem not_named_of_follow {key u : Token} {a r q : Tokens} (hkey : key.isStop = false)
    (h : follow r = follow q) (hq : ∀ s p, u :: a ++ q = .name s :: key :: p → False) :
    ∀ s p, u :: a ++ r = .name s :: key :: p → False := by
  intro s p hr
  rcases a with _ | ⟨w, a⟩
  · obtain ⟨rfl, hp⟩ := List.cons.inj hr
    obtain ⟨q', rfl⟩ := eq_cons_of_follow hkey (h.symm.trans (congrArg follow hp))
    exact hq s q' rfl
  · simp only [List.cons_append, List.cons.injEq] at hr
    obtain ⟨rfl, rfl, -⟩ := hr
    exact hq s (a ++ q) rfl

theorem head?_of_follow {r q : Tokens} {t : Token} (ht : t.isStop = false)
    (h : follow r = follow q) (hr : r.head? = some t) : q.head? = some t := by
  obtain ⟨s, rfl⟩ := List.head?_eq_some_iff.1 hr
  obtain ⟨q', rfl⟩ := eq_cons_of_follow ht h.symm
  rfl

/-- What looks the same also does with the same tokens in front. -/
theorem follow_append {r q : Tokens} (c : Tokens) (h : follow r = follow q) :
    follow (c ++ r) = follow (c ++ q) := by
  have hin : (r.head? == some (.keyword .in_)) = (q.head? == some (.keyword .in_)) := by
    rw [Bool.eq_iff_iff]
    simp only [beq_iff_eq]
    exact ⟨head?_of_follow rfl h, head?_of_follow rfl h.symm⟩
  rcases c with _ | ⟨t, _ | ⟨u, c⟩⟩
  · exact h
  · simp [follow, hin]
  · simp [follow]

/-- From a depth that its size allows on, `f` reads the tokens `c` as `v` in front of every rest
that `F` allows. -/
def Reads (f : Nat → Tokens → Option (α × Tokens)) (k : Nat) (c : Tokens) (v : α)
    (F : Tokens → Prop) : Prop :=
  ∀ m rest, 20 * size c + k ≤ m → F rest → f m (c ++ rest) = some (v, rest)

/-- The tokens are a stretch that `f` reads as `v`, with a value in `P`, and a rest. -/
def IsTail (f : Nat → Tokens → Option (α × Tokens)) (k : Nat) (P : α → Prop) (ts : Tokens) (v : α)
    (rest : Tokens) : Prop :=
  ∃ c, ts = c ++ rest ∧ Balanced c ∧ P v ∧ Reads f k c v fun r => follow r = follow rest

/-- The same for a stretch that is not empty. -/
def IsPhrase (f : Nat → Tokens → Option (α × Tokens)) (k : Nat) (P : α → Prop) (ts : Tokens)
    (v : α) (rest : Tokens) : Prop :=
  ∃ t c, ts = t :: c ++ rest ∧ Balanced (t :: c) ∧ P v ∧
    Reads f k (t :: c) v fun r => follow r = follow rest

/-- What `f` finds at depth `n` is a stretch that may be empty. -/
def Tail (f : Nat → Tokens → Option (α × Tokens)) (k : Nat) (P : α → Prop) (n : Nat) : Prop :=
  ∀ ts v rest, f n ts = some (v, rest) → IsTail f k P ts v rest

/-- What `f` finds at depth `n` is a phrase. -/
def Phrase (f : Nat → Tokens → Option (α × Tokens)) (k : Nat) (P : α → Prop) (n : Nat) : Prop :=
  ∀ ts v rest, f n ts = some (v, rest) → IsPhrase f k P ts v rest

/-- What `f` finds at depth `n` goes up to the mark that closes it, with a value in `P`. -/
def Closed (f : Nat → Tokens → Option (α × Tokens)) (close : Symbol) (k : Nat) (P : α → Prop)
    (n : Nat) : Prop :=
  ∀ ts v rest, f n ts = some (v, rest) → ∃ c, ts = c ++ .symbol close :: rest ∧ Balanced c ∧
    P v ∧ ∀ m rest, 20 * size c + k ≤ m → f m (c ++ .symbol close :: rest) = some (v, rest)

/-- The tokens are a stretch, not empty, that `f` passes over in front of every rest that `F`
allows, and a rest. -/
def IsSkip (f : Nat → Tokens → Option Tokens) (k : Nat) (F : Tokens → Prop) (ts rest : Tokens) :
    Prop :=
  ∃ t c, ts = t :: c ++ rest ∧ Balanced (t :: c) ∧
    ∀ m r, 20 * size (t :: c) + k ≤ m → F r → f m (t :: c ++ r) = some r

/-- What `f` passes over at depth `n` is a stretch that ends with a mark of its own. -/
def Skips (f : Nat → Tokens → Option Tokens) (k n : Nat) : Prop :=
  ∀ ts rest, f n ts = some rest → IsSkip f k (fun _ => True) ts rest

section Combination

variable {f : Nat → Tokens → Option (γ × Tokens)} {g : Nat → Tokens → Option (α × Tokens)}
  {h : α → Nat → Tokens → Option (β × Tokens)} {φ : α → β → γ} {P : α → Prop} {Q : β → Prop}
  {R : γ → Prop} {k kg kh n : Nat}

/-- A phrase and a stretch behind it are a phrase. `heads` are the tokens with which `f` begins
something else. -/
theorem IsPhrase.andThen (heads : List Token)
    (hf : ∀ m ts, (∀ t ∈ heads, ts.head? ≠ some t) → f (m + 1) ts =
      (g m ts).bind fun p => (h p.1 m p.2).bind fun q => some (φ p.1 q.1, q.2))
    (hg : Phrase g kg P n) (hh : ∀ a, P a → Tail (h a) kh Q n)
    (hR : ∀ a b, P a → Q b → R (φ a b)) (hkg : kg < k) (hkh : kh < k) {ts : Tokens}
    (hts : ∀ t ∈ heads, ts.head? ≠ some t) {v : γ} {rest : Tokens}
    (hv : f (n + 1) ts = some (v, rest)) : IsPhrase f k R ts v rest := by
  rw [hf n ts hts] at hv
  simp only [Option.bind_eq_some_iff] at hv
  obtain ⟨⟨a, r⟩, h₁, ⟨b, r'⟩, h₂, h₃⟩ := hv
  cases h₃
  obtain ⟨t, c, rfl, hc, ha, hr⟩ := hg _ _ _ h₁
  obtain ⟨d, rfl, hd, hb, hs⟩ := hh a ha _ _ _ h₂
  refine ⟨t, c ++ d, by simp, by simpa using hc.append hd, hR a b ha hb, ?_⟩
  intro m r hm hfo
  obtain ⟨m, rfl⟩ : ∃ i, m = i + 1 := ⟨m - 1, by omega⟩
  simp only [size_cons, size_append] at hm
  have e₁ := hr m (d ++ r) (by simp; omega) (follow_append d hfo)
  have e₂ := hs m r (by omega) hfo
  have e : t :: (c ++ d) ++ r = t :: c ++ (d ++ r) := by simp
  rw [e, hf m _ (by simpa using hts), e₁]
  simp [e₂]

/-- What is a phrase for `g` is one for `f`. -/
theorem IsPhrase.same {f g : Nat → Tokens → Option (α × Tokens)} (heads : List Token)
    (hf : ∀ m ts, (∀ t ∈ heads, ts.head? ≠ some t) → f (m + 1) ts = g m ts)
    (hg : Phrase g kg P n) (hkg : kg < k) {ts : Tokens} (hts : ∀ t ∈ heads, ts.head? ≠ some t)
    {v : α} {rest : Tokens} (hv : f (n + 1) ts = some (v, rest)) : IsPhrase f k P ts v rest := by
  rw [hf n ts hts] at hv
  obtain ⟨t, c, rfl, hc, ha, hr⟩ := hg _ _ _ hv
  refine ⟨t, c, rfl, hc, ha, ?_⟩
  intro m r hm hfo
  obtain ⟨m, rfl⟩ : ∃ i, m = i + 1 := ⟨m - 1, by omega⟩
  rw [hf m _ (by simpa using hts)]
  exact hr m r (by omega) hfo

/-- A mark and a phrase behind it are a phrase. -/
theorem IsPhrase.behind {key : Token} {φ : α → γ} (hkey : key.isBracket = false)
    (hf : ∀ m ts, f (m + 1) (key :: ts) = (g m ts).bind fun p => some (φ p.1, p.2))
    (hg : Phrase g kg P n) (hR : ∀ a, P a → R (φ a)) (hk : kg < k + 20) {ts : Tokens} {v : γ}
    {rest : Tokens} (hv : f (n + 1) (key :: ts) = some (v, rest)) :
    IsPhrase f k R (key :: ts) v rest := by
  rw [hf] at hv
  obtain ⟨⟨a, r⟩, h₁, h₂⟩ := Option.bind_eq_some_iff.1 hv
  cases h₂
  obtain ⟨t, c, rfl, hc, ha, hr⟩ := hg _ _ _ h₁
  refine ⟨key, t :: c, rfl, hc.cons hkey, hR a ha, ?_⟩
  intro m r hm hfo
  have := key.size_pos
  obtain ⟨m, rfl⟩ : ∃ i, m = i + 1 := ⟨m - 1, by simp at hm; omega⟩
  simp only [size_cons] at hm
  rw [List.cons_append, hf, hr m r (by simp; omega) hfo]
  rfl

/-- Tokens in front of a stretch are passed over with it. -/
theorem IsSkip.prefixed {f g : Nat → Tokens → Option Tokens} {F : Tokens → Prop}
    {ts rest : Tokens} (hg : IsSkip g kg F ts rest) (t : Token) (pre : Tokens)
    (hpre : ∀ u ∈ t :: pre, u.isBracket = false)
    (hf : ∀ m q, q.head? = ts.head? → f (m + 1) (t :: pre ++ q) = g m q) (hk : kg < k + 20) :
    IsSkip f k F (t :: pre ++ ts) rest := by
  obtain ⟨u, c, rfl, hc, hr⟩ := hg
  have hb : Balanced (pre ++ u :: c) := by
    have : Balanced pre := .plain fun x hx => hpre x (by simp [hx])
    exact this.append hc
  refine ⟨t, pre ++ u :: c, by simp, hb.cons (hpre t (by simp)), ?_⟩
  intro m r hm hfo
  have := t.size_pos
  simp only [size_cons, size_append] at hm
  obtain ⟨m, rfl⟩ : ∃ i, m = i + 1 := ⟨m - 1, by omega⟩
  have e : t :: (pre ++ u :: c) ++ r = t :: pre ++ (u :: c ++ r) := by simp
  rw [e, hf m (u :: c ++ r) rfl]
  exact hr m r (by simp; omega) hfo

/-- Phrases that each stand behind the mark `key`. -/
theorem Tail.repeated {f : Nat → Tokens → Option (List Expr × Tokens)}
    {g : Nat → Tokens → Option (Expr × Tokens)} (key : Token) (hkey : key.isBracket = false)
    (hstop : key.isStop = false)
    (hmore : ∀ m ts, f (m + 1) (key :: ts) =
      (g m ts).bind fun p => (f m p.2).bind fun q => some (p.1 :: q.1, q.2))
    (hend : ∀ m ts, (∀ s, ts = key :: s → False) → f (m + 1) ts = some ([], ts))
    (hg : Phrase g kg Expr.IsSingle n) (hkg : kg ≤ 20) (hf : Tail f 1 Regulars n) :
    Tail f 1 Regulars (n + 1) := by
  intro ts v rest h
  by_cases ho : ∃ s, ts = key :: s
  · obtain ⟨s, rfl⟩ := ho
    rw [hmore] at h
    simp only [Option.bind_eq_some_iff] at h
    obtain ⟨⟨e, r⟩, h₁, ⟨es, r'⟩, h₂, h₃⟩ := h
    cases h₃
    obtain ⟨t, c, rfl, hb, he, hr⟩ := hg _ _ _ h₁
    obtain ⟨d, rfl, hd, hes, hs⟩ := hf _ _ _ h₂
    refine ⟨key :: (t :: c ++ d), by simp, (hb.append hd).cons hkey, .cons he.1 hes, ?_⟩
    intro m r hm hfo
    have := key.size_pos
    obtain ⟨m, rfl⟩ : ∃ k, m = k + 1 := ⟨m - 1, by omega⟩
    simp only [size_cons, size_append] at hm
    have e₁ := hr m (d ++ r) (by simp; omega) (follow_append d hfo)
    have e₂ := hs m r (by omega) hfo
    rw [List.cons_append, hmore, List.append_assoc, e₁]
    simp [e₂]
  · rw [hend _ _ fun s hs => ho ⟨s, hs⟩] at h
    cases h
    refine ⟨[], rfl, .nil, .nil, ?_⟩
    intro m r hm hfo
    obtain ⟨m, rfl⟩ : ∃ k, m = k + 1 := ⟨m - 1, by omega⟩
    exact hend _ _ (not_cons_of_follow hstop hfo fun s hs => ho ⟨s, hs⟩)

end Combination

end Parser
end Stencil
