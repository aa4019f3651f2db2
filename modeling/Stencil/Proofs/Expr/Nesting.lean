import Stencil.Expr.Lexer

/-! # Brackets that match

A stretch of tokens nests if each bracket in it is closed in it. How deep it nests is kept, since
the lexer has room for so many open brackets only. A nesting stretch goes up to the first closing
mark that has no partner, so the place of that mark determines it. -/
namespace Stencil

/-- Does the token open or close a bracket? -/
def Token.isBracket : Token → Bool
  | .symbol s => (Lexer.closing? s).isSome || Lexer.isClosing s
  | _ => false

/-- Every bracket is closed by its partner, and at most so many are open at once. -/
inductive Nests : Nat → List Token → Prop
  | nil {h} : Nests h []
  | plain {h t ts} (ht : t.isBracket = false) (tail : Nests h ts) : Nests h (t :: ts)
  | group {h s c inner ts} (hc : Lexer.closing? s = some c) (body : Nests h inner)
      (tail : Nests (h + 1) ts) : Nests (h + 1) (.symbol s :: (inner ++ .symbol c :: ts))

namespace Nests

variable {h k : Nat} {ts us : List Token}

theorem mono (n : Nests h ts) (hk : h ≤ k) : Nests k ts := by
  induction n generalizing k with
  | nil => exact .nil
  | plain ht _ ih => exact .plain ht (ih hk)
  | group hc _ _ ihb iht =>
    obtain ⟨k, rfl⟩ : ∃ k', k = k' + 1 := ⟨k - 1, by omega⟩
    exact .group hc (ihb (by omega)) (iht hk)

theorem append (n : Nests h ts) (m : Nests h us) : Nests h (ts ++ us) := by
  induction n with
  | nil => exact m
  | plain ht _ ih => exact .plain ht (ih m)
  | group hc body _ _ iht => simpa using Nests.group hc body (iht m)

/-- Brackets nest without the line ends between them. -/
theorem filter (n : Nests h ts) : Nests h (ts.filter (· != .newline)) := by
  induction n with
  | nil => exact .nil
  | @plain _ t _ ht _ ih =>
    by_cases hn : t = .newline
    · simpa [hn] using ih
    · simpa [hn] using Nests.plain ht ih
  | group hc _ _ ihb iht => simpa using Nests.group hc ihb iht

end Nests

/-- Every bracket is closed by its partner. -/
def Balanced (ts : List Token) : Prop := ∃ h, Nests h ts

theorem Lexer.isClosing_of_closing? {s c : Symbol} (h : closing? s = some c) :
    isClosing c = true ∧ isClosing s = false := by
  cases s <;> simp_all [closing?] <;> subst h <;> exact ⟨rfl, rfl⟩

namespace Balanced

variable {a b r : List Token}

theorem nil : Balanced [] := ⟨0, .nil⟩

theorem cons {t : Token} (ht : t.isBracket = false) (h : Balanced a) : Balanced (t :: a) := by
  obtain ⟨k, n⟩ := h
  exact ⟨k, .plain ht n⟩

theorem single {t : Token} (ht : t.isBracket = false) : Balanced [t] := nil.cons ht

theorem plain (h : ∀ t ∈ a, t.isBracket = false) : Balanced a := by
  induction a with
  | nil => exact nil
  | cons t a ih => exact (ih fun u hu => h u (by simp [hu])).cons (h t (by simp))

theorem append (ha : Balanced a) (hb : Balanced b) : Balanced (a ++ b) := by
  obtain ⟨j, m⟩ := ha
  obtain ⟨k, n⟩ := hb
  exact ⟨max j k, (m.mono (by omega)).append (n.mono (by omega))⟩

theorem group {s c : Symbol} (hc : Lexer.closing? s = some c) (ha : Balanced a) :
    Balanced (.symbol s :: (a ++ [.symbol c])) := by
  obtain ⟨k, n⟩ := ha
  exact ⟨k + 1, .group hc n .nil⟩

/-- The first token closes nothing. -/
theorem head_opens {t : Token} (h : Balanced (t :: a)) {s : Symbol}
    (hs : Lexer.isClosing s = true) :
    t ≠ .symbol s := by
  rintro rfl
  obtain ⟨k, n⟩ := h
  cases n with
  | plain ht _ => simp [Token.isBracket, hs] at ht
  | group hc _ _ => simp [(Lexer.isClosing_of_closing? hc).2] at hs

end Balanced

/-- A nesting stretch ends at the first closing mark without a partner. -/
theorem Nests.closing_unique {h : Nat} {a b r q : List Token} {c d : Symbol} (ha : Nests h a)
    (hb : Balanced b) (hc : Lexer.isClosing c = true) (hd : Lexer.isClosing d = true)
    (he : a ++ .symbol c :: r = b ++ .symbol d :: q) : a = b ∧ c = d ∧ r = q := by
  induction ha generalizing b c d r q with
  | nil =>
    cases b with
    | nil => simpa using he
    | cons t b =>
      have ht : t = .symbol c := by simpa using (List.cons.inj he).1.symm
      exact absurd ht (hb.head_opens hc)
  | @plain _ t a ht _ ih =>
    cases b with
    | nil =>
      have : t = .symbol d := (List.cons.inj he).1
      simp [this, Token.isBracket, hd] at ht
    | cons u b =>
      obtain ⟨hu, hr⟩ := List.cons.inj he
      subst hu
      obtain ⟨k, n⟩ := hb
      cases n with
      | plain _ n =>
        obtain ⟨rfl, hcd, hrq⟩ := ih ⟨k, n⟩ hc hd hr
        exact ⟨rfl, hcd, hrq⟩
      | group hs _ _ => simp [Token.isBracket, hs] at ht
  | @group _ s e inner a hs _ _ ihb iht =>
    cases b with
    | nil =>
      have : s = d := by simpa using (List.cons.inj he).1
      simp [← this, (Lexer.isClosing_of_closing? hs).2] at hd
    | cons u b =>
      obtain ⟨hu, hr⟩ := List.cons.inj he
      subst hu
      obtain ⟨k, n⟩ := hb
      cases n with
      | plain ht _ => simp [Token.isBracket, hs] at ht
      | @group k _ e' inner' b' hs' m n =>
        have hee : e = e' := by simpa [hs] using hs'
        subst hee
        have hcl := (Lexer.isClosing_of_closing? hs).1
        obtain ⟨rfl, -, hr'⟩ := ihb ⟨k, m⟩ hcl hcl (by simpa using hr)
        obtain ⟨rfl, hcd, hrq⟩ := iht ⟨k + 1, n⟩ hc hd hr'
        exact ⟨rfl, hcd, hrq⟩

theorem Balanced.closing_unique {a b r q : List Token} {c d : Symbol} (ha : Balanced a)
    (hb : Balanced b) (hc : Lexer.isClosing c = true) (hd : Lexer.isClosing d = true)
    (he : a ++ .symbol c :: r = b ++ .symbol d :: q) : a = b ∧ c = d ∧ r = q := by
  obtain ⟨k, n⟩ := ha
  exact n.closing_unique hb hc hd he

end Stencil
