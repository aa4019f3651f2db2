import Stencil.Proofs.Expr.Quoting

/-! # Texts that stay inside of their brackets

A text is enclosed if a closing bracket behind it closes the bracket in front of it: its own
brackets match, and neither a comment nor a literal takes the closing bracket along. Its tokens are
then the same in brackets of every kind. -/
namespace Stencil

namespace Lexer

/-! ## Line ends -/

theorem unifyLines_cons {c : Char} (hc : c ≠ '\r') (s : Text) :
    unifyLines (c :: s) = c :: unifyLines s :=
  unifyLines.eq_4 c s (fun _ h _ => hc h) hc

theorem unifyLines_append {a b : Text} (h : a.getLast? = some '\r' → b.head? ≠ some '\n') :
    unifyLines (a ++ b) = unifyLines a ++ unifyLines b := by
  fun_induction unifyLines a with
  | case1 => rfl
  | case2 s ih =>
    rw [List.cons_append, List.cons_append, unifyLines, List.cons_append, ih]
    intro hs
    exact h (by simp [List.getLast?_cons, hs])
  | case3 s hn ih =>
    have hb : ∀ t, s ++ b = '\n' :: t → False := by
      rintro t ht
      rcases s with _ | ⟨c, s⟩
      · exact h rfl (by rw [List.nil_append] at ht; rw [ht]; rfl)
      · exact hn s (by rw [(List.cons.inj ht).1])
    rw [List.cons_append, unifyLines.eq_3 _ hb, List.cons_append, ih]
    intro hs
    exact h (by simp [List.getLast?_cons, hs])
  | case4 c s _ hc ih =>
    rw [List.cons_append, unifyLines_cons hc, List.cons_append, ih]
    intro hs
    exact h (by simp [List.getLast?_cons, hs])

/-- Only a carriage return could go together with what follows. -/
theorem unifyLines_append_cons {c : Char} (hc : c ≠ '\n') (a b : Text) :
    unifyLines (a ++ c :: b) = unifyLines a ++ unifyLines (c :: b) :=
  unifyLines_append fun _ h => hc (Option.some.inj h)

theorem unifyLines_eq {s : Text} (h : '\r' ∉ s) : unifyLines s = s := by
  induction s with
  | nil => rfl
  | cons c s ih =>
    rw [unifyLines_cons (fun hc => h (by simp [hc])), ih fun hs => h (by simp [hs])]

/-! ## What brackets hold -/

theorem Reads.scan?_eq {s : Text} {ts : List Token} (h : Reads s ts []) :
    Lexer.scan? s = some ts := by
  rw [h.scan?, Lexer.scan?, Option.map_some, List.append_nil]

/-- These are the tokens of the text in front of a closing parenthesis. -/
def Holds (code : Text) (ts : List Token) : Prop :=
  Reads (unifyLines code ++ [')']) ts [')']

namespace Holds

variable {code : Text} {ts us : List Token}

theorem reads (h : Holds code ts) {e : Char} (he : isEnd e = true) (u : Text) :
    Reads (unifyLines code ++ e :: u) ts (e :: u) := h.swap rfl he u

theorem unique (h : Holds code ts) (h' : Holds code us) : ts = us := by
  have close : Reads [')'] [.symbol .parenClose] [] :=
    .token (step?_single rfl []) (by simp) .refl
  exact List.append_cancel_right (Option.some.inj
    ((Reads.append h close).scan?_eq.symm.trans (Reads.append h' close).scan?_eq))

end Holds

end Lexer

open Lexer

/-- In brackets, the text keeps to them, and it opens at most so many brackets at once. -/
def EnclosedWithin (h : Nat) (code : Text) : Prop := ∃ ts, Holds code ts ∧ Nests h ts

/-- In brackets, the text keeps to them. -/
def Enclosed (code : Text) : Prop := ∃ ts, Holds code ts ∧ Balanced ts

theorem EnclosedWithin.enclosed {h : Nat} {code : Text} (hc : EnclosedWithin h code) :
    Enclosed code := by
  obtain ⟨ts, ht, hn⟩ := hc
  exact ⟨ts, ht, h, hn⟩

theorem EnclosedWithin.mono {h k : Nat} {code : Text} (hc : EnclosedWithin h code) (hk : h ≤ k) :
    EnclosedWithin k code := by
  obtain ⟨ts, ht, hn⟩ := hc
  exact ⟨ts, ht, hn.mono hk⟩

/-! ## Stretches of nesting tokens -/

theorem Nests.of_append {h : Nat} {a b : List Token} (n : Nests h (a ++ b)) (ha : Balanced a) :
    Nests h a ∧ Nests h b := by
  obtain ⟨k, m⟩ := ha
  induction m generalizing h with
  | nil => exact ⟨.nil, n⟩
  | @plain _ t ts ht _ ih =>
    rw [List.cons_append] at n
    generalize he : ts ++ b = r at n
    cases n with
    | plain _ tail =>
      subst he
      exact ⟨.plain ht (ih tail).1, (ih tail).2⟩
    | group hc _ _ => simp [Token.isBracket, hc] at ht
  | @group k s c inner ts hc body _ _ iht =>
    rw [List.cons_append] at n
    generalize he : inner ++ .symbol c :: ts ++ b = r at n
    cases n with
    | plain ht _ => simp [Token.isBracket, hc] at ht
    | @group h _ c' inner' ts' hc' body' tail' =>
      obtain rfl : c' = c := Option.some.inj (hc'.symm.trans hc)
      have hcl := (isClosing_of_closing? hc).1
      obtain ⟨rfl, -, rfl⟩ := Balanced.closing_unique ⟨_, body⟩ ⟨_, body'⟩ hcl hcl
        (by simpa using he)
      exact ⟨.group hc body' (iht tail').1, (iht tail').2⟩

/-- Inside of brackets there is room for one bracket less. -/
theorem Nests.of_group {h : Nat} {s c : Symbol} {ts : List Token} (hc : closing? s = some c)
    (hb : Balanced ts) (n : Nests h (.symbol s :: (ts ++ [.symbol c]))) :
    ∃ k, h = k + 1 ∧ Nests k ts := by
  generalize he : ts ++ [.symbol c] = r at n
  cases n with
  | plain ht _ => simp [Token.isBracket, hc] at ht
  | @group h _ c' inner ts' hc' body _ =>
    obtain rfl : c' = c := Option.some.inj (hc'.symm.trans hc)
    have hcl := (isClosing_of_closing? hc).1
    obtain ⟨rfl, -, -⟩ := hb.closing_unique ⟨_, body⟩ hcl hcl he
    exact ⟨h, rfl, body⟩

namespace Lexer

section Group

variable {s : Text} {a b : Symbol} {ts us : List Token}

/-- The tokens of a text in brackets: its line ends are dropped. -/
theorem tokens?_group (h₀ : Char.ofNat 0 ∉ s)
    (hr : Reads (unifyLines s) (.symbol a :: (ts ++ [.symbol b])) []) (hab : closing? a = some b)
    (hn : Nests (maxDepth - 1) ts) :
    tokens? s = some (.symbol a :: (ts.filter (· != .newline) ++ [.symbol b])) := by
  rw [tokens?, if_neg (by simpa using h₀), hr.scan?_eq, Option.bind_some,
    joinLines?_open hab (by decide), joinLines?_append hn (by simp) (by simp [maxDepth]),
    joinLines?_close (isClosing_of_closing? hab).1]
  simp [joinLines?]

/-- A text that has tokens has room for the brackets in it. -/
theorem nests_of_tokens? (hr : Reads (unifyLines s) (.symbol a :: (ts ++ [.symbol b])) [])
    (hab : closing? a = some b) (h : tokens? s = some us) :
    ∃ inner rest, ts ++ [.symbol b] = inner ++ .symbol b :: rest ∧
      Nests (maxDepth - 1) inner := by
  unfold tokens? at h
  split_ifs at h
  rw [hr.scan?_eq, Option.bind_some, joinLines?_open hab (by decide)] at h
  obtain ⟨vs, hv, -⟩ := Option.map_eq_some_iff.1 h
  obtain ⟨inner, rest, he, hn, -⟩ := nests_of_joinLines? hv
  exact ⟨inner, rest, he, hn⟩

theorem nests_of_tokens?_balanced
    (hr : Reads (unifyLines s) (.symbol a :: (ts ++ [.symbol b])) []) (hab : closing? a = some b)
    (hb : Balanced ts) (h : tokens? s = some us) : Nests (maxDepth - 1) ts := by
  obtain ⟨inner, rest, he, hn⟩ := nests_of_tokens? hr hab h
  have hcl := (isClosing_of_closing? hab).1
  obtain ⟨rfl, -, -⟩ := hb.closing_unique ⟨_, hn⟩ hcl hcl he
  exact hn

theorem not_mem_of_tokens? (h : tokens? s = some us) : Char.ofNat 0 ∉ s := by
  unfold tokens? at h
  split_ifs at h with h₀
  simpa using h₀

end Group

/-- The tokens without the line ends among them. -/
def unbroken (ts : List Token) : List Token := ts.filter (· != .newline)

/-! ## Code in brackets -/

section Brackets

variable {code : Text} {ts us : List Token}

theorem unifyLines_inBrackets {a b : Char} (ha : a ≠ '\r') (hb : isCloser b = true) (code : Text) :
    unifyLines (a :: code ++ [b]) = a :: (unifyLines code ++ [b]) := by
  have hbn : b ≠ '\n' ∧ b ≠ '\r' := by
    constructor <;> rintro rfl <;> cases hb
  rw [List.cons_append, unifyLines_cons ha, unifyLines_append_cons hbn.1, unifyLines_cons hbn.2]
  rfl

theorem step?_paren (r : Text) : step? ('(' :: r) = some (.token (.symbol .parenOpen) r) := rfl

theorem step?_square (r : Text) : step? ('[' :: r) = some (.token (.symbol .squareOpen) r) := rfl

theorem Holds.reads_inBrackets (h : Holds code ts) {a b : Char} {s : Symbol}
    (ha : ∀ r, step? (a :: r) = some (.token (.symbol s) r)) (hb : isCloser b = true) (u : Text) :
    Reads (a :: (unifyLines code ++ b :: u)) (.symbol s :: (ts ++ [.symbol (closer b)])) u :=
  .token (ha _) (by simp) ((h.reads (isEnd_of_isCloser hb) u).append
    (.token (step?_single hb u) (by simp) .refl))

/-- Enclosed code has its own tokens in parentheses. -/
theorem tokens?_inParens (h : Holds code ts) (hn : Nests (maxDepth - 1) ts)
    (h₀ : Char.ofNat 0 ∉ code) :
    tokens? ('(' :: code ++ [')']) =
      some (.symbol .parenOpen :: (unbroken ts ++ [.symbol .parenClose])) := by
  refine tokens?_group (by simpa using h₀) ?_ rfl hn
  rw [unifyLines_inBrackets (by decide) rfl]
  exact h.reads_inBrackets step?_paren rfl []

/-- Enclosed code has its own tokens in square brackets. -/
theorem tokens?_inSquares (h : Holds code ts) (hn : Nests (maxDepth - 1) ts)
    (h₀ : Char.ofNat 0 ∉ code) :
    tokens? ('[' :: code ++ [']']) =
      some (.symbol .squareOpen :: (unbroken ts ++ [.symbol .squareClose])) := by
  refine tokens?_group (by simpa using h₀) ?_ rfl hn
  rw [unifyLines_inBrackets (by decide) rfl]
  exact h.reads_inBrackets step?_square rfl []

/-- A line feed behind a carriage return is part of its line end. -/
theorem unifyLines_newline (code : Text) :
    (unifyLines (code ++ ['\n']) = unifyLines code ∧ ['\n'] <:+ unifyLines code) ∨
      unifyLines (code ++ ['\n']) = unifyLines code ++ ['\n'] := by
  by_cases hr : code.getLast? = some '\r'
  · obtain ⟨p, rfl⟩ := List.getLast?_eq_some_iff.1 hr
    have e : unifyLines (p ++ ['\r']) = unifyLines p ++ ['\n'] :=
      unifyLines_append_cons (by decide) p []
    refine .inl ⟨?_, unifyLines p, e.symm⟩
    rw [e, List.append_assoc, List.singleton_append, unifyLines_append_cons (by decide)]
    rfl
  · exact .inr (unifyLines_append fun h => absurd h hr)

/-- A line end behind the code adds no token but a line end. -/
theorem Holds.newline (h : Holds code ts) :
    Holds (code ++ ['\n']) ts ∨ Holds (code ++ ['\n']) (ts ++ [.newline]) := by
  rcases unifyLines_newline code with ⟨e, -⟩ | e
  · left
    rw [Holds, e]
    exact h
  · right
    rw [Holds, e, List.append_assoc]
    exact (h.reads rfl [')']).append (.token rfl (by simp) .refl)

/-- What is read up to a line end and a closing bracket behind it, the bracket closes. -/
theorem holds_of_tokens? {a b : Char} {s : Symbol} (ha : a ≠ '\r')
    (hstep : ∀ r, step? (a :: r) = some (.token (.symbol s) r)) (hb : isCloser b = true)
    (h : tokens? (a :: (code ++ ['\n']) ++ [b]) = some us) :
    ∃ ts, Holds (code ++ ['\n']) ts ∧ us = .symbol s :: (unbroken ts ++ [.symbol (closer b)]) := by
  have hs : (scan? (unifyLines (a :: (code ++ ['\n']) ++ [b]))).bind (joinLines? []) = some us := by
    unfold tokens? at h
    split_ifs at h
    exact h
  obtain ⟨vs, hvs, hj⟩ := Option.bind_eq_some_iff.1 hs
  have hr := reads_of_scan? hvs
  rw [unifyLines_inBrackets ha hb] at hr
  generalize he : a :: (unifyLines (code ++ ['\n']) ++ [b]) = p at hr
  generalize hw : ([] : Text) = w at hr
  cases hr with
  | refl => cases he.trans hw.symm
  | @step _ σ ws _ hσ _ tail =>
    subst he hw
    cases (hstep _).symm.trans hσ
    have hend : ['\n'] <:+ unifyLines (code ++ ['\n']) := by
      rcases unifyLines_newline code with ⟨e, hsuf⟩ | e
      · rwa [e]
      · exact ⟨_, e.symm⟩
    obtain ⟨ts, rfl, hts⟩ := Reads.last hb (.inr hend) tail
    refine ⟨ts, hts.swap hb rfl [], ?_⟩
    rw [eq_filter_of_joinLines? hj]
    simp [Step.tokens, unbroken]

end Brackets

end Lexer

end Stencil
