import Stencil.Proofs.Expr.Enclosing
import Stencil.Proofs.Expr.Numerals

/-! # The lexemes of a text

A text that is read is cut into lexemes, one for each step of the reading. What a lexeme is made of
tells what may stand behind it, so a text whose lexemes are put together in another way is read in
just these lexemes. -/
namespace Stencil

namespace Quotation

/-- The body of a literal that the quote `q` closes on the same line. -/
def IsLine (q : Char) (body : Text) : Prop := ∀ r, scanLine? q (body ++ q :: r) = some (body, r)

/-- The body of a literal that three quotes `q` close. -/
def IsBlock (q : Char) (body : Text) : Prop :=
  ∀ r, scanBlock? q (body ++ q :: q :: q :: r) = some (body, r)

theorem scanLine?_spec {q : Char} {s body r : Text} (h : scanLine? q s = some (body, r)) :
    s = body ++ q :: r ∧ IsLine q body := by
  fun_induction scanLine? q s generalizing body with
  | case1 => cases h
  | case2 s =>
    cases h
    exact ⟨rfl, fun r => scanLine?_quote q r⟩
  | case3 => cases h
  | case4 => cases h
  | case5 d s hq hn ih =>
    obtain ⟨p, hp, he⟩ := Option.map_eq_some_iff.1 h
    cases he
    obtain ⟨hs, hread⟩ := ih hp
    refine ⟨by rw [hs]; rfl, fun r' => ?_⟩
    rw [List.cons_append, List.cons_append, scanLine?_escape (fun h => hq h.symm), hread r']
    rfl
  | case6 c s hq hn hb ih =>
    obtain ⟨p, hp, he⟩ := Option.map_eq_some_iff.1 h
    cases he
    obtain ⟨hs, hread⟩ := ih hp
    refine ⟨by rw [hs]; rfl, fun r' => ?_⟩
    rw [List.cons_append, scanLine?_plain hq hn hb, hread r']
    rfl

theorem scanBlock?_spec {q : Char} (hqb : q ≠ '\\') {s body r : Text}
    (h : scanBlock? q s = some (body, r)) : s = body ++ q :: q :: q :: r ∧ IsBlock q body := by
  induction hn : s.length using Nat.strongRecOn generalizing s body with
  | _ n ih =>
  subst hn
  have hlen := scanBlock?_length h
  rcases s with _ | ⟨c, _ | ⟨a, _ | ⟨b, s⟩⟩⟩
  · simp at hlen
  · simp at hlen
    omega
  · simp at hlen
    omega
  by_cases hc : c = q
  · subst hc
    rw [scanBlock?_quote] at h
    split_ifs at h with hab
    · obtain ⟨rfl, rfl⟩ := hab
      cases h
      exact ⟨rfl, fun r' => by rw [List.nil_append, scanBlock?_quote, if_pos ⟨rfl, rfl⟩]⟩
    · obtain ⟨p, hp, he⟩ := Option.map_eq_some_iff.1 h
      cases he
      obtain ⟨hs, hread⟩ := ih _ (by simp) hp rfl
      refine ⟨by rw [hs]; rfl, fun r' => ?_⟩
      obtain ⟨x, y, t, ht, hxy⟩ : ∃ x y t, p.1 ++ c :: c :: c :: r' = x :: y :: t ∧
          ¬(x = c ∧ y = c) := by
        rcases p with ⟨_ | ⟨x, _ | ⟨y, body⟩⟩, r⟩
        · cases hs
          exact absurd ⟨rfl, rfl⟩ hab
        · cases hs
          exact ⟨a, c, _, rfl, hab⟩
        · cases hs
          exact ⟨a, b, _, rfl, hab⟩
      rw [List.cons_append, ht, scanBlock?_quote, if_neg hxy, ← ht, hread r']
      rfl
  by_cases hb : c = '\\'
  · subst hb
    rw [scanBlock?_escape hqb] at h
    obtain ⟨p, hp, he⟩ := Option.map_eq_some_iff.1 h
    cases he
    obtain ⟨hs, hread⟩ := ih _ (by simp) hp rfl
    refine ⟨by rw [hs]; rfl, fun r' => ?_⟩
    rw [List.cons_append, List.cons_append, scanBlock?_escape hqb, hread r']
    rfl
  · rw [scanBlock?_plain hc hb] at h
    obtain ⟨p, hp, he⟩ := Option.map_eq_some_iff.1 h
    cases he
    obtain ⟨hs, hread⟩ := ih _ (by simp) hp rfl
    refine ⟨by rw [hs]; rfl, fun r' => ?_⟩
    rw [List.cons_append, scanBlock?_plain hc hb, hread r']
    rfl

end Quotation

namespace Number

/-- A number ends with a letter, a digit or a point. -/
theorem getLast?_of_trace {i : Bool} {a : Text} (h : trace i a = some true) (ha : a ≠ []) :
    ∃ c, a.getLast? = some c ∧ (isWordPart c = true ∨ c = '.') := by
  obtain ⟨a, c, rfl⟩ := List.eq_nil_or_concat a |>.resolve_left ha
  rw [List.concat_eq_append] at h ⊢
  refine ⟨c, by simp, ?_⟩
  rw [trace_append] at h
  obtain ⟨j, -, hj⟩ := Option.bind_eq_some_iff.1 h
  simp only [trace] at hj
  split_ifs at hj with hw _ hdot
  · exact .inl hw
  · exact .inr hdot
  · cases hj

/-- The characters of a number. -/
theorem mem_of_trace {i j : Bool} {a : Text} (h : trace i a = some j) :
    ∀ c ∈ a, isWordPart c = true ∨ c = '.' ∨ c = '+' ∨ c = '-' := by
  induction a generalizing i with
  | nil => simp
  | cons x a ih =>
    rw [List.forall_mem_cons]
    rw [trace] at h
    split_ifs at h with hw _ hdot hsign
    · exact ⟨.inl hw, ih h⟩
    · exact ⟨.inr (.inl hdot), ih h⟩
    · exact ⟨.inr (.inr hsign), ih h⟩

end Number

namespace Lexer

/-- A stretch of a text that is read in one step, and the token found in it, if there is one. -/
structure Lexeme where
  text : Text
  token? : Option Token
  deriving DecidableEq

/-- A step that finds this and leaves the rest. -/
def Step.of (t : Option Token) (r : Text) : Step :=
  match t with
  | some t => .token t r
  | none => .skip r

/-- Does a number begin here? -/
def startsNumber : Text → Bool
  | [] => false
  | c :: r => c.isDigit || (c == '.' && r.head?.any Char.isDigit)

theorem head?_of_startsNumber {s : Text} (h : startsNumber s = true) :
    s.head?.any (fun c => c.isDigit || c == '.') = true := by
  cases s with
  | nil => cases h
  | cons c s =>
    simp only [startsNumber, Bool.or_eq_true, Bool.and_eq_true] at h
    simp only [List.head?_cons, Option.any_some, Bool.or_eq_true]
    exact h.imp_right And.left

/-- The token that a word is. -/
def wordToken? (w : Text) : Option Token :=
  match Keyword.ofText? w with
  | some k => some (.keyword k)
  | none => if Text.isIdentifier w then some (.name w) else none

/-- A blank that is passed over. -/
def isGap (c : Char) : Prop := c = ' ' ∨ c = '\t' ∨ c = Char.ofNat 12

/-- What a lexeme in front of the text `r` is made of. -/
inductive Shape (r : Text) : Lexeme → Prop
  | blank {c : Char} (hc : isGap c) : Shape r ⟨[c], none⟩
  | newline : Shape r ⟨['\n'], some .newline⟩
  | comment {q : Text} (hq : '\n' ∉ q) (hr : r.head?.all (· == '\n') = true) :
      Shape r ⟨'#' :: q, none⟩
  | joined (hr : r ≠ []) : Shape r ⟨['\\', '\n'], none⟩
  | line {tag body : Text} {q : Char} (htag : Quotation.isTag tag = true)
      (hq : isQuote q = true) (hbody : Quotation.IsLine q body)
      (hr : body = [] → r.head? ≠ some q) :
      Shape r ⟨tag ++ q :: (body ++ [q]), some (.string tag [q] body)⟩
  | block {tag body : Text} {q : Char} (htag : Quotation.isTag tag = true)
      (hq : isQuote q = true) (hbody : Quotation.IsBlock q body) :
      Shape r ⟨tag ++ q :: q :: q :: (body ++ [q, q, q]), some (.string tag [q, q, q] body)⟩
  | number {a : Text} (hstart : startsNumber (a ++ r) = true)
      (hscan : Number.scan? (a ++ r) = some (a, r)) : Shape r ⟨a, some (.number a)⟩
  | word {c : Char} {w : Text} {t : Token} (hc : isWordHead c = true) (hd : c.isDigit = false)
      (hw : ∀ x ∈ c :: w, Number.isWordPart x = true)
      (hr : r.head?.all (fun x => !Number.isWordPart x) = true)
      (hq : (r.head?.any isQuote && Quotation.isTag (c :: w)) = false)
      (ht : wordToken? (c :: w) = some t) : Shape r ⟨c :: w, some t⟩
  | symbol {w : Text} {m : Symbol} (hw : (w, m) ∈ symbols)
      (hstart : startsNumber (w ++ r) = false) (hr : symbol? (w ++ r) = some (m, r)) :
      Shape r ⟨w, some (.symbol m)⟩

namespace Lexeme

/-- The lexeme stands in front of the text `r` and is read in one step. -/
def Heads (l : Lexeme) (r : Text) : Prop :=
  l.text ≠ [] ∧ step? (l.text ++ r) = some (.of l.token? r)

/-- The text of lexemes. -/
def spelled (ls : List Lexeme) : Text := ls.flatMap text

/-- The tokens of lexemes. -/
def tokens (ls : List Lexeme) : List Token := ls.filterMap token?

@[simp] theorem spelled_nil : spelled [] = [] := rfl

@[simp] theorem spelled_cons (l : Lexeme) (ls : List Lexeme) :
    spelled (l :: ls) = l.text ++ spelled ls := rfl

@[simp] theorem spelled_append (ls ms : List Lexeme) :
    spelled (ls ++ ms) = spelled ls ++ spelled ms := List.flatMap_append

@[simp] theorem tokens_nil : tokens [] = [] := rfl

@[simp] theorem tokens_append (ls ms : List Lexeme) :
    tokens (ls ++ ms) = tokens ls ++ tokens ms := List.filterMap_append

end Lexeme

open Lexeme

/-! ## From steps to lexemes -/

theorem wordBefore_eq (w r : Text) : wordBefore w r = (wordToken? w).map (·, r) := by
  unfold wordBefore wordToken?
  cases Keyword.ofText? w with
  | some k => rfl
  | none =>
    dsimp only
    split_ifs <;> rfl

theorem isWordPart_of_isWordHead {c : Char} (h : isWordHead c = true) :
    Number.isWordPart c = true := by
  simp only [isWordHead, Bool.or_eq_true] at h
  simp only [Number.isWordPart, Char.isAlphanum, Bool.or_eq_true]
  exact h.imp_left fun h => h.imp_left .inl

theorem string?_shape {tag s r : Text} {t : Token} (htag : Quotation.isTag tag = true)
    (hs : s.head?.any isQuote = true) (h : string? tag s = some (t, r)) :
    ∃ l : Lexeme, tag ++ s = l.text ++ r ∧ l.token? = some t ∧ Shape r l := by
  obtain ⟨q, s, rfl⟩ : ∃ q s', s = q :: s' := by
    cases s with
    | nil => cases hs
    | cons q s => exact ⟨q, s, rfl⟩
  have hq : isQuote q = true := by simpa using hs
  by_cases hb : ∃ s', s = q :: q :: s'
  · obtain ⟨s, rfl⟩ := hb
    rw [string?_block] at h
    obtain ⟨⟨body, r⟩, hp, he⟩ := Option.map_eq_some_iff.1 h
    cases he
    obtain ⟨rfl, hbody⟩ := Quotation.scanBlock?_spec (isQuote_facts hq).2 hp
    exact ⟨_, by simp, rfl, .block htag hq hbody⟩
  · have hne : ∀ s', s = q :: q :: s' → False := fun s' hs' => hb ⟨s', hs'⟩
    rw [string?_line _ _ hne] at h
    obtain ⟨⟨body, r⟩, hp, he⟩ := Option.map_eq_some_iff.1 h
    cases he
    obtain ⟨rfl, hbody⟩ := Quotation.scanLine?_spec hp
    refine ⟨_, by simp, rfl, .line htag hq hbody ?_⟩
    rintro rfl hr
    obtain ⟨r', hr'⟩ := List.head?_eq_some_iff.1 hr
    exact hne r' (congrArg (q :: ·) hr')

theorem head?_dropWhile_not {f : Char → Bool} (s : Text) :
    (s.dropWhile f).head?.all (fun c => !f c) = true := by
  cases h : s.dropWhile f with
  | nil => rfl
  | cons c r =>
    have := List.head?_dropWhile_not f s
    rw [h] at this
    simpa using this

theorem symbol?_shape {s r : Text} {m : Symbol} (h : symbol? s = some (m, r)) :
    ∃ w, (w, m) ∈ symbols ∧ s = w ++ r := by
  obtain ⟨w, hw, he⟩ := List.exists_of_findSome?_eq_some h
  obtain ⟨q, hq, he⟩ := Option.map_eq_some_iff.1 he
  cases he
  exact ⟨w.1, hw, Text.eq_append_of_after? hq⟩

theorem word?_shape {c : Char} {s r : Text} {t : Token} (hc : isWordHead c = true)
    (hd : c.isDigit = false) (h : word? (c :: s) = some (t, r)) :
    ∃ l : Lexeme, c :: s = l.text ++ r ∧ l.token? = some t ∧ Shape r l := by
  have hcw := isWordPart_of_isWordHead hc
  obtain ⟨w, hw⟩ : ∃ w, (c :: s).takeWhile Number.isWordPart = c :: w := by simp [hcw]
  have hsplit : c :: s = (c :: w) ++ (c :: s).dropWhile Number.isWordPart := by
    rw [← hw, List.takeWhile_append_dropWhile]
  rw [word?_eq, hw] at h
  -- The letters of a word in front of a quote may be those of a literal.
  split_ifs at h with htag
  · rw [Bool.and_eq_true] at htag
    obtain ⟨l, hl, ht, hshape⟩ := string?_shape htag.2 htag.1 h
    exact ⟨l, hsplit.trans hl, ht, hshape⟩
  · rw [wordBefore_eq] at h
    obtain ⟨t, ht, he⟩ := Option.map_eq_some_iff.1 h
    cases he
    refine ⟨⟨c :: w, some t⟩, hsplit, rfl, .word hc hd ?_ (head?_dropWhile_not _) ?_ ht⟩
    · exact fun x hx => List.mem_takeWhile_imp (hw ▸ hx)
    · simpa using htag

/-- A step that gets on takes a lexeme. -/
theorem exists_shape {s : Text} {σ : Step} (h : step? s = some σ)
    (hlen : σ.rest.length < s.length) :
    ∃ l : Lexeme, s = l.text ++ σ.rest ∧ σ = .of l.token? σ.rest ∧ Shape σ.rest l := by
  rcases s with _ | ⟨c, s⟩
  · cases h
  unfold step? at h
  dsimp only at h
  -- One goal for each kind of lexeme, in the order in which they are tried.
  split_ifs at h with h₁ h₂ h₃ h₄ hq hd hw
  · cases h
    exact ⟨⟨[c], none⟩, rfl, rfl, .blank h₁⟩
  · cases h
    subst h₂
    exact ⟨⟨['\n'], some .newline⟩, rfl, rfl, .newline⟩
  · cases h
    subst h₃
    refine ⟨⟨'#' :: s.takeWhile (· != '\n'), none⟩, by simp [Step.rest], rfl, .comment ?_ ?_⟩
    · intro hmem
      simpa using List.mem_takeWhile_imp hmem
    · simpa only [Step.rest, bne, Bool.not_not] using head?_dropWhile_not (f := (· != '\n')) s
  · subst h₄
    split at h
    next d r =>
      cases h
      exact ⟨⟨['\\', '\n'], none⟩, rfl, rfl, .joined (by simp [Step.rest])⟩
    next => cases h
  · obtain ⟨⟨t, r⟩, hp, he⟩ := Option.map_eq_some_iff.1 h
    cases he
    obtain ⟨l, hl, ht, hshape⟩ := string?_shape (by decide) (by simpa using hq) hp
    exact ⟨l, hl, by rw [ht]; rfl, hshape⟩
  · obtain ⟨⟨t, r⟩, hp, he⟩ := Option.map_eq_some_iff.1 h
    cases he
    obtain ⟨⟨a, r⟩, hp', he⟩ := Option.map_eq_some_iff.1 hp
    cases he
    obtain ⟨hs, -, -, -⟩ := Number.scan?_spec hp' (head?_of_startsNumber hd)
    exact ⟨⟨a, some (.number a)⟩, hs, rfl, .number (hs ▸ hd) (hs ▸ hp')⟩
  · obtain ⟨⟨t, r⟩, hp, he⟩ := Option.map_eq_some_iff.1 h
    cases he
    rw [Bool.or_eq_true, not_or] at hd
    obtain ⟨l, hl, ht, hshape⟩ := word?_shape hw (by simpa using hd.1) hp
    exact ⟨l, hl, by rw [ht]; rfl, hshape⟩
  · obtain ⟨⟨t, r⟩, hp, he⟩ := Option.map_eq_some_iff.1 h
    cases he
    obtain ⟨⟨m, r⟩, hp', he⟩ := Option.map_eq_some_iff.1 hp
    cases he
    obtain ⟨w, hwm, hs⟩ := symbol?_shape hp'
    refine ⟨⟨w, some (.symbol m)⟩, hs, rfl, .symbol hwm ?_ (hs ▸ hp')⟩
    exact hs ▸ Bool.not_eq_true _ ▸ hd

/-! ## From lexemes to steps -/

theorem beginsToken_of {x : Char} {f : Char → Bool} (h : f x = true)
    (hf : ([' ', '\t', Char.ofNat 12, '\n', '#', '\\'].map f).all (! ·) = true) :
    beginsToken x := by
  simp only [List.map_cons, List.map_nil, List.all_cons, List.all_nil, Bool.and_true,
    Bool.and_eq_true, Bool.not_eq_true'] at hf
  obtain ⟨h₁, h₂, h₃, h₄, h₅, h₆⟩ := hf
  have hne : ∀ y, f y = false → x ≠ y := by
    rintro y hy rfl
    rw [h] at hy
    cases hy
  refine ⟨?_, hne _ h₄, hne _ h₅, hne _ h₆⟩
  rintro (h | h | h)
  · exact hne _ h₁ h
  · exact hne _ h₂ h
  · exact hne _ h₃ h

theorem eq_or_of_toLower {c l u : Char} (hl : l.toNat = u.toNat + 32)
    (h : c.toLower = l) : c = l ∨ c = u := by
  unfold Char.toLower at h
  split at h
  next hc =>
    right
    have hle : c.toNat ≤ 90 := hc.2
    have := congrArg Char.toNat h
    rw [hl] at this
    apply Char.toNat_inj.1
    simp at this
    omega
  next => exact .inl h

/-- The letters in front of the opening quotes. -/
def tagLetters : Text := "rRbBuUfF".toList

theorem mem_tagLetters_of_isTag {tag : Text} (h : Quotation.isTag tag = true) :
    (∀ c ∈ tag, c ∈ tagLetters) ∧ tag.length ≤ 2 := by
  have hall : ∀ w ∈ Quotation.tags, w.length ≤ 2 ∧ (w.all "rbuf".toList.contains) = true := by
    decide
  have hmem : tag.map Char.toLower ∈ Quotation.tags := by simpa [Quotation.isTag] using h
  obtain ⟨hlen, hletter⟩ := hall _ hmem
  refine ⟨fun c hc => ?_, by simpa using hlen⟩
  have := List.all_eq_true.1 hletter _ (List.mem_map_of_mem hc)
  simp only [List.contains_iff_mem, String.reduceToList, List.mem_cons, List.not_mem_nil, or_false]
    at this
  rcases this with h | h | h | h
  · rcases eq_or_of_toLower (u := 'R') rfl h with rfl | rfl <;> decide
  · rcases eq_or_of_toLower (u := 'B') rfl h with rfl | rfl <;> decide
  · rcases eq_or_of_toLower (u := 'U') rfl h with rfl | rfl <;> decide
  · rcases eq_or_of_toLower (u := 'F') rfl h with rfl | rfl <;> decide

theorem takeWhile_append_of_head {f : Char → Bool} {w r : Text} (hw : ∀ x ∈ w, f x = true)
    (hr : r.head?.all (fun x => !f x) = true) :
    (w ++ r).takeWhile f = w ∧ (w ++ r).dropWhile f = r := by
  have htake : r.takeWhile f = [] ∧ r.dropWhile f = r := by
    cases r with
    | nil => exact ⟨rfl, rfl⟩
    | cons c r =>
      have hc : f c = false := by simpa using hr
      simp [hc]
  rw [List.takeWhile_append_of_pos hw, List.dropWhile_append_of_pos hw, htake.1, htake.2]
  simp

/-- A word character begins no blank, comment or literal, and a word that begins with no digit is
read as a word. -/
theorem step?_word {c : Char} (hc : isWordHead c = true) (hd : c.isDigit = false) (s : Text) :
    step? (c :: s) = tokenStep (word? (c :: s)) := by
  have hq : isQuote c = false := isQuote_eq_false_of hc (by decide)
  have hdot : (c == '.') = false := by
    rw [beq_eq_false_iff_ne]
    rintro rfl
    cases hc
  rw [step?_token (beginsToken_of hc (by decide)), hq, hd, hdot, hc]
  rfl

theorem heads_of_string? {tag s r : Text} {t : Token} {q : Char}
    (htag : Quotation.isTag tag = true) (hq : isQuote q = true)
    (h : string? tag (q :: s ++ r) = some (t, r)) : Lexeme.Heads ⟨tag ++ q :: s, some t⟩ r := by
  refine ⟨by simp, ?_⟩
  have hletters := (mem_tagLetters_of_isTag htag).1
  rcases tag with _ | ⟨c, tag⟩
  · rw [List.nil_append, List.cons_append, step?_token (beginsToken_of hq (by decide)), if_pos hq,
      ← List.cons_append, h]
    rfl
  · have hfacts : (tagLetters.all fun c =>
        isWordHead c && !c.isDigit && Number.isWordPart c) = true := by decide
    simp only [List.all_eq_true, Bool.and_eq_true, Bool.not_eq_true'] at hfacts
    obtain ⟨⟨hc, hd⟩, -⟩ := hfacts c (hletters c (by simp))
    have hw : ∀ x ∈ c :: tag, Number.isWordPart x = true := fun x hx =>
      (hfacts x (hletters x hx)).2
    have hqw : Number.isWordPart q = false := by
      rcases isQuote_iff.1 hq with rfl | rfl <;> rfl
    obtain ⟨htake, hdrop⟩ := takeWhile_append_of_head (r := q :: s ++ r) hw (by simp [hqw])
    have happ : (c :: tag) ++ q :: s ++ r = (c :: tag) ++ (q :: s ++ r) := by simp
    rw [happ, List.cons_append, step?_word hc hd, ← List.cons_append, word?_eq, htake, hdrop,
      if_pos (by simp [hq, htag]), h]
    rfl

theorem symbol_facts {w : Text} {m : Symbol} (h : (w, m) ∈ symbols) :
    ∃ x p, w = x :: p ∧ beginsToken x ∧ isQuote x = false ∧ isWordHead x = false := by
  have hall : ∀ e ∈ symbols, (e.1.head?.any fun x => !isQuote x && !isWordHead x &&
      !List.contains [' ', '\t', Char.ofNat 12, '\n', '#', '\\'] x) = true := by decide
  have hw := hall _ h
  rcases w with _ | ⟨x, p⟩
  · cases hw
  · simp only [List.head?_cons, Option.any_some, Bool.and_eq_true, Bool.not_eq_true'] at hw
    refine ⟨x, p, rfl, beginsToken_of (f := fun x => !List.contains [' ', '\t', Char.ofNat 12, '\n',
      '#', '\\'] x) (by simpa using hw.2) (by decide), hw.1.1, hw.1.2⟩

/-- A lexeme is read in one step in front of what may stand behind it. -/
theorem Shape.heads {r : Text} {l : Lexeme} (h : Shape r l) : l.Heads r := by
  cases h with
  | blank hc => exact ⟨by simp, if_pos hc⟩
  | newline => exact ⟨by simp, rfl⟩
  | @comment q hq hr =>
    refine ⟨by simp, ?_⟩
    have hstep : step? ('#' :: q ++ r) = some (.skip ((q ++ r).dropWhile (· != '\n'))) := rfl
    have hall : ∀ x ∈ q, (x != '\n') = true := by
      intro x hx
      rw [bne_iff_ne]
      rintro rfl
      exact hq hx
    rw [hstep, (takeWhile_append_of_head hall (by simpa [bne] using hr)).2]
    rfl
  | joined hr =>
    obtain ⟨d, r, rfl⟩ := List.exists_cons_of_ne_nil hr
    exact ⟨by simp, rfl⟩
  | @line tag body q htag hq hbody hr =>
    refine heads_of_string? htag hq ?_
    have hne : ∀ r', body ++ q :: r = q :: q :: r' → False := by
      intro r' hr'
      rcases body with _ | ⟨x, body⟩
      · obtain ⟨-, h⟩ := List.cons.inj hr'
        exact hr rfl (by rw [h]; rfl)
      · obtain ⟨rfl, -⟩ := List.cons.inj hr'
        have := hbody []
        rw [List.cons_append, Quotation.scanLine?_quote] at this
        cases this
    have happ : q :: (body ++ [q]) ++ r = q :: (body ++ q :: r) := by simp
    rw [happ, string?_line _ _ hne, hbody]
    rfl
  | @block tag body q htag hq hbody =>
    refine heads_of_string? htag hq ?_
    have happ : q :: q :: q :: (body ++ [q, q, q]) ++ r =
        q :: q :: q :: (body ++ q :: q :: q :: r) := by simp
    rw [happ, string?_block, hbody]
    rfl
  | @number a hstart hscan =>
    have hhead := head?_of_startsNumber hstart
    obtain ⟨-, ha, -⟩ := Number.scan?_spec hscan hhead
    obtain ⟨c, a, rfl⟩ := List.exists_cons_of_ne_nil ha
    have hc : (c.isDigit || c == '.') = true := by simpa using hhead
    have hq := isQuote_eq_false_of (f := fun c => c.isDigit || c == '.') hc (by decide)
    refine ⟨by simp, ?_⟩
    have hbegins := beginsToken_of (f := fun c => c.isDigit || c == '.') hc (by decide)
    have hstart' : (c.isDigit || (c == '.' && (a ++ r).head?.any Char.isDigit)) = true := hstart
    rw [List.cons_append, step?_token hbegins, hq, if_neg Bool.false_ne_true, if_pos hstart',
      ← List.cons_append, hscan]
    rfl
  | @word c w t hc hd hw hr hq ht =>
    refine ⟨by simp, ?_⟩
    obtain ⟨htake, hdrop⟩ := takeWhile_append_of_head hw hr
    rw [List.cons_append, step?_word hc hd, ← List.cons_append, word?_eq, htake, hdrop,
      if_neg (by rw [hq]; exact Bool.false_ne_true), wordBefore_eq, ht]
    rfl
  | @symbol w m hw hstart hr =>
    obtain ⟨x, p, rfl, hx, hq, hword⟩ := symbol_facts hw
    refine ⟨by simp, ?_⟩
    have hstart' : (x.isDigit || (x == '.' && (p ++ r).head?.any Char.isDigit)) = false := hstart
    rw [List.cons_append, step?_token hx, hq, hword, hstart', ← List.cons_append, hr]
    rfl

/-! ## Lexemes in front of other texts -/

/-- A character inside of no mark, that begins neither a literal nor a number. -/
def isInert (c : Char) : Bool :=
  !isQuote c && !c.isDigit && symbols.all fun w => !w.1.tail.contains c

/-- Behind `before`, a text may go on with `b` as well as with `a`. -/
structure Turn (before : Option Char) (a b : Char) : Prop where
  left : isInert a = true
  right : isInert b = true
  word : Number.isWordPart a = true ∨ Number.isWordPart b = true →
    before.all (fun c => !Number.isWordPart c && c != '.') = true

/-- Behind `before`, the texts are the same up to a place where they may go on with either. -/
def Alike (before : Option Char) (r r' : Text) : Prop :=
  r' = r ∨ ∃ q a u b v, r = q ++ a :: u ∧ r' = q ++ b :: v ∧ Turn (q.getLast?.or before) a b

theorem isInert_facts {c : Char} (h : isInert c = true) :
    isQuote c = false ∧ c.isDigit = false ∧ (∀ w ∈ symbols, c ∉ w.1.tail) := by
  simp only [isInert, Bool.and_eq_true, Bool.not_eq_true', List.all_eq_true] at h
  exact ⟨h.1.1, h.1.2, fun w hw => by simpa using h.2 w hw⟩

theorem ne_of_isInert {c : Char} (h : isInert c = true) : c ≠ '.' := by
  rintro rfl
  cases h

theorem Alike.head? {before : Option Char} {r r' : Text} (h : Alike before r r') :
    r'.head? = r.head? ∨ ∃ a u b v, r = a :: u ∧ r' = b :: v ∧ Turn before a b := by
  rcases h with rfl | ⟨_ | ⟨c, q⟩, a, u, b, v, rfl, rfl, ht⟩
  · exact .inl rfl
  · exact .inr ⟨a, u, b, v, rfl, rfl, ht⟩
  · exact .inl rfl

/-- Behind a number, the texts go on with a word in neither case. -/
theorem Turn.not_isWordPart {a b c : Char} (h : Turn (some c) a b)
    (hc : Number.isWordPart c = true ∨ c = '.') :
    Number.isWordPart a = false ∧ Number.isWordPart b = false := by
  have hn : ¬(Number.isWordPart a = true ∨ Number.isWordPart b = true) := by
    intro hw
    have := h.word hw
    simp only [Option.all_some, Bool.and_eq_true, Bool.not_eq_true', bne_iff_ne] at this
    rcases hc with hc | hc
    · rw [this.1] at hc
      cases hc
    · exact this.2 hc
  simpa using hn

/-- Behind a number, that it may end depends on nothing behind the place. -/
theorem Alike.follows {c : Char} {r r' : Text} (h : Alike (some c) r r')
    (hc : Number.isWordPart c = true ∨ c = '.') (hr : Number.mayEnd r = true) :
    Number.Follows r r' := by
  rcases h with rfl | ⟨q, a, u, b, v, rfl, rfl, ht⟩
  · exact ⟨hr, .inl rfl⟩
  rcases List.eq_nil_or_concat q with rfl | ⟨q, e, rfl⟩
  · obtain ⟨ha, hb⟩ := ht.not_isWordPart hc
    exact ⟨by simp [Number.mayEnd, hb],
      .inr ⟨by simp [ha], by simpa [hb] using ne_of_isInert ht.right⟩⟩
  · rw [List.concat_eq_append] at ht hr ⊢
    refine ⟨?_, .inl (by cases q <;> rfl)⟩
    rw [List.append_assoc, List.singleton_append] at hr ⊢
    by_cases he : Number.isWordPart e = true
    · have ht' : Turn (some e) a b := by simpa using ht
      obtain ⟨ha, hb⟩ := ht'.not_isWordPart (.inl he)
      have happ : ∀ (x : Char) (w : Text), q ++ e :: x :: w = (q ++ [e]) ++ x :: w := by simp
      rw [happ, Number.mayEnd_append_of_not_isWordPart ha] at hr
      rw [happ, Number.mayEnd_append_of_not_isWordPart hb]
      exact hr
    · rw [Bool.not_eq_true] at he
      rw [Number.mayEnd_append_of_not_isWordPart he] at hr ⊢
      exact hr

theorem startsNumber_alike {w r r' : Text} (h : Alike w.getLast? r r') (hw : w ≠ []) :
    startsNumber (w ++ r') = startsNumber (w ++ r) := by
  obtain ⟨c, w, rfl⟩ := List.exists_cons_of_ne_nil hw
  rcases w with _ | ⟨d, w⟩
  · have hhead : r'.head?.any Char.isDigit = r.head?.any Char.isDigit := by
      rcases h.head? with hh | ⟨a, u, b, v, rfl, rfl, ht⟩
      · rw [hh]
      · simp [(isInert_facts ht.left).2.1, (isInert_facts ht.right).2.1]
    simp only [List.singleton_append, startsNumber, hhead]
  · rfl

/-- A lexeme is the same in front of a text that goes on alike, comments apart. -/
theorem Shape.alike {l : Lexeme} {r r' : Text} (h : Shape r l)
    (hsharp : l.token? = none → l.text.head? ≠ some '#')
    (ha : Alike l.text.getLast? r r') : Shape r' l := by
  cases h with
  | blank hc => exact .blank hc
  | newline => exact .newline
  | comment => exact absurd rfl (hsharp rfl)
  | joined hr =>
    refine .joined ?_
    rcases ha with rfl | ⟨q, a, u, b, v, rfl, rfl, -⟩
    · exact hr
    · simp
  | @line tag body q htag hq hbody hr =>
    refine .line htag hq hbody fun hb => ?_
    rcases ha.head? with hh | ⟨a, u, b, v, rfl, rfl, ht⟩
    · rw [hh]
      exact hr hb
    · intro hbq
      cases hbq
      rw [(isInert_facts ht.right).1] at hq
      cases hq
  | block htag hq hbody => exact .block htag hq hbody
  | @number a hstart hscan =>
    obtain ⟨-, hne, htrace, hend, hread⟩ := Number.scan?_spec hscan (head?_of_startsNumber hstart)
    obtain ⟨c, hlast, hc⟩ := Number.getLast?_of_trace (htrace true) hne
    refine .number (by rw [startsNumber_alike ha hne]; exact hstart) (hread r' ?_)
    dsimp only at ha
    rw [hlast] at ha
    exact ha.follows hc hend
  | @word c w t hc hd hw hr hq ht =>
    have hlast : ∃ x, (c :: w).getLast? = some x ∧ Number.isWordPart x = true :=
      ⟨_, List.getLast?_eq_some_getLast (by simp), hw _ (List.getLast_mem _)⟩
    obtain ⟨x, hlast, hx⟩ := hlast
    dsimp only at ha
    rw [hlast] at ha
    rcases ha.head? with hh | ⟨a, u, b, v, rfl, rfl, hturn⟩
    · exact .word hc hd hw (by rw [hh]; exact hr) (by rw [hh]; exact hq) ht
    · obtain ⟨-, hb⟩ := hturn.not_isWordPart (.inl hx)
      exact .word hc hd hw (by simp [hb]) (by simp [(isInert_facts hturn.right).1]) ht
  | @symbol w m hw hstart hr =>
    obtain ⟨x, p, rfl, -⟩ := symbol_facts hw
    refine .symbol hw (by rw [startsNumber_alike ha (by simp)]; exact hstart) ?_
    rcases ha with rfl | ⟨q, a, u, b, v, rfl, rfl, ht⟩
    · exact hr
    · have happ : ∀ (y : Char) (w : Text), x :: p ++ (q ++ y :: w) = x :: (p ++ q) ++ y :: w := by
        simp
      rw [happ, symbol?_append_of_not_mem (isInert_facts ht.left).2.2] at hr
      rw [happ, symbol?_append_of_not_mem (isInert_facts ht.right).2.2]
      obtain ⟨⟨n, q'⟩, hy, he⟩ := Option.map_eq_some_iff.1 hr
      simp only [Prod.mk.injEq, List.append_cancel_right_eq] at he
      obtain ⟨rfl, rfl⟩ := he
      rw [hy]
      rfl

/-! ## Texts of several lexemes -/

/-- The lexemes stand in front of `u`, one behind the other. -/
def Cut : List Lexeme → Text → Prop
  | [], _ => True
  | l :: ls, u => Shape (spelled ls ++ u) l ∧ Cut ls u

@[simp] theorem cut_nil (u : Text) : Cut [] u := trivial

@[simp] theorem cut_cons {l : Lexeme} {ls : List Lexeme} {u : Text} :
    Cut (l :: ls) u ↔ Shape (spelled ls ++ u) l ∧ Cut ls u := .rfl

@[simp] theorem cut_append {ls ms : List Lexeme} {u : Text} :
    Cut (ls ++ ms) u ↔ Cut ls (spelled ms ++ u) ∧ Cut ms u := by
  induction ls with
  | nil => simp
  | cons l ls ih => simp [ih, and_assoc]

theorem Step.tokens_of (t : Option Token) (r : Text) : (Step.of t r).tokens = t.toList := by
  cases t <;> rfl

theorem Step.rest_of (t : Option Token) (r : Text) : (Step.of t r).rest = r := by
  cases t <;> rfl

theorem Step.of_inj {t t' : Option Token} {r r' : Text} (h : Step.of t r = .of t' r') :
    t = t' ∧ r = r' := by
  cases t <;> cases t' <;> cases h <;> exact ⟨rfl, rfl⟩

theorem tokens_cons (l : Lexeme) (ls : List Lexeme) :
    tokens (l :: ls) = l.token?.toList ++ tokens ls := by
  cases h : l.token? <;> simp [tokens, h]

/-- What is cut into lexemes is read as their tokens. -/
theorem Cut.reads {ls : List Lexeme} {u : Text} (h : Cut ls u) :
    Reads (spelled ls ++ u) (tokens ls) u := by
  induction ls with
  | nil => exact .refl
  | cons l ls ih =>
    obtain ⟨hne, hstep⟩ := h.1.heads
    have hpos := List.length_pos_iff.2 hne
    have htail : Reads (Step.of l.token? (spelled ls ++ u)).rest (tokens ls) u := by
      rw [Step.rest_of]
      exact ih h.2
    have hall := Reads.step hstep (by rw [Step.rest_of]; simp; omega) htail
    rw [Step.tokens_of, ← tokens_cons] at hall
    rwa [spelled_cons, List.append_assoc]

/-- What is read can be cut into lexemes. -/
theorem Reads.exists_cut {s u : Text} {ts : List Token} (h : Reads s ts u) :
    ∃ ls, s = spelled ls ++ u ∧ tokens ls = ts ∧ Cut ls u := by
  induction h with
  | refl => exact ⟨[], rfl, rfl, trivial⟩
  | @step s σ ts u h hr _ ih =>
    obtain ⟨ls, hs, rfl, hcut⟩ := ih
    obtain ⟨l, hl, hσ, hshape⟩ := exists_shape h hr
    refine ⟨l :: ls, ?_, ?_, hs ▸ hshape, hcut⟩
    · rw [spelled_cons, List.append_assoc, ← hs, ← hl]
    · rw [tokens_cons, hσ, Step.tokens_of]

def Step.token? : Step → Option Token
  | .token t _ => some t
  | .skip _ => none

/-- The lexemes of a text; nothing if it cannot be read. -/
def lexemes? (s : Text) : Option (List Lexeme) :=
  match s with
  | [] => some []
  | c :: r =>
    match step? (c :: r) with
    | none => none
    | some σ =>
      if σ.rest.length ≤ r.length then
        (lexemes? σ.rest).map (⟨(c :: r).take (r.length + 1 - σ.rest.length), σ.token?⟩ :: ·)
      else none
termination_by s.length
decreasing_by simp only [List.length_cons]; omega

theorem Step.token?_of (t : Option Token) (r : Text) : (Step.of t r).token? = t := by
  cases t <;> rfl

theorem lexemes?_append {l : Lexeme} {r : Text} (h : l.Heads r) :
    lexemes? (l.text ++ r) = (lexemes? r).map (l :: ·) := by
  obtain ⟨hne, hstep⟩ := h
  obtain ⟨x, t⟩ := l
  obtain ⟨c, x, rfl⟩ := List.exists_cons_of_ne_nil hne
  dsimp only at hstep ⊢
  rw [List.cons_append] at hstep ⊢
  rw [lexemes?, hstep]
  dsimp only
  rw [Step.rest_of, Step.token?_of, if_pos (by simp), ← List.cons_append,
    List.take_left' (by simp; omega)]

/-- The lexemes of a text are those that it is cut into. -/
theorem lexemes?_eq_some_iff {s : Text} {ls : List Lexeme} :
    lexemes? s = some ls ↔ s = spelled ls ∧ Cut ls [] := by
  constructor
  · intro h
    fun_induction lexemes? s generalizing ls with
    | case1 =>
      cases h
      exact ⟨rfl, trivial⟩
    | case2 => cases h
    | case3 c r σ hσ hlen ih =>
      obtain ⟨ms, hms, rfl⟩ := Option.map_eq_some_iff.1 h
      obtain ⟨hrest, hcut⟩ := ih hms
      obtain ⟨l, hl, hof, hshape⟩ := exists_shape hσ (by simp only [List.length_cons]; omega)
      have hlen' := congrArg List.length hl
      simp only [List.length_cons, List.length_append] at hlen'
      have htext : (c :: r).take (r.length + 1 - σ.rest.length) = l.text := by
        rw [hl, List.take_left' (by omega)]
      have htoken : σ.token? = l.token? := by
        rw [hof, Step.token?_of]
      rw [htext, htoken]
      exact ⟨by rw [spelled_cons, ← hrest, ← hl], by rwa [← hrest, List.append_nil], hcut⟩
    | case4 => cases h
  · rintro ⟨rfl, h⟩
    induction ls with
    | nil => rw [spelled_nil, lexemes?]
    | cons l ls ih =>
      have hl := h.1.heads
      rw [List.append_nil] at hl
      rw [spelled_cons, lexemes?_append hl, ih h.2]
      rfl

/-- A text begins with one lexeme only. -/
theorem Lexeme.Heads.unique {l m : Lexeme} {r r' : Text} (h : l.Heads r) (h' : m.Heads r')
    (hs : l.text ++ r = m.text ++ r') : l = m ∧ r = r' := by
  have hstep := h.2
  rw [hs, h'.2, Option.some.injEq] at hstep
  obtain ⟨htoken, rfl⟩ := Step.of_inj hstep
  obtain ⟨x, t⟩ := l
  obtain ⟨y, t'⟩ := m
  obtain rfl : x = y := List.append_cancel_right hs
  obtain rfl : t' = t := htoken
  exact ⟨rfl, rfl⟩

/-- The tokens of a text are those of its lexemes. -/
theorem scan?_eq_map_lexemes? (s : Text) : scan? s = (lexemes? s).map tokens := by
  cases h : lexemes? s with
  | some ls =>
    obtain ⟨rfl, hcut⟩ := lexemes?_eq_some_iff.1 h
    have := hcut.reads
    rw [List.append_nil] at this
    exact this.scan?_eq
  | none =>
    rw [Option.map_none, Option.eq_none_iff_forall_ne_some]
    intro ts hts
    obtain ⟨ls, hs, -, hcut⟩ := (reads_of_scan? hts).exists_cut
    rw [List.append_nil] at hs
    rw [lexemes?_eq_some_iff.2 ⟨hs, hcut⟩] at h
    cases h

end Lexer

end Stencil
