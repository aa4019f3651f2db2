import Stencil.Text.Quoted
import Stencil.Proofs.Expr.Endings

/-! # A quoted text is read back

The written form of a text is one string token, whose body stands for the text. -/
namespace Stencil

/-! ## Hexadecimal digits -/

namespace Quotation

theorem hexDigits?_add (a b acc : Nat) (s : Text) :
    hexDigits? (a + b) acc s = (hexDigits? a acc s).bind fun p => hexDigits? b p.1 p.2 := by
  induction a generalizing acc s with
  | zero => simp [hexDigits?]
  | succ a ih =>
    rw [Nat.succ_add]
    cases s with
    | nil => rfl
    | cons c s =>
      simp only [hexDigits?]
      cases hexValue? c with
      | none => rfl
      | some v => exact ih _ _

theorem hexValue?_digitChar : ∀ d < 16, hexValue? (Nat.digitChar d) = some d := by
  decide

theorem hexDigits?_single {d : Nat} (hd : d < 16) (acc : Nat) (s : Text) :
    hexDigits? 1 acc (Nat.digitChar d :: s) = some (16 * acc + d, s) := by
  simp [hexDigits?, hexValue?_digitChar d hd]

theorem hexDigits?_toDigits (n acc : Nat) (s : Text) :
    ∃ k, hexDigits? (Nat.toDigits 16 n).length acc (Nat.toDigits 16 n ++ s) =
      some (16 ^ k * acc + n, s) := by
  induction n using Nat.strongRecOn generalizing s with
  | _ n ih =>
  by_cases hn : n < 16
  · exact ⟨1, by rw [Nat.toDigits_of_lt_base hn]; exact hexDigits?_single hn acc s⟩
  · obtain ⟨k, hk⟩ := ih (n / 16) (by omega) (Nat.digitChar (n % 16) :: s)
    refine ⟨k + 1, ?_⟩
    rw [Nat.toDigits_of_base_le (by omega) (by omega), List.length_append, List.length_singleton,
      hexDigits?_add, List.append_assoc, List.singleton_append, hk, Option.bind_some,
      hexDigits?_single (by omega)]
    have : 16 * (16 ^ k * acc + n / 16) + n % 16 = 16 ^ (k + 1) * acc + n := by
      rw [Nat.pow_succ, Nat.mul_add, Nat.mul_comm (16 ^ k) 16, Nat.mul_assoc]
      omega
    rw [this]

theorem hexDigits?_zeros (k : Nat) (s : Text) :
    hexDigits? k 0 (List.replicate k '0' ++ s) = some (0, s) := by
  induction k with
  | zero => rfl
  | succ k ih =>
    rw [List.replicate_succ, List.cons_append, hexDigits?]
    exact ih

/-- Digits of a fixed width give the number back. -/
theorem hexDigits?_hex {w n : Nat} (hw : 0 < w) (hn : n < 16 ^ w) (s : Text) :
    hexDigits? w 0 (Text.hex w n ++ s) = some (n, s) := by
  have hl : (Nat.toDigits 16 n).length ≤ w := (Nat.length_toDigits_le_iff (by omega) hw).2 hn
  obtain ⟨k, hk⟩ := Nat.exists_eq_add_of_le' hl
  obtain ⟨j, hj⟩ := hexDigits?_toDigits n 0 s
  have hhex : Text.hex w n ++ s = List.replicate k '0' ++ (Nat.toDigits 16 n ++ s) := by
    simp [Text.hex, Text.digits, hk]
  rw [hhex, hk, hexDigits?_add, hexDigits?_zeros, Option.bind_some, hj]
  simp

end Quotation

namespace Text

theorem mem_toDigits {n : Nat} {c : Char} (h : c ∈ Nat.toDigits 16 n) :
    ∃ d < 16, c = Nat.digitChar d := by
  induction n using Nat.strongRecOn with
  | _ n ih =>
  by_cases hn : n < 16
  · rw [Nat.toDigits_of_lt_base hn] at h
    exact ⟨n, hn, List.mem_singleton.1 h⟩
  · rw [Nat.toDigits_of_base_le (by omega) (by omega)] at h
    rcases List.mem_append.1 h with h | h
    · exact ih _ (by omega) h
    · exact ⟨n % 16, by omega, List.mem_singleton.1 h⟩

/-- A character with a meaning of its own inside of a string literal or for the lines of a text. -/
def isDelicate (c : Char) : Bool :=
  c == '\'' || c == '"' || c == '\\' || c == '\n' || c == '\r' || c == Char.ofNat 0

theorem isDelicate_digitChar : ∀ d < 16, isDelicate (Nat.digitChar d) = false := by
  decide

theorem isDelicate_of_mem_hex {w n : Nat} {c : Char} (h : c ∈ hex w n) : isDelicate c = false := by
  rcases List.mem_append.1 h with h | h
  · rw [List.eq_of_mem_replicate h]
    rfl
  · obtain ⟨d, hd, rfl⟩ := mem_toDigits h
    exact isDelicate_digitChar d hd

/-- A character that a line of source cannot hold. -/
def isBreak (c : Char) : Bool := c == '\n' || c == '\r' || c == Char.ofNat 0

namespace Quoted

open Quotation

variable {q : Char}

theorem text?_escape {e x : Char} (he : e ≠ '\n') (hx : simpleEscape? e = some x) (t : Text) :
    text? ('\\' :: e :: t) = (text? t).map (x :: ·) := by
  rw [text?]
  simp [he, hx]

theorem text?_numeric {e : Char} {w n : Nat} (he : e ≠ '\n') (hs : simpleEscape? e = none)
    (hw : hexWidth? e = some w) (hpos : 0 < w) (hn : n < 16 ^ w) (hlim : n < 0x110000)
    (t : Text) :
    text? ('\\' :: e :: hex w n ++ t) = (text? t).map (Char.ofNat n :: ·) := by
  have hd := hexDigits?_hex hpos hn t
  rw [List.cons_append, List.cons_append, text?]
  simp only [he, hs, hw, if_true, if_false]
  split
  next m r h =>
    cases h.symm.trans hd
    rw [if_pos hlim]
  next h => cases h.symm.trans hd

theorem text?_plain {c : Char} (hc : c ≠ '\\') (t : Text) :
    text? (c :: t) = (text? t).map (c :: ·) := by
  rw [text?.eq_def]
  simp [hc]

/-- An escape by number is read as its character. -/
theorem numericEscape_spec (c : Char) : ∃ d w, numericEscape c.toNat = '\\' :: d :: w ∧
    isBreak d = false ∧ (∀ x ∈ w, isDelicate x = false) ∧
      ∀ t, text? ('\\' :: d :: w ++ t) = (text? t).map (c :: ·) := by
  have hlim : c.toNat < 0x110000 := by
    have := c.valid
    simp only [UInt32.isValidChar, Nat.isValidChar] at this
    change c.val.toNat < _
    omega
  have key : ∀ e w, e ≠ '\n' → isBreak e = false → simpleEscape? e = none →
      hexWidth? e = some w → 0 < w → c.toNat < 16 ^ w → ∃ d v, '\\' :: e :: hex w c.toNat =
        '\\' :: d :: v ∧ isBreak d = false ∧ (∀ x ∈ v, isDelicate x = false) ∧
        ∀ t, text? ('\\' :: d :: v ++ t) = (text? t).map (c :: ·) := by
    intro e w hn hb hs hw hpos hlt
    refine ⟨e, _, rfl, hb, fun x hx => isDelicate_of_mem_hex hx, fun t => ?_⟩
    rw [text?_numeric hn hs hw hpos hlt hlim, Char.ofNat_toNat]
  unfold numericEscape
  split_ifs with h₁ h₂
  · exact key 'x' 2 (by decide) rfl rfl rfl (by omega) (by omega)
  · exact key 'u' 4 (by decide) rfl rfl rfl (by omega) (by omega)
  · exact key 'U' 8 (by decide) rfl rfl rfl (by omega) (by omega)

/-- The written form of a character: the character, or an escape that stands for it. -/
theorem encodeChar_cases (hq : Lexer.isQuote q = true) (c : Char) :
    (encodeChar q c = [c] ∧ c ≠ q ∧ c ≠ '\\' ∧ isBreak c = false) ∨
    ∃ d w, encodeChar q c = '\\' :: d :: w ∧ isBreak d = false ∧
      (∀ x ∈ w, isDelicate x = false) ∧
      ∀ t, text? ('\\' :: d :: w ++ t) = (text? t).map (c :: ·) := by
  unfold encodeChar
  by_cases h₁ : c = q ∨ c = '\\'
  · have hd : c = '\'' ∨ c = '"' ∨ c = '\\' := by
      rcases h₁ with rfl | rfl
      · exact (Lexer.isQuote_iff.1 hq).imp_right .inl
      · exact .inr (.inr rfl)
    refine .inr ⟨c, [], by rw [if_pos h₁], ?_, by simp, fun t => ?_⟩ <;>
      rcases hd with rfl | rfl | rfl
    · rfl
    · rfl
    · rfl
    all_goals exact text?_escape (by decide) rfl t
  rw [if_neg h₁]
  by_cases h₂ : c = '\t'
  · subst h₂
    exact .inr ⟨'t', [], rfl, rfl, by simp, text?_escape (by decide) rfl⟩
  rw [if_neg h₂]
  by_cases h₃ : c = '\n'
  · subst h₃
    exact .inr ⟨'n', [], rfl, rfl, by simp, text?_escape (by decide) rfl⟩
  rw [if_neg h₃]
  by_cases h₄ : c = '\r'
  · subst h₄
    exact .inr ⟨'r', [], rfl, rfl, by simp, text?_escape (by decide) rfl⟩
  rw [if_neg h₄]
  by_cases h₅ : isPrintable c = true
  · have h₀ : c ≠ Char.ofNat 0 := by
      rintro rfl
      revert h₅
      decide
    exact .inl ⟨if_pos h₅, fun h => h₁ (.inl h), fun h => h₁ (.inr h), by simp [isBreak, *]⟩
  rw [if_neg h₅]
  exact .inr (numericEscape_spec c)

theorem text?_encodeChar (hq : Lexer.isQuote q = true) (c : Char) (t : Text) :
    text? (encodeChar q c ++ t) = (text? t).map (c :: ·) := by
  rcases encodeChar_cases hq c with ⟨h, -, hb, -⟩ | ⟨d, w, h, -, -, ht⟩
  · rw [h]
    exact text?_plain hb t
  · rw [h]
    exact ht t

/-- The written body stands for the text. -/
theorem text?_body (hq : Lexer.isQuote q = true) (s : Text) :
    text? (s.flatMap (encodeChar q)) = some s := by
  induction s with
  | nil => rw [List.flatMap_nil, text?]
  | cons c s ih => rw [List.flatMap_cons, text?_encodeChar hq, ih, Option.map_some]

theorem scanLine?_plains {w : Text} (hw : ∀ x ∈ w, x ≠ q ∧ x ≠ '\n' ∧ x ≠ '\\') (t : Text) :
    scanLine? q (w ++ t) = (scanLine? q t).map fun p => (w ++ p.1, p.2) := by
  induction w with
  | nil => simp
  | cons c w ih =>
    obtain ⟨h₁, h₂, h₃⟩ := hw c (by simp)
    rw [List.cons_append, scanLine?_plain h₁ h₂ h₃, ih fun x hx => hw x (by simp [hx])]
    simp [Function.comp_def]

theorem ne_of_not_isDelicate (hq : Lexer.isQuote q = true) {x : Char} (hx : isDelicate x = false) :
    x ≠ q ∧ x ≠ '\n' ∧ x ≠ '\\' := by
  refine ⟨?_, ?_, ?_⟩ <;> rintro rfl
  · rcases Lexer.isQuote_iff.1 hq with rfl | rfl <;> cases hx
  · cases hx
  · cases hx

theorem scanLine?_encodeChar (hq : Lexer.isQuote q = true) (c : Char) (t : Text) :
    scanLine? q (encodeChar q c ++ t) =
      (scanLine? q t).map fun p => (encodeChar q c ++ p.1, p.2) := by
  rcases encodeChar_cases hq c with ⟨h, hcq, hcb, hbr⟩ | ⟨d, w, h, -, hw, -⟩
  · have hn : c ≠ '\n' := by
      rintro rfl
      cases hbr
    rw [h]
    exact scanLine?_plain hcq hn hcb t
  · rw [h, List.cons_append, List.cons_append, scanLine?_escape (Lexer.isQuote_facts hq).2,
      scanLine?_plains fun x hx => ne_of_not_isDelicate hq (hw x hx)]
    simp [Function.comp_def]

theorem scanLine?_body (hq : Lexer.isQuote q = true) (s t : Text) :
    scanLine? q (s.flatMap (encodeChar q) ++ q :: t) = some (s.flatMap (encodeChar q), t) := by
  induction s with
  | nil => exact scanLine?_quote q t
  | cons c s ih =>
    rw [List.flatMap_cons, List.append_assoc, scanLine?_encodeChar hq, ih, Option.map_some]

theorem isQuote_quoteFor (s : Text) : Lexer.isQuote (quoteFor s) = true := by
  unfold quoteFor
  split <;> rfl

theorem isBreak_of_mem_encodeChar (hq : Lexer.isQuote q = true) {c x : Char}
    (h : x ∈ encodeChar q c) : isBreak x = false := by
  rcases encodeChar_cases hq c with ⟨he, -, -, hb⟩ | ⟨d, w, he, hd, hw, -⟩
  · rw [he] at h
    rwa [List.mem_singleton.1 h]
  · rw [he] at h
    rcases List.mem_cons.1 h with rfl | h
    · rfl
    rcases List.mem_cons.1 h with rfl | h
    · exact hd
    · have := hw x h
      simp only [isDelicate, Bool.or_eq_false_iff] at this
      simp [isBreak, this]

/-- A written text stays on its line. -/
theorem isBreak_of_mem_encode {s : Text} {x : Char} (h : x ∈ encode s) : isBreak x = false := by
  have hq := isQuote_quoteFor s
  have hb : isBreak (quoteFor s) = false := by
    unfold quoteFor
    split <;> rfl
  unfold encode at h
  rcases List.mem_cons.1 h with rfl | h
  · exact hb
  rcases List.mem_append.1 h with h | h
  · obtain ⟨c, -, hc⟩ := List.mem_flatMap.1 h
    exact isBreak_of_mem_encodeChar hq hc
  · rwa [List.mem_singleton.1 h]

/-- The first written character is not the quote. -/
theorem head_body (hq : Lexer.isQuote q = true) {s : Text} {e : Char} (he : isEnd e = true)
    (u : Text) : ∀ r, s.flatMap (encodeChar q) ++ q :: e :: u = q :: q :: r → False := by
  intro r hr
  have hne := Lexer.isQuote_facts hq
  rcases s with _ | ⟨c, s⟩
  · exact ne_of_isEnd he hne.1 (List.cons.inj (List.cons.inj hr).2).1
  rw [List.flatMap_cons] at hr
  rcases encodeChar_cases hq c with ⟨h, hcq, -, -⟩ | ⟨d, w, h, -, -, -⟩
  · rw [h] at hr
    exact hcq (List.cons.inj hr).1
  · rw [h] at hr
    exact hne.2 (List.cons.inj hr).1.symm

/-- The token of a written text. -/
def token (s : Text) : Token :=
  .string [] [quoteFor s] (s.flatMap (encodeChar (quoteFor s)))

theorem step?_encode (s : Text) {e : Char} (he : isEnd e = true) (u : Text) :
    Lexer.step? (encode s ++ e :: u) = some (.token (token s) (e :: u)) := by
  have hq := isQuote_quoteFor s
  have hs : encode s ++ e :: u =
      quoteFor s :: (s.flatMap (encodeChar (quoteFor s)) ++ quoteFor s :: e :: u) := by
    simp [encode]
  have hbegin : Lexer.beginsToken (quoteFor s) := by
    unfold quoteFor Lexer.beginsToken
    split <;> decide
  rw [hs, Lexer.step?_token hbegin, if_pos hq, Lexer.string?_line [] _ (head_body hq he u),
    scanLine?_body hq]
  rfl

/-- A written text is one token in front of an end mark. -/
theorem reads_encode (s : Text) {e : Char} (he : isEnd e = true) (u : Text) :
    Lexer.Reads (encode s ++ e :: u) [token s] (e :: u) := by
  refine .token (step?_encode s he u) ?_ .refl
  simp [encode]
  omega

end Quoted

end Text

end Stencil
