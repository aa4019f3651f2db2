import Stencil.Proofs.Expr.Endings
import Stencil.Template.Scoping

/-! # Literals are left alone

A text whose literals are found is woven from them and from the gaps between. The free names in the
gaps get their scope, in each gap as if a mark stood in front of it, and the literals stay what they
are. -/
namespace Stencil

namespace Text

theorem decimalValue?_append (s : Text) (c : Char) : decimalValue? (s ++ [c]) =
    (do return (← decimalValue? s) * 10 + (← digitValue? c)) := by
  rw [decimalValue?, List.foldl_append]
  rfl

/-- The digits of a number give it back. -/
theorem decimalValue?_digits (n : Nat) : decimalValue? (digits 10 n) = some n := by
  have hdigit : ∀ d < 10, digitValue? (Nat.digitChar d) = some d := by decide
  induction n using Nat.strongRecOn with
  | _ n ih =>
  by_cases hn : n < 10
  · rw [digits, Nat.toDigits_of_lt_base hn]
    have := decimalValue?_append [] (Nat.digitChar n)
    rw [hdigit n hn] at this
    simpa [decimalValue?] using this
  · rw [digits, Nat.toDigits_of_base_le (by omega) (by omega), decimalValue?_append]
    have h := ih (n / 10) (by omega)
    rw [digits] at h
    rw [h, hdigit _ (by omega)]
    have : n / 10 * 10 + n % 10 = n := by omega
    exact congrArg some this

theorem isDigit_of_mem_digits {n : Nat} {c : Char} (h : c ∈ digits 10 n) : c.isDigit = true :=
  Nat.isDigit_of_mem_toDigits (by omega) (by omega) h

theorem digits_ne_nil (n : Nat) : digits 10 n ≠ [] := Nat.toDigits_ne_nil

/-- Digits are decimals, and parts of words. -/
theorem isDecimal_of_isDigit {c : Char} (h : c.isDigit = true) :
    isDecimal c = true ∧ isWord c = true := by
  have hascii : isAscii c = true := by
    simp only [Char.isDigit, Bool.and_eq_true, decide_eq_true_eq] at h
    have : c.toNat ≤ 57 := h.2
    simp [isAscii]
    omega
  simp [isDecimal, isWord, isLetterOrNumeral, isNumeral, hascii, h]

end Text

namespace Scoping

open Lexer (isQuote takeWhile_append_end)

/-- A text without quotes and marks. -/
def IsGap (g : Text) : Prop := ∀ c ∈ g, isQuote c = false ∧ c ≠ mark

/-- A first gap, and literals each with the gap behind it. -/
def weave (g : Text) (rest : List (Text × Text)) : Text := g ++ rest.flatMap fun p => p.1 ++ p.2

/-- The literals are found where they stand, and no others, if `before` is in front of the text. -/
def Recognised (before : Option Char) (g : Text) : List (Text × Text) → Prop
  | [] => IsGap g
  | p :: rest => IsGap g ∧ mayPrecedeLiteral (g.getLast?.or before) = true ∧ p.1 ≠ [] ∧
      literal? (p.1 ++ weave p.2 rest) = some (p.1, weave p.2 rest) ∧
      Recognised p.1.getLast? p.2 rest

/-- The text with placeholders for the literals, numbered from `n` on. -/
def masked (n : Nat) (g : Text) : List (Text × Text) → Text
  | [] => g
  | p :: rest => g ++ (placeholder n ++ masked (n + 1) p.2 rest)

@[simp] theorem weave_nil (g : Text) : weave g [] = g := List.append_nil g

@[simp] theorem weave_cons (g : Text) (p : Text × Text) (rest : List (Text × Text)) :
    weave g (p :: rest) = g ++ (p.1 ++ weave p.2 rest) := by
  simp [weave]

theorem Recognised.isGap {before : Option Char} {g : Text} {rest : List (Text × Text)}
    (h : Recognised before g rest) : IsGap g := by
  cases rest with
  | nil => exact h
  | cons p rest => exact h.1

/-! ## Taking the literals out -/

theorem quoted?_of_not_isQuote {c : Char} (hc : isQuote c = false) (s : Text) :
    quoted? (c :: s) = none := by
  have : ¬(c = '\'' ∨ c = '"') := by
    rintro (rfl | rfl) <;> cases hc
  rw [quoted?, if_neg this]

theorem isWord_of_isTagLetter {c : Char} (h : isTagLetter c = true) : Text.isWord c = true := by
  have hall : ("rRbBuU".toList.all Text.isWord) = true := by decide
  exact List.all_eq_true.1 hall c (by simpa [isTagLetter] using h)

/-- No literal begins in a gap. -/
theorem literal?_gap {g r : Text} (hne : g ≠ []) (hg : IsGap g)
    (hr : r = [] ∨ mayPrecedeLiteral g.getLast? = true) : literal? (g ++ r) = none := by
  have hquoted : quoted? ((g ++ r).dropWhile isTagLetter) = none := by
    -- If the gap is letters only, they touch what is behind them, and no literal may begin there.
    by_cases hall : ∀ c ∈ g, isTagLetter c = true
    · obtain rfl : r = [] := by
        refine hr.resolve_right fun hp => ?_
        rw [List.getLast?_eq_some_getLast hne] at hp
        simp [mayPrecedeLiteral, isWord_of_isTagLetter (hall _ (List.getLast_mem hne))] at hp
      rw [List.append_nil, List.dropWhile_eq_nil_iff.2 hall]
      rfl
    · obtain ⟨c, hc, hn⟩ : ∃ c ∈ g, isTagLetter c = false := by simpa using hall
      rw [Lexer.dropWhile_append_of_mem hn hc]
      cases hd : g.dropWhile isTagLetter with
      | nil =>
        have := List.dropWhile_eq_nil_iff.1 hd c hc
        rw [hn] at this
        cases this
      | cons x t =>
        have hx : x ∈ g := (List.dropWhile_sublist isTagLetter).subset (hd ▸ List.mem_cons_self)
        exact quoted?_of_not_isQuote (hg x hx).1 _
  rw [literal?, hquoted]
  simp

theorem maskFrom_cons_of_none {n : Nat} {before : Option Char} {c : Char} {s : Text}
    (h : (if mayPrecedeLiteral before then literal? (c :: s) else none) = none) :
    maskFrom n before (c :: s) =
      ⟨c :: (maskFrom n (some c) s).text, (maskFrom n (some c) s).saved⟩ := by
  rw [maskFrom, h]

theorem maskFrom_gap {g : Text} (hg : IsGap g) (n : Nat) (before : Option Char) (r : Text)
    (hr : r = [] ∨ mayPrecedeLiteral (g.getLast?.or before) = true) :
    maskFrom n before (g ++ r) = ⟨g ++ (maskFrom n (g.getLast?.or before) r).text,
      (maskFrom n (g.getLast?.or before) r).saved⟩ := by
  induction g generalizing before with
  | nil => rfl
  | cons c g ih =>
    have hlast : (c :: g).getLast?.or before = g.getLast?.or (some c) := by
      rw [List.getLast?_cons]
      cases g.getLast? <;> rfl
    have hor : (c :: g).getLast?.or before = (c :: g).getLast? := by
      rw [List.getLast?_cons]
      rfl
    have hnone := literal?_gap (by simp) hg (r := r) (hor ▸ hr)
    rw [hlast] at hr ⊢
    rw [List.cons_append, maskFrom_cons_of_none (by simpa using fun _ => hnone),
      ih (fun x hx => hg x (by simp [hx])) (some c) hr]
    rfl

theorem maskFrom_literal {n : Nat} {before : Option Char} {l r : Text}
    (hb : mayPrecedeLiteral before = true) (hne : l ≠ []) (hl : literal? (l ++ r) = some (l, r)) :
    maskFrom n before (l ++ r) = ⟨placeholder n ++ (maskFrom (n + 1) l.getLast? r).text,
      l :: (maskFrom (n + 1) l.getLast? r).saved⟩ := by
  obtain ⟨c, t, rfl⟩ := List.exists_cons_of_ne_nil hne
  rw [List.cons_append] at hl ⊢
  rw [maskFrom, if_pos hb, hl]
  simp

theorem maskFrom_weave {before : Option Char} {g : Text} {rest : List (Text × Text)}
    (h : Recognised before g rest) (n : Nat) :
    maskFrom n before (weave g rest) = ⟨masked n g rest, rest.map Prod.fst⟩ := by
  induction rest generalizing before g n with
  | nil =>
    have hg : IsGap g := h
    have := maskFrom_gap hg n before [] (.inl rfl)
    rw [List.append_nil, maskFrom] at this
    simpa [masked] using this
  | cons p rest ih =>
    obtain ⟨hg, hp, hne, hl, htail⟩ := h
    rw [weave_cons, maskFrom_gap hg n before _ (.inr hp), maskFrom_literal hp hne hl, ih htail]
    rfl

/-! ## Names in the gaps -/

theorem mark_facts : Text.isWord mark = false ∧ Text.isBlank mark = false := by decide

/-- What stands behind the blanks decides, and it is in the gap or begins with no equals sign. -/
theorem namesArgument_append {r : Text} (hb : ∀ c ∈ r.head?, Text.isBlank c = false)
    (he : r.head? ≠ some '=') (g : Text) : namesArgument (g ++ r) = namesArgument g := by
  rcases r with _ | ⟨d, r⟩
  · rw [List.append_nil]
  unfold namesArgument Text.trimStart
  rw [(takeWhile_append_end (hb d rfl) g r).2]
  have hd : d ≠ '=' := fun h => he (by rw [h]; rfl)
  rcases g.dropWhile Text.isBlank with _ | ⟨c, _ | ⟨x, u⟩⟩
  · simp [hd]
  · by_cases hc : c = '='
    · subst hc
      simp [hd]
    · simp [hc]
  · simp only [List.cons_append]
    by_cases hc : c = '='
    · subst hc
      by_cases hx : x = '='
      · subst hx
        rfl
      · simp [hx]
    · simp [hc]

variable {scope : Text}

theorem qualifyFrom_blank {c : Char} (hw : Text.isWord c = false) (hb : Text.isBlank c = true)
    (solid : Option Char) (s : Text) :
    qualifyFrom scope solid (c :: s) = c :: qualifyFrom scope solid s := by
  rw [qualifyFrom, hw, hb]
  rfl

theorem qualifyFrom_solid {c : Char} (hw : Text.isWord c = false) (hb : Text.isBlank c = false)
    (solid : Option Char) (s : Text) :
    qualifyFrom scope solid (c :: s) = c :: qualifyFrom scope (some c) s := by
  rw [qualifyFrom, hw, hb]
  rfl

/-- What is put in front of a word. -/
def prefixed (scope : Text) (word : Text) (solid : Option Char) (rest : Text) : Text :=
  if !word.head?.any Text.isDecimal && isFree word solid rest then scope ++ ['.'] else []

theorem qualifyFrom_word {c : Char} (hw : Text.isWord c = true) (solid : Option Char) (s : Text) :
    qualifyFrom scope solid (c :: s) =
      prefixed scope (c :: s.takeWhile Text.isWord) solid (s.dropWhile Text.isWord) ++
        (c :: s.takeWhile Text.isWord) ++ qualifyFrom scope
          (c :: s.takeWhile Text.isWord).getLast? (s.dropWhile Text.isWord) := by
  rw [qualifyFrom, hw]
  rfl

/-- In front of a mark that ends words, the text is rewritten as if nothing stood behind it. -/
theorem qualifyFrom_append {m : Char} (hm : Text.isWord m = false) (hsolid : Text.isBlank m = false)
    (hne : m ≠ '=') (solid : Option Char) (g t : Text) :
    qualifyFrom scope solid (g ++ m :: t) =
      qualifyFrom scope solid g ++ m :: qualifyFrom scope (some m) t := by
  induction hn : g.length using Nat.strongRecOn generalizing g solid with
  | _ n ih =>
  subst hn
  rcases g with _ | ⟨c, g⟩
  · rw [List.nil_append, qualifyFrom_solid hm hsolid, qualifyFrom.eq_1]
    rfl
  cases hw : Text.isWord c with
  | true =>
    obtain ⟨htake, hdrop⟩ := takeWhile_append_end hm g t
    have hlen := (List.dropWhile_sublist Text.isWord (l := g)).length_le
    rw [List.cons_append, qualifyFrom_word hw, qualifyFrom_word hw, htake, hdrop,
      ih _ (by simp only [List.length_cons]; omega) _ _ rfl, prefixed, prefixed, isFree, isFree,
      namesArgument_append (by simp [hsolid]) (by simp [hne])]
    simp
  | false =>
    cases hb : Text.isBlank c with
    | true =>
      rw [List.cons_append, qualifyFrom_blank hw hb, qualifyFrom_blank hw hb,
        ih _ (by simp) _ _ rfl]
      rfl
    | false =>
      rw [List.cons_append, qualifyFrom_solid hw hb, qualifyFrom_solid hw hb,
        ih _ (by simp) _ _ rfl]
      rfl

theorem qualifyFrom_mark (solid : Option Char) (g t : Text) :
    qualifyFrom scope solid (g ++ mark :: t) =
      qualifyFrom scope solid g ++ mark :: qualifyFrom scope (some mark) t :=
  qualifyFrom_append mark_facts.1 mark_facts.2 (by decide) solid g t

/-- Nothing is put in front of decimal digits. -/
theorem qualifyFrom_decimals {ds : Text} (hd : ∀ c ∈ ds, Text.isDecimal c = true)
    (solid : Option Char) : qualifyFrom scope solid ds = ds := by
  induction hn : ds.length using Nat.strongRecOn generalizing ds solid with
  | _ n ih =>
  subst hn
  rcases ds with _ | ⟨c, ds⟩
  · rw [qualifyFrom]
  have htail : ∀ x ∈ ds, Text.isDecimal x = true := fun x hx => hd x (by simp [hx])
  cases hw : Text.isWord c with
  | true =>
    have hlen := (List.dropWhile_sublist Text.isWord (l := ds)).length_le
    rw [qualifyFrom_word hw, ih _ (by simp only [List.length_cons]; omega)
      (fun x hx => htail x ((List.dropWhile_sublist _).subset hx)) _ rfl, prefixed]
    simp [hd c]
  | false =>
    cases hb : Text.isBlank c with
    | true => rw [qualifyFrom_blank hw hb, ih _ (by simp) htail _ rfl]
    | false => rw [qualifyFrom_solid hw hb, ih _ (by simp) htail _ rfl]

/-- The names get their scope in the gaps and nowhere else. -/
theorem qualifyFrom_masked (n : Nat) (solid : Option Char) (g : Text)
    (rest : List (Text × Text)) : qualifyFrom scope solid (masked n g rest) =
      masked n (qualifyFrom scope solid g)
        (rest.map fun p => (p.1, qualifyFrom scope (some mark) p.2)) := by
  induction rest generalizing n solid g with
  | nil => rfl
  | cons p rest ih =>
    have happ : masked n g (p :: rest) =
        g ++ mark :: (Text.digits 10 n ++ mark :: masked (n + 1) p.2 rest) := by
      simp [masked, placeholder]
    rw [happ, qualifyFrom_mark, qualifyFrom_mark, ih,
      qualifyFrom_decimals fun c hc =>
        (Text.isDecimal_of_isDigit (Text.isDigit_of_mem_digits hc)).1]
    simp [masked, placeholder]

theorem not_mem_qualifyFrom (hs : mark ∉ scope) {g : Text} (hg : mark ∉ g) (solid : Option Char) :
    mark ∉ qualifyFrom scope solid g := by
  induction hn : g.length using Nat.strongRecOn generalizing g solid with
  | _ n ih =>
  subst hn
  rcases g with _ | ⟨c, g⟩
  · rwa [qualifyFrom]
  have hc : mark ≠ c := fun h => hg (by simp [h])
  have hg' : mark ∉ g := fun h => hg (by simp [h])
  have hstep : ∀ solid, mark ∉ c :: qualifyFrom scope solid g := fun solid h =>
    (List.mem_cons.1 h).elim hc (ih _ (by simp) hg' solid rfl)
  cases hw : Text.isWord c with
  | true =>
    have hlen := (List.dropWhile_sublist Text.isWord (l := g)).length_le
    have htake : mark ∉ g.takeWhile Text.isWord := fun h =>
      hg' ((List.takeWhile_sublist _).subset h)
    have hdrop := ih _ (by simp only [List.length_cons]; omega)
      (fun h => hg' ((List.dropWhile_sublist Text.isWord).subset h))
      (c :: g.takeWhile Text.isWord).getLast? rfl
    have hhead : mark ∉ prefixed scope (c :: g.takeWhile Text.isWord) solid
        (g.dropWhile Text.isWord) := by
      unfold prefixed
      split_ifs
      · have : mark ≠ '.' := by decide
        simp [hs, this]
      · simp
    rw [qualifyFrom_word hw]
    simp [hhead, hc, htake, hdrop]
  | false =>
    cases hb : Text.isBlank c with
    | true => exact qualifyFrom_blank hw hb solid g ▸ hstep _
    | false => exact qualifyFrom_solid hw hb solid g ▸ hstep _

/-! ## Putting the literals back -/

theorem restore?_gap {saved : List Text} {g : Text} (hg : mark ∉ g) (t : Text) :
    restore? saved (g ++ t) = (restore? saved t).map (g ++ ·) := by
  induction g with
  | nil => simp
  | cons c g ih =>
    have hc : c ≠ mark := fun h => hg (by simp [h])
    have hnone : placeholder? (c :: (g ++ t)) = none := by
      rw [placeholder?, if_neg hc]
    rw [List.cons_append, restore?, hnone, ih fun h => hg (by simp [h])]
    simp [Function.comp_def]

theorem placeholder?_placeholder (n : Nat) (t : Text) :
    placeholder? (placeholder n ++ t) = some (n, t) := by
  have hdec : ∀ c ∈ Text.digits 10 n, Text.isDecimal c = true := fun c hc =>
    (Text.isDecimal_of_isDigit (Text.isDigit_of_mem_digits hc)).1
  have hmark : Text.isDecimal mark = false := by decide
  obtain ⟨htake, hdrop⟩ := takeWhile_append_end hmark (Text.digits 10 n) t
  have happ : placeholder n ++ t = mark :: (Text.digits 10 n ++ mark :: t) := by
    simp [placeholder]
  rw [happ, placeholder?, if_pos rfl, htake, hdrop, List.takeWhile_eq_self_iff.2 hdec,
    List.dropWhile_eq_nil_iff.2 hdec]
  simp [Text.digits_ne_nil, Text.decimalValue?_digits]

theorem restore?_placeholder (saved : List Text) (n : Nat) (t : Text) :
    restore? saved (placeholder n ++ t) =
      (do return (← saved[n]?) ++ (← restore? saved t)) := by
  have happ : placeholder n ++ t = mark :: (Text.digits 10 n ++ mark :: t) := by
    simp [placeholder]
  have h := placeholder?_placeholder n t
  rw [happ] at h ⊢
  rw [restore?, h]
  exact if_pos (by simp; omega)

theorem restore?_masked {saved : List Text} {g : Text} {rest : List (Text × Text)} {n : Nat}
    (hg : mark ∉ g) (hrest : ∀ p ∈ rest, mark ∉ p.2)
    (hsaved : saved.drop n = rest.map Prod.fst) :
    restore? saved (masked n g rest) = some (weave g rest) := by
  induction rest generalizing g n with
  | nil =>
    have : restore? saved (g ++ []) = _ := restore?_gap hg []
    rw [List.append_nil, restore?] at this
    simpa [masked] using this
  | cons p rest ih =>
    have hn : saved[n]? = some p.1 := by
      rw [← List.head?_drop, hsaved]
      rfl
    have hdrop : saved.drop (n + 1) = rest.map Prod.fst := by
      rw [← List.tail_drop, hsaved]
      rfl
    rw [masked, restore?_gap hg, restore?_placeholder, hn,
      ih (hrest p (by simp)) (fun p hp => hrest p (by simp [hp])) hdrop]
    simp

/-! ## The whole -/

theorem Recognised.isGap_of_mem {before : Option Char} {g : Text} {rest : List (Text × Text)}
    (h : Recognised before g rest) : ∀ p ∈ rest, IsGap p.2 := by
  induction rest generalizing before g with
  | nil => simp
  | cons p rest ih =>
    have htail := h.2.2.2.2
    exact List.forall_mem_cons.2 ⟨htail.isGap, ih htail⟩

theorem IsGap.not_mem {g : Text} (h : IsGap g) : mark ∉ g := fun hm => (h mark hm).2 rfl

/-- The literals that are taken out are put back where they were, and in each gap between them the
free names get the scope. -/
theorem scoped?_of_mask (hscope : mark ∉ scope) {s g : Text} {rest : List (Text × Text)}
    (hmask : mask (Text.strip s) = ⟨masked 0 g rest, rest.map Prod.fst⟩) (hg : mark ∉ g)
    (hrest : ∀ p ∈ rest, mark ∉ p.2) :
    scoped? scope s = some (weave (qualify scope g)
      (rest.map fun p => (p.1, qualifyFrom scope (some mark) p.2))) := by
  unfold scoped?
  rw [hmask]
  dsimp only
  rw [qualify, qualify, qualifyFrom_masked]
  refine restore?_masked (not_mem_qualifyFrom hscope hg _) ?_ (by simp)
  intro p hp
  obtain ⟨p', hp', rfl⟩ := List.mem_map.1 hp
  exact not_mem_qualifyFrom hscope (hrest p' hp') _

/-- If the literals of a text are found, they stay what they are, and in each gap between them the
free names get the scope. -/
theorem scoped?_weave (hscope : mark ∉ scope) {s g : Text} {rest : List (Text × Text)}
    (hs : Text.strip s = weave g rest) (h : Recognised none g rest) :
    scoped? scope s = some (weave (qualify scope g)
      (rest.map fun p => (p.1, qualifyFrom scope (some mark) p.2))) := by
  refine scoped?_of_mask hscope ?_ h.isGap.not_mem fun p hp => (h.isGap_of_mem p hp).not_mem
  rw [mask, hs, maskFrom_weave h]

/-- A text without literals. -/
theorem scoped?_of_isGap (hscope : mark ∉ scope) {s : Text} (h : IsGap (Text.strip s)) :
    scoped? scope s = some (qualify scope (Text.strip s)) := by
  rw [scoped?_weave hscope (weave_nil _).symm h, List.map_nil, weave_nil]

end Scoping

end Stencil
