import Stencil.Proofs.Template.Literals

/-! # Free names in the tokens of an expression

Where the words of a text can be told from its numbers without reading them, the names that are put
in the scope are the names among the tokens: those behind no point and in front of no single equals
sign. All other tokens stay what they are. -/
namespace Stencil

/-! ## The tokens that are meant -/

namespace Token

def isName : Token → Bool
  | name _ => true
  | _ => false

/-- A point at the end that asks for no member: that of the ellipsis, or of a number. -/
def endsInPoint : Token → Bool
  | symbol .ellipsis => true
  | number a => a.getLast? == some '.'
  | _ => false

end Token

namespace Lexer

def Lexeme.isName (l : Lexeme) : Bool := l.token?.any Token.isName

def Lexeme.isNumber (l : Lexeme) : Bool :=
  match l.token? with
  | some (.number _) => true
  | _ => false

/-- Blanks, comments and line ends. -/
def Lexeme.isMargin (l : Lexeme) : Bool :=
  match l.token? with
  | none | some .newline => true
  | _ => false

/-- A lexeme is simple if it is plain and, a literal apart, all ASCII, and if only blanks are passed
over. -/
def Lexeme.isSimple (l : Lexeme) : Bool :=
  l.isPlain && (l.isString || l.text.all Text.isAscii) &&
    (l.token?.isSome || l.text.all Text.isBlank)

end Lexer

namespace Scoping

open Lexer Lexer.Lexeme

/-- The tokens with the scope in front of the free names. `dotted` tells that a point stands in
front. -/
def qualifyTokens (dotted : Bool) : List Token → List Token
  | [] => []
  | t :: ts =>
    (if t.isName && !dotted && ts.head? != some (.symbol .assign) then
      [.name scopeName, .symbol .dot] else []) ++
      t :: qualifyTokens (t == .symbol .dot) ts

/-- The first token that is no line end. -/
def nextToken? (ls : List Lexeme) : Option Token := (unbroken (tokens ls)).head?

/-- Is the lexeme a free name, if `ls` stands behind it? -/
def isFreeName (dotted : Bool) (l : Lexeme) (ls : List Lexeme) : Bool :=
  l.isName && !dotted && nextToken? ls != some (.symbol .assign)

def dottedBehind (dotted : Bool) (l : Lexeme) : Bool :=
  if l.isMargin then dotted else l.token? == some (.symbol .dot)

def scopeLexeme : Lexeme := ⟨scopeName, some (.name scopeName)⟩

def dotLexeme : Lexeme := ⟨['.'], some (.symbol .dot)⟩

/-- The lexemes with the scope in front of the free names. -/
def qualifyLexemes (dotted : Bool) : List Lexeme → List Lexeme
  | [] => []
  | l :: ls =>
    (if isFreeName dotted l ls then [scopeLexeme, dotLexeme] else []) ++
      l :: qualifyLexemes (dottedBehind dotted l) ls

/-- No name stands directly behind a number. -/
def NamesApart (ls : List Lexeme) : Prop :=
  ls.IsChain fun l m => m.isName = true → l.isNumber = false

/-- No name stands behind a point that asks for no member. -/
def PointsApart (ts : List Token) : Prop :=
  ts.IsChain fun t u => u.isName = true → t.endsInPoint = false

instance : DecidablePred NamesApart := fun ls => inferInstanceAs (Decidable (ls.IsChain _))

instance : DecidablePred PointsApart := fun ts => inferInstanceAs (Decidable (ts.IsChain _))

theorem unbroken_tokens_of_isMargin {l : Lexeme} (h : l.isMargin = true) (ls : List Lexeme) :
    unbroken (tokens (l :: ls)) = unbroken (tokens ls) := by
  rw [tokens_cons]
  unfold isMargin at h
  split at h
  next ht => rw [ht]; rfl
  next ht => rw [ht]; rfl
  next => cases h

theorem unbroken_tokens_of_not {l : Lexeme} (h : l.isMargin = false) : ∃ t, l.token? = some t ∧
    t ≠ .newline ∧ ∀ ls, unbroken (tokens (l :: ls)) = t :: unbroken (tokens ls) := by
  unfold isMargin at h
  split at h
  next => cases h
  next => cases h
  next hnone hline =>
    obtain ⟨t, ht⟩ := Option.ne_none_iff_exists'.1 hnone
    have hne : t ≠ .newline := fun hn => hline (hn ▸ ht)
    refine ⟨t, ht, hne, fun ls => ?_⟩
    rw [tokens_cons, ht]
    exact List.filter_cons_of_pos (by simpa using hne)

theorem isName_of_isMargin {l : Lexeme} (h : l.isMargin = true) : l.isName = false := by
  unfold isMargin at h
  split at h
  next ht => rw [isName, ht]; rfl
  next ht => rw [isName, ht]; rfl
  next => cases h

theorem nextToken?_of_isMargin {l : Lexeme} (h : l.isMargin = true) (ls : List Lexeme) :
    nextToken? (l :: ls) = nextToken? ls :=
  congrArg List.head? (unbroken_tokens_of_isMargin h ls)

theorem nextToken?_of_not {l : Lexeme} (h : l.isMargin = false) (ls : List Lexeme) :
    nextToken? (l :: ls) = l.token? := by
  obtain ⟨t, ht, -, hcons⟩ := unbroken_tokens_of_not h
  rw [nextToken?, hcons, ht]
  rfl

theorem isString_of_isMargin {l : Lexeme} (h : l.isMargin = true) : l.isString = false := by
  unfold isMargin at h
  split at h
  next ht => rw [isString, ht]
  next ht => rw [isString, ht]
  next => cases h

/-- The tokens of the lexemes with the scope are the tokens with the scope. -/
theorem unbroken_tokens_qualifyLexemes {t : Token} (ht : t ≠ .symbol .assign)
    (hn : t.isName = false) (d : Bool) (ls : List Lexeme) :
    unbroken (tokens (qualifyLexemes d ls)) ++ [t] =
      qualifyTokens d (unbroken (tokens ls) ++ [t]) := by
  induction ls generalizing d with
  | nil => simp [qualifyLexemes, qualifyTokens, hn, unbroken]
  | cons l ls ih =>
    cases hm : l.isMargin with
    | true =>
      rw [qualifyLexemes, isFreeName, isName_of_isMargin hm, dottedBehind, if_pos hm]
      exact (congrArg (· ++ [t]) (unbroken_tokens_of_isMargin hm _)).trans
        ((ih d).trans (congrArg (fun us => qualifyTokens d (us ++ [t]))
          (unbroken_tokens_of_isMargin hm ls).symm))
    | false =>
      obtain ⟨u, hu, -, hcons⟩ := unbroken_tokens_of_not hm
      have hnext : ((unbroken (tokens ls) ++ [t]).head? != some (.symbol .assign)) =
          (nextToken? ls != some (.symbol .assign)) := by
        rw [nextToken?]
        cases unbroken (tokens ls) with
        | nil => exact bne_iff_ne.2 fun h => ht (Option.some.inj h)
        | cons u us => rfl
      have hdot : dottedBehind d l = (u == .symbol .dot) := by
        rw [dottedBehind, if_neg (by simp [hm]), hu]
        rfl
      have hfree : isFreeName d l ls =
          (u.isName && !d && nextToken? ls != some (.symbol .assign)) := by
        rw [isFreeName, isName, hu]
        rfl
      rw [qualifyLexemes, hcons, List.cons_append, qualifyTokens, hnext, ← hfree, ← hdot, ← ih]
      split_ifs
      · exact congrArg (fun us => .name scopeName :: .symbol .dot :: (us ++ [t])) (hcons _)
      · exact congrArg (· ++ [t]) (hcons _)

/-! ## Lexemes in a gap -/

theorem forall_ascii {p : Char → Prop} (h : ∀ n < 128, p (Char.ofNat n)) {c : Char}
    (hc : Text.isAscii c = true) : p c := by
  have := h c.toNat (by simpa [Text.isAscii] using hc)
  rwa [Char.ofNat_toNat] at this

theorem isWord_of_isAscii {c : Char} (h : Text.isAscii c = true) :
    Text.isWord c = Number.isWordPart c := by
  have hlt : c.toNat < 128 := by simpa [Text.isAscii] using h
  simp only [Text.isWord, Text.isLetterOrNumeral, Text.isLetter, Text.isNumeral, h, if_true,
    Number.isWordPart, Char.isAlphanum]
  simp [hlt]

theorem isWord_of_not_isWordPart {c : Char} (h : Number.isWordPart c = false) :
    Text.isWord c = false := by
  rw [isWord_of_isAscii, h]
  simp only [Number.isWordPart, Bool.or_eq_false_iff, decide_eq_false_iff_not] at h
  simpa [Text.isAscii] using h.2

theorem isKeyword_of_wordToken? {w : Text} {k : Keyword} (h : wordToken? w = some (.keyword k)) :
    isKeyword w = true := by
  unfold wordToken? at h
  split at h
  next hk => rw [isKeyword, hk]; rfl
  next => split_ifs at h; cases h

theorem not_isKeyword_of_wordToken? {w v : Text} (h : wordToken? w = some (.name v)) :
    isKeyword w = false := by
  unfold wordToken? at h
  split at h
  next => cases h
  next hk => rw [isKeyword, hk]; rfl

theorem isDecimal_of_isAscii {c : Char} (h : Text.isAscii c = true) :
    Text.isDecimal c = c.isDigit := by
  simp [Text.isDecimal, h]

/-- The names get the scope from a place on that may be inside of a word or behind a point, where
what is left of the word stays as it is. -/
def resume (inside : Bool) (solid : Option Char) (s : Text) : Text :=
  if inside then
    s.takeWhile Text.isWord ++
      qualifyFrom scopeName ((s.takeWhile Text.isWord).getLast?.or solid) (s.dropWhile Text.isWord)
  else qualifyFrom scopeName solid s

theorem resume_false (solid : Option Char) (s : Text) :
    resume false solid s = qualifyFrom scopeName solid s := rfl

@[simp] theorem resume_nil (i : Bool) (solid : Option Char) : resume i solid [] = [] := by
  cases i <;> simp [resume, qualifyFrom]

/-- Inside of a word or not makes no difference in front of what is no word. -/
theorem resume_of_head {s : Text} (h : s.head?.all (fun c => !Text.isWord c) = true) (i : Bool)
    (solid : Option Char) : resume i solid s = qualifyFrom scopeName solid s := by
  cases i with
  | false => rfl
  | true =>
    obtain ⟨htake, hdrop⟩ := takeWhile_append_of_head (w := []) (by simp) h
    rw [List.nil_append] at htake hdrop
    rw [resume, if_pos rfl, htake, hdrop]
    rfl

theorem resume_blank {c : Char} (hw : Text.isWord c = false) (hb : Text.isBlank c = true) (i : Bool)
    (solid : Option Char) (s : Text) : resume i solid (c :: s) = c :: resume false solid s := by
  rw [resume_of_head (by simp [hw]), qualifyFrom_blank hw hb]
  rfl

theorem resume_solid {c : Char} (hw : Text.isWord c = false) (hb : Text.isBlank c = false)
    (i : Bool) (solid : Option Char) (s : Text) : resume i solid (c :: s) = c :: resume false (some c) s := by
  rw [resume_of_head (by simp [hw]), qualifyFrom_solid hw hb]
  rfl

/-- Behind a point, a word stays as it is. -/
theorem resume_point (i : Bool) (s : Text) : resume i (some '.') s = resume false (some '.') s := by
  rcases s with _ | ⟨c, s⟩
  · simp
  cases hw : Text.isWord c with
  | false =>
    have hhead : ((c :: s).head?.all fun c => !Text.isWord c) = true := by simp [hw]
    rw [resume_of_head hhead, resume_of_head hhead]
  | true =>
    cases i with
    | false => rfl
    | true =>
      rw [resume, if_pos rfl, resume_false, qualifyFrom_word hw, prefixed, isFree]
      simp [hw, List.getLast?_cons]

theorem resume_word {c : Char} (hw : Text.isWord c = true) {i : Bool}
    (hi : i = true ∨ Text.isDecimal c = true) (solid : Option Char) (s : Text) :
    resume i solid (c :: s) = c :: resume true (some c) s := by
  cases i with
  | false =>
    have hd := hi.resolve_left Bool.false_ne_true
    rw [resume_false, qualifyFrom_word hw, prefixed]
    simp [hd, resume, List.getLast?_cons]
  | true => simp [hw, resume, List.getLast?_cons]

theorem getLast?_cons_or {c : Char} (s : Text) (solid : Option Char) :
    (c :: s).getLast?.or solid = s.getLast?.or (some c) := by
  rw [List.getLast?_cons]
  cases s.getLast? <;> rfl

/-- A number stays as it is. -/
theorem resume_number {i j : Bool} {a : Text} (h : Number.trace i a = some j)
    (ha : ∀ c ∈ a, Text.isAscii c = true) (solid : Option Char) (s : Text) :
    resume i solid (a ++ s) = a ++ resume j (a.getLast?.or solid) s := by
  induction a generalizing i solid with
  | nil =>
    cases h
    rfl
  | cons c a ih =>
    obtain ⟨hc, ha'⟩ := List.forall_mem_cons.1 ha
    rw [getLast?_cons_or, List.cons_append]
    rw [Number.trace] at h
    split_ifs at h with hw hi hdot hsign
    · rw [← isWord_of_isAscii hc] at hw
      rw [Bool.or_eq_true, ← isDecimal_of_isAscii hc] at hi
      rw [resume_word hw hi, ih h ha']
      rfl
    · subst hdot
      rw [resume_solid (by decide) (by decide), ← resume_point true, ih h ha']
      rfl
    · rw [resume_solid (by rcases hsign with rfl | rfl <;> decide)
        (by rcases hsign with rfl | rfl <;> decide), ih h ha']
      rfl

/-- Marks stay as they are. -/
theorem resume_marks {w : Text} (h : ∀ c ∈ w, Text.isWord c = false ∧ Text.isBlank c = false)
    (hne : w ≠ []) (i : Bool) (solid : Option Char) (s : Text) :
    resume i solid (w ++ s) = w ++ resume false w.getLast? s := by
  induction w generalizing i solid with
  | nil => exact absurd rfl hne
  | cons c w ih =>
    obtain ⟨⟨hw, hb⟩, h⟩ := List.forall_mem_cons.1 h
    rw [List.cons_append, resume_solid hw hb]
    rcases w with _ | ⟨d, w⟩
    · rfl
    · rw [ih h (by simp), List.getLast?_cons_cons]
      rfl

/-- A whole word stays as it is, but for what is put in front. -/
theorem resume_whole {w : Text} (hw : ∀ c ∈ w, Text.isWord c = true) (hne : w ≠ []) {s : Text}
    (hs : s.head?.all (fun c => !Text.isWord c) = true) (i : Bool) (solid : Option Char) :
    resume i solid (w ++ s) =
      (if i then [] else prefixed scopeName w solid s) ++ w ++ resume false w.getLast? s := by
  obtain ⟨c, w, rfl⟩ := List.exists_cons_of_ne_nil hne
  obtain ⟨hc, hw'⟩ := List.forall_mem_cons.1 hw
  obtain ⟨htake, hdrop⟩ := takeWhile_append_of_head hw' hs
  cases i with
  | false =>
    rw [List.cons_append, resume_false, qualifyFrom_word hc, htake, hdrop]
    rfl
  | true =>
    obtain ⟨htake, hdrop⟩ := takeWhile_append_of_head hw hs
    rw [resume, if_pos rfl, htake, hdrop, List.getLast?_eq_some_getLast hne]
    rfl

/-- The last character that is not blank, behind a lexeme. -/
def solidBehind (solid : Option Char) (l : Lexeme) : Option Char :=
  if l.isMargin then solid else l.text.getLast?

/-- What is put in front of a lexeme in a gap. -/
def putInFront (l : Lexeme) (solid : Option Char) (g : Text) : Text :=
  if l.isName then prefixed scopeName l.text solid g else []

theorem simple_facts {l : Lexeme} (h : l.isSimple = true) :
    (l.isString = false → ∀ c ∈ l.text, Text.isAscii c = true) ∧
      (l.token? = none → ∀ c ∈ l.text, Text.isBlank c = true) := by
  simp only [isSimple, Bool.and_eq_true, Bool.or_eq_true, List.all_eq_true] at h
  refine ⟨fun hs => h.1.2.resolve_left (by simp [hs]), fun hn => h.2.resolve_left (by simp [hn])⟩

theorem isPlain_of_isSimple {l : Lexeme} (h : l.isSimple = true) : l.isPlain = true := by
  simp only [isSimple, Bool.and_eq_true] at h
  exact h.1.1

theorem resume_lexeme {l : Lexeme} {r g : Text} (h : Shape r l) (hsimple : l.isSimple = true)
    (hstring : l.isString = false) (hg : g <+: r) {i : Bool} (hi : i = true → l.isName = false)
    (solid : Option Char) : resume i solid (l.text ++ g) =
      putInFront l solid g ++ l.text ++ resume l.isNumber (solidBehind solid l) g := by
  obtain ⟨hascii, hpass⟩ := simple_facts hsimple
  have hascii := hascii hstring
  cases h with
  | @blank c hc =>
    have : Text.isWord c = false ∧ Text.isBlank c = true := by
      rcases hc with rfl | rfl | rfl <;> decide
    exact resume_blank this.1 this.2 i solid g
  | newline => exact resume_blank (by decide) (by decide) i solid g
  | comment => exact absurd (hpass rfl '#' (by simp)) (by decide)
  | joined => exact absurd (hpass rfl '\\' (by simp)) (by decide)
  | line => cases hstring
  | block => cases hstring
  | @number a hstart hscan =>
    obtain ⟨-, hne, htrace, -⟩ := Number.scan?_spec hscan (head?_of_startsNumber hstart)
    have := resume_number (htrace i) hascii solid g
    rw [List.getLast?_eq_some_getLast hne] at this
    rw [this]
    simp [putInFront, solidBehind, Lexeme.isName, Token.isName, isMargin, isNumber,
      List.getLast?_eq_some_getLast hne]
  | @word c w t hc hd hw hr hq ht =>
    have hword : ∀ x ∈ c :: w, Text.isWord x = true := fun x hx => by
      rw [isWord_of_isAscii (hascii x hx)]
      exact hw x hx
    have hbehind : g.head?.all (fun x => !Text.isWord x) = true := by
      rcases g with _ | ⟨x, g⟩
      · rfl
      · obtain ⟨v, rfl⟩ := hg
        simpa using isWord_of_not_isWordPart (by simpa using hr)
    rw [resume_whole hword (by simp) hbehind]
    -- A name does not stand directly behind a number, and nothing is put in front of a keyword.
    rcases wordToken?_cases ht with ⟨k, rfl⟩ | rfl
    · have hnone : prefixed scopeName (c :: w) solid g = [] := by
        simp [prefixed, isFree, isKeyword_of_wordToken? ht]
      rw [hnone, ite_self]
      rfl
    · cases i with
      | false => rfl
      | true => cases hi rfl
  | @symbol w m hw hstart hr =>
    obtain ⟨x, p, rfl, -⟩ := symbol_facts hw
    exact resume_marks (fun c hc => by
      simpa using forall_mem_symbol (f := fun c => !Text.isWord c && !Text.isBlank c) (by decide)
        _ hw c hc) (by simp) i solid g

/-! ## Names of arguments -/

theorem namesArgument_blank {c : Char} (hb : Text.isBlank c = true) (s : Text) :
    namesArgument (c :: s) = namesArgument s := by
  rw [namesArgument, namesArgument, Text.trimStart, List.dropWhile_cons_of_pos hb]
  rfl

theorem namesArgument_of_ne {c : Char} (hb : Text.isBlank c = false) (hne : c ≠ '=') (s : Text) :
    namesArgument (c :: s) = false := by
  rw [namesArgument, Text.trimStart, List.dropWhile_cons_of_neg (by simp [hb])]
  simp [hne]

/-- A letter, a digit or a point is no blank and no equals sign. -/
theorem namesArgument_word {c : Char} (ha : Text.isAscii c = true)
    (hc : Number.isWordPart c = true ∨ c = '.') (s : Text) : namesArgument (c :: s) = false := by
  have hall : Text.isBlank c = false ∧ c ≠ '=' := forall_ascii (p := fun c =>
    (Number.isWordPart c = true ∨ c = '.') → Text.isBlank c = false ∧ c ≠ '=') (by decide) ha hc
  exact namesArgument_of_ne hall.1 hall.2 s

theorem namesArgument_symbol {w r g : Text} {m : Symbol} (hw : (w, m) ∈ symbols)
    (hr : symbol? (w ++ r) = some (m, r)) (hg : g <+: r) :
    namesArgument (w ++ g) = (m == .assign) := by
  have hall : ∀ e ∈ symbols, e = (['='], .assign) ∨ e = (['=', '='], .eq) ∨
      e.2 ≠ .assign ∧ e.1.head?.any (fun c => !Text.isBlank c && c != '=') = true := by decide
  rcases hall _ hw with h | h | ⟨hm, h⟩
  · cases h
    rcases g with _ | ⟨c, g⟩
    · rfl
    · obtain ⟨v, rfl⟩ := hg
      by_cases hc : c = '='
      · subst hc
        have heq : symbol? ('=' :: '=' :: (g ++ v)) = some (.eq, g ++ v) := rfl
        cases heq.symm.trans hr
      · have htrim : Text.trimStart (['='] ++ c :: g) = '=' :: c :: g := rfl
        rw [namesArgument, htrim]
        simp [hc]
  · cases h
    rfl
  · obtain ⟨c, w, rfl⟩ : ∃ c t, w = c :: t := by
      rcases w with _ | ⟨c, t⟩
      · cases h
      · exact ⟨c, t, rfl⟩
    simp only [List.head?_cons, Option.any_some, Bool.and_eq_true, Bool.not_eq_true',
      bne_iff_ne] at h
    rw [List.cons_append, namesArgument_of_ne h.1 h.2]
    exact (beq_false_of_ne hm).symm

/-- Behind a gap that begins with a single equals sign stands the token of it. -/
theorem namesArgument_parts {ls : List Lexeme} {u : Text} (hcut : Cut ls u)
    (hsimple : ∀ l ∈ ls, l.isSimple = true) :
    namesArgument (parts ls).1 = (nextToken? ls == some (.symbol .assign)) := by
  induction ls with
  | nil => rfl
  | cons l ls ih =>
    obtain ⟨hshape, hcut⟩ := hcut
    obtain ⟨hl, hsimple⟩ := List.forall_mem_cons.1 hsimple
    have ih := ih hcut hsimple
    obtain ⟨hascii, hpass⟩ := simple_facts hl
    cases hstring : l.isString with
    | true =>
      obtain ⟨tag, delimiter, body, ht⟩ := exists_of_isString hstring
      rw [parts, if_pos hstring, nextToken?_of_not (by simp [isMargin, ht]), ht]
      rfl
    | false =>
      rw [parts, if_neg (by simp [hstring])]
      have hascii := hascii hstring
      cases hshape with
      | @blank c hc =>
        have hb : Text.isBlank c = true := by rcases hc with rfl | rfl | rfl <;> decide
        rw [nextToken?_of_isMargin rfl, ← ih]
        exact namesArgument_blank hb _
      | newline =>
        rw [nextToken?_of_isMargin rfl, ← ih]
        exact namesArgument_blank (by decide) _
      | comment => exact absurd (hpass rfl '#' (by simp)) (by decide)
      | joined => exact absurd (hpass rfl '\\' (by simp)) (by decide)
      | line => cases hstring
      | block => cases hstring
      | @number a hstart hscan =>
        obtain ⟨-, hne, -⟩ := Number.scan?_spec hscan (head?_of_startsNumber hstart)
        obtain ⟨c, a, rfl⟩ := List.exists_cons_of_ne_nil hne
        have hc : c.isDigit = true ∨ c = '.' := by simpa using head?_of_startsNumber hstart
        rw [nextToken?_of_not rfl]
        exact namesArgument_word (hascii c (by simp)) (hc.imp_left Number.isWordPart_of_isDigit) _
      | @word c w t hc hd hw hr hq ht =>
        have hnext : nextToken? (⟨c :: w, some t⟩ :: ls) = some t := nextToken?_of_not (by
          rcases wordToken?_cases ht with ⟨k, rfl⟩ | rfl <;> rfl) ls
        rw [hnext]
        refine (namesArgument_word (hascii c (by simp)) (.inl (hw c (by simp))) _).trans ?_
        rcases wordToken?_cases ht with ⟨k, rfl⟩ | rfl <;> rfl
      | @symbol w m hw hstart hr =>
        rw [nextToken?_of_not rfl]
        refine (namesArgument_symbol hw hr
          ((parts_prefix_spelled ls).trans (List.prefix_append _ u))).trans ?_
        rw [Bool.eq_iff_iff]
        simp

/-! ## Lexeme by lexeme -/

/-- A lexeme ends in a point that asks for a member if it is one. -/
theorem getLast?_eq_point_iff {l : Lexeme} {r : Text} (h : Shape r l) (hstring : l.isString = false)
    {t : Token} (ht : l.token? = some t) (he : t.endsInPoint = false) :
    t = .symbol .dot ↔ l.text.getLast? = some '.' := by
  cases h with
  | blank => cases ht
  | newline =>
    cases ht
    decide
  | comment => cases ht
  | joined => cases ht
  | line => cases hstring
  | block => cases hstring
  | number =>
    cases ht
    simpa [Token.endsInPoint] using he
  | @word c w t' hc hd hw hr hq ht' =>
    cases ht
    have hlast : (c :: w).getLast? ≠ some '.' := fun hl =>
      absurd (hw '.' (List.mem_of_getLast? hl)) (by decide)
    rcases wordToken?_cases ht' with ⟨k, rfl⟩ | rfl <;> simpa using hlast
  | @symbol w m hw =>
    cases ht
    have hall : ∀ e ∈ symbols, e.2 = .ellipsis ∨
        (e.2 = .dot ↔ e.1.getLast? = some '.') := by decide
    have hm : m ≠ .ellipsis := by
      rintro rfl
      cases he
    simpa using (hall _ hw).resolve_left hm

theorem dottedBehind_of_not {l : Lexeme} (hm : l.isMargin = false) (d : Bool) {t : Token}
    (ht : l.token? = some t) : dottedBehind d l = (t == .symbol .dot) := by
  rw [dottedBehind, if_neg (by simp [hm]), ht]
  rfl

theorem pointsApart_tail {l : Lexeme} {ls : List Lexeme}
    (h : PointsApart (unbroken (tokens (l :: ls)))) : PointsApart (unbroken (tokens ls)) ∧
      ∀ t, l.token? = some t → l.isMargin = false → ∀ u ∈ nextToken? ls, u.isName = true →
        t.endsInPoint = false := by
  cases hm : l.isMargin with
  | true => exact ⟨unbroken_tokens_of_isMargin hm ls ▸ h, fun _ _ h => absurd h (by simp)⟩
  | false =>
    obtain ⟨t, ht, -, hcons⟩ := unbroken_tokens_of_not hm
    rw [hcons, PointsApart, List.isChain_cons] at h
    refine ⟨h.2, fun t' ht' _ => ?_⟩
    cases ht.symm.trans ht'
    exact h.1

/-- In front of a name, the last solid character tells whether a point stands there. -/
def Agree (d : Bool) (solid : Option Char) (ls : List Lexeme) : Prop :=
  ∀ t ∈ nextToken? ls, t.isName = true → (d = true ↔ solid = some '.')

theorem Agree.behind {d : Bool} {solid : Option Char} {l : Lexeme} {ls : List Lexeme} {r : Text}
    (h : Agree d solid (l :: ls)) (hshape : Shape r l) (hstring : l.isString = false)
    (hpoints : PointsApart (unbroken (tokens (l :: ls)))) :
    Agree (dottedBehind d l) (solidBehind solid l) ls := by
  intro u hu hname
  cases hm : l.isMargin with
  | true =>
    rw [dottedBehind, solidBehind, if_pos hm, if_pos hm]
    exact h u (nextToken?_of_isMargin hm ls ▸ hu) hname
  | false =>
    obtain ⟨t, ht, -⟩ := unbroken_tokens_of_not hm
    have he := (pointsApart_tail hpoints).2 t ht hm u hu hname
    rw [dottedBehind_of_not hm d ht, solidBehind, if_neg (by simp [hm]), beq_iff_eq]
    exact getLast?_eq_point_iff hshape hstring ht he

theorem exists_of_isName {l : Lexeme} (h : l.isName = true) :
    ∃ w, l.token? = some (.name w) ∧ l.isMargin = false := by
  unfold Lexeme.isName at h
  cases ht : l.token? with
  | none => simp [ht] at h
  | some t =>
    cases t with
    | name w => exact ⟨w, rfl, by simp [isMargin, ht]⟩
    | _ => simp [ht, Token.isName] at h

theorem name_facts {l : Lexeme} {r : Text} (h : Shape r l) (hsimple : l.isSimple = true)
    (hname : l.isName = true) :
    isKeyword l.text = false ∧ l.text.head?.any Text.isDecimal = false := by
  cases h with
  | @word c w t hc hd hw hr hq ht =>
    rcases wordToken?_cases ht with ⟨k, rfl⟩ | rfl
    · cases hname
    · have hascii := (simple_facts hsimple).1 rfl c (by simp)
      refine ⟨not_isKeyword_of_wordToken? ht, ?_⟩
      simp [isDecimal_of_isAscii hascii, hd]
  | _ => cases hname

/-- The free names get the scope in front. -/
theorem putInFront_eq {l : Lexeme} {ls : List Lexeme} {r g : Text} {d : Bool} {solid : Option Char}
    (h : Shape r l) (hsimple : l.isSimple = true)
    (hg : namesArgument g = (nextToken? ls == some (.symbol .assign)))
    (hd : Agree d solid (l :: ls)) : putInFront l solid g =
      spelled (if isFreeName d l ls then [scopeLexeme, dotLexeme] else []) := by
  rw [putInFront, isFreeName]
  cases hname : l.isName with
  | false => rfl
  | true =>
    obtain ⟨hk, hdec⟩ := name_facts h hsimple hname
    obtain ⟨w, ht, hm⟩ := exists_of_isName hname
    have hsolid : (solid != some '.') = !d := by
      have := hd (.name w) (by rw [nextToken?_of_not hm, ht]; rfl) rfl
      cases d <;> simp_all
    rw [if_pos rfl, prefixed, isFree, hk, hdec, hg, hsolid, bne]
    cases d <;> cases nextToken? ls == some (.symbol .assign) <;> rfl

theorem weave_append (a g : Text) (rest : List (Text × Text)) :
    weave (a ++ g) rest = a ++ weave g rest := List.append_assoc _ _ _

/-- In the text that the gaps and literals make, just the free names have got the scope. -/
theorem weave_parts {ls : List Lexeme} {u : Text} (hcut : Cut ls u)
    (hsimple : ∀ l ∈ ls, l.isSimple = true) (hnames : NamesApart ls)
    (hpoints : PointsApart (unbroken (tokens ls))) {d i : Bool} {solid : Option Char}
    (hd : Agree d solid ls) (hi : i = true → ∀ l ∈ ls.head?, l.isName = false) :
    weave (resume i solid (parts ls).1)
        ((parts ls).2.map fun p => (p.1, qualifyFrom scopeName (some mark) p.2)) =
      spelled (qualifyLexemes d ls) := by
  induction ls generalizing d i solid with
  | nil => simp [parts, qualifyLexemes]
  | cons l ls ih =>
    obtain ⟨hshape, hcut⟩ := hcut
    obtain ⟨hl, hsimple⟩ := List.forall_mem_cons.1 hsimple
    rw [NamesApart, List.isChain_cons] at hnames
    obtain ⟨htail, hpoint⟩ := pointsApart_tail hpoints
    cases hstring : l.isString with
    | true =>
      -- The text behind the literal is rewritten as if it stood behind the mark.
      obtain ⟨tag, delimiter, body, ht⟩ := exists_of_isString hstring
      have hbehind : Agree (dottedBehind d l) (some mark) ls := by
        intro t _ _
        rw [dottedBehind_of_not (by simp [isMargin, ht]) d ht]
        exact iff_of_false (by simp) (by decide)
      have hname : l.isName = false := by simp [Lexeme.isName, ht, Token.isName]
      rw [parts, if_pos hstring, qualifyLexemes, isFreeName, hname]
      have := ih hcut hsimple hnames.2 htail hbehind (i := false) (by simp)
      simp [← this, resume_false]
    | false =>
      have hg := (parts_prefix_spelled ls).trans (List.prefix_append _ u)
      have hstep := resume_lexeme hshape hl hstring hg (fun hi' => hi hi' l rfl) solid
      have hfront := putInFront_eq hshape hl (namesArgument_parts hcut hsimple) hd
      have hbehind := hd.behind hshape hstring hpoints
      have := ih hcut hsimple hnames.2 htail hbehind (i := l.isNumber)
        (fun hn m hm => by
          rw [← Bool.not_eq_true]
          intro hname
          rw [hnames.1 m hm hname] at hn
          cases hn)
      rw [parts, if_neg (by simp [hstring]), qualifyLexemes, spelled_append, spelled_cons, ← this,
        ← hfront]
      dsimp only
      rw [hstep, weave_append, List.append_assoc]

/-! ## Line ends in the gaps -/

theorem head?_unifyLines (s : Text) :
    (unifyLines s).head? = s.head?.map fun c => if c = '\r' then '\n' else c := by
  fun_cases unifyLines s with
  | case1 => rfl
  | case2 => rfl
  | case3 => rfl
  | case4 c s _ hc =>
    rw [List.head?_cons, List.head?_cons, Option.map_some, if_neg hc]

theorem word_unifyLines (s : Text) :
    (unifyLines s).takeWhile Text.isWord = s.takeWhile Text.isWord ∧
    (unifyLines s).dropWhile Text.isWord = unifyLines (s.dropWhile Text.isWord) := by
  have hr : Text.isWord '\r' = false := by decide
  have hn : Text.isWord '\n' = false := by decide
  fun_induction unifyLines s with
  | case1 => exact ⟨rfl, rfl⟩
  | case2 s => simp [hr, hn, unifyLines]
  | case3 s hs => simp [hr, hn, unifyLines.eq_3 s hs]
  | case4 c s _ hc ih =>
    cases hw : Text.isWord c with
    | false => simp [hw, unifyLines_cons hc]
    | true => simp [hw, ih.1, ih.2]

theorem trimStart_unifyLines (s : Text) :
    Text.trimStart (unifyLines s) = unifyLines (Text.trimStart s) := by
  have hr : Text.isBlank '\r' = true := by decide
  have hn : Text.isBlank '\n' = true := by decide
  unfold Text.trimStart
  fun_induction unifyLines s with
  | case1 => rfl
  | case2 s ih => simp [hr, hn, ih]
  | case3 s hs ih => simp [hr, hn, ih]
  | case4 c s _ hc ih =>
    cases hb : Text.isBlank c with
    | false => simp [hb, unifyLines_cons hc]
    | true => simp [hb, ih]

theorem namesArgument_eq (s : Text) : namesArgument s = ((Text.trimStart s).head? == some '=' &&
    (Text.trimStart s).tail.head? != some '=') := by
  unfold namesArgument
  rcases Text.trimStart s with _ | ⟨c, _ | ⟨d, t⟩⟩
  · rfl
  · by_cases hc : c = '='
    · subst hc
      rfl
    · simp [hc]
  · by_cases hc : c = '='
    · subst hc
      by_cases hd : d = '='
      · subst hd
        rfl
      · simp [hd]
    · simp [hc]

theorem namesArgument_unifyLines (s : Text) : namesArgument (unifyLines s) = namesArgument s := by
  rw [namesArgument_eq, namesArgument_eq, trimStart_unifyLines]
  rcases hs : Text.trimStart s with _ | ⟨c, t⟩
  · rfl
  have hc : c ≠ '\r' := by
    rintro rfl
    have := Text.head?_dropWhile Text.isBlank s
    rw [← Text.trimStart, hs] at this
    cases this _ rfl
  rw [unifyLines_cons hc, List.tail_cons, List.tail_cons, head?_unifyLines]
  cases t.head? with
  | none => rfl
  | some d =>
    by_cases hd : d = '\r'
    · subst hd
      rfl
    · simp [hd]

theorem resume_start {c : Char} (hw : Text.isWord c = true) (solid : Option Char) (s : Text) :
    resume false solid (c :: s) =
      prefixed scopeName (c :: s.takeWhile Text.isWord) solid (s.dropWhile Text.isWord) ++
        c :: resume true (some c) s := by
  rw [resume_false, qualifyFrom_word hw, resume, if_pos rfl, List.getLast?_cons]
  cases (s.takeWhile Text.isWord).getLast? <;> simp

theorem prefixed_eq_or (w : Text) (solid : Option Char) (s : Text) :
    prefixed scopeName w solid s = [] ∨ prefixed scopeName w solid s = scopeName ++ ['.'] := by
  unfold prefixed
  split_ifs <;> simp

theorem unifyLines_append_inline {a : Text} (h : IsInline a) (b : Text) :
    unifyLines (a ++ b) = a ++ unifyLines b := by
  rw [unifyLines_append fun hr => absurd rfl (h '\r' (List.mem_of_getLast? hr)).1,
    unifyLines_eq fun hr => (h '\r' hr).1 rfl]

/-- No line end is put in front. -/
theorem eq_newline_of_resume {solid : Option Char} {s t : Text}
    (h : resume false solid s = '\n' :: t) : ∃ t', s = '\n' :: t' := by
  have hn : Text.isWord '\n' = false ∧ Text.isBlank '\n' = true := by decide
  rcases s with _ | ⟨c, s⟩
  · simp at h
  cases hw : Text.isWord c with
  | false =>
    cases hb : Text.isBlank c with
    | true =>
      rw [resume_blank hw hb] at h
      exact ⟨s, by rw [(List.cons.inj h).1]⟩
    | false =>
      rw [resume_solid hw hb] at h
      exact ⟨s, by rw [(List.cons.inj h).1]⟩
  | true =>
    rw [resume_start hw] at h
    rcases prefixed_eq_or (c :: s.takeWhile Text.isWord) solid (s.dropWhile Text.isWord)
      with hp | hp
    · rw [hp] at h
      exact ⟨s, by rw [(List.cons.inj h).1]⟩
    · rw [hp] at h
      cases h

theorem unifyLines_resume (i : Bool) (solid : Option Char) (s : Text) :
    unifyLines (resume i solid s) = resume i solid (unifyLines s) := by
  have hr : Text.isWord '\r' = false ∧ Text.isBlank '\r' = true := by decide
  have hn : Text.isWord '\n' = false ∧ Text.isBlank '\n' = true := by decide
  fun_induction unifyLines s generalizing i solid with
  | case1 => simp [unifyLines]
  | case2 s ih =>
    rw [resume_blank hr.1 hr.2, resume_blank hn.1 hn.2, resume_blank hn.1 hn.2, ← ih]
    rfl
  | case3 s hs ih =>
    rw [resume_blank hr.1 hr.2, resume_blank hn.1 hn.2, ← ih]
    exact unifyLines.eq_3 _ fun t ht => hs _ (eq_newline_of_resume ht).choose_spec
  | case4 c s _ hc ih =>
    cases hw : Text.isWord c with
    | false =>
      cases hb : Text.isBlank c with
      | true => rw [resume_blank hw hb, resume_blank hw hb, unifyLines_cons hc, ih]
      | false => rw [resume_solid hw hb, resume_solid hw hb, unifyLines_cons hc, ih]
    | true =>
      cases i with
      | true => rw [resume_word hw (.inl rfl), resume_word hw (.inl rfl), unifyLines_cons hc, ih]
      | false =>
        have hinline : IsInline (prefixed scopeName (c :: s.takeWhile Text.isWord) solid
            (s.dropWhile Text.isWord)) := by
          rcases prefixed_eq_or (c :: s.takeWhile Text.isWord) solid
            (s.dropWhile Text.isWord) with h | h <;> rw [h] <;> decide
        rw [resume_start hw, resume_start hw, unifyLines_append_inline hinline, unifyLines_cons hc,
          ih, (word_unifyLines s).1, (word_unifyLines s).2, prefixed, prefixed, isFree, isFree,
          namesArgument_unifyLines]

/-- A text in front of which and behind which line ends may stand. -/
def HasEdges (l : Text) : Prop := l ≠ [] ∧ l.head? ≠ some '\n' ∧ l.getLast? ≠ some '\r'

theorem unifyLines_weave {g : Text} {rest : List (Text × Text)} (h : ∀ p ∈ rest, HasEdges p.1) :
    unifyLines (weave g rest) =
      weave (unifyLines g) (rest.map fun p => (unifyLines p.1, unifyLines p.2)) := by
  induction rest generalizing g with
  | nil => simp
  | cons p rest ih =>
    obtain ⟨⟨hne, hhead, hlast⟩, hrest⟩ := List.forall_mem_cons.1 h
    have hhead' : (p.1 ++ weave p.2 rest).head? ≠ some '\n' := by
      obtain ⟨c, t, ht⟩ := List.exists_cons_of_ne_nil hne
      rw [ht] at hhead ⊢
      exact hhead
    rw [weave_cons, List.map_cons, weave_cons, unifyLines_append fun _ => hhead',
      unifyLines_append fun hr => absurd hr hlast, ih hrest]

theorem Recognised.head?_of_mem {before : Option Char} {g : Text} {rest : List (Text × Text)}
    (h : Recognised before g rest) :
    ∀ p ∈ rest, p.1 ≠ [] ∧ ∀ c ∈ p.1.head?, Text.isBlank c = false := by
  induction rest generalizing before g with
  | nil => simp
  | cons p rest ih =>
    obtain ⟨-, -, hne, hl, htail⟩ := h
    refine List.forall_mem_cons.2 ⟨⟨hne, fun c hc => ?_⟩, ih htail⟩
    obtain ⟨t, ht⟩ := List.head?_eq_some_iff.1 hc
    rw [ht] at hl
    exact not_isBlank_of_literal? hl

theorem IsWoven.hasEdges {before : Option Char} {ls : List Lexeme} {s x g u : Text}
    {rest : List (Text × Text)} (hcut : Cut ls u) (h : IsWoven before ls s x g rest) :
    ∀ p ∈ rest, HasEdges p.1 := by
  intro p hp
  obtain ⟨hne, hhead⟩ := h.recognised.head?_of_mem p hp
  refine ⟨hne, fun hn => absurd (hhead _ hn) (by decide), fun hr => ?_⟩
  have hmem : unifyLines p.1 ∈ Scoping.literals ls := h.literals ▸ List.mem_map_of_mem hp
  obtain ⟨l, hl, htext⟩ := List.mem_map.1 hmem
  obtain ⟨hl, hstring⟩ := List.mem_filter.1 hl
  obtain ⟨r, hshape⟩ := exists_shape_of_mem hcut hl
  obtain ⟨q, hq, hlast⟩ := getLast?_of_isString hshape hstring
  rw [htext, getLast?_unifyLines, hr] at hlast
  cases hlast
  cases hq

/-- The lines of the text in which the gaps have got the scope. -/
theorem IsWoven.unifyLines_qualify {ls : List Lexeme} {u s g : Text} {rest : List (Text × Text)}
    (h : IsWoven none ls s [] g rest) (hcut : Cut ls u) (hsimple : ∀ l ∈ ls, l.isSimple = true)
    (hnames : NamesApart ls) (hpoints : PointsApart (unbroken (tokens ls))) :
    unifyLines (weave (qualify scopeName g)
        (rest.map fun p => (p.1, qualifyFrom scopeName (some mark) p.2))) =
      spelled (qualifyLexemes false ls) := by
  have hd : Agree false none ls := fun _ _ _ => by simp
  have hedges : ∀ p ∈ rest.map fun p => (p.1, qualifyFrom scopeName (some mark) p.2),
      HasEdges p.1 := List.forall_mem_map.2 fun p hp => h.hasEdges hcut p hp
  rw [← weave_parts (i := false) hcut hsimple hnames hpoints hd (by simp), ← h.parts rfl,
    unifyLines_weave hedges, qualify, ← resume_false, unifyLines_resume]
  simp [Function.comp_def, ← resume_false, unifyLines_resume]

end Scoping

end Stencil
