import Stencil.Proofs.Template.Qualification

/-! # The code with the scope is read again

A scope that is put in front of a name in an expression comes behind no word and no point, so what
stands around it is read as before. The tokens of the code are the tokens of the expression with the
scope in front of the free names. -/
namespace Stencil

namespace Scoping

open Lexer Lexer.Lexeme

/-! ## What stands in front of a name -/

/-- Neither a word nor a point. -/
def isApart (c : Char) : Bool := !Number.isWordPart c && c != '.'

/-- A name stands behind a point that asks for a member, or apart from a word and a point. -/
def NameFollows (l m : Lexeme) : Prop :=
  m.isName = true → l.token? = some (.symbol .dot) ∨ l.text.getLast?.all isApart = true

theorem head_of_isName {l : Lexeme} {r : Text} (h : Shape r l) (hname : l.isName = true) :
    ∃ c w, l.text = c :: w ∧ isWordHead c = true ∧ c.isDigit = false := by
  cases h with
  | @word c w t hc hd => exact ⟨c, w, rfl, hc, hd⟩
  | _ => cases hname

theorem nameFollows {l m : Lexeme} {r u : Text} (hl : Shape (m.text ++ r) l) (hm : Shape u m)
    (hsimple : l.isSimple = true) (hnumber : m.isName = true → l.isNumber = false)
    (hpoint : ∀ t, l.token? = some t → l.isMargin = false → m.isName = true →
      t.endsInPoint = false) : NameFollows l m := by
  intro hname
  obtain ⟨hascii, hpass⟩ := simple_facts hsimple
  cases hstring : l.isString with
  | true =>
    obtain ⟨q, hq, hlast⟩ := getLast?_of_isString hl hstring
    rw [hlast]
    rcases isQuote_iff.1 hq with rfl | rfl <;> exact .inr (by decide)
  | false =>
  cases hl with
  | @blank c hc =>
    right
    rcases hc with rfl | rfl | rfl <;> decide
  | newline => exact .inr (by decide)
  | comment => exact absurd (hpass rfl '#' (by simp)) (by decide)
  | joined => exact absurd (hpass rfl '\\' (by simp)) (by decide)
  | line => cases hstring
  | block => cases hstring
  | number => exact absurd (hnumber hname) (by simp [isNumber])
  | @word c w t hc hd hw hr =>
    obtain ⟨x, v, hx, hhead, -⟩ := head_of_isName hm hname
    rw [hx] at hr
    simp [isWordPart_of_isWordHead hhead] at hr
  | @symbol w s hw =>
    have hall : ∀ e ∈ symbols, e.2 = .dot ∨ e.2 = .ellipsis ∨
        e.1.getLast?.all isApart = true := by decide
    rcases hall _ hw with h | h | h
    · cases h
      exact .inl rfl
    · cases h
      cases hpoint _ rfl rfl hname
    · exact .inr h

theorem isChain_nameFollows {ls : List Lexeme} {u : Text} (hcut : Cut ls u)
    (hsimple : ∀ l ∈ ls, l.isSimple = true) (hnames : NamesApart ls)
    (hpoints : PointsApart (unbroken (tokens ls))) : ls.IsChain NameFollows := by
  induction ls with
  | nil => exact .nil
  | cons l ls ih =>
    obtain ⟨hshape, hcut⟩ := hcut
    obtain ⟨hl, hsimple⟩ := List.forall_mem_cons.1 hsimple
    rw [NamesApart, List.isChain_cons] at hnames
    obtain ⟨htail, hpoint⟩ := pointsApart_tail hpoints
    refine List.isChain_cons.2 ⟨fun m hm => ?_, ih hcut hsimple hnames.2 htail⟩
    obtain ⟨ms, rfl⟩ := List.head?_eq_some_iff.1 hm
    rw [spelled_cons, List.append_assoc] at hshape
    refine nameFollows hshape hcut.1 hl (hnames.1 m hm) fun t ht hmargin hname => ?_
    obtain ⟨w, hw, hmm⟩ := exists_of_isName hname
    exact hpoint t ht hmargin _ (by rw [nextToken?_of_not hmm, hw]; rfl) rfl

/-! ## The lexemes in front of the code -/

theorem alike_append {before : Option Char} {a r r' : Text} (ha : a ≠ [])
    (h : Alike a.getLast? r r') : Alike before (a ++ r) (a ++ r') := by
  rcases h with rfl | ⟨q, x, v, y, w, rfl, rfl, ht⟩
  · exact .inl rfl
  · refine .inr ⟨a ++ q, x, v, y, w, by simp, by simp, ?_⟩
    have hlast : (a ++ q).getLast?.or before = q.getLast?.or a.getLast? := by
      rw [List.getLast?_append, Option.or_assoc, List.getLast?_eq_some_getLast ha]
      rfl
    rwa [hlast]

/-- In place of a name, apart from a word and a point, the scope may stand. -/
theorem turn_of_isName {before : Option Char} {l : Lexeme} {r : Text} (h : Shape r l)
    (hsimple : l.isSimple = true) (hname : l.isName = true)
    (hbefore : before.all isApart = true) :
    ∃ c w, l.text = c :: w ∧ Turn before c 's' := by
  obtain ⟨c, w, hl, hc, hd⟩ := head_of_isName h hname
  refine ⟨c, w, hl, ?_, by decide, fun _ => hbefore⟩
  have hstring : l.isString = false := by
    obtain ⟨v, hv, -⟩ := exists_of_isName hname
    simp [isString, hv]
  have hascii := (simple_facts hsimple).1 hstring c (by simp [hl])
  exact forall_ascii (p := fun c => isWordHead c = true → c.isDigit = false → isInert c = true)
    (by decide) hascii hc hd

theorem isDotted_or {d : Bool} {l m : Lexeme} (h : NameFollows l m) (hname : m.isName = true)
    (hd : dottedBehind d l = false) : l.text.getLast?.all isApart = true := by
  refine (h hname).resolve_left fun hdot => ?_
  rw [dottedBehind_of_not (by simp [isMargin, hdot]) d hdot] at hd
  cases hd

theorem alike_qualifyLexemes {ls : List Lexeme} {u u' : Text} (hcut : Cut ls u)
    (hsimple : ∀ l ∈ ls, l.isSimple = true) (hchain : ls.IsChain NameFollows)
    (hu : ∀ before, Alike before u u') {d : Bool} {before : Option Char}
    (hbefore : d = false → ∀ m ∈ ls.head?, m.isName = true → before.all isApart = true) :
    Alike before (spelled ls ++ u) (spelled (qualifyLexemes d ls) ++ u') := by
  induction ls generalizing d before with
  | nil => exact hu before
  | cons l ls ih =>
    obtain ⟨hshape, hcut⟩ := hcut
    obtain ⟨hl, hsimple⟩ := List.forall_mem_cons.1 hsimple
    obtain ⟨hfollows, hchain⟩ := List.isChain_cons.1 hchain
    rw [qualifyLexemes]
    -- The first free name is where the texts part; up to there they are the same.
    split_ifs with hfree
    · simp only [isFreeName, Bool.and_eq_true, Bool.not_eq_true'] at hfree
      obtain ⟨c, w, hw, hturn⟩ :=
        turn_of_isName hshape hl hfree.1.1 (hbefore hfree.1.2 l rfl hfree.1.1)
      refine .inr ⟨[], c, w ++ (spelled ls ++ u), 's', "cope.".toList ++
        (spelled (l :: qualifyLexemes (dottedBehind d l) ls) ++ u'), by simp [hw], ?_, hturn⟩
      simp [scopeLexeme, dotLexeme, scopeName]
    · rw [List.nil_append, spelled_cons, spelled_cons, List.append_assoc, List.append_assoc]
      exact alike_append hshape.heads.1 (ih hcut hsimple hchain fun hd m hm hname =>
        isDotted_or (hfollows m hm) hname hd)

theorem shape_scope (r : Text) : Shape ('.' :: r) scopeLexeme := by
  have hall : (scopeName.all Number.isWordPart) = true := by decide
  exact .word (by decide) (by decide) (List.all_eq_true.1 hall) rfl rfl (by decide)

theorem shape_dot {c : Char} (hc : isWordHead c = true) (hd : c.isDigit = false) (r : Text) :
    Shape (c :: r) dotLexeme := by
  have hmem : ∀ w ∈ symbols, c ∉ w.1.tail := by
    intro w hw hcw
    simpa [hc] using forall_mem_symbol_tail (f := fun x => !isWordHead x) (by decide) w hw c hcw
  refine .symbol (by decide) (by simp [startsNumber, hd]) ?_
  exact (symbol?_append_of_not_mem hmem [] r).trans rfl

theorem cut_qualifyLexemes {ls : List Lexeme} {u u' : Text} (hcut : Cut ls u)
    (hsimple : ∀ l ∈ ls, l.isSimple = true) (hchain : ls.IsChain NameFollows)
    (hu : ∀ before, Alike before u u') (d : Bool) : Cut (qualifyLexemes d ls) u' := by
  induction ls generalizing d with
  | nil => trivial
  | cons l ls ih =>
    obtain ⟨hshape, hcut⟩ := hcut
    obtain ⟨hl, hsimple⟩ := List.forall_mem_cons.1 hsimple
    obtain ⟨hfollows, hchain⟩ := List.isChain_cons.1 hchain
    have halike := alike_qualifyLexemes hcut hsimple hchain hu
      (fun hd m hm hname => isDotted_or (d := d) (hfollows m hm) hname hd)
    -- What is put in behind the lexeme does not change how it is read.
    have hshape' := hshape.alike (fun hn hsharp => by
      have := (simple_facts hl).2 hn '#' (List.mem_of_head? hsharp)
      cases this) halike
    have htail : Cut (l :: qualifyLexemes (dottedBehind d l) ls) u' :=
      ⟨hshape', ih hcut hsimple hchain _⟩
    rw [qualifyLexemes]
    split_ifs with hfree
    · simp only [isFreeName, Bool.and_eq_true] at hfree
      obtain ⟨c, w, hw, hc, hd⟩ := head_of_isName hshape hfree.1.1
      refine ⟨shape_scope _, ?_, htail⟩
      change Shape (spelled (l :: qualifyLexemes (dottedBehind d l) ls) ++ u') dotLexeme
      rw [spelled_cons, hw]
      exact shape_dot hc hd _
    · exact htail

end Scoping

/-! ## Line ends and brackets -/

namespace Lexer

/-- The brackets awaited behind a token; nothing if it may not stand here. -/
def awaitedBehind? (awaited : List Symbol) : Token → Option (List Symbol)
  | .newline => if awaited.isEmpty then none else some awaited
  | .symbol m =>
    match closing? m with
    | some c => if awaited.length < maxDepth then some (c :: awaited) else none
    | none =>
      if isClosing m then
        match awaited with
        | c :: rest => if c = m then some rest else none
        | [] => none
      else some awaited
  | _ => some awaited

/-- Whether the brackets match is found token by token. -/
theorem isSome_joinLines?_cons (awaited : List Symbol) (t : Token) (ts : List Token) :
    (joinLines? awaited (t :: ts)).isSome =
      (awaitedBehind? awaited t).any fun a => (joinLines? a ts).isSome := by
  cases t with
  | newline =>
    rw [joinLines?, awaitedBehind?]
    split_ifs <;> rfl
  | symbol m =>
    simp only [joinLines?, awaitedBehind?]
    cases closing? m with
    | some c =>
      dsimp only
      split_ifs <;> simp
    | none =>
      dsimp only
      split_ifs with hm
      · cases awaited with
        | nil => rfl
        | cons c rest =>
          dsimp only
          split_ifs <;> simp
      · simp
  | _ => simp [joinLines?, awaitedBehind?]

/-- Line ends are left out, and tokens that are no brackets are put in. -/
inductive Edited : List Token → List Token → Prop
  | nil : Edited [] []
  | keep (t : Token) {ts us} (tail : Edited ts us) : Edited (t :: ts) (t :: us)
  | drop {ts us} (tail : Edited ts us) : Edited (.newline :: ts) us
  | put {t : Token} (ht : t.isBracket = false) (hn : t ≠ .newline) {ts us} (tail : Edited ts us) :
      Edited ts (t :: us)

namespace Edited

variable {ts us vs ws : List Token}

theorem refl (ts : List Token) : Edited ts ts := by
  induction ts with
  | nil => exact .nil
  | cons t ts ih => exact .keep t ih

theorem append (h : Edited ts us) (h' : Edited vs ws) : Edited (ts ++ vs) (us ++ ws) := by
  induction h with
  | nil => exact h'
  | keep t _ ih => exact .keep t ih
  | drop _ ih => exact .drop ih
  | put ht hn _ ih => exact .put ht hn ih

theorem of_newlines (h : ∀ t ∈ ts, t = .newline) : Edited ts [] := by
  induction ts with
  | nil => exact .nil
  | cons t ts ih =>
    rw [h t (by simp)]
    exact .drop (ih fun u hu => h u (by simp [hu]))

/-- The brackets match as before. -/
theorem isSome_joinLines? (h : Edited ts us) (awaited : List Symbol)
    (hs : (joinLines? awaited ts).isSome = true) : (joinLines? awaited us).isSome = true := by
  induction h generalizing awaited with
  | nil => exact hs
  | keep t _ ih =>
    rw [isSome_joinLines?_cons, Option.any_eq_true] at hs ⊢
    obtain ⟨a, ha, hs⟩ := hs
    exact ⟨a, ha, ih a hs⟩
  | drop _ ih =>
    rw [joinLines?] at hs
    split_ifs at hs with h
    · cases hs
    · exact ih awaited hs
  | @put t ht hn ts us _ ih =>
    have hkeep : awaitedBehind? awaited t = some awaited := by
      cases t with
      | newline => exact absurd rfl hn
      | symbol m =>
        simp only [Token.isBracket, Bool.or_eq_false_iff, Option.isSome_eq_false_iff,
          Option.isNone_iff_eq_none] at ht
        simp [awaitedBehind?, ht.1, ht.2]
      | _ => rfl
    rw [isSome_joinLines?_cons, hkeep]
    exact ih awaited hs

end Edited

end Lexer

namespace Scoping

open Lexer Lexer.Lexeme

theorem edited_qualifyLexemes (d : Bool) (ls : List Lexeme) :
    Edited (tokens ls) (tokens (qualifyLexemes d ls)) := by
  induction ls generalizing d with
  | nil => exact .nil
  | cons l ls ih =>
    have htail :
        Edited (tokens (l :: ls)) (tokens (l :: qualifyLexemes (dottedBehind d l) ls)) := by
      rw [tokens_cons, tokens_cons]
      exact (Edited.refl _).append (ih _)
    rw [qualifyLexemes]
    split_ifs
    · exact .put rfl (by simp) (.put rfl (by simp) htail)
    · exact htail

/-! ## What stands in the brackets -/

def openLexeme : Lexeme := ⟨['['], some (.symbol .squareOpen)⟩

def closeLexeme : Lexeme := ⟨[']'], some (.symbol .squareClose)⟩

theorem shape_open (r : Text) : Shape r openLexeme := .symbol (by decide) rfl rfl

theorem shape_close (r : Text) : Shape r closeLexeme := .symbol (by decide) rfl rfl

theorem head_of_tagged {tag : Text} {q : Char} (htag : Quotation.isTag tag = true)
    (hq : isQuote q = true) (s : Text) : ∀ c ∈ (tag ++ q :: s).head?, Text.isBlank c = false := by
  have hletters := (mem_tagLetters_of_isTag htag).1
  rcases tag with _ | ⟨x, tag⟩
  · rintro c ⟨⟩
    exact not_isBlank_of_isQuote hq
  · rintro c ⟨⟩
    exact not_isBlank_of_mem_tagLetters (hletters x (by simp))

/-- A lexeme that is no margin neither begins nor ends with a blank. -/
theorem ends_of_shape {l : Lexeme} {r : Text} (h : Shape r l) (hsimple : l.isSimple = true)
    (hm : l.isMargin = false) : (∀ c ∈ l.text.head?, Text.isBlank c = false) ∧
      ∀ c ∈ l.text.getLast?, Text.isBlank c = false := by
  have hword : ∀ {c}, Text.isAscii c = true → Number.isWordPart c = true ∨ c = '.' →
      Text.isBlank c = false := fun ha => forall_ascii (p := fun c =>
    Number.isWordPart c = true ∨ c = '.' → Text.isBlank c = false) (by decide) ha
  cases hstring : l.isString with
  | true =>
    refine ⟨?_, fun c hc => ?_⟩
    · cases h with
      | line htag hq => exact head_of_tagged htag hq _
      | block htag hq => exact head_of_tagged htag hq _
      | word hc hd hw hr hq ht => rcases wordToken?_cases ht with ⟨k, rfl⟩ | rfl <;> cases hstring
      | _ => cases hstring
    · obtain ⟨q, hq, hlast⟩ := getLast?_of_isString h hstring
      cases hlast.symm.trans hc
      exact not_isBlank_of_isQuote hq
  | false =>
    have hascii := (simple_facts hsimple).1 hstring
    cases h with
    | @number a hstart hscan =>
      obtain ⟨-, hne, htrace, -⟩ := Number.scan?_spec hscan (head?_of_startsNumber hstart)
      refine ⟨fun c hc => hword (hascii c (List.mem_of_head? hc)) ?_,
        fun c hc => hword (hascii c (List.mem_of_getLast? hc)) ?_⟩
      · obtain ⟨a, rfl⟩ := List.head?_eq_some_iff.1 hc
        have : c.isDigit = true ∨ c = '.' := by simpa using head?_of_startsNumber hstart
        exact this.imp_left Number.isWordPart_of_isDigit
      · obtain ⟨d, hd, hor⟩ := Number.getLast?_of_trace (htrace true) hne
        cases hd.symm.trans hc
        exact hor
    | word hc hd hw =>
      have hb : ∀ c ∈ _, Text.isBlank c = false := fun c hc => hword (hascii c hc) (.inl (hw c hc))
      exact ⟨fun c hc => hb c (List.mem_of_head? hc), fun c hc => hb c (List.mem_of_getLast? hc)⟩
    | @symbol w m hw =>
      have hb : ∀ c ∈ w, Text.isBlank c = false := fun c hc => by
        simpa using forall_mem_symbol (f := fun c => !Text.isBlank c) (by decide) _ hw c hc
      exact ⟨fun c hc => hb c (List.mem_of_head? hc), fun c hc => hb c (List.mem_of_getLast? hc)⟩
    | line => cases hstring
    | block => cases hstring
    | _ => cases hm

theorem blank_of_isMargin {l : Lexeme} {r : Text} (h : Shape r l) (hsimple : l.isSimple = true)
    (hm : l.isMargin = true) : ∀ c ∈ l.text, Text.isBlank c = true := by
  have hpass := (simple_facts hsimple).2
  cases h with
  | newline => simp [Text.isBlank]
  | word hc hd hw hr hq ht => rcases wordToken?_cases ht with ⟨k, rfl⟩ | rfl <;> cases hm
  | blank => exact hpass rfl
  | comment => exact hpass rfl
  | joined => exact hpass rfl
  | _ => cases hm

/-- Only the closing bracket ends in one. -/
theorem eq_closeLexeme {l : Lexeme} {r : Text} (h : Shape r l) (hsimple : l.isSimple = true)
    (hlast : l.text.getLast? = some ']') : l = closeLexeme := by
  have hmem := List.mem_of_getLast? hlast
  cases hm : l.isMargin with
  | true => cases blank_of_isMargin h hsimple hm ']' hmem
  | false =>
    cases hstring : l.isString with
    | true =>
      obtain ⟨q, hq, hlast'⟩ := getLast?_of_isString h hstring
      cases hlast'.symm.trans hlast
      cases hq
    | false =>
      cases h with
      | number hstart hscan =>
        obtain ⟨-, -, htrace, -⟩ := Number.scan?_spec hscan (head?_of_startsNumber hstart)
        exact absurd (Number.mem_of_trace (htrace true) ']' hmem) (by decide)
      | word hc hd hw => exact absurd (hw ']' hmem) (by decide)
      | @symbol w m hw =>
        have hall : ∀ e ∈ symbols, e.1.getLast? = some ']' → e = ([']'], .squareClose) := by decide
        cases hall _ hw hlast
        rfl
      | line => cases hstring
      | block => cases hstring
      | _ => cases hm

/-- The lexemes of a text in brackets are the brackets and what is between them. -/
theorem exists_bracketed {s : Text} {ls : List Lexeme}
    (h : lexemes? (unifyLines ('[' :: s ++ [']'])) = some ls)
    (hsimple : ∀ l ∈ ls, l.isSimple = true) :
    ∃ ms, ls = openLexeme :: (ms ++ [closeLexeme]) ∧ unifyLines s = spelled ms ∧ Cut ms [']'] := by
  obtain ⟨hs, hcut⟩ := lexemes?_eq_some_iff.1 h
  rw [unifyLines_inBrackets (by decide) rfl] at hs
  rcases ls with _ | ⟨l, ls⟩
  · cases hs
  obtain ⟨rfl, hrest⟩ := hcut.1.heads.unique (shape_open (unifyLines s ++ [']'])).heads
    (by rw [List.append_nil]; exact hs.symm)
  rw [List.append_nil] at hrest
  obtain rfl | ⟨ms, m, rfl⟩ := List.eq_nil_or_concat ls
  · simp at hrest
  rw [List.concat_eq_append] at hrest hsimple ⊢
  rw [List.concat_eq_append, cut_cons, cut_append] at hcut
  obtain ⟨-, hms, hm⟩ := hcut
  obtain rfl : m = closeLexeme := by
    refine eq_closeLexeme hm.1 (hsimple m (by simp)) ?_
    have hlast := congrArg List.getLast? hrest
    rw [spelled_append, spelled_cons, spelled_nil, List.append_nil, List.getLast?_append,
      List.getLast?_append, List.getLast?_eq_some_getLast hm.1.heads.1] at hlast
    rw [List.getLast?_eq_some_getLast hm.1.heads.1]
    exact hlast
  refine ⟨ms, rfl, ?_, by simpa [closeLexeme] using hms⟩
  rw [spelled_append] at hrest
  exact (List.append_cancel_right hrest).symm

theorem head?_spelled {ls : List Lexeme} {u : Text} (h : Cut ls u) :
    (spelled ls).head? = ls.head?.bind fun l => l.text.head? := by
  rcases ls with _ | ⟨l, ls⟩
  · rfl
  · obtain ⟨c, t, ht⟩ := List.exists_cons_of_ne_nil h.1.heads.1
    simp [ht]

theorem getLast?_spelled {ls : List Lexeme} {u : Text} (h : Cut ls u) :
    (spelled ls).getLast? = ls.getLast?.bind fun l => l.text.getLast? := by
  obtain rfl | ⟨ls, l, rfl⟩ := List.eq_nil_or_concat ls
  · rfl
  · rw [List.concat_eq_append] at h ⊢
    have hne := (cut_append.1 h).2.1.heads.1
    rw [spelled_append, spelled_cons, spelled_nil, List.append_nil, List.getLast?_append,
      List.getLast?_eq_some_getLast hne]
    simp [List.getLast?_eq_some_getLast hne]

theorem not_isBlank_of_unified {a : Char}
    (h : Text.isBlank (if a = '\r' then '\n' else a) = false) : Text.isBlank a = false := by
  split_ifs at h
  · cases h
  · exact h

/-- Without its blank margins, a text loses the lexemes at its ends that are margins. -/
theorem exists_core {s u : Text} {ms : List Lexeme} (hs : unifyLines s = spelled ms)
    (hcut : Cut ms u) (hsimple : ∀ l ∈ ms, l.isSimple = true) :
    ∃ lead core trail, ms = lead ++ core ++ trail ∧ (∀ l ∈ lead, l.isMargin = true) ∧
      (∀ l ∈ trail, l.isMargin = true) ∧ unifyLines (Text.strip s) = spelled core := by
  obtain ⟨lead, core, trail, rfl, hlead, htrail, hfirst, hlast, -⟩ :=
    Text.exists_margins Lexeme.isMargin ms
  refine ⟨lead, core, trail, rfl, hlead, htrail, ?_⟩
  have hshape : ∀ l ∈ lead ++ core ++ trail, ∃ r, Shape r l := fun l hl =>
    exists_shape_of_mem hcut hl
  have hblank : ∀ {ls : List Lexeme} {t : Text}, (∀ l ∈ ls, l ∈ lead ++ core ++ trail) →
      (∀ l ∈ ls, l.isMargin = true) → unifyLines t = spelled ls →
      ∀ c ∈ t, Text.isBlank c = true := by
    intro ls t hmem hm ht c hc
    by_cases hr : c = '\r'
    · rw [hr]
      rfl
    · obtain ⟨l, hl, hcl⟩ := List.mem_flatMap.1 (ht ▸ mem_unifyLines hr hc : c ∈ spelled ls)
      obtain ⟨r, hr⟩ := hshape l (hmem l hl)
      exact blank_of_isMargin hr (hsimple l (hmem l hl)) (hm l hl) c hcl
  rw [spelled_append, spelled_append, List.append_assoc] at hs
  -- The text itself is cut where its lexemes are: `y` and `x` are its margins, `c` its core.
  obtain ⟨y, s, rfl, hy, hs, -⟩ := unifyLines_eq_append hs
  obtain ⟨c, x, rfl, hc, hx, -⟩ := unifyLines_eq_append hs
  have hcore : Cut core (spelled trail ++ u) := (cut_append.1 (cut_append.1 hcut).1).2
  have hends : ∀ l ∈ core, l.isMargin = false →
      (∀ a ∈ l.text.head?, Text.isBlank a = false) ∧
        ∀ a ∈ l.text.getLast?, Text.isBlank a = false := by
    intro l hl hm
    have hmem : l ∈ lead ++ core ++ trail := by simp [hl]
    obtain ⟨r, hr⟩ := hshape l hmem
    exact ends_of_shape hr (hsimple l hmem) hm
  have hfirst' : ∀ a ∈ c.head?, Text.isBlank a = false := by
    intro a ha
    have hb := head?_unifyLines c
    rw [ha, Option.map_some, hc, head?_spelled hcore] at hb
    obtain ⟨l, hl, hb⟩ := Option.bind_eq_some_iff.1 hb
    exact not_isBlank_of_unified ((hends l (List.mem_of_head? hl) (hfirst l hl)).1 _ hb)
  have hlast' : ∀ a ∈ c.getLast?, Text.isBlank a = false := by
    intro a ha
    have hb := getLast?_unifyLines c
    rw [ha, Option.map_some, hc, getLast?_spelled hcore] at hb
    obtain ⟨l, hl, hb⟩ := Option.bind_eq_some_iff.1 hb
    exact not_isBlank_of_unified ((hends l (List.mem_of_getLast? hl) (hlast l hl)).2 _ hb)
  have hstrip := Text.strip_eq (hblank (by simp +contextual) hlead hy)
    (hblank (by simp +contextual) htrail hx) hfirst' hlast'
  rw [List.append_assoc] at hstrip
  rw [hstrip, hc]

/-! ## The tokens of the code -/

theorem not_mem_weave {g : Text} {rest : List (Text × Text)} (hg : mark ∉ g)
    (hrest : ∀ p ∈ rest, mark ∉ p.1 ∧ mark ∉ p.2) : mark ∉ weave g rest := by
  intro hm
  rcases List.mem_append.1 hm with hm | hm
  · exact hg hm
  · obtain ⟨p, hp, hm⟩ := List.mem_flatMap.1 hm
    exact (List.mem_append.1 hm).elim (hrest p hp).1 (hrest p hp).2

/-- The tokens of a text in brackets. -/
def inSquareBrackets (ts : List Token) : List Token :=
  .symbol .squareOpen :: (ts ++ [.symbol .squareClose])

theorem tokens?_bracketed_iff {s : Text} {ls : List Lexeme} (hs : unifyLines s = spelled ls)
    (hcut : Cut ls [']']) {ts : List Token} : tokens? ('[' :: s ++ [']']) = some ts ↔
      mark ∉ s ∧ (joinLines? [] (inSquareBrackets (tokens ls))).isSome = true ∧
        ts = inSquareBrackets (unbroken (tokens ls)) := by
  have hall : Cut (openLexeme :: (ls ++ [closeLexeme])) [] := by
    refine ⟨shape_open _, cut_append.2 ⟨?_, shape_close _, trivial⟩⟩
    simpa [closeLexeme] using hcut
  have hscan : scan? (unifyLines ('[' :: s ++ [']'])) = some (inSquareBrackets (tokens ls)) := by
    have hreads := hall.reads
    rw [List.append_nil, tokens_cons, tokens_append] at hreads
    rw [unifyLines_inBrackets (by decide) rfl, hs]
    have htext : spelled (openLexeme :: (ls ++ [closeLexeme])) = '[' :: (spelled ls ++ [']']) := by
      simp [openLexeme, closeLexeme]
    rw [← htext]
    exact hreads.scan?_eq
  have hfilter : unbroken (inSquareBrackets (tokens ls)) =
      inSquareBrackets (unbroken (tokens ls)) := by
    simp [unbroken, inSquareBrackets]
  have hmem : ('[' :: s ++ [']']).contains (Char.ofNat 0) = true ↔ mark ∈ s := by
    simp [mark]
  rw [tokens?, hscan, Option.bind_some]
  by_cases hm : mark ∈ s
  · rw [if_pos (hmem.2 hm)]
    exact iff_of_false (by simp) fun h => h.1 hm
  · rw [if_neg fun h => hm (hmem.1 h)]
    constructor
    · intro h
      exact ⟨hm, by rw [h]; rfl, (eq_filter_of_joinLines? h).trans hfilter⟩
    · rintro ⟨-, h, rfl⟩
      obtain ⟨us, hus⟩ := Option.isSome_iff_exists.1 h
      rw [hus, ← hfilter]
      exact congrArg some (eq_filter_of_joinLines? hus)

theorem newline_of_margins {ls : List Lexeme} (h : ∀ l ∈ ls, l.isMargin = true) :
    ∀ t ∈ tokens ls, t = .newline := by
  intro t ht
  obtain ⟨l, hl, hlt⟩ := List.mem_filterMap.1 ht
  by_contra hne
  have := h l hl
  rw [isMargin, hlt] at this
  cases t <;> first | exact hne rfl | cases this

theorem unbroken_of_margins {ls : List Lexeme} (h : ∀ l ∈ ls, l.isMargin = true) :
    unbroken (tokens ls) = [] :=
  List.filter_eq_nil_iff.2 fun t ht => by simp [newline_of_margins h t ht]

/-- The closing bracket may stand where blanks stand in front of it. -/
theorem alike_margins {trail : List Lexeme} {u : Text} (hcut : Cut trail u)
    (hsimple : ∀ l ∈ trail, l.isSimple = true) (hm : ∀ l ∈ trail, l.isMargin = true)
    (before : Option Char) : Alike before (spelled trail ++ [']']) [']'] := by
  rcases trail with _ | ⟨l, trail⟩
  · exact .inl rfl
  obtain ⟨c, t, ht⟩ := List.exists_cons_of_ne_nil hcut.1.heads.1
  have hb := blank_of_isMargin hcut.1 (hsimple l (by simp)) (hm l (by simp)) c (by simp [ht])
  have hstring := isString_of_isMargin (hm l (by simp))
  have hascii := (simple_facts (hsimple l (by simp))).1 hstring c (by simp [ht])
  obtain ⟨hinert, hword⟩ := forall_ascii (p := fun c => Text.isBlank c = true →
    isInert c = true ∧ Number.isWordPart c = false) (by decide +kernel) hascii hb
  refine .inr ⟨[], c, t ++ (spelled trail ++ [']']), ']', [], by simp [ht], rfl, hinert, by decide,
    fun h => ?_⟩
  rcases h with h | h
  · rw [hword] at h
    cases h
  · cases h

/-- A text of simple lexemes, in which literals, names and points stand apart, has code, and the
tokens of the code are its tokens with the scope in front of the free names. -/
theorem tokens_of_scoped {s : Text} {ls : List Lexeme} {ts : List Token}
    (hts : tokens? ('[' :: s ++ [']']) = some ts)
    (hls : lexemes? (unifyLines ('[' :: s ++ [']'])) = some ls)
    (hsimple : ∀ l ∈ ls, l.isSimple = true) (hliterals : LiteralsApart ls) (hnames : NamesApart ls)
    (hpoints : PointsApart ts) :
    ∃ code, scoped? scopeName s = some code ∧
      tokens? ('[' :: code ++ [']']) = some (qualifyTokens false ts) := by
  obtain ⟨ms, rfl, hs, hcut⟩ := exists_bracketed hls hsimple
  obtain ⟨hmark, hjoin, rfl⟩ := (tokens?_bracketed_iff hs hcut).1 hts
  obtain ⟨lead, core, trail, rfl, hlead, htrail, hstrip⟩ :=
    exists_core hs hcut fun l hl => hsimple l (by simp [hl])
  -- What the hypotheses say of all lexemes, they say of those between the margins.
  have hpart : core <:+: openLexeme :: (lead ++ core ++ trail ++ [closeLexeme]) :=
    ⟨openLexeme :: lead, trail ++ [closeLexeme], by simp⟩
  have hcore : ∀ l ∈ core, l.isSimple = true := fun l hl => hsimple l (hpart.subset hl)
  obtain ⟨⟨-, hcut⟩, hcutTrail⟩ := (cut_append.1 hcut).imp_left cut_append.1
  have hunbroken : unbroken (tokens (lead ++ core ++ trail)) = unbroken (tokens core) := by
    rw [tokens_append, tokens_append, unbroken, List.filter_append, List.filter_append]
    change unbroken (tokens lead) ++ unbroken (tokens core) ++ unbroken (tokens trail) = _
    rw [unbroken_of_margins hlead, unbroken_of_margins htrail]
    simp
  rw [hunbroken] at hpoints ⊢
  have hpoints' : PointsApart (unbroken (tokens core)) := List.IsChain.infix hpoints
    ⟨[.symbol .squareOpen], [.symbol .squareClose], by simp [inSquareBrackets]⟩
  have hnames' : NamesApart core := List.IsChain.infix hnames hpart
  have hliterals' : LiteralsApart core := List.IsChain.infix hliterals hpart
  -- The code is the weave with the scope in its gaps, and spells the lexemes with the scope.
  obtain ⟨g, rest, hw⟩ : ∃ g rest, IsWoven none core (Text.strip s) [] g rest :=
    exists_isWoven hcut (fun l hl => isPlain_of_isSimple (hcore l hl)) hliterals' (fun _ _ _ => rfl)
      (fun h => hmark (Text.mem_of_mem_strip h))
      (by rw [List.append_nil, hstrip]) (by simp)
  have hcode := hw.unifyLines_qualify hcut hcore hnames' hpoints'
  refine ⟨_, scoped?_weave (by decide) hw.text hw.recognised,
    (tokens?_bracketed_iff hcode ?_).2 ⟨?_, ?_, ?_⟩⟩
  · exact cut_qualifyLexemes hcut hcore (isChain_nameFollows hcut hcore hnames' hpoints')
      (alike_margins hcutTrail (fun l hl => hsimple l (by simp [hl])) htrail) false
  · refine not_mem_weave (not_mem_qualifyFrom (by decide) hw.recognised.isGap.not_mem _) ?_
    refine List.forall_mem_map.2 fun p hp => ⟨fun hm => hmark (Text.mem_of_mem_strip ?_),
      not_mem_qualifyFrom (by decide) (hw.recognised.isGap_of_mem p hp).not_mem _⟩
    rw [hw.text]
    exact List.mem_append_right g (List.mem_flatMap.2 ⟨p, hp, List.mem_append_left _ hm⟩)
  · refine Edited.isSome_joinLines? (.keep _ (.append ?_ (.refl _))) [] hjoin
    have hedited := ((Edited.of_newlines (newline_of_margins hlead)).append
      (edited_qualifyLexemes false core)).append (.of_newlines (newline_of_margins htrail))
    simpa using hedited
  · rw [inSquareBrackets, qualifyTokens, inSquareBrackets]
    exact congrArg (_ :: ·) (unbroken_tokens_qualifyLexemes (by decide) rfl false core).symm

/-- Arguments, members behind blanks, letters in numbers and a literal. -/
theorem tokens_of_scoped_call :
    ∃ s ts ls, s = " f(k =\n 1, x==0x1f) .real if 'a.b' else 1.e5or y ".toList ∧
      tokens? ('[' :: s ++ [']']) = some ts ∧
      lexemes? (unifyLines ('[' :: s ++ [']'])) = some ls ∧
      (∀ l ∈ ls, l.isSimple = true) ∧ LiteralsApart ls ∧ NamesApart ls ∧ PointsApart ts ∧
      ∃ code, scoped? scopeName s = some code ∧
        tokens? ('[' :: code ++ [']']) = some (qualifyTokens false ts) := by
  have hts : (tokens? ('[' :: " f(k =\n 1, x==0x1f) .real if 'a.b' else 1.e5or y ".toList ++
      [']'])).any (fun ts => decide (PointsApart ts)) = true := by decide +kernel
  have hls : (lexemes? (unifyLines ('[' ::
      " f(k =\n 1, x==0x1f) .real if 'a.b' else 1.e5or y ".toList ++ [']']))).any
      (fun ls => ls.all Lexeme.isSimple && decide (LiteralsApart ls) &&
        decide (NamesApart ls)) = true := by decide +kernel
  obtain ⟨ts, hts, hpoints⟩ := (Option.any_eq_true _ _).1 hts
  obtain ⟨ls, hls, h⟩ := (Option.any_eq_true _ _).1 hls
  simp only [Bool.and_eq_true, List.all_eq_true, decide_eq_true_eq] at h hpoints
  obtain ⟨⟨hsimple, hliterals⟩, hnames⟩ := h
  exact ⟨_, ts, ls, rfl, hts, hls, hsimple, hliterals, hnames, hpoints,
    tokens_of_scoped hts hls hsimple hliterals hnames hpoints⟩

/-- Directly behind a number, a name is taken for letters of the number. -/
theorem not_tokens_of_scoped :
    ∃ ts ls, tokens? ('[' :: "1ifx".toList ++ [']']) = some ts ∧
      lexemes? (unifyLines ('[' :: "1ifx".toList ++ [']'])) = some ls ∧
      (∀ l ∈ ls, l.isSimple = true) ∧ LiteralsApart ls ∧ PointsApart ts ∧
      ∃ code, scoped? scopeName "1ifx".toList = some code ∧
        tokens? ('[' :: code ++ [']']) ≠ some (qualifyTokens false ts) := by
  have hls : (lexemes? (unifyLines ('[' :: "1ifx".toList ++ [']']))).any
      (fun ls => ls.all Lexeme.isSimple && decide (LiteralsApart ls)) = true := by decide +kernel
  obtain ⟨ls, hls, h⟩ := (Option.any_eq_true _ _).1 hls
  simp only [Bool.and_eq_true, List.all_eq_true, decide_eq_true_eq] at h
  exact ⟨[.symbol .squareOpen, .number ['1'], .name "ifx".toList, .symbol .squareClose], ls,
    by decide +kernel, hls, h.1, h.2, by decide, "1ifx".toList, by decide +kernel,
    by decide +kernel⟩

end Scoping

end Stencil
