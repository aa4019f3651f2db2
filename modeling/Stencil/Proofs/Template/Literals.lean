import Stencil.Proofs.Expr.Lexemes
import Stencil.Proofs.Expr.Sums
import Stencil.Proofs.Template.Factorization
import Stencil.Proofs.Template.Masking
import Stencil.Proofs.Text.Margins

/-! # String literals in expressions

Where each literal of an expression is one that can be found without reading what stands in front of
it, the names get their scope around the literals, and the literals stay what they are. -/
namespace Stencil

namespace Lexer

/-! ## Texts before their line ends are made one -/

theorem mem_unifyLines {c : Char} (hc : c ≠ '\r') {s : Text} (h : c ∈ s) : c ∈ unifyLines s := by
  fun_induction unifyLines s with
  | case1 => exact h
  | case2 s ih => simpa [hc] using (by simpa [hc] using h : c = '\n' ∨ c ∈ s).imp_right ih
  | case3 s _ ih => exact List.mem_cons_of_mem _ (ih (by simpa [hc] using h))
  | case4 d s _ _ ih => simpa using (by simpa using h : c = d ∨ c ∈ s).imp_right ih

theorem mem_of_mem_unifyLines {c : Char} {s : Text} (h : c ∈ unifyLines s) : c = '\n' ∨ c ∈ s := by
  fun_induction unifyLines s with
  | case1 => exact .inr h
  | case2 s ih => rcases List.mem_cons.1 h with rfl | h <;> grind
  | case3 s _ ih => rcases List.mem_cons.1 h with rfl | h <;> grind
  | case4 d s _ _ ih => rcases List.mem_cons.1 h with rfl | h <;> grind

/-- A text that stays on one line is what it is. -/
theorem unifyLines_eq_self {s : Text} (h : '\n' ∉ unifyLines s) : unifyLines s = s := by
  fun_induction unifyLines s with
  | case1 => rfl
  | case2 s ih => simp at h
  | case3 s _ ih => simp at h
  | case4 d s _ _ ih => rw [ih fun hs => h (List.mem_cons_of_mem _ hs)]

/-- A part of the lines is the lines of a part, and no line end stands across the cut. -/
theorem unifyLines_eq_append {s a b : Text} (h : unifyLines s = a ++ b) :
    ∃ p r, s = p ++ r ∧ unifyLines p = a ∧ unifyLines r = b ∧
      (p.getLast? = some '\r' → r.head? ≠ some '\n') := by
  fun_induction unifyLines s generalizing a with
  | case1 =>
    obtain ⟨rfl, rfl⟩ := List.append_eq_nil_iff.1 h.symm
    exact ⟨[], [], rfl, rfl, rfl, by simp⟩
  | case2 s ih =>
    rcases a with _ | ⟨x, a⟩
    · exact ⟨[], '\r' :: '\n' :: s, rfl, rfl, h, by simp⟩
    · obtain ⟨rfl, ht⟩ := List.cons.inj h
      obtain ⟨p, r, rfl, rfl, rfl, hcut⟩ := ih ht
      refine ⟨'\r' :: '\n' :: p, r, rfl, rfl, rfl, fun hp => hcut ?_⟩
      rcases p with _ | ⟨c, p⟩
      · cases hp
      · simpa using hp
  | case3 s hs ih =>
    rcases a with _ | ⟨x, a⟩
    · exact ⟨[], '\r' :: s, rfl, rfl, by rw [unifyLines.eq_3 _ hs]; exact h, by simp⟩
    · obtain ⟨rfl, ht⟩ := List.cons.inj h
      obtain ⟨p, r, rfl, rfl, rfl, hcut⟩ := ih ht
      refine ⟨'\r' :: p, r, rfl, unifyLines.eq_3 _ fun t ht => hs (t ++ r) (by rw [ht]; rfl), rfl,
        fun hp hr => ?_⟩
      rcases p with _ | ⟨c, p⟩
      · obtain ⟨t, rfl⟩ := List.head?_eq_some_iff.1 hr
        exact hs t rfl
      · exact hcut (by simpa using hp) hr
  | case4 c s _ hc ih =>
    rcases a with _ | ⟨x, a⟩
    · exact ⟨[], c :: s, rfl, rfl, by rw [unifyLines_cons hc]; exact h, by simp⟩
    · obtain ⟨rfl, ht⟩ := List.cons.inj h
      obtain ⟨p, r, rfl, rfl, rfl, hcut⟩ := ih ht
      refine ⟨c :: p, r, rfl, unifyLines_cons hc p, rfl, fun hp => hcut ?_⟩
      rcases p with _ | ⟨d, p⟩
      · exact absurd (Option.some.inj hp) hc
      · simpa using hp

theorem getLast?_unifyLines (s : Text) :
    (unifyLines s).getLast? = s.getLast?.map fun c => if c = '\r' then '\n' else c := by
  fun_induction unifyLines s with
  | case1 => rfl
  | case2 s ih =>
    rw [List.getLast?_cons, List.getLast?_cons, List.getLast?_cons, ih]
    cases s.getLast? <;> rfl
  | case3 s _ ih =>
    rw [List.getLast?_cons, List.getLast?_cons, ih]
    cases s.getLast? <;> rfl
  | case4 c s _ hc ih =>
    rw [List.getLast?_cons, List.getLast?_cons, ih]
    cases s.getLast? with
    | none => simp only [Option.getD_none, Option.map_none, Option.map_some, if_neg hc]
    | some d => rfl

/-- A mark that ends no line. -/
def IsInline (p : Text) : Prop := ∀ c ∈ p, c ≠ '\r' ∧ c ≠ '\n'

instance : DecidablePred IsInline := fun p => List.decidableBAll _ p

theorem after?_unifyLines {p : Text} (hp : IsInline p) (s : Text) :
    Text.after? p (unifyLines s) = (Text.after? p s).map unifyLines := by
  induction p generalizing s with
  | nil => rfl
  | cons a p ih =>
    obtain ⟨hr, hn⟩ := hp a (by simp)
    have hp' : IsInline p := fun c hc => hp c (by simp [hc])
    fun_cases unifyLines s with
    | case1 => rfl
    | case2 s => simp [Text.after?, hr, hn]
    | case3 s hs => simp [Text.after?, hr, hn]
    | case4 c s _ hc =>
      by_cases ha : a = c
      · subst ha
        simp [Text.after?, ih hp']
      · simp [Text.after?, ha]

theorem breakAt?_unifyLines {p : Text} (hp : IsInline p) (hne : p ≠ []) (s : Text) :
    Text.breakAt? p (unifyLines s) =
      (Text.breakAt? p s).map fun b => (unifyLines b.1, unifyLines b.2) := by
  obtain ⟨a, p, rfl⟩ := List.exists_cons_of_ne_nil hne
  obtain ⟨hr, hn⟩ := hp a (by simp)
  fun_induction unifyLines s with
  | case1 => rfl
  | case2 s ih =>
    simp only [Text.breakAt?, Text.after?, if_neg hn, if_neg hr, ih, Option.map_map]
    rfl
  | case3 s hs ih =>
    simp only [Text.breakAt?, Text.after?, if_neg hn, if_neg hr, ih, Option.map_map]
    refine Option.map_congr fun b hb => ?_
    have hb' : ∀ t, b.1 = '\n' :: t → False := by
      intro t ht
      refine hs (t ++ (a :: p) ++ b.2) ?_
      rw [Text.eq_of_breakAt? hb, ht]
      rfl
    simp [unifyLines.eq_3 _ hb']
  | case4 c s _ hc ih =>
    have hafter := after?_unifyLines hp (c :: s)
    rw [unifyLines_cons hc] at hafter
    rw [Text.breakAt?, Text.breakAt?, hafter]
    cases Text.after? (a :: p) (c :: s) with
    | some r => rfl
    | none => simp [ih, Function.comp_def, unifyLines_cons hc]

/-! ## Lexemes that are literals -/

def Lexeme.isString (l : Lexeme) : Bool :=
  match l.token? with
  | some (.string ..) => true
  | _ => false

theorem exists_of_isString {l : Lexeme} (h : l.isString = true) :
    ∃ tag delimiter body, l.token? = some (.string tag delimiter body) := by
  unfold Lexeme.isString at h
  split at h
  next tag delimiter body ht => exact ⟨tag, delimiter, body, ht⟩
  next => cases h

theorem wordToken?_cases {w : Text} {t : Token} (h : wordToken? w = some t) :
    (∃ k, t = .keyword k) ∨ t = .name w := by
  unfold wordToken? at h
  split at h
  next k _ => exact .inl ⟨k, (Option.some.inj h).symm⟩
  next =>
    split_ifs at h
    exact .inr (Option.some.inj h).symm

/-- A literal is plain if it is no template, no backslash joins its lines, and none stands in front
of the quote inside of three quotes. What is passed over is plain if it holds no quote. -/
def Lexeme.isPlain (l : Lexeme) : Bool :=
  match l.token? with
  | some (.string tag [_] body) => !Quotation.isTemplate tag && !Text.occurs ['\\', '\n'] body
  | some (.string tag (q :: _) body) => !Quotation.isTemplate tag && !Text.occurs ['\\', q] body
  | none => !l.text.any isQuote
  | _ => true

end Lexer

namespace Scoping

open Lexer Lexer.Lexeme

/-! ## The one search and the other -/

theorem breakAt?_of_ne {q c : Char} (hc : q ≠ c) (p s : Text) : Text.breakAt? (q :: p) (c :: s) =
    (Text.breakAt? (q :: p) s).map fun b => (c :: b.1, b.2) := by
  simp [Text.breakAt?, Text.after?, hc]

/-- A literal that holds no escaped quote ends with the first three quotes. -/
theorem breakAt?_of_scanBlock? {q : Char} (hq : q ≠ '\\') {s body r : Text}
    (hb : ¬['\\', q] <:+: body) (h : Quotation.scanBlock? q s = some (body, r)) :
    Text.breakAt? [q, q, q] s = some (body, r) := by
  induction hn : s.length using Nat.strongRecOn generalizing s body with
  | _ n ih =>
  subst hn
  have hlen := Quotation.scanBlock?_length h
  rcases s with _ | ⟨c, _ | ⟨a, _ | ⟨b, s⟩⟩⟩
  · simp at hlen
  · simp at hlen
    omega
  · simp at hlen
    omega
  by_cases hc : c = q
  · subst hc
    rw [Quotation.scanBlock?_quote] at h
    split_ifs at h with hab
    · obtain ⟨rfl, rfl⟩ := hab
      cases h
      simp [Text.breakAt?, Text.after?]
    · obtain ⟨p, hp, he⟩ := Option.map_eq_some_iff.1 h
      cases he
      have hnone : Text.after? [c, c, c] (c :: a :: b :: s) = none := by
        simpa [Text.after?, eq_comm] using hab
      rw [Text.breakAt?, hnone, ih _ (by simp) (fun hi => hb (List.infix_cons hi)) hp rfl]
      rfl
  by_cases hs : c = '\\'
  · subst hs
    rw [Quotation.scanBlock?_escape hq] at h
    obtain ⟨p, hp, he⟩ := Option.map_eq_some_iff.1 h
    cases he
    have ha : q ≠ a := by
      rintro rfl
      exact hb ⟨[], p.1, rfl⟩
    rw [breakAt?_of_ne hq, breakAt?_of_ne ha,
      ih _ (by simp) (fun hi => hb (List.infix_cons (List.infix_cons hi))) hp rfl]
    rfl
  · rw [Quotation.scanBlock?_plain hc hs] at h
    obtain ⟨p, hp, he⟩ := Option.map_eq_some_iff.1 h
    cases he
    rw [breakAt?_of_ne (Ne.symm hc), ih _ (by simp) (fun hi => hb (List.infix_cons hi)) hp rfl]
    rfl

/-- A literal whose lines no backslash joins is on one line. -/
theorem line?_of_scanLine? {q : Char} {s body r : Text} (hb : ¬['\\', '\n'] <:+: body)
    (h : Quotation.scanLine? q s = some (body, r)) :
    line? q s = some (body ++ [q], r) ∧ '\n' ∉ body := by
  fun_induction Quotation.scanLine? q s generalizing body with
  | case1 => cases h
  | case2 s =>
    cases h
    exact ⟨by simp [line?.eq_def], by simp⟩
  | case3 => cases h
  | case4 => cases h
  | case5 d s hq hn ih =>
    obtain ⟨p, hp, he⟩ := Option.map_eq_some_iff.1 h
    cases he
    have hd : d ≠ '\n' := by
      rintro rfl
      exact hb ⟨[], p.1, rfl⟩
    obtain ⟨hline, hbody⟩ := ih (fun hi => hb (List.infix_cons (List.infix_cons hi))) hp
    refine ⟨?_, by simp [hd.symm, hbody]⟩
    rw [line?.eq_def]
    simp [hq, hd, hline]
  | case6 c s hq hn hs ih =>
    obtain ⟨p, hp, he⟩ := Option.map_eq_some_iff.1 h
    cases he
    obtain ⟨hline, hbody⟩ := ih (fun hi => hb (List.infix_cons hi)) hp
    refine ⟨?_, by simp [Ne.symm hn, hbody]⟩
    rw [line?.eq_def]
    simp [hq, hn, hs, hline]

theorem tag_facts {tag : Text} (htag : Quotation.isTag tag = true)
    (hf : Quotation.isTemplate tag = false) :
    (∀ c ∈ tag, isTagLetter c = true) ∧ tag.length ≤ 2 := by
  obtain ⟨hletters, hlen⟩ := mem_tagLetters_of_isTag htag
  have hall : (tagLetters.all fun c => isTagLetter c || c.toLower == 'f') = true := by decide
  simp only [List.all_eq_true, Bool.or_eq_true, beq_iff_eq] at hall
  refine ⟨fun c hc => (hall c (hletters c hc)).resolve_right fun hl => ?_, hlen⟩
  have := List.any_eq_false.1 hf c hc
  simp [hl] at this

theorem literal?_tagged {tag : Text} {q : Char} (htag : ∀ c ∈ tag, isTagLetter c = true)
    (hlen : tag.length ≤ 2) (hq : isQuote q = true) (s : Text) : literal? (tag ++ q :: s) =
      (quoted? (q :: s)).map fun p => (tag ++ p.1, p.2) := by
  have hql : isTagLetter q = false := by
    rcases isQuote_iff.1 hq with rfl | rfl <;> rfl
  obtain ⟨htake, hdrop⟩ := takeWhile_append_of_head (r := q :: s) htag (by simp [hql])
  rw [literal?, htake, hdrop]
  exact if_neg (by omega)

theorem quoted?_line {q : Char} (hq : isQuote q = true) {s : Text} {p : Text × Text}
    (hs : Text.after? [q, q] s = none) (h : line? q s = some p) :
    quoted? (q :: s) = some (q :: p.1, p.2) := by
  simp [quoted?, isQuote_iff.1 hq, hs, h]

theorem quoted?_block {q : Char} (hq : isQuote q = true) {s : Text} {p : Text × Text}
    (h : Text.breakAt? [q, q, q] s = some p) :
    quoted? (q :: q :: q :: s) = some (q :: q :: q :: (p.1 ++ [q, q, q]), p.2) := by
  simp [quoted?, isQuote_iff.1 hq, Text.after?, block?, h]

theorem infix_of_occurs {p s : Text} (h : Text.occurs p s = false) : ¬p <:+: s := by
  rw [← Text.breakAt?_isSome_iff]
  simpa [Text.occurs] using h

theorem quote_facts {q : Char} (hq : isQuote q = true) : q ≠ '\r' ∧ q ≠ '\n' ∧ q ≠ '\\' := by
  rcases isQuote_iff.1 hq with rfl | rfl <;> decide

theorem not_mem_of_isTagLetter {tag : Text} (h : ∀ c ∈ tag, isTagLetter c = true) : '\n' ∉ tag :=
  fun hn => Bool.false_ne_true (h '\n' hn)

/-- Behind the opening quote of a literal on one line, there are no two quotes more. -/
theorem after?_isLine {q : Char} (hq : isQuote q = true) {body b r : Text}
    (hbody : Quotation.IsLine q body) (hr : body = [] → r.head? ≠ some q)
    (hb : unifyLines b <+: r) : Text.after? [q, q] (body ++ q :: b) = none := by
  rw [Text.after?_eq_none_iff]
  rintro ⟨u, hu⟩
  rcases body with _ | ⟨c, body⟩
  · obtain rfl : q :: u = b := (List.cons.inj hu).2
    rw [unifyLines_cons (quote_facts hq).1] at hb
    obtain ⟨v, rfl⟩ := hb
    exact hr rfl rfl
  · obtain rfl : q = c := (List.cons.inj hu).1
    have := hbody []
    rw [List.cons_append, Quotation.scanLine?_quote] at this
    cases this

/-- The text is a part that `literal?` finds, which becomes `w` when its line ends are unified, and
a rest, which becomes `t`. -/
def FindsLiteral (s w t : Text) : Prop :=
  ∃ a b, s = a ++ b ∧ unifyLines a = w ∧ unifyLines b = t ∧ literal? s = some (a, b)

theorem findsLiteral_line {tag body r s t : Text} {q : Char} (htag : Quotation.isTag tag = true)
    (hq : isQuote q = true) (hbody : Quotation.IsLine q body)
    (hr : body = [] → r.head? ≠ some q) (hf : Quotation.isTemplate tag = false)
    (hb : Text.occurs ['\\', '\n'] body = false)
    (hs : unifyLines s = tag ++ q :: (body ++ [q]) ++ t) (ht : t <+: r) :
    FindsLiteral s (tag ++ q :: (body ++ [q])) t := by
  obtain ⟨hletters, hlen⟩ := tag_facts htag hf
  obtain ⟨a, b, rfl, ha, rfl, -⟩ := unifyLines_eq_append hs
  obtain ⟨hline, hn⟩ := line?_of_scanLine? (infix_of_occurs hb) (hbody b)
  -- There is no line end in the lexeme, so the text spells it as it is.
  have hself : unifyLines a = a := unifyLines_eq_self (by
    rw [ha]
    simp [not_mem_of_isTagLetter hletters, hn, Ne.symm (quote_facts hq).2.1])
  obtain rfl : a = tag ++ q :: (body ++ [q]) := hself.symm.trans ha
  refine ⟨_, b, rfl, ha, rfl, ?_⟩
  have happ : tag ++ q :: (body ++ [q]) ++ b = tag ++ q :: (body ++ q :: b) := by simp
  rw [happ, literal?_tagged hletters hlen hq,
    quoted?_line hq (after?_isLine hq hbody hr ht) hline]
  rfl

theorem findsLiteral_block {tag body s t : Text} {q : Char} (htag : Quotation.isTag tag = true)
    (hq : isQuote q = true) (hbody : Quotation.IsBlock q body)
    (hf : Quotation.isTemplate tag = false) (hb : Text.occurs ['\\', q] body = false)
    (hs : unifyLines s = tag ++ q :: q :: q :: (body ++ [q, q, q]) ++ t) :
    FindsLiteral s (tag ++ q :: q :: q :: (body ++ [q, q, q])) t := by
  obtain ⟨hletters, hlen⟩ := tag_facts htag hf
  obtain ⟨hqr, hqn, hqb⟩ := quote_facts hq
  obtain ⟨a, s, rfl, ha, hrest, -⟩ :=
    unifyLines_eq_append (a := tag ++ [q, q, q]) (b := body ++ q :: q :: q :: t) (s := s)
      (by simp [hs])
  have hself : unifyLines a = a := unifyLines_eq_self (by
    rw [ha]
    simp [not_mem_of_isTagLetter hletters, Ne.symm hqn])
  obtain rfl : a = tag ++ [q, q, q] := hself.symm.trans ha
  -- The body may hold line ends of other kinds: it is searched for the quotes as it is spelled.
  have hbreak := breakAt?_of_scanBlock? hqb (infix_of_occurs hb) (hbody t)
  rw [← hrest, breakAt?_unifyLines (by simp [IsInline, hqr, hqn]) (by simp)] at hbreak
  obtain ⟨⟨c, d⟩, hcd, he⟩ := Option.map_eq_some_iff.1 hbreak
  obtain ⟨rfl, rfl⟩ := Prod.mk.inj he
  have hs' := Text.eq_of_breakAt? hcd
  refine ⟨tag ++ [q, q, q] ++ (c ++ [q, q, q]), d, by simp [hs'], ?_, rfl, ?_⟩
  · rw [unifyLines_append (by simp [hqr]), ha, unifyLines_append_cons hqn,
      unifyLines_eq (s := [q, q, q]) (by simp [Ne.symm hqr])]
    simp
  · have happ : tag ++ [q, q, q] ++ s = tag ++ q :: q :: q :: s := by simp
    rw [happ, literal?_tagged hletters hlen hq, quoted?_block hq hcd]
    simp

/-- A plain literal is found where it stands. -/
theorem literal?_of_shape {l : Lexeme} {r : Text} (h : Shape r l) (hl : l.isString = true)
    (hp : l.isPlain = true) {s t : Text} (hs : unifyLines s = l.text ++ t) (ht : t <+: r) :
    FindsLiteral s l.text t := by
  cases h with
  | @line tag body q htag hq hbody hr =>
    obtain ⟨hf, hb⟩ : Quotation.isTemplate tag = false ∧ Text.occurs ['\\', '\n'] body = false := by
      simpa [Lexeme.isPlain] using hp
    exact findsLiteral_line htag hq hbody hr hf hb hs ht
  | @block tag body q htag hq hbody =>
    obtain ⟨hf, hb⟩ : Quotation.isTemplate tag = false ∧ Text.occurs ['\\', q] body = false := by
      simpa [Lexeme.isPlain] using hp
    exact findsLiteral_block htag hq hbody hf hb hs
  | blank => cases hl
  | newline => cases hl
  | comment => cases hl
  | joined => cases hl
  | number => cases hl
  | symbol => cases hl
  | word hc hd hw hr hq ht =>
    rcases wordToken?_cases ht with ⟨k, rfl⟩ | rfl <;> cases hl

/-! ## The weave of an expression -/

theorem exists_shape_of_mem {ls : List Lexeme} {u : Text} (h : Cut ls u) {l : Lexeme}
    (hl : l ∈ ls) : ∃ r, Shape r l := by
  induction ls with
  | nil => cases hl
  | cons m ls ih =>
    rcases List.mem_cons.1 hl with rfl | hl
    · exact ⟨_, h.1⟩
    · exact ih h.2 hl

theorem getLast?_of_isString {l : Lexeme} {r : Text} (h : Shape r l) (hl : l.isString = true) :
    ∃ q, isQuote q = true ∧ l.text.getLast? = some q := by
  cases h with
  | @line tag body q htag hq => exact ⟨q, hq, by simp [List.getLast?_cons]⟩
  | @block tag body q htag hq => exact ⟨q, hq, by simp [List.getLast?_cons]⟩
  | word hc hd hw hr hq ht => rcases wordToken?_cases ht with ⟨k, rfl⟩ | rfl <;> cases hl
  | _ => cases hl

/-- Only literals hold quotes. -/
theorem not_isQuote_of_shape {l : Lexeme} {r : Text} (h : Shape r l) (hl : l.isString = false)
    (hp : l.isPlain = true) : ∀ c ∈ l.text, isQuote c = false := by
  have hword : ∀ c, Number.isWordPart c = true → isQuote c = false := fun c hc =>
    isQuote_eq_false_of hc (by decide)
  cases h with
  | blank hc => rcases hc with rfl | rfl | rfl <;> simp [isQuote]
  | newline => simp [isQuote]
  | comment => simpa [Lexeme.isPlain] using hp
  | joined => simp [isQuote]
  | line => cases hl
  | block => cases hl
  | @number a hstart hscan =>
    obtain ⟨-, -, htrace, -⟩ := Number.scan?_spec hscan (head?_of_startsNumber hstart)
    intro c hc
    rcases Number.mem_of_trace (htrace true) c hc with hc | rfl | rfl | rfl
    · exact hword c hc
    all_goals rfl
  | word hc hd hw => exact fun x hx => hword x (hw x hx)
  | symbol hw =>
    intro c hc
    simpa using forall_mem_symbol (f := fun c => !isQuote c) (by decide) _ hw c hc

theorem mayPrecedeLiteral_unifyLines (s : Text) :
    mayPrecedeLiteral (unifyLines s).getLast? = mayPrecedeLiteral s.getLast? := by
  rw [getLast?_unifyLines]
  cases s.getLast? with
  | none => rfl
  | some c =>
    by_cases hc : c = '\r'
    · subst hc
      decide
    · simp [hc]

/-- A gap in front of the first gap. -/
theorem Recognised.append {before : Option Char} {p g : Text} {rest : List (Text × Text)}
    (hp : IsGap p) (hne : p ≠ []) (h : Recognised p.getLast? g rest) :
    Recognised before (p ++ g) rest := by
  have hgap : IsGap (p ++ g) := by
    intro c hc
    exact (List.mem_append.1 hc).elim (hp c) (h.isGap c)
  have hlast : (p ++ g).getLast?.or before = g.getLast?.or p.getLast? := by
    rw [List.getLast?_append, Option.or_assoc, List.getLast?_eq_some_getLast hne]
    rfl
  cases rest with
  | nil => exact hgap
  | cons q rest => exact ⟨hgap, by rw [hlast]; exact h.2.1, h.2.2⟩

/-- The text in front of the first literal, and the literals, each with the text behind it. -/
def parts : List Lexeme → Text × List (Text × Text)
  | [] => ([], [])
  | l :: ls =>
    if l.isString then ([], (l.text, (parts ls).1) :: (parts ls).2)
    else (l.text ++ (parts ls).1, (parts ls).2)

/-- No literal stands directly behind a word or a point. -/
def LiteralsApart (ls : List Lexeme) : Prop :=
  ls.IsChain fun l m => m.isString = true → mayPrecedeLiteral l.text.getLast? = true

/-- The literals of an expression, as they are spelled. -/
def literals (ls : List Lexeme) : List Text := (ls.filter Lexeme.isString).map Lexeme.text

instance : DecidablePred LiteralsApart := fun ls => inferInstanceAs (Decidable (ls.IsChain _))

theorem literals_cons_of_string {l : Lexeme} (h : l.isString = true) (ls : List Lexeme) :
    literals (l :: ls) = l.text :: literals ls := by
  simp [literals, h]

theorem literals_cons_of_not {l : Lexeme} (h : l.isString = false) (ls : List Lexeme) :
    literals (l :: ls) = literals ls := by
  simp [literals, h]

/-- The text is woven from literals and gaps. They are those of the lexemes, but for the blanks `x`
that the text leaves out. -/
structure IsWoven (before : Option Char) (ls : List Lexeme) (s x g : Text)
    (rest : List (Text × Text)) : Prop where
  text : s = weave g rest
  recognised : Recognised before g rest
  literals : (rest.map fun p => unifyLines p.1) = literals ls
  parts : x = [] → (unifyLines g, rest.map fun p => (unifyLines p.1, unifyLines p.2)) = parts ls

namespace IsWoven

variable {before : Option Char} {l : Lexeme} {ls : List Lexeme} {s x g : Text}
  {rest : List (Text × Text)}

theorem nil : IsWoven before [] [] x [] [] :=
  ⟨rfl, by simp [Recognised, IsGap], rfl, fun _ => rfl⟩

/-- A literal in front. -/
theorem literal {a : Text} (hstring : l.isString = true) (ha : unifyLines a = l.text)
    (hne : a ≠ []) (hbefore : mayPrecedeLiteral before = true)
    (hl : literal? (a ++ s) = some (a, s)) (h : IsWoven a.getLast? ls s x g rest) :
    IsWoven before (l :: ls) (a ++ s) x [] ((a, g) :: rest) where
  text := by simp [h.text]
  recognised := ⟨by simp [IsGap], hbefore, hne, h.text ▸ hl, h.recognised⟩
  literals := by simp [literals_cons_of_string hstring, ha, h.literals]
  parts hx := by
    rw [Scoping.parts, if_pos hstring, ← h.parts hx, List.map_cons, ha]
    rfl

/-- A lexeme in front that is no literal. -/
theorem gap {p : Text} (hstring : l.isString = false) (hp : unifyLines p = l.text) (hne : p ≠ [])
    (hgap : IsGap p) (hline : p.getLast? = some '\r' → s.head? ≠ some '\n')
    (h : IsWoven p.getLast? ls s x g rest) : IsWoven before (l :: ls) (p ++ s) x (p ++ g) rest where
  text := by simp [h.text, weave]
  recognised := h.recognised.append hgap hne
  literals := by rw [literals_cons_of_not hstring, h.literals]
  parts hx := by
    have hpg : unifyLines (p ++ g) = unifyLines p ++ unifyLines g := by
      refine unifyLines_append fun hr hg => hline hr ?_
      obtain ⟨t, rfl⟩ := List.head?_eq_some_iff.1 hg
      rw [h.text]
      rfl
    rw [Scoping.parts, if_neg (by simp [hstring]), ← h.parts hx, hpg, hp]

/-- The end of the text inside of a lexeme. -/
theorem last (hstring : l.isString = false) (hs : IsGap s) (hx : x ≠ [])
    (hls : Scoping.literals ls = []) : IsWoven before (l :: ls) s x s [] where
  text := by simp
  recognised := hs
  literals := by simp [literals_cons_of_not hstring, hls]
  parts h := absurd h hx

end IsWoven

/-- The first gap is what the lexemes begin with. -/
theorem parts_prefix_spelled (ls : List Lexeme) : (parts ls).1 <+: spelled ls := by
  induction ls with
  | nil => exact List.prefix_rfl
  | cons l ls ih =>
    rw [parts]
    split_ifs
    · exact List.nil_prefix
    · exact (List.prefix_append_right_inj l.text).2 ih

theorem isGap_of_unifyLines {s : Text} (hmark : mark ∉ s)
    (h : ∀ c ∈ unifyLines s, isQuote c = false) : IsGap s := by
  refine fun c hc => ⟨?_, fun hm => hmark (hm ▸ hc)⟩
  by_cases hr : c = '\r'
  · rw [hr]
    rfl
  · exact h c (mem_unifyLines hr hc)

theorem unifyLines_eq_nil {s : Text} (h : unifyLines s = []) : s = [] := by
  rw [← h]
  exact (unifyLines_eq_self (by rw [h]; exact List.not_mem_nil)).symm

theorem not_isBlank_of_isQuote {q : Char} (hq : isQuote q = true) : Text.isBlank q = false := by
  rcases isQuote_iff.1 hq with rfl | rfl <;> rfl

/-- There is no literal in blanks. -/
theorem literals_eq_nil {ls : List Lexeme} {u : Text} (h : Cut ls u)
    (hb : ∀ c ∈ spelled ls, Text.isBlank c = true) : literals ls = [] := by
  rw [literals, List.map_eq_nil_iff, List.filter_eq_nil_iff]
  intro l hl hstring
  obtain ⟨r, hr⟩ := exists_shape_of_mem h hl
  obtain ⟨q, hq, hlast⟩ := getLast?_of_isString hr hstring
  have := hb q (List.mem_flatMap.2 ⟨l, hl, List.mem_of_getLast? hlast⟩)
  rw [not_isBlank_of_isQuote hq] at this
  cases this

/-- The lexeme in which a text ends in blanks is no literal. -/
theorem isString_eq_false {l : Lexeme} {r y z : Text} (h : Shape r l) (hl : l.text = y ++ z)
    (hz : z ≠ []) (hb : ∀ c ∈ z, Text.isBlank c = true) : l.isString = false := by
  rw [← Bool.not_eq_true]
  intro hstring
  obtain ⟨q, hq, hlast⟩ := getLast?_of_isString h hstring
  rw [hl, List.getLast?_append, List.getLast?_eq_some_getLast hz] at hlast
  have := hb _ (List.getLast_mem hz)
  rw [Option.some.inj hlast, not_isBlank_of_isQuote hq] at this
  cases this

/-- A text that is read, blanks behind it apart, is woven from its literals, all of which are
found. -/
theorem exists_isWoven {ls : List Lexeme} {u : Text} (hcut : Cut ls u)
    (hplain : ∀ l ∈ ls, l.isPlain = true) (hapart : LiteralsApart ls) {s x : Text}
    {before : Option Char}
    (hbefore : ∀ l ∈ ls.head?, l.isString = true → mayPrecedeLiteral before = true)
    (hmark : mark ∉ s) (hs : unifyLines s ++ x = spelled ls)
    (hx : ∀ c ∈ x, Text.isBlank c = true) : ∃ g rest, IsWoven before ls s x g rest := by
  induction ls generalizing s before with
  | nil =>
    obtain ⟨hs, -⟩ := List.append_eq_nil_iff.1 hs
    obtain rfl := unifyLines_eq_nil hs
    exact ⟨[], [], .nil⟩
  | cons l ls ih =>
    obtain ⟨hshape, hcut⟩ := hcut
    obtain ⟨hl, hplain⟩ := List.forall_mem_cons.1 hplain
    rw [LiteralsApart, List.isChain_cons] at hapart
    have hrest : ∀ {p b : Text}, s = p ++ b → unifyLines p = l.text →
        unifyLines b ++ x = spelled ls → ∃ g rest, IsWoven p.getLast? ls b x g rest := by
      intro p b hpb hp hb
      refine ih hcut hplain hapart.2 (fun m hm hstring => ?_)
        (fun hm => hmark (by simp [hpb, hm])) hb
      rw [← mayPrecedeLiteral_unifyLines, hp]
      exact hapart.1 m hm hstring
    have hne : ∀ {p : Text}, unifyLines p = l.text → p ≠ [] := by
      rintro p hp rfl
      exact hshape.heads.1 hp.symm
    -- Either the text holds the whole of the first lexeme, or it ends inside of it.
    by_cases hlast : ∃ t, unifyLines s = l.text ++ t
    · obtain ⟨t, ht⟩ := hlast
      have htail : t ++ x = spelled ls := by
        rw [ht, spelled_cons, List.append_assoc] at hs
        exact List.append_cancel_left hs
      cases hstring : l.isString with
      | true =>
        obtain ⟨a, b, rfl, ha, rfl, hfound⟩ := literal?_of_shape hshape hstring hl ht
          ((List.prefix_append t x).trans (htail ▸ List.prefix_append _ u))
        obtain ⟨g, rest, h⟩ := hrest rfl ha htail
        exact ⟨_, _, h.literal hstring ha (hne ha) (hbefore l rfl hstring) hfound⟩
      | false =>
        obtain ⟨p, b, rfl, hp, rfl, hline⟩ := unifyLines_eq_append ht
        obtain ⟨g, rest, h⟩ := hrest rfl hp htail
        have hgap : IsGap p := by
          refine isGap_of_unifyLines (fun hm => hmark (by simp [hm])) ?_
          rw [hp]
          exact not_isQuote_of_shape hshape hstring hl
        exact ⟨_, _, h.gap hstring hp (hne hp) hgap hline⟩
    · -- The text ends inside of this lexeme, and behind it are blanks only.
      obtain ⟨y, hy, hxy⟩ | ⟨t, ht, -⟩ := List.append_eq_append_iff.1 hs
      swap
      · exact absurd ⟨t, ht⟩ hlast
      have hyne : y ≠ [] := by
        rintro rfl
        exact hlast ⟨[], by rw [hy]; simp⟩
      have hstring := isString_eq_false hshape hy hyne fun c hc => hx c (by simp [hxy, hc])
      have hgap : IsGap s := isGap_of_unifyLines hmark fun c hc =>
        not_isQuote_of_shape hshape hstring hl c (by simp [hy, hc])
      have hnone := literals_eq_nil hcut fun c hc => hx c (hxy ▸ List.mem_append_right y hc)
      exact ⟨_, _, .last hstring hgap (by simp [hxy, hyne]) hnone⟩

/-! ## Texts without their margins -/

theorem mem_tagLetters_of_isTagLetter {c : Char} (h : isTagLetter c = true) : c ∈ tagLetters := by
  have hall : ("rRbBuU".toList.all tagLetters.contains) = true := by decide
  simpa using List.all_eq_true.1 hall c (by simpa [isTagLetter] using h)

theorem not_isBlank_of_mem_tagLetters {c : Char} (h : c ∈ tagLetters) : Text.isBlank c = false := by
  have hall : (tagLetters.all fun c => !Text.isBlank c) = true := by decide
  simpa using List.all_eq_true.1 hall c h

theorem not_isBlank_of_literal? {c : Char} {s : Text} {p : Text × Text}
    (h : literal? (c :: s) = some p) : Text.isBlank c = false := by
  cases ht : isTagLetter c with
  | true =>
    exact not_isBlank_of_mem_tagLetters (mem_tagLetters_of_isTagLetter ht)
  | false =>
    cases hq : isQuote c with
    | true => exact not_isBlank_of_isQuote hq
    | false =>
      rw [literal?, List.dropWhile_cons_of_neg (by simp [ht]), quoted?_of_not_isQuote hq] at h
      simp at h

theorem Recognised.trimStart_weave {before : Option Char} {g : Text} {rest : List (Text × Text)}
    (h : Recognised before g rest) :
    Text.trimStart (weave g rest) = weave (Text.trimStart g) rest := by
  rcases rest with _ | ⟨p, rest⟩
  · simp
  obtain ⟨-, -, hne, hl, -⟩ := h
  obtain ⟨c, t, ht⟩ := List.exists_cons_of_ne_nil hne
  rw [ht] at hl
  rw [weave_cons, weave_cons, Text.trimStart, Text.trimStart]
  by_cases hall : ∀ c ∈ g, Text.isBlank c = true
  · rw [List.dropWhile_append_of_pos hall, List.dropWhile_eq_nil_iff.2 hall, ht, List.cons_append,
      List.dropWhile_cons_of_neg (by simp [not_isBlank_of_literal? hl])]
    rfl
  · obtain ⟨c, hc, hn⟩ : ∃ c ∈ g, Text.isBlank c = false := by simpa using hall
    exact dropWhile_append_of_mem hn hc _

theorem Recognised.trimStart {g : Text} {rest : List (Text × Text)} (h : Recognised none g rest) :
    Recognised none (Text.trimStart g) rest := by
  have hgap : IsGap (Text.trimStart g) := fun c hc =>
    h.isGap c ((List.dropWhile_sublist _).subset hc)
  rcases rest with _ | ⟨p, rest⟩
  · exact hgap
  refine ⟨hgap, ?_, h.2.2⟩
  have hg : g.getLast? = (Text.trimStart g).getLast?.or (g.takeWhile Text.isBlank).getLast? := by
    rw [Text.trimStart, ← List.getLast?_append, List.takeWhile_append_dropWhile]
  have hp := h.2.1
  rw [hg] at hp
  cases hlast : (Text.trimStart g).getLast? with
  | none => rfl
  | some c => simpa [hlast] using hp

/-! ## Expressions -/

/-- Each literal of an expression stays what it is, if it is plain and stands apart from the word or
the point in front of it. The free names between the literals get the scope. -/
theorem literals_kept {s : Text} {ls : List Lexeme} (h : lexemes? (unifyLines s) = some ls)
    (hmark : mark ∉ s) (hplain : ∀ l ∈ ls, l.isPlain = true) (hapart : LiteralsApart ls) :
    ∃ g rest, Text.strip s = weave g rest ∧ IsGap g ∧ (∀ p ∈ rest, IsGap p.2) ∧
      (rest.map fun p => unifyLines p.1) = literals ls ∧
      scoped? scopeName s = some (weave (qualify scopeName g)
        (rest.map fun p => (p.1, qualifyFrom scopeName (some mark) p.2))) := by
  obtain ⟨hls, hcut⟩ := lexemes?_eq_some_iff.1 h
  obtain ⟨y, c, x, rfl, hy, hx, hfirst, hlast, hnil⟩ := Text.exists_margins Text.isBlank s
  have hstrip := Text.strip_eq hy hx hfirst hlast
  have hunify : unifyLines (y ++ c) ++ unifyLines x = spelled ls := by
    rw [← hls, ← unifyLines_append]
    intro hr hn
    have hc : c ≠ [] := fun hc => by simp [hnil hc] at hn
    rw [List.getLast?_append, List.getLast?_eq_some_getLast hc] at hr
    have := hlast _ (List.getLast?_eq_some_getLast hc)
    rw [Option.some.inj hr] at this
    cases this
  have hblank : ∀ a ∈ unifyLines x, Text.isBlank a = true := by
    intro a ha
    rcases mem_of_mem_unifyLines ha with rfl | ha
    · rfl
    · exact hx a ha
  obtain ⟨g, rest, hw⟩ : ∃ g rest, IsWoven none ls (y ++ c) (unifyLines x) g rest :=
    exists_isWoven hcut hplain hapart (fun _ _ _ => rfl)
      (fun hm => hmark (List.mem_append_left x hm)) hunify hblank
  have htrim : Text.trimStart (y ++ c) = c := by
    rw [Text.trimStart, List.dropWhile_append_of_pos hy]
    rcases c with _ | ⟨a, c⟩
    · rfl
    · exact List.dropWhile_cons_of_neg (by simp [hfirst a rfl])
  rw [hw.text, hw.recognised.trimStart_weave, ← hstrip] at htrim
  have hrec := hw.recognised.trimStart
  exact ⟨_, rest, htrim.symm, hrec.isGap, hrec.isGap_of_mem, hw.literals,
    scoped?_weave (by decide) htrim.symm hrec⟩

/-- Literals with quotes, escapes and words in them. -/
theorem literals_kept_quotes :
    ∃ s ls, s = "\"it's a\" + rb'\\'b' if k else '''c \"d'''".toList ∧
      lexemes? (unifyLines s) = some ls ∧ mark ∉ s ∧ (∀ l ∈ ls, l.isPlain = true) ∧
      LiteralsApart ls ∧
      literals ls = ["\"it's a\"".toList, "rb'\\'b'".toList, "'''c \"d'''".toList] ∧
      ∃ g rest, Text.strip s = weave g rest ∧ IsGap g ∧ (∀ p ∈ rest, IsGap p.2) ∧
        (rest.map fun p => unifyLines p.1) = literals ls ∧
        scoped? scopeName s = some (weave (qualify scopeName g)
          (rest.map fun p => (p.1, qualifyFrom scopeName (some mark) p.2))) := by
  have h : (lexemes? (unifyLines "\"it's a\" + rb'\\'b' if k else '''c \"d'''".toList)).any
      (fun ls => ls.all Lexeme.isPlain && decide (LiteralsApart ls) && decide (literals ls =
        ["\"it's a\"".toList, "rb'\\'b'".toList, "'''c \"d'''".toList])) = true := by
    decide +kernel
  obtain ⟨ls, hls, h⟩ := (Option.any_eq_true _ _).1 h
  simp only [Bool.and_eq_true, List.all_eq_true, decide_eq_true_eq] at h
  obtain ⟨⟨hplain, hapart⟩, hlits⟩ := h
  exact ⟨_, ls, rfl, hls, by decide, hplain, hapart, hlits,
    literals_kept hls (by decide) hplain hapart⟩

/-- Directly behind a word, a literal is not found, and names in it get the scope. -/
theorem not_literals_kept :
    Parser.parse? "x or'a b'".toList = some (.connect .or [.name ['x'], .text "a b".toList]) ∧
      (lexemes? "x or'a b'".toList).map literals = some ["'a b'".toList] ∧
      scoped? scopeName "x or'a b'".toList = some "scope.x or'scope.a scope.b'".toList ∧
      (lexemes? "scope.x or'scope.a scope.b'".toList).map literals =
        some ["'scope.a scope.b'".toList] := by
  refine ⟨?_, by decide +kernel, by decide +kernel, by decide +kernel⟩
  rw [Parser.parse?_eq (c := [.name ['x'], .keyword .or_, .string [] ['\''] "a b".toList])
    (by decide +kernel)]
  cbv

end Scoping

end Stencil
