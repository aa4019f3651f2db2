import Stencil.Proofs.Template.Segments

/-! # Separators between quotes

A separator inside of a string literal cuts no pipeline: a scan that is outside of quotes in front
of the literal is between quotes inside of it, and outside of quotes behind it. Three quotes are to
the scan an empty literal and the quote of another one, so no bare quote of their kind may stand
between them. -/
namespace Stencil

namespace Quotation

variable {q : Char} {e e' : Bool} {s r body : Text}

/-- Whether a backslash takes along what stands behind the text, if one takes along its first
character or not. There is no answer if a quote `q` stands bare in the text. -/
def escapesBehind? (q : Char) (e : Bool) : Text → Option Bool
  | [] => some e
  | c :: s =>
    if e then escapesBehind? q false s
    else if c = q then none
    else escapesBehind? q (c == '\\') s

theorem escapesBehind?_of_ne {c : Char} (hc : c ≠ q) (s : Text) :
    escapesBehind? q false (c :: s) = escapesBehind? q (c == '\\') s := by
  simp [escapesBehind?, hc]

/-- A text without bare quotes does not begin with one. -/
theorem escapesBehind?_cons {c : Char} (h : escapesBehind? q false (c :: s) = some e) :
    c ≠ q ∧ escapesBehind? q (c == '\\') s = some e := by
  by_cases hc : c = q
  · simp [escapesBehind?, hc] at h
  · exact ⟨hc, escapesBehind?_of_ne hc s ▸ h⟩

theorem escapesBehind?_unifyLines (hr : q ≠ '\r') (hn : q ≠ '\n') (e : Bool) (s : Text) :
    escapesBehind? q e (Lexer.unifyLines s) = escapesBehind? q e s := by
  fun_induction Lexer.unifyLines s generalizing e with
  | case1 => rfl
  | case2 s ih => cases e <;> simp [escapesBehind?, hr.symm, hn.symm, ih]
  | case3 s _ ih => cases e <;> simp [escapesBehind?, hr.symm, hn.symm, ih]
  | case4 c s _ _ ih => simp only [escapesBehind?, ih]

/-- No quote stands bare in a literal on one line, and the one behind it closes it. -/
theorem escapesBehind?_of_scanLine? (h : scanLine? q s = some (body, r)) :
    escapesBehind? q false body = some false := by
  fun_induction scanLine? q s generalizing body with
  | case1 => cases h
  | case2 s =>
    cases h
    rfl
  | case3 => cases h
  | case4 => cases h
  | case5 d s hq hn ih =>
    obtain ⟨p, hp, he⟩ := Option.map_eq_some_iff.1 h
    cases he
    rw [escapesBehind?_of_ne hq]
    exact ih hp
  | case6 c s hq hn hb ih =>
    obtain ⟨p, hp, he⟩ := Option.map_eq_some_iff.1 h
    cases he
    rw [escapesBehind?_of_ne hq, beq_eq_false_iff_ne.2 hb]
    exact ih hp

/-- No backslash takes the quotes along that close a literal in three of them. -/
theorem IsBlock.escapesBehind?_eq (hq : q ≠ '\\')
    (h : IsBlock q (if e then '\\' :: body else body)) (he : escapesBehind? q e body = some e') :
    e' = false := by
  -- Behind a backslash, the body is still read together with it.
  induction body generalizing e with
  | nil =>
    cases e with
    | false => exact (Option.some.inj he).symm
    | true =>
      have hread := h []
      simp [scanBlock?_escape hq] at hread
  | cons c body ih =>
    cases e with
    | true =>
      refine ih (fun r => ?_) he
      have hread := h r
      rw [if_pos rfl, List.cons_append, List.cons_append, scanBlock?_escape hq] at hread
      obtain ⟨p, hp, hpr⟩ := Option.map_eq_some_iff.1 hread
      cases hpr
      exact hp
    | false =>
      obtain ⟨hc, he⟩ := escapesBehind?_cons he
      by_cases hb : c = '\\'
      · subst hb
        exact ih h he
      · rw [beq_eq_false_iff_ne.2 hb] at he
        refine ih (fun r => ?_) he
        have hread := h r
        rw [if_neg Bool.false_ne_true, List.cons_append, scanBlock?_plain hc hb] at hread
        obtain ⟨p, hp, hpr⟩ := Option.map_eq_some_iff.1 hread
        cases hpr
        exact hp

end Quotation

namespace Lexer.Lexeme

/-- A stretch that is passed over up to the end of its line. -/
def isComment (l : Lexeme) : Bool := l.token?.isNone && l.text.head? == some '#'

/-- Inside of three quotes, no quote of their kind stands bare. -/
def isShielded (l : Lexeme) : Bool :=
  match l.token? with
  | some (.string _ (q :: _ :: _) body) => (Quotation.escapesBehind? q false body).isSome
  | _ => true

end Lexer.Lexeme

namespace Pipeline

variable {sep q : Char} {s t r a : Text} {σ : Scan}

/-! ## Between quotes -/

/-- The mode between the quotes `q`. -/
def Mode.between (q : Char) (e : Bool) : Mode := if e then .escaped q else .quoted q

/-- Between quotes nothing is cut, and no bracket counts. -/
theorem isWhole_of_between (sep : Char) {e e' : Bool} (h : Quotation.escapesBehind? q e s = some e')
    (hσ : σ.mode = .between q e) (r : Text) :
    IsWhole sep σ s r ∧ (s.foldl Scan.step σ).mode = .between q e' ∧
      (s.foldl Scan.step σ).depth = σ.depth := by
  induction s generalizing σ e with
  | nil =>
    cases h
    exact ⟨.nil σ r, hσ, rfl⟩
  | cons c s ih =>
    have hcut : ∀ next, σ.cuts sep c next = false := by
      intro next
      cases e <;> simp [Scan.cuts, hσ, Mode.between]
    obtain ⟨e'', hmode, hdepth, hrest⟩ : ∃ e'', (σ.step c).mode = .between q e'' ∧
        (σ.step c).depth = σ.depth ∧ Quotation.escapesBehind? q e'' s = some e' := by
      cases e with
      | true => exact ⟨false, by rw [Scan.step, hσ]; rfl, by rw [Scan.step, hσ]; rfl, h⟩
      | false =>
        obtain ⟨hc, h⟩ := Quotation.escapesBehind?_cons h
        refine ⟨c == '\\', ?_, ?_, h⟩ <;> by_cases hb : c = '\\' <;>
          simp [Scan.step, hσ, Mode.between, hb, hc]
    obtain ⟨hwhole, hmode', hdepth'⟩ := ih hrest hmode
    exact ⟨.cons (hcut _) hwhole, hmode', hdepth'.trans hdepth⟩

/-- A text that leaves no trace in a scan outside of quotes: nothing in it is cut, and the scan is
outside of quotes behind it. -/
structure IsKept (sep : Char) (s : Text) : Prop where
  isWhole : ∀ (σ : Scan) (r : Text), σ.mode = .plain → IsWhole sep σ s r
  isLevel : IsLevel s

theorem IsKept.append (hs : IsKept sep s) (ht : IsKept sep t) : IsKept sep (s ++ t) where
  isWhole σ r hσ := (hs.isWhole σ (t ++ r) hσ).append (ht.isWhole _ r (hs.isLevel σ hσ).1)
  isLevel := hs.isLevel.append ht.isLevel

theorem isKept_of_not_mem (hs : sep ∉ s) (h : ∀ c ∈ s, isInert c = true) : IsKept sep s where
  isWhole σ r _ := isWhole_of_not_mem hs σ r
  isLevel := isLevel_of_isInert h

/-- A text between quotes that its quote closes is kept. -/
theorem isKept_quoted (hq : isQuote q = true) (hsep : q ≠ sep)
    (h : Quotation.escapesBehind? q false s = some false) : IsKept sep (q :: (s ++ [q])) := by
  have hopen : ∀ σ : Scan, σ.mode = .plain → σ.step q = ⟨.between q false, σ.depth, some q⟩ := by
    intro σ hσ
    simp [Scan.step, hσ, hq, Mode.between]
  have hclose : ∀ σ : Scan, σ.mode = .between q false → σ.step q = ⟨.plain, σ.depth, some q⟩ := by
    intro σ hσ
    have hb : q ≠ '\\' := by
      rintro rfl
      cases hq
    simp [Scan.step, hσ, Mode.between, hb]
  constructor
  · intro σ r hσ
    obtain ⟨hwhole, hmode, -⟩ :=
      isWhole_of_between sep h (congrArg Scan.mode (hopen σ hσ)) (q :: r)
    refine .cons (not_cuts_of_ne hsep σ _) (.append ?_ ?_)
    · exact hwhole
    · exact .cons (not_cuts_of_ne hsep _ _) (.nil _ r)
  · intro σ hσ
    obtain ⟨-, hmode, hdepth⟩ :=
      isWhole_of_between sep h (congrArg Scan.mode (hopen σ hσ)) []
    rw [List.foldl_cons, List.foldl_append, List.foldl_cons, List.foldl_nil, hclose _ hmode,
      hdepth, hopen σ hσ]
    exact ⟨rfl, rfl⟩

theorem isKept_block (hq : isQuote q = true) (hsep : q ≠ sep)
    (h : Quotation.escapesBehind? q false s = some false) :
    IsKept sep (q :: q :: q :: (s ++ [q, q, q])) := by
  have hempty : IsKept sep (q :: ([] ++ [q])) := isKept_quoted hq hsep rfl
  have happ : q :: q :: q :: (s ++ [q, q, q]) =
      (q :: ([] ++ [q])) ++ (q :: (s ++ [q])) ++ (q :: ([] ++ [q])) := by simp
  rw [happ]
  exact (hempty.append (isKept_quoted hq hsep h)).append hempty

/-! ## Literals among lexemes -/

open Lexer Lexer.Lexeme

/-- A text with margins on one line, before its line ends are made one. -/
theorem exists_unifyLines_eq {u v : Text} (hu : '\n' ∉ u) (hv : '\n' ∉ v)
    (h : unifyLines a = u ++ (s ++ v)) : ∃ b, a = u ++ (b ++ v) ∧ unifyLines b = s := by
  obtain ⟨x, y, rfl, hx, hy, -⟩ := unifyLines_eq_append h
  obtain ⟨b, z, rfl, hb, hz, -⟩ := unifyLines_eq_append hy
  have hxu : unifyLines x = x := unifyLines_eq_self (hx ▸ hu)
  have hzv : unifyLines z = z := unifyLines_eq_self (hz ▸ hv)
  exact ⟨b, by rw [← hx, ← hz, hxu, hzv], hb⟩

theorem isInert_of_isTag {tag : Text} (h : Quotation.isTag tag = true) :
    ∀ c ∈ tag, isInert c = true := by
  have hall : (tagLetters.all isInert) = true := by decide
  exact fun c hc => List.all_eq_true.1 hall c ((mem_tagLetters_of_isTag h).1 c hc)

theorem not_mem_of_isTag {tag : Text} (h : Quotation.isTag tag = true) : '\n' ∉ tag := by
  intro hn
  have := (mem_tagLetters_of_isTag h).1 '\n' hn
  revert this
  decide

/-- A shielded literal is kept from its opening quotes on. -/
theorem exists_isKept {l : Lexeme} (h : Shape r l) (hl : l.isString = true)
    (hs : l.isShielded = true) (hsep : isInert sep = true) (ha : unifyLines a = l.text) :
    ∃ tag quoted, a = tag ++ quoted ∧ Quotation.isTag tag = true ∧
      quoted.head?.any isQuote = true ∧ IsKept sep quoted := by
  have hne : ∀ q, isQuote q = true → q ≠ sep := by
    rintro q hq rfl
    rcases isQuote_iff.1 hq with rfl | rfl <;> cases hsep
  cases h with
  | @line tag body q htag hq hbody _ =>
    obtain ⟨hr, hn, -⟩ := Scoping.quote_facts hq
    obtain ⟨b, rfl, rfl⟩ := exists_unifyLines_eq (a := a) (u := tag ++ [q]) (s := body) (v := [q])
      (by simp [not_mem_of_isTag htag, hn.symm]) (by simp [hn.symm]) (by simp [ha])
    have hb := Quotation.escapesBehind?_of_scanLine? (hbody [])
    rw [Quotation.escapesBehind?_unifyLines hr hn] at hb
    exact ⟨tag, q :: (b ++ [q]), by simp, htag, hq, isKept_quoted hq (hne q hq) hb⟩
  | @block tag body q htag hq hbody =>
    obtain ⟨hr, hn, hqb⟩ := Scoping.quote_facts hq
    obtain ⟨b, rfl, rfl⟩ := exists_unifyLines_eq (a := a) (u := tag ++ [q, q, q]) (s := body)
      (v := [q, q, q]) (by simp [not_mem_of_isTag htag, hn.symm]) (by simp [hn.symm])
      (by simp [ha])
    obtain ⟨e, he⟩ := Option.isSome_iff_exists.1 hs
    obtain rfl : e = false := Quotation.IsBlock.escapesBehind?_eq (e := false) hqb hbody he
    rw [Quotation.escapesBehind?_unifyLines hr hn] at he
    exact ⟨tag, q :: q :: q :: (b ++ [q, q, q]), by simp, htag, hq,
      isKept_block hq (hne q hq) he⟩
  | word hc hd hw hr hq ht => rcases wordToken?_cases ht with ⟨k, rfl⟩ | rfl <;> cases hl
  | _ => cases hl

/-- Outside of literals and comments there are no quotes. -/
theorem not_isQuote_of_not_isComment {l : Lexeme} (h : Shape r l) (hl : l.isString = false)
    (hc : l.isComment = false) : ∀ c ∈ l.text, isQuote c = false := by
  refine Scoping.not_isQuote_of_shape h hl ?_
  cases h with
  | blank hgap => rcases hgap with rfl | rfl | rfl <;> rfl
  | comment => simp [isComment] at hc
  | line => cases hl
  | block => cases hl
  | word hc hd hw hr hq ht => rcases wordToken?_cases ht with ⟨k, rfl⟩ | rfl <;> rfl
  | _ => rfl

theorem mode_foldl_of_not_isQuote (h : ∀ c ∈ s, isQuote c = false) (hσ : σ.mode = .plain) :
    (s.foldl Scan.step σ).mode = .plain := by
  induction s generalizing σ with
  | nil => exact hσ
  | cons c s ih =>
    obtain ⟨hc, hs⟩ := List.forall_mem_cons.1 h
    refine ih hs ?_
    simp only [Scan.step, hσ, hc, Bool.false_eq_true, if_false]
    split_ifs <;> rfl

/-- Behind lexemes without comments and with shielded literals, a scan is outside of quotes. -/
theorem mode_foldl_spelled {ls : List Lexeme} {u : Text} (h : Cut ls u)
    (hcomment : ∀ l ∈ ls, l.isComment = false) (hs : ∀ l ∈ ls, l.isShielded = true)
    (ha : unifyLines a = spelled ls) (hσ : σ.mode = .plain) :
    (a.foldl Scan.step σ).mode = .plain := by
  induction ls generalizing a σ with
  | nil =>
    rw [Scoping.unifyLines_eq_nil ha]
    exact hσ
  | cons l ls ih =>
    obtain ⟨hl, hcomment⟩ := List.forall_mem_cons.1 hcomment
    obtain ⟨hls, hs⟩ := List.forall_mem_cons.1 hs
    obtain ⟨p, b, rfl, hp, hb, -⟩ := unifyLines_eq_append ha
    rw [List.foldl_append]
    refine ih h.2 hcomment hs hb ?_
    cases hstring : l.isString with
    | true =>
      obtain ⟨tag, quoted, rfl, htag, -, hkept⟩ :=
        exists_isKept h.1 hstring hls (rfl : isInert '|' = true) hp
      exact ((isLevel_of_isInert (isInert_of_isTag htag)).append hkept.isLevel σ hσ).1
    | false =>
      refine mode_foldl_of_not_isQuote (fun c hc => ?_) hσ
      by_cases hr : c = '\r'
      · rw [hr]
        rfl
      · exact not_isQuote_of_not_isComment h.1 hstring hl c (hp ▸ mem_unifyLines hr hc)

/-! ## The segment of a literal -/

/-- A text is cut as it stands in front of another one: its last segment goes on there. -/
theorem exists_segments_append (sep : Char) (σ : Scan) (a r : Text) :
    ∃ xs p, Text.join [sep] (xs ++ [p]) = a ∧
      segments sep σ (a ++ r) =
        xs ++ (segments sep (a.foldl Scan.step σ) r).modifyHead (p ++ ·) := by
  induction a generalizing σ with
  | nil =>
    obtain ⟨t, ts, hts⟩ := exists_segments_eq sep σ r
    exact ⟨[], [], rfl, by simp [hts]⟩
  | cons c a ih =>
    obtain ⟨xs, p, hjoin, hseg⟩ := ih (σ.step c)
    rw [List.cons_append, segments, hseg, List.foldl_cons]
    split_ifs with hcut
    · obtain rfl := eq_of_cuts hcut
      refine ⟨[] :: xs, p, ?_, rfl⟩
      rw [← hjoin]
      cases xs <;> simp [Text.join]
    · rcases xs with _ | ⟨x, xs⟩
      · refine ⟨[], c :: p, by rw [← hjoin]; rfl, ?_⟩
        simp [List.modifyHead_modifyHead, Function.comp_def]
      · refine ⟨(c :: x) :: xs, p, ?_, rfl⟩
        rw [← hjoin]
        cases xs <;> simp [Text.join]

/-- The text `t` between `a` and `b` lies in one segment: the cuts are those of `a` and of `b`. -/
def LiesWhole (sep : Char) (a t b : Text) : Prop :=
  ∃ xs p q ys, segments sep .start (a ++ t ++ b) = xs ++ (p ++ t ++ q) :: ys ∧
    Text.join [sep] (xs ++ [p]) = a ∧ Text.join [sep] (q :: ys) = b

theorem liesWhole_of_isWhole {b : Text} (h : IsWhole sep (a.foldl Scan.step .start) t b) :
    LiesWhole sep a t b := by
  obtain ⟨xs, p, hjoin, hseg⟩ := exists_segments_append sep .start a (t ++ b)
  obtain ⟨q, ys, hb⟩ := exists_segments_eq sep (t.foldl Scan.step (a.foldl Scan.step .start)) b
  refine ⟨xs, p, q, ys, ?_, hjoin, by rw [← hb, join_segments]⟩
  rw [List.append_assoc, hseg, h, hb]
  simp

theorem LiesWhole.exists_length_le {b : Text} (h : LiesWhole sep a t b) :
    ∃ u ∈ segments sep .start (a ++ t ++ b), t.length ≤ u.length := by
  obtain ⟨xs, p, q, ys, hseg, -⟩ := h
  refine ⟨p ++ t ++ q, ?_, by simp only [List.length_append]; omega⟩
  rw [hseg]
  exact List.mem_append_right xs List.mem_cons_self

/-- A string literal lies in one segment between its quotes, if it and the literals in front of it
are shielded and no comment stands there. Its tag does so too unless it holds the separator. -/
theorem literals_whole (d : Dialect) {s : Text} {before after : List Lexeme} {l : Lexeme}
    (h : lexemes? (unifyLines s) = some (before ++ l :: after)) (hl : l.isString = true)
    (hcomment : ∀ m ∈ before, m.isComment = false)
    (hshielded : ∀ m ∈ before ++ [l], m.isShielded = true) :
    ∃ a tag quoted b, s = a ++ (tag ++ quoted) ++ b ∧ unifyLines a = spelled before ∧
      unifyLines (tag ++ quoted) = l.text ∧ unifyLines b = spelled after ∧
      Quotation.isTag tag = true ∧ quoted.head?.any isQuote = true ∧
      LiesWhole d.separator (a ++ tag) quoted b ∧
      (d.separator ∉ tag → LiesWhole d.separator a (tag ++ quoted) b) := by
  obtain ⟨hs, hcut⟩ := lexemes?_eq_some_iff.1 h
  obtain ⟨hbefore, hshape, -⟩ := cut_append.1 hcut
  rw [spelled_append, spelled_cons] at hs
  obtain ⟨a, s, rfl, ha, hs, -⟩ := unifyLines_eq_append hs
  obtain ⟨t, b, rfl, ht, hb, -⟩ := unifyLines_eq_append hs
  obtain ⟨hfront, hself⟩ := List.forall_mem_append.1 hshielded
  obtain ⟨tag, quoted, rfl, htag, hquote, hkept⟩ :=
    exists_isKept hshape hl (hself l (by simp)) (isInert_separator d) ht
  have hmode : (a.foldl Scan.step .start).mode = .plain :=
    mode_foldl_spelled hbefore hcomment hfront ha rfl
  have hinert := isInert_of_isTag htag
  refine ⟨a, tag, quoted, b, by simp, ha, ht, hb, htag, hquote, ?_, fun hsep => ?_⟩
  · refine liesWhole_of_isWhole (hkept.isWhole _ b ?_)
    rw [List.foldl_append]
    exact (isLevel_of_isInert hinert _ hmode).1
  · exact liesWhole_of_isWhole (((isKept_of_not_mem hsep hinert).append hkept).isWhole _ b hmode)

/-- Bars, brackets and quotes between quotes of both kinds, in front of a filter. -/
theorem literals_whole_filter :
    ∃ (s : Text) (before after : List Lexeme) (l : Lexeme),
      s = "r'|\\'(' + \"\"\"it's |\\\"\"\"\" | f".toList ∧
      lexemes? (unifyLines s) = some (before ++ l :: after) ∧ l.isString = true ∧
      (∀ m ∈ before, m.isComment = false) ∧ (∀ m ∈ before ++ [l], m.isShielded = true) ∧
      l.text = "\"\"\"it's |\\\"\"\"\"".toList ∧
      (∃ a tag quoted b, s = a ++ (tag ++ quoted) ++ b ∧ unifyLines a = spelled before ∧
        unifyLines (tag ++ quoted) = l.text ∧ unifyLines b = spelled after ∧
        Quotation.isTag tag = true ∧ quoted.head?.any isQuote = true ∧
        LiesWhole Dialect.standard.separator (a ++ tag) quoted b ∧
        (Dialect.standard.separator ∉ tag →
          LiesWhole Dialect.standard.separator a (tag ++ quoted) b)) ∧
      expand Dialect.standard.separator s = "f(r'|\\'(' + \"\"\"it's |\\\"\"\"\")".toList := by
  have h : lexemes? (unifyLines "r'|\\'(' + \"\"\"it's |\\\"\"\"\" | f".toList) =
      some ([⟨"r'|\\'('".toList, some (.string ['r'] ['\''] "|\\'(".toList)⟩, ⟨[' '], none⟩,
          ⟨['+'], some (.symbol .plus)⟩, ⟨[' '], none⟩] ++
        ⟨"\"\"\"it's |\\\"\"\"\"".toList,
          some (.string [] ['"', '"', '"'] "it's |\\\"".toList)⟩ ::
        [⟨[' '], none⟩, ⟨['|'], some (.symbol .bar)⟩, ⟨[' '], none⟩,
          ⟨['f'], some (.name ['f'])⟩]) := by
    decide +kernel
  exact ⟨_, _, _, _, rfl, h, by decide, by decide, by decide, rfl,
    literals_whole .standard h (by decide) (by decide) (by decide), by decide +kernel⟩

/-- A bare quote between three of its kind ends the literal for the scan, and the bar behind it cuts
the literal in two. A separator that is the tag of a literal cuts it off. -/
theorem not_literals_whole :
    (∃ l : Lexeme, l.text = "'''a'|b'''".toList ∧ l.isString = true ∧ l.isComment = false ∧
      lexemes? (unifyLines l.text) = some [l] ∧
      ¬LiesWhole Dialect.standard.separator [] l.text [] ∧
      segments Dialect.standard.separator .start l.text = ["'''a'".toList, "b'''".toList] ∧
      expand Dialect.standard.separator l.text = "b'''('''a')".toList) ∧
    ∃ (d : Dialect) (l : Lexeme), d.separator = 'r' ∧ l.text = "r'x'".toList ∧
      l.isString = true ∧ l.isComment = false ∧ lexemes? (unifyLines l.text) = some [l] ∧
      ¬LiesWhole d.separator [] l.text [] := by
  constructor
  · refine ⟨⟨"'''a'|b'''".toList, some (.string [] ['\'', '\'', '\''] "a'|b".toList)⟩, rfl, rfl,
      rfl, by decide +kernel, fun h => ?_, by decide +kernel, by decide +kernel⟩
    obtain ⟨u, hu, hlen⟩ := h.exists_length_le
    revert u
    decide +kernel
  · refine ⟨{ Dialect.standard with separator := 'r', separator_free := by decide },
      ⟨"r'x'".toList, some (.string ['r'] ['\''] ['x'])⟩, rfl, rfl, rfl, rfl,
      by decide +kernel, fun h => ?_⟩
    obtain ⟨u, hu, hlen⟩ := h.exists_length_le
    revert u
    decide +kernel

end Pipeline

end Stencil
