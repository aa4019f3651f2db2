import Stencil.Proofs.Expr.Contents
import Stencil.Proofs.Template.Concatenation

/-! # Acceptance of one interpolation and of many

Alone, the code of an interpolation stands in square brackets, and among other pieces in
parentheses. Code that keeps to its brackets is accepted alike in both, three cases apart: code that
holds nothing is an empty tuple in parentheses, a spread is nothing there, and two more brackets
around it leave less room for its own. -/
namespace Stencil

open Operand

/-- The code holds no expression. -/
def IsBlankCode (code : Text) : Prop := Parser.parse? (bracketed code) = some (.list [])

/-- The code is a spread and nothing else. -/
def IsSpreadCode (code : Text) : Prop :=
  ∃ ts m e, Lexer.Holds code ts ∧ Parser.element m (Lexer.unbroken ts) = some (.spread e, [])

/-- The code is an expression in parentheses that may be used. -/
def IsUsableInParens (code : Text) : Prop :=
  ∃ e, Parser.parse? ('(' :: code ++ [')']) = some e ∧ e.IsAdmissible

/-- The code is a source that may be used. -/
def IsUsableAlone (code : Text) : Prop :=
  ∃ es, es ≠ [] ∧ Parser.parse? (bracketed code) = some (.list es) ∧ (Expr.listed es).IsAdmissible

theorem Expr.isAdmissible_listed_iff (es : List Expr) :
    (Expr.listed es).IsAdmissible ↔ ∀ e ∈ es, e.IsAdmissible := by
  unfold listed
  split
  next e =>
    split_ifs
    · exact isAdmissible_tuple_iff [e]
    · simp
  next => exact isAdmissible_tuple_iff es

section Code

variable {code : Text} {ts : List Token} {v : Expr}

theorem parse?_parens_iff (h : Lexer.Holds code ts) (hn : Nests (Lexer.maxDepth - 1) ts)
    (h₀ : Char.ofNat 0 ∉ code) : Parser.parse? ('(' :: code ++ [')']) = some v ↔
      Parser.IsOperand (Parser.inParens (Lexer.unbroken ts)) v :=
  Parser.parse?_eq_some_iff (Lexer.tokens?_inParens h hn h₀)
    (Parser.isDelimited_parens ⟨_, hn.filter⟩)

theorem parse?_bracketed_iff (h : Lexer.Holds code ts) (hn : Nests (Lexer.maxDepth - 1) ts)
    (h₀ : Char.ofNat 0 ∉ code) : Parser.parse? (bracketed code) = some v ↔
      Parser.IsOperand (Parser.inSquares (Lexer.unbroken ts)) v := by
  have key : ∀ us, Lexer.Holds (code ++ ['\n']) us → Nests (Lexer.maxDepth - 1) us →
      Lexer.unbroken us = Lexer.unbroken ts → (Parser.parse? (bracketed code) = some v ↔
        Parser.IsOperand (Parser.inSquares (Lexer.unbroken ts)) v) := by
    intro us hus hnus he
    have htok := Lexer.tokens?_inSquares hus hnus (by simpa using h₀)
    rw [he] at htok
    have hb : bracketed code = '[' :: (code ++ ['\n']) ++ [']'] := by simp [bracketed]
    rw [hb]
    exact Parser.parse?_eq_some_iff htok (Parser.isDelimited_squares ⟨_, hn.filter⟩)
  rcases h.newline with h' | h'
  · exact key ts h' hn rfl
  · exact key _ h' (hn.append (.plain rfl .nil)) (by simp [Lexer.unbroken])

theorem not_mem_of_parse? {s : Text} (h : Parser.parse? s = some v) : Char.ofNat 0 ∉ s := by
  obtain ⟨us, hus, -⟩ := Option.bind_eq_some_iff.1 h
  exact Lexer.not_mem_of_tokens? hus

open Stencil.Parser in
/-- What tokens in parentheses are and what they are in square brackets. -/
theorem usable_iff {c : Tokens} (hb : Balanced c) :
    (∃ e, IsOperand (inParens c) e ∧ e.IsAdmissible) ↔
      IsOperand (inSquares c) (.list []) ∨
        (∃ es, es ≠ [] ∧ IsOperand (inSquares c) (.list es) ∧ (Expr.listed es).IsAdmissible) ∧
          ¬∃ m e, element m c = some (.spread e, []) := by
  rcases eq_or_ne c [] with rfl | hne
  · simp only [isOperand_inParens_nil_iff, isOperand_inSquares_nil_iff]
    exact ⟨fun _ => .inl trivial, fun _ => ⟨_, rfl, (Expr.isAdmissible_tuple_iff []).2 nofun⟩⟩
  constructor
  · rintro ⟨v, hv, ha⟩
    right
    have hy : c.head? ≠ some (.keyword .yield_) := by
      intro hy
      obtain ⟨k, rfl⟩ := construct_of_yield hy hv
      exact Expr.not_isAdmissible_construct k ha
    refine ⟨?_, fun ⟨m, e, he⟩ => not_isOperand_of_spread hb he hv⟩
    obtain ⟨e, content, hc⟩ := content_of_inParens hb hne hy hv
    rw [isOperand_inParens_iff hc hb hy] at hv
    simp only [isOperand_inSquares_iff hc hb, Expr.isAdmissible_listed_iff]
    cases content with
    | one =>
      simp only [DisplayKind.value, DisplayKind.parens] at hv
      split_ifs at hv
      obtain rfl := Option.some.inj hv
      exact ⟨_, by simp, rfl, by simpa using ha⟩
    | more es =>
      cases hv
      exact ⟨e :: es, by simp, rfl, (Expr.isAdmissible_tuple_iff _).1 ha⟩
    | iteration =>
      cases hv
      exact absurd ha (Expr.not_isAdmissible_construct _)
  · rintro (hv | ⟨⟨es, -, hv, ha⟩, hs⟩)
    · obtain ⟨-, e, content, hc⟩ := content_of_inSquares hb hne hv
      rw [isOperand_inSquares_iff hc hb] at hv
      cases content <;> cases hv
    · obtain ⟨hy, e, content, hc⟩ := content_of_inSquares hb hne hv
      rw [isOperand_inSquares_iff hc hb] at hv
      rw [Expr.isAdmissible_listed_iff] at ha
      simp only [isOperand_inParens_iff hc hb hy]
      cases content with
      | one =>
        cases hv
        have he : e.isSpread = false := by
          cases h : e.isSpread with
          | false => rfl
          | true =>
            obtain ⟨x, rfl⟩ := Expr.exists_spread h
            obtain ⟨m, hm⟩ := hc.element
            exact absurd ⟨m, x, hm⟩ hs
        exact ⟨e, by simp [DisplayKind.value, DisplayKind.parens, he], ha e (by simp)⟩
      | more es =>
        cases hv
        exact ⟨_, rfl, (Expr.isAdmissible_tuple_iff _).2 ha⟩
      | iteration => cases hv

/-- Code in parentheses may be used if it holds nothing, or if it may be used alone and is no
spread. -/
theorem isUsableInParens_iff (h : EnclosedWithin room code) :
    IsUsableInParens code ↔ IsBlankCode code ∨ IsUsableAlone code ∧ ¬IsSpreadCode code := by
  obtain ⟨ts, hts, hn⟩ := h
  have hn := hn.mono (k := Lexer.maxDepth - 1) (by decide)
  by_cases h₀ : Char.ofNat 0 ∈ code
  · have hsquares : ∀ v, Parser.parse? (bracketed code) ≠ some v := fun v hv =>
      not_mem_of_parse? hv (by simp [bracketed, h₀])
    constructor
    · rintro ⟨e, he, -⟩
      exact absurd (by simp [h₀]) (not_mem_of_parse? he)
    · rintro (hb | ⟨⟨es, -, hes, -⟩, -⟩)
      · exact absurd hb (hsquares _)
      · exact absurd hes (hsquares _)
  have hspread : IsSpreadCode code ↔
      ∃ m e, Parser.element m (Lexer.unbroken ts) = some (.spread e, []) := by
    constructor
    · rintro ⟨us, m, e, hus, he⟩
      exact ⟨m, e, hts.unique hus ▸ he⟩
    · rintro ⟨m, e, he⟩
      exact ⟨ts, m, e, hts, he⟩
  simp only [IsUsableInParens, IsBlankCode, IsUsableAlone, parse?_parens_iff hts hn h₀,
    parse?_bracketed_iff hts hn h₀, hspread]
  exact usable_iff ⟨_, hn.filter⟩

end Code

namespace Operand

/-- Texts may be used, and so may codes that leave room for their parentheses and may be used in
them. -/
def IsUsable : Operand → Prop
  | text _ => True
  | code s => EnclosedWithin room s ∧ IsUsableInParens s

theorem isUsable_iff {o : Operand} : o.IsUsable ↔
    (∀ s, o = code s → EnclosedWithin room s) ∧ ∃ e, o.value? = some e ∧ e.IsAdmissible := by
  cases o with
  | text s =>
    exact ⟨fun _ => ⟨nofun, _, rfl, Expr.isAdmissible_text s⟩, fun _ => trivial⟩
  | code s =>
    refine and_congr_left fun _ => ⟨fun h t ht => ?_, fun h => h s rfl⟩
    cases ht
    exact h

/-- Put together, operands may be used if and only if each of them may be. -/
theorem isUsableAlone_recombined_iff {os : List Operand} (h : ∀ s, code s ∈ os → Enclosed s) :
    IsUsableAlone (recombined os) ↔ ∀ o ∈ os, o.IsUsable := by
  have hadm : ∀ es : List Expr,
      (Expr.listed [es.foldl (.binary .add) (.text [])]).IsAdmissible ↔
        ∀ e ∈ es, e.IsAdmissible := by
    intro es
    rw [Expr.listed_foldl, Expr.isAdmissible_foldl_iff]
    exact and_iff_right (Expr.isAdmissible_text [])
  simp only [isUsable_iff]
  constructor
  · rintro ⟨xs, -, hxs, ha⟩
    obtain ⟨hroom, es, hes⟩ := of_parse?_recombined h hxs
    cases (parse?_recombined hroom hes).symm.trans hxs
    have hall := exists_mapM_iff.1 ⟨es, hes, (hadm es).1 ha⟩
    exact fun o ho => ⟨fun s hs => hroom s (hs ▸ ho), hall o ho⟩
  · intro hall
    obtain ⟨es, hes, ha⟩ := exists_mapM_iff.2 fun o ho => (hall o ho).2
    have hroom : ∀ s, code s ∈ os → EnclosedWithin room s := fun s hs => (hall _ hs).1 s rfl
    exact ⟨_, by simp, parse?_recombined hroom hes, (hadm es).2 ha⟩

end Operand

namespace Template

variable {d : Dialect} {s : Text}

theorem name_holds_something :
    ¬IsBlankCode "scope.a".toList ∧ ¬IsSpreadCode "scope.a".toList := by
  have hparse : Parser.parse? (bracketed "scope.a".toList) =
      some (.list [.member (.name Scoping.scopeName) ['a']]) := by
    rw [Parser.parse?_eq (c := Parser.inSquares
      [.name "scope".toList, .symbol .dot, .name ['a']]) (by decide +kernel)]
    cbv
  have hblank : ¬IsBlankCode "scope.a".toList := by
    intro h
    cases hparse.symm.trans h
  have husable : IsUsableInParens "scope.a".toList := ⟨_, parse?_name, rfl, rfl⟩
  exact ⟨hblank, ((isUsableInParens_iff enclosedWithin_name).1 husable).resolve_left hblank |>.2⟩

/-- Does the template compile to something to evaluate? -/
def Accepts (d : Dialect) (s : Text) : Prop := ∃ c, compile d s = .ok (.compiled c)

/-- Does the interpolation compile when it is the only piece? -/
def AcceptsAlone (d : Dialect) (v : Text) : Prop :=
  v ≠ [] ∧ ∃ src c, Source.ofPieces? d [.interpolation v] = some src ∧
    Compiled.ofSource src v = .ok c

/-- The interpolation leaves room for the parentheses around it, and it holds nothing or is accepted
alone and no spread. -/
def AcceptsAmong (d : Dialect) (v : Text) : Prop :=
  v ≠ [] ∧ ∃ code, Source.code? d v = some code ∧ EnclosedWithin room code ∧
    (IsBlankCode code ∨ AcceptsAlone d v ∧ ¬IsSpreadCode code)

theorem ofPieces?_single (d : Dialect) (v : Text) :
    Source.ofPieces? d [.interpolation v] = Source.code? d v := by
  rw [Source.ofPieces?, Source.fragment?]
  simp

theorem acceptsAlone_iff {v : Text} : AcceptsAlone d v ↔
    v ≠ [] ∧ ∃ code, Source.code? d v = some code ∧ IsUsableAlone code := by
  refine and_congr_right fun _ => ?_
  rw [ofPieces?_single]
  constructor
  · rintro ⟨code, c, hcode, hc⟩
    obtain ⟨es, hne, hes, ha, -⟩ := Compiled.ofSource_eq_ok_iff.1 hc
    exact ⟨code, hcode, es, hne, hes, ha⟩
  · rintro ⟨code, hcode, es, hne, hes, ha⟩
    exact ⟨code, _, hcode, Compiled.ofSource_eq_ok_iff.2 ⟨es, hne, hes, ha, rfl⟩⟩

theorem acceptsAmong_iff {v : Text} : AcceptsAmong d v ↔
    v ≠ [] ∧ ∃ code, Source.code? d v = some code ∧
      EnclosedWithin room code ∧ IsUsableInParens code := by
  refine and_congr_right fun hne => exists_congr fun code => and_congr_right fun hcode =>
    and_congr_right fun hw => ?_
  have halone : AcceptsAlone d v ↔ IsUsableAlone code := by
    rw [acceptsAlone_iff]
    constructor
    · rintro ⟨-, code', hcode', hu⟩
      cases hcode.symm.trans hcode'
      exact hu
    · exact fun hu => ⟨hne, code, hcode, hu⟩
  rw [halone, isUsableInParens_iff hw]

theorem any_isEmptyInterpolation_iff (ps : List Piece) :
    ps.any isEmptyInterpolation = false ↔ ∀ v, Piece.interpolation v ∈ ps → v ≠ [] := by
  rw [List.any_eq_false]
  constructor
  · rintro h v hv rfl
    exact h _ hv rfl
  · rintro h p hp he
    cases p with
    | literal t => cases he
    | interpolation v => exact h v hp (List.isEmpty_iff.1 he)

theorem accepts_iff : Accepts d s ↔ Piece.occursIn d (Text.strip s) = true ∧
    (∀ v, .interpolation v ∈ Piece.ofText d (Text.strip s) → v ≠ []) ∧
      ∃ src, Source.ofPieces? d (Piece.ofText d (Text.strip s)) = some src ∧
        IsUsableAlone src := by
  rw [← any_isEmptyInterpolation_iff]
  constructor
  · rintro ⟨c, hc⟩
    obtain ⟨ho, he, src, hsrc, hc⟩ := compile_eq_ok_iff.1 hc
    obtain ⟨es, hne, hes, ha, -⟩ := Compiled.ofSource_eq_ok_iff.1 hc
    exact ⟨ho, he, src, hsrc, es, hne, hes, ha⟩
  · rintro ⟨ho, he, src, hsrc, es, hne, hes, ha⟩
    exact ⟨_, compile_eq_ok_iff.2 ⟨ho, he, src, hsrc,
      Compiled.ofSource_eq_ok_iff.2 ⟨es, hne, hes, ha, rfl⟩⟩⟩

theorem accepts_iff_of_single {v : Text}
    (h : Piece.ofText d (Text.strip s) = [.interpolation v]) :
    Accepts d s ↔ AcceptsAlone d v := by
  rw [accepts_iff, acceptsAlone_iff, h, ofPieces?_single,
    and_iff_right (Piece.occursIn_of_mem (v := v) (by simp [h]))]
  simp

/-- If all codes keep to their brackets, the template is accepted if and only if each of its
interpolations is accepted among others. -/
theorem accepts_iff_acceptsAmong (hn : 2 ≤ (Piece.ofText d (Text.strip s)).length)
    (henc : ∀ v, .interpolation v ∈ Piece.ofText d (Text.strip s) → ∀ code,
      Source.code? d v = some code → Enclosed code) :
    Accepts d s ↔ ∀ v, .interpolation v ∈ Piece.ofText d (Text.strip s) → AcceptsAmong d v := by
  have hops : (∃ src, Source.ofPieces? d (Piece.ofText d (Text.strip s)) = some src ∧
      IsUsableAlone src) ↔ ∃ os, (Piece.ofText d (Text.strip s)).mapM (ofPiece? d) = some os ∧
        ∀ o ∈ os, o.IsUsable := by
    simp only [ofPieces?_eq hn, Option.map_eq_some_iff]
    constructor
    · rintro ⟨_, ⟨os, hos, rfl⟩, hu⟩
      exact ⟨os, hos, (isUsableAlone_recombined_iff fun code hc => by
        obtain ⟨v, hv, hcode⟩ := Piece.code_of_mem hos hc
        exact henc v hv code hcode).1 hu⟩
    · rintro ⟨os, hos, hu⟩
      exact ⟨_, ⟨os, hos, rfl⟩, (isUsableAlone_recombined_iff fun code hc => by
        exact (hu _ hc).1.enclosed).2 hu⟩
  rw [accepts_iff, and_iff_right (Piece.occursIn_of_length hn), hops, exists_mapM_iff]
  simp only [acceptsAmong_iff]
  constructor
  · rintro ⟨hne, hall⟩ v hv
    obtain ⟨o, ho, hu⟩ := hall _ hv
    obtain ⟨code, hcode, rfl⟩ := Option.map_eq_some_iff.1 ho
    exact ⟨hne v hv, code, hcode, hu⟩
  · intro hall
    refine ⟨fun v hv => (hall v hv).1, fun p hp => ?_⟩
    cases p with
    | literal t => exact ⟨_, rfl, trivial⟩
    | interpolation v =>
      obtain ⟨-, code, hcode, hu⟩ := hall v hp
      exact ⟨_, Option.map_eq_some_iff.2 ⟨code, hcode, rfl⟩, hu⟩

/-- A template with interpolations in which every code keeps to its brackets with room for two more,
holds something, and is no spread, is accepted if and only if each of its interpolations is accepted
alone. A template of a single piece is accepted as this piece, and a template whose codes only keep
to their brackets if its interpolations are accepted among others. -/
theorem acceptance_independent (ho : Piece.occursIn d (Text.strip s) = true) :
    ((Piece.ofText d (Text.strip s)).length = 1 ∨
        (∀ v, .interpolation v ∈ Piece.ofText d (Text.strip s) → ∀ code,
          Source.code? d v = some code →
            EnclosedWithin room code ∧ ¬IsBlankCode code ∧ ¬IsSpreadCode code) →
      (Accepts d s ↔
        ∀ v, .interpolation v ∈ Piece.ofText d (Text.strip s) → AcceptsAlone d v)) ∧
    (2 ≤ (Piece.ofText d (Text.strip s)).length →
      (∀ v, .interpolation v ∈ Piece.ofText d (Text.strip s) → ∀ code,
        Source.code? d v = some code → Enclosed code) →
      (Accepts d s ↔
        ∀ v, .interpolation v ∈ Piece.ofText d (Text.strip s) → AcceptsAmong d v)) := by
  refine ⟨fun h => ?_, accepts_iff_acceptsAmong⟩
  by_cases h₁ : (Piece.ofText d (Text.strip s)).length = 1
  · obtain ⟨v, hv⟩ := Piece.ofText_eq_singleton ho h₁
    simp [accepts_iff_of_single hv, hv]
  have hpos := List.length_pos_iff.2 (Piece.ofText_ne_nil ho)
  have hcodes := h.resolve_left h₁
  rw [accepts_iff_acceptsAmong (by omega) fun v hv code hcode =>
    (hcodes v hv code hcode).1.enclosed]
  refine forall₂_congr fun v hv => ?_
  constructor
  · rintro ⟨-, code, hcode, -, hu⟩
    exact (hu.resolve_left (hcodes v hv code hcode).2.1).1
  · intro ha
    obtain ⟨hne, code, hcode, -⟩ := acceptsAlone_iff.1 ha
    obtain ⟨hroom, -, hs⟩ := hcodes v hv code hcode
    exact ⟨hne, code, hcode, hroom, .inr ⟨ha, hs⟩⟩

/-- A name is accepted alone and with a text behind it. -/
theorem acceptance_independent_name_text :
    Accepts .standard "\x7b\x7b a \x7d\x7dx".toList ∧ AcceptsAlone .standard ['a'] ∧
      AcceptsAmong .standard ['a'] := by
  have h := acceptance_independent (Piece.occursIn_of_length (d := .standard)
    (s := Text.strip "\x7b\x7b a \x7d\x7dx".toList) (pieces_name_text ▸ (by decide)))
  rw [pieces_name_text] at h
  obtain ⟨hblank, hspread⟩ := name_holds_something
  have hcodes : ∀ v, .interpolation v ∈ [Piece.interpolation ['a'], .literal ['x']] → ∀ code,
      Source.code? .standard v = some code →
        EnclosedWithin room code ∧ ¬IsBlankCode code ∧ ¬IsSpreadCode code := by
    intro v hv code hcode
    refine ⟨enclosedWithin_of_mem_name_text hv hcode, ?_⟩
    obtain rfl : v = ['a'] := by simpa using hv
    cases code?_name.symm.trans hcode
    exact ⟨hblank, hspread⟩
  exact ⟨compile_name_text, (h.1 (.inr hcodes)).1 compile_name_text ['a'] (by simp),
    (h.2 (by decide) fun v hv code hcode => (hcodes v hv code hcode).1.enclosed).1
      compile_name_text ['a'] (by simp)⟩

/-- Next to other pieces a code is accepted that is none alone, and a code is not accepted that
is one alone. -/
theorem not_acceptance_independent :
    (Piece.ofText .standard (Text.strip "\x7b\x7b a) + (b \x7d\x7dx".toList) =
        [.interpolation "a) + (b".toList, .literal ['x']] ∧
      Accepts .standard "\x7b\x7b a) + (b \x7d\x7dx".toList ∧
      ¬AcceptsAlone .standard "a) + (b".toList) ∧
    Piece.ofText .standard (Text.strip "x\x7b\x7b a # \x7d\x7d".toList) =
        [.literal ['x'], .interpolation "a #".toList] ∧
      ¬Accepts .standard "x\x7b\x7b a # \x7d\x7d".toList ∧
      AcceptsAlone .standard "a #".toList := by
  have hsum : Parser.parse? (bracketed "'' + (scope.a) + (scope.b) + 'x'".toList) = some (.list
      [.binary .add
        (.binary .add (.binary .add (.text []) (.member (.name Scoping.scopeName) ['a']))
          (.member (.name Scoping.scopeName) ['b'])) (.text ['x'])]) := by
    rw [Parser.parse?_eq (c := Parser.inSquares (Text.Quoted.token [] :: Parser.chain
      [Parser.inParens [.name "scope".toList, .symbol .dot, .name ['a']],
        Parser.inParens [.name "scope".toList, .symbol .dot, .name ['b']],
        [Text.Quoted.token ['x']]])) (by decide +kernel)]
    cbv
  have hname : Parser.parse? (bracketed "scope.a #".toList) =
      some (.list [.member (.name Scoping.scopeName) ['a']]) := by
    rw [Parser.parse?_eq (c := Parser.inSquares
      [.name "scope".toList, .symbol .dot, .name ['a']]) (by decide +kernel)]
    cbv
  have hnone : ∀ {t : Text}, Lexer.tokens? (bracketed t) = none → ¬IsUsableAlone t := by
    rintro t ht ⟨es, -, hes, -⟩
    cases (Parser.parse?_eq_none ht).symm.trans hes
  refine ⟨⟨by decide +kernel, ?_, ?_⟩, by decide +kernel, ?_, ?_⟩
  · exact accepts_iff.2 ⟨by decide +kernel, (any_isEmptyInterpolation_iff _).1 (by decide +kernel),
      "'' + (scope.a) + (scope.b) + 'x'".toList, by decide +kernel, _, by simp, hsum, rfl, rfl⟩
  · rintro h
    obtain ⟨-, code, hcode, hu⟩ := acceptsAlone_iff.1 h
    have hc : Source.code? .standard "a) + (b".toList = some "scope.a) + (scope.b".toList := by
      decide +kernel
    cases hc.symm.trans hcode
    exact hnone (by decide +kernel) hu
  · rintro h
    obtain ⟨-, -, src, hsrc, hu⟩ := accepts_iff.1 h
    have hs : Source.ofPieces? .standard (Piece.ofText .standard
        (Text.strip "x\x7b\x7b a # \x7d\x7d".toList)) =
          some "'' + 'x' + (scope.a #)".toList := by decide +kernel
    cases hs.symm.trans hsrc
    exact hnone (by decide +kernel) hu
  · exact acceptsAlone_iff.2 ⟨by decide, "scope.a #".toList, by decide +kernel, _, by simp, hname,
      rfl, rfl⟩

end Template

end Stencil
