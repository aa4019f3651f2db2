import Stencil.Proofs.Filter.Registration
import Stencil.Proofs.Template.Resolution

/-! # Registered names in templates

Any identifier may be registered. A template that applies it finds the function if the scope is put
in front of the whole name, the reader of expressions keeps the name as it is, and neither the check
nor the scope holds it back. -/
namespace Stencil

namespace Filter

open Scoping (scopeName)
open Application (isPlain isPlain_of_isWordPart not_mem_of_isPlain isGap_of_isPlain)

/-- The names under which a template finds what is registered. -/
structure IsUsable (name : Text) : Prop where
  freeNameAt : ∀ i, Scoping.FreeNameAt name i ↔ i = 0
  compose_eq : Text.compose name = name
  not_isHidden : Admission.isHidden name = false
  ne_slotName : name ≠ Env.slotName

/-- The name of the value that a filter is applied to. -/
def subject : WordName := (⟨['v'], by decide⟩ : PlainName).toWordName

/-- A filter behind the value. -/
def piped (name : Text) : Text := "v | ".toList ++ name

def template (name : Text) : Text := "\x7b\x7b ".toList ++ piped name ++ " \x7d\x7d".toList

/-- The filter applied to the value. -/
def applied (name : Text) : Text := name ++ '(' :: (subject.text ++ [')'])

/-- The source of the template. -/
def source (name : Text) : Text :=
  scopeName ++ '.' :: (name ++ '(' :: (scopeName ++ '.' :: (subject.text ++ [')'])))

/-- The expression that the source is read as. -/
def expression (name : Text) : Expr :=
  .call (.member (.name scopeName) name) [.member (.name scopeName) subject.text] []

variable (n : Identifier)

/-! ## The text -/

theorem strip_template : Text.strip (template n.text) = template n.text := by
  apply Text.strip_self
  · rintro _ ⟨⟩
    decide
  · rw [template, List.getLast?_append_of_ne_nil _ (by simp)]
    rintro _ ⟨⟩
    decide

theorem ofText_template : Piece.ofText .standard (template n.text) =
    [.interpolation (piped n.text)] := by
  have hbrace : '\x7d' ∉ [' '] ++ piped n.text ++ [' '] := by
    simp [piped, n.not_mem (c := '\x7d') (by decide)]
  have hstrip : Text.strip ([' '] ++ piped n.text ++ [' ']) = piped n.text := by
    have hblank : ∀ c ∈ [' '], Text.isBlank c = true := List.all_eq_true.1 rfl
    apply Text.strip_eq hblank hblank
    · rintro _ ⟨⟩
      decide
    · rw [piped, List.getLast?_append_of_ne_nil _ n.ne_nil]
      exact (Pipeline.isCore_identifier n).getLast?
  exact Piece.ofText_eq_interpolation_iff.2 ⟨[' '] ++ piped n.text ++ [' '],
    by simp [template, Dialect.standard, Dialect.standardOpening, Dialect.standardClosing],
    Piece.closes_of_not_mem (q := ['\x7d']) rfl (by simp) hbrace, hstrip.symm⟩

/-! ## The source -/

theorem expand_piped : Pipeline.expand '|' (piped n.text) = applied n.text := by
  have hname := Pipeline.isCore_identifier n
  have hsubject := Pipeline.isCore_identifier subject.toIdentifier
  have hjoin : piped n.text = Text.join ['|'] [subject.text ++ [' '], [' '] ++ n.text] := by
    simp [piped, Text.join, subject]
  have hvalue : Pipeline.IsSegment '|' (subject.text ++ [' ']) ∧
      Text.strip (subject.text ++ [' ']) = subject.text :=
    ⟨hsubject.isSegment Pipeline.noBlanks ⟨[' '], rfl⟩,
      hsubject.strip_eq Pipeline.noBlanks ⟨[' '], rfl⟩⟩
  have hfilter : Pipeline.IsSegment '|' ([' '] ++ n.text) ∧
      Text.strip ([' '] ++ n.text) = n.text := by
    have hsegment := hname.isSegment ⟨[' '], rfl⟩ Pipeline.noBlanks
    have hstrip := hname.strip_eq ⟨[' '], rfl⟩ Pipeline.noBlanks
    rw [Pipeline.noBlanks, List.append_nil] at hsegment hstrip
    exact ⟨hsegment, hstrip⟩
  rw [hjoin, Pipeline.expand_join (by decide) hvalue.1 (by simpa using hfilter.1), hvalue.2,
    List.map_singleton, hfilter.2, List.filter_cons_of_pos (by simp [n.ne_nil]), List.filter_nil,
    List.foldl_cons, List.foldl_nil, Pipeline.apply_of_not_mem (n.not_mem (by decide)), applied,
    List.append_assoc, List.cons_append]

theorem isPlain_applied : ∀ c ∈ applied n.text, isPlain c = true := by
  have hname := (Pipeline.isCore_identifier n).isPlain
  have hsubject := (Pipeline.isCore_identifier subject.toIdentifier).isPlain
  simp only [applied, List.forall_mem_append, List.forall_mem_cons]
  exact ⟨hname, by decide, hsubject, by decide, by simp⟩

theorem isPlain_source : ∀ c ∈ source n.text, isPlain c = true := by
  have hscope : ∀ c ∈ scopeName, isPlain c = true := List.all_eq_true.1 (by decide)
  have hname := (Pipeline.isCore_identifier n).isPlain
  have hsubject := (Pipeline.isCore_identifier subject.toIdentifier).isPlain
  simp only [source, List.forall_mem_append, List.forall_mem_cons]
  exact ⟨hscope, by decide, hname, by decide, hscope, by decide, hsubject, by decide, by simp⟩

theorem code?_piped (h : ∀ i, Scoping.FreeNameAt n.text i ↔ i = 0) :
    Source.code? .standard (piped n.text) = some (source n.text) := by
  have hstrip : Text.strip (applied n.text) = applied n.text := by
    apply Text.strip_self
    · rw [applied, List.head?_append_of_ne_nil _ n.ne_nil]
      exact (Pipeline.isCore_identifier n).head?
    · rw [applied, List.getLast?_append_of_ne_nil _ (by simp)]
      rintro _ ⟨⟩
      decide
  have hgap : Scoping.IsGap (Text.strip (applied n.text)) := by
    rw [hstrip]
    exact isGap_of_isPlain (isPlain_applied n)
  have hsubject : Scoping.qualifyFrom scopeName (some '(') (subject.text ++ [')']) =
      scopeName ++ '.' :: (subject.text ++ [')']) := by
    rw [subject.qualifyFrom_free (by decide) (Lexer.isJoint_cons (by decide) []),
      Scoping.qualifyFrom_solid (by decide) (by decide), Scoping.qualifyFrom]
  have hname : Scoping.qualifyFrom scopeName none n.text = scopeName ++ '.' :: n.text :=
    Scoping.qualify_of_freeNameAt h scopeName
  have hsep : Dialect.standard.separator = '|' := rfl
  rw [Source.code?, hsep, expand_piped, Scoping.scoped?_of_isGap (by decide) hgap, hstrip,
    Scoping.qualify, applied, Scoping.qualifyFrom_append (by decide) (by decide) (by decide),
    hsubject, hname, source, List.append_assoc, List.cons_append]

/-! ## The expression -/

/-- The tokens of the source. -/
def tokens : List Token :=
  n.freeTokens ++
    .symbol .parenOpen :: (Parser.argumentTokens subject.freeTokens [] ++ [.symbol .parenClose])

theorem holds_source : Lexer.Holds (source n.text) (tokens n) := by
  have hreturn : '\r' ∉ source n.text := not_mem_of_isPlain (isPlain_source n) (by decide)
  have hclose : Lexer.step? [')', ')'] = some (.token (.symbol .parenClose) [')']) := rfl
  have hclosed := (subject.reads_free (Lexer.isJoint_cons (by decide) _)).append
    (.token hclose (by simp) .refl)
  have hcalled := (n.reads_free (Lexer.isJoint_cons (c := '(') (by decide) _)).append
    (.token (Lexer.step?_paren _) (by simp) hclosed)
  rw [Lexer.Holds, Lexer.unifyLines_eq hreturn]
  simpa [source, tokens, Parser.argumentTokens] using hcalled

theorem parse?_source : Parser.parse? (bracketed (source n.text)) =
    some (.list [expression (Text.compose n.text)]) := by
  have hprimary : Parser.IsPrimary (tokens n) (expression (Text.compose n.text)) :=
    n.isPrimary_free.call subject.isPrimary_free .nil
  have hnests : Nests 1 (tokens n) :=
    .plain rfl (.plain rfl (.plain rfl
      (.group rfl (.plain rfl (.plain rfl (.plain rfl .nil))) .nil)))
  have hline : Token.newline ∉ tokens n := by
    simp [tokens, Parser.argumentTokens, Identifier.freeTokens]
  exact hprimary.parse?_bracketed (holds_source n) (hnests.mono (by decide)) hline
    (not_mem_of_isPlain (isPlain_source n) (by decide))

theorem check_expression (name : Text) : Admission.check (expression name) =
    if Admission.isHidden name then .error (.hiddenMember name) else .ok () := by
  have hsubject : Admission.checkAll [.member (.name scopeName) subject.text] = .ok () := by decide
  rw [expression, Admission.check, hsubject, Admission.check, Admission.check, if_pos rfl]
  split_ifs <;> rfl

/-! ## Names that are held back -/

/-- A filter under a name that the check holds back cannot be applied. -/
theorem compile_of_isHidden (h : ∀ i, Scoping.FreeNameAt n.text i ↔ i = 0)
    (hhidden : Admission.isHidden (Text.compose n.text) = true) :
    Template.compile .standard (template n.text) = .error (.compile ⟨template n.text,
      .rejected (source n.text) (.hiddenMember (Text.compose n.text))⟩) := by
  have hcheck : Admission.check (expression (Text.compose n.text)) =
      .error (.hiddenMember (Text.compose n.text)) := by rw [check_expression, if_pos hhidden]
  have htree : Tree.ofSource (source n.text) =
      .ok (.leaf (.sub (expression (Text.compose n.text)))) := by
    rw [Tree.ofSource, parse?_source]
    rfl
  have hof : Compiled.ofSource (source n.text) (template n.text) = .error ⟨template n.text,
      .rejected (source n.text) (.hiddenMember (Text.compose n.text))⟩ := by
    rw [Compiled.ofSource, htree]
    simp only [bind, Except.bind, Expr.emit_leaf_of_error hcheck]
  rw [Template.compile_of_interpolation (strip_template n) (ofText_template n) (by simp [piped])
    (code?_piped n h), hof]

/-! ## Names that reach their function -/

theorem exists_compiled (h : ∀ i, Scoping.FreeNameAt n.text i ↔ i = 0)
    (hhidden : Admission.isHidden (Text.compose n.text) = false) :
    ∃ c, Template.compile .standard (template n.text) = .ok (.compiled c) ∧
      ∀ r data, c.render r data = (expression (Text.compose n.text)).eval ⟨r, data⟩ [] := by
  have hcheck : Admission.check (expression (Text.compose n.text)) = .ok () := by
    rw [check_expression, if_neg (by simp [hhidden])]
  exact Template.exists_compiled_of_interpolation (strip_template n) (ofText_template n)
    (by simp [piped]) (code?_piped n h) (parse?_source n) rfl ⟨hcheck, rfl⟩ rfl

/-- The function is called with the value alone. -/
theorem eval_expression {env : Env} {name : Text} {f : Function} {x : Value}
    (hdata : env.data.entries?.isSome = true) (hslot : name ≠ Env.slotName)
    (hhidden : Admission.isHidden name = false) (hf : env.registry.function? name = some f)
    (hx : env.data.entryNamed? ['v'] = some x) (hnone : env.data.entryNamed? name = none) :
    (expression name).eval env [] = Value.settled [] (f ⟨[x.settle [1] []], []⟩) := by
  obtain ⟨id, hid, hfid⟩ := Option.bind_eq_some_iff.1 hf
  have hfilter : Expr.eval env [0] (.member (.name scopeName) name) = .ok (.function id) := by
    rw [Expr.eval_member_scope, Env.member_scope_of_entries? hdata hslot hhidden, hnone, hid]
    rfl
  have hvalue : Expr.eval env [1] (.member (.name scopeName) subject.text) =
      .ok (x.settle [1] []) := by
    have hsubject : env.data.entryNamed? subject.text = some x := hx
    have hmember : Env.member env.registry env.scope subject.text = .ok x := by
      rw [Env.member_scope_of_entries? hdata (by decide) (by decide), hsubject]
    rw [Expr.eval_member_scope, hmember]
    rfl
  have hcall : ∀ a, Env.call env.registry (.function id) a = f a := by
    intro a
    change env.registry.call id a = f a
    rw [Registry.call, hfid]
  rw [expression, Expr.eval, hfilter, Expr.evalPositional_cons rfl, hvalue]
  exact congrArg (Value.settled []) (hcall _)

/-- A function registered under a usable name is found in templates: the template that applies the
name to `v` compiles, and on every mapping with a value under `v` and none under the name it gives
what the function gives for this value, or fails as the function does. -/
theorem applies_of_isUsable {name : Text} (hname : Text.isIdentifier name = true)
    (h : IsUsable name) :
    (∀ (r : Registry) (f : Function), ∃ r', r.register name f = .ok r' ∧
      r'.function? name = some f) ∧
    ∃ c, Template.compile .standard (template name) = .ok (.compiled c) ∧
      ∀ (r : Registry) (f : Function) (data x : Value), r.function? name = some f →
        data.entries?.isSome = true → data.entryNamed? ['v'] = some x →
        data.entryNamed? name = none →
        c.render r data = Value.settled [] (f ⟨[x.settle [1] []], []⟩) ∧
          (x.id ≠ .fresh → c.render r data = Value.settled [] (f ⟨[x], []⟩)) := by
  constructor
  · intro r f
    refine ⟨r.add name f, Registry.register_eq_ok_iff.2 ⟨hname, rfl⟩, ?_⟩
    rw [Registry.function?, Registry.find?_add, if_pos rfl, Option.bind_some]
    simp [Registry.add]
  have hkeyword := Scoping.not_isKeyword_of_freeNameAt ((h.freeNameAt 0).2 rfl)
  obtain ⟨c, hc, hrender⟩ := exists_compiled ⟨name, hname, hkeyword⟩ h.freeNameAt
    (by simpa [h.compose_eq] using h.not_isHidden)
  refine ⟨c, hc, fun r f data x hf hdata hx hnone => ?_⟩
  have hvalue : c.render r data = Value.settled [] (f ⟨[x.settle [1] []], []⟩) := by
    rw [hrender, h.compose_eq]
    exact eval_expression hdata h.ne_slotName h.not_isHidden hf hx hnone
  refine ⟨hvalue, fun hplace => ?_⟩
  have hsettled : x.settle [1] [] = x := Except.ok.inj (Value.settled_of_ne_fresh hplace [1])
  rw [hvalue, hsettled]

/-- A name with letters of another script, and a function that makes a list of what it is given. -/
theorem applies_of_isUsable_script :
    ∃ (f : Function) (r' : Registry) (c : Compiled),
      Registry.standard.register "größe".toList f = .ok r' ∧
      Template.compile .standard "\x7b\x7b v | größe \x7d\x7d".toList = .ok (.compiled c) ∧
      Value.content <$> c.render r' (.dict [(.text ['v'], .none)]) = .ok (.list [.none]) := by
  have hname : Text.isIdentifier "größe".toList = true := by decide +kernel
  have hword : ∀ c ∈ "größe".toList, Text.isWord c = true := List.all_eq_true.1 (by decide +kernel)
  have husable : IsUsable "größe".toList :=
    ⟨WordName.freeNameAt_iff ⟨⟨_, hname, by decide +kernel⟩, hword⟩, by decide +kernel,
      by decide +kernel, by decide +kernel⟩
  obtain ⟨hregister, c, hc, hrender⟩ := applies_of_isUsable hname husable
  obtain ⟨r', hr', hf⟩ := hregister .standard fun a => .ok (.list a.positional)
  have hhas : Value.entryNamed? (.dict [(.text ['v'], .none)]) ['v'] = some .none := by cbv
  have hlacks : Value.entryNamed? (.dict [(.text ['v'], .none)]) "größe".toList = none := by cbv
  have hvalue := (hrender r' _ _ _ hf rfl hhas hlacks).2 (by decide)
  exact ⟨_, r', c, hr', hc, by rw [hvalue]; rfl⟩

/-- The name `format` may be registered, and no template may apply it. -/
theorem not_applies_format :
    (∀ (r : Registry) (f : Function), ∃ r', r.register "format".toList f = .ok r') ∧
      Template.compile .standard "\x7b\x7b v | format \x7d\x7d".toList =
        .error (.compile ⟨"\x7b\x7b v | format \x7d\x7d".toList,
          .rejected "scope.format(scope.v)".toList (.hiddenMember "format".toList)⟩) := by
  have hname : Text.isIdentifier "format".toList = true := by decide
  have hword : ∀ c ∈ "format".toList, Text.isWord c = true := List.all_eq_true.1 (by decide +kernel)
  have hcompose : Text.compose "format".toList = "format".toList :=
    Text.compose_of_ascii (by decide)
  refine ⟨fun r f => ⟨_, Registry.register_eq_ok_iff.2 ⟨hname, rfl⟩⟩, ?_⟩
  have h := compile_of_isHidden ⟨_, hname, by decide⟩
    (WordName.freeNameAt_iff ⟨⟨_, hname, by decide⟩, hword⟩) (by rw [hcompose]; decide)
  rwa [hcompose] at h

end Filter

end Stencil
