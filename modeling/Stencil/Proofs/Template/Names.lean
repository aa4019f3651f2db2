import Stencil.Proofs.Expr.Primaries
import Stencil.Proofs.Template.Insertion
import Stencil.Proofs.Template.Prefixes
import Stencil.Template.Compile
import Stencil.Template.Evaluation

/-! # Names of word characters

The reader of expressions takes an identifier as a whole, whatever its characters are, but the scope
is put in front of whole words. So an identifier gets the scope once if all its characters are those
of words. -/
namespace Stencil

namespace Text

theorem Spans.not_has_of_apart {t u : Spans}
    (h : (t.all fun s => u.all fun v => Nat.blt s.2 v.1 || Nat.blt v.2 s.1) = true) {n : Nat}
    (hn : t.has n = true) : u.has n = false := by
  obtain ⟨s, hs, hsn⟩ := List.any_eq_true.1 hn
  rw [Spans.has, List.any_eq_false]
  intro v hv
  have hapart := List.all_eq_true.1 (List.all_eq_true.1 h s hs) v hv
  simp only [Bool.and_eq_true, Bool.or_eq_true, decide_eq_true_eq, Nat.blt_eq] at hsn hapart ⊢
  omega

/-- What may begin an identifier is no digit. -/
theorem not_isDecimal_of_isIdentifierStart {c : Char} (h : isIdentifierStart c = true) :
    isDecimal c = false := by
  cases hc : isAscii c with
  | true =>
    exact Scoping.forall_ascii (p := fun c => isIdentifierStart c = true → isDecimal c = false)
      (by decide) hc h
  | false =>
    rw [isIdentifierStart, hc] at h
    rw [isDecimal, hc]
    exact Spans.not_has_of_apart (by decide +kernel) h

end Text

namespace Lexer

theorem isWordHead_of_isIdentifierStart {c : Char} (h : Text.isIdentifierStart c = true) :
    isWordHead c = true ∧ c.isDigit = false := by
  cases hc : Text.isAscii c with
  | true =>
    exact Scoping.forall_ascii (p := fun c => Text.isIdentifierStart c = true →
      isWordHead c = true ∧ c.isDigit = false) (by decide) hc h
  | false =>
    have hle : 128 ≤ c.toNat := by simpa [Text.isAscii] using hc
    refine ⟨by simp [isWordHead, hle], ?_⟩
    have hlt : ¬c.toNat ≤ '9'.toNat := by
      change ¬c.toNat ≤ 57
      omega
    simp only [Char.isDigit, Bool.and_eq_false_iff, decide_eq_false_iff_not]
    exact .inr hlt

theorem isWordPart_of_isIdentifierPart {c : Char} (h : Text.isIdentifierPart c = true) :
    Number.isWordPart c = true := by
  cases hc : Text.isAscii c with
  | true =>
    exact Scoping.forall_ascii (p := fun c => Text.isIdentifierPart c = true →
      Number.isWordPart c = true) (by decide) hc h
  | false =>
    have hle : 128 ≤ c.toNat := by simpa [Text.isAscii] using hc
    simp [Number.isWordPart, hle]

theorem isIdentifierPart_of_mem {s : Text} (h : Text.isIdentifier s = true) {c : Char}
    (hc : c ∈ s) : Text.isIdentifierPart c = true := by
  have hstart : ∀ x, Text.isIdentifierStart x = true → Text.isIdentifierPart x = true := by
    intro x hx
    rw [Text.isIdentifierStart] at hx
    rw [Text.isIdentifierPart, Char.isAlphanum]
    split_ifs at hx ⊢ <;> grind
  cases s with
  | nil => cases h
  | cons x w =>
    rw [Text.isIdentifier, Bool.and_eq_true, List.all_eq_true] at h
    rcases List.mem_cons.1 hc with rfl | hc
    · exact hstart _ h.1
    · exact h.2 c hc

/-- The first character of an identifier begins a word and no number. -/
theorem exists_of_isIdentifier {s : Text} (h : Text.isIdentifier s = true) :
    ∃ c w, s = c :: w ∧ isWordHead c = true ∧ c.isDigit = false ∧ Text.isDecimal c = false ∧
      ∀ x ∈ c :: w, Number.isWordPart x = true := by
  have hparts := fun x (hx : x ∈ s) => isIdentifierPart_of_mem h hx
  cases s with
  | nil => cases h
  | cons c w =>
    rw [Text.isIdentifier, Bool.and_eq_true] at h
    obtain ⟨hhead, hdigit⟩ := isWordHead_of_isIdentifierStart h.1
    exact ⟨c, w, rfl, hhead, hdigit, Text.not_isDecimal_of_isIdentifierStart h.1,
      fun x hx => isWordPart_of_isIdentifierPart (hparts x hx)⟩

/-- The marks that may stand behind a name of an application. -/
def joints : Text := "(),.".toList

/-- The text goes on with a mark of an application, if at all. -/
def IsJoint (r : Text) : Prop := ∀ c ∈ r.head?, c ∈ joints

theorem isJoint_nil : IsJoint [] := nofun

theorem isJoint_cons {c : Char} (h : c ∈ joints) (r : Text) : IsJoint (c :: r) := by
  rintro _ ⟨⟩
  exact h

theorem IsJoint.all {r : Text} (h : IsJoint r) {f : Char → Bool} (hf : joints.all f = true) :
    r.head?.all f = true := by
  rw [Option.all_eq_true]
  exact fun c hc => List.all_eq_true.1 hf c (h c hc)

end Lexer

/-- An identifier that is no reserved word. -/
structure Identifier where
  text : Text
  isIdentifier : Text.isIdentifier text = true
  not_isKeyword : isKeyword text = false

namespace Identifier

open Lexer Lexer.Lexeme Scoping

variable (n : Identifier) {r : Text}

theorem ne_nil : n.text ≠ [] := by
  obtain ⟨c, w, hn, -⟩ := exists_of_isIdentifier n.isIdentifier
  simp [hn]

theorem isWordPart_of_mem {c : Char} (h : c ∈ n.text) : Number.isWordPart c = true := by
  obtain ⟨x, w, hn, -, -, -, hall⟩ := exists_of_isIdentifier n.isIdentifier
  exact hall c (hn ▸ h)

theorem not_mem {c : Char} (hc : Number.isWordPart c = false) : c ∉ n.text := by
  intro h
  rw [n.isWordPart_of_mem h] at hc
  cases hc

theorem getLast?_ne : n.text.getLast? ≠ some '.' :=
  fun h => n.not_mem (by decide) (List.mem_of_getLast? h)

theorem not_isBlank_of_mem {c : Char} (h : c ∈ n.text) : Text.isBlank c = false :=
  Text.not_isBlank_of (by decide +kernel) (isIdentifierPart_of_mem n.isIdentifier h)

/-! ## A name in front of a mark -/

theorem step?_eq (hr : IsJoint r) :
    step? (n.text ++ r) = some (.token (.name n.text) r) := by
  obtain ⟨c, w, hn, hc, hd, -, hall⟩ := exists_of_isIdentifier n.isIdentifier
  have hword : r.head?.all (fun x => !Number.isWordPart x) = true := hr.all (by decide)
  have hquote : (r.head?.any isQuote && Quotation.isTag (c :: w)) = false := by
    have hnot : r.head?.all (fun x => !isQuote x) = true := hr.all (by decide)
    cases r with
    | nil => rfl
    | cons x r => simp_all
  have htoken : wordToken? (c :: w) = some (.name (c :: w)) := by
    have hk := n.not_isKeyword
    rw [hn, isKeyword, Option.isSome_eq_false_iff, Option.isNone_iff_eq_none] at hk
    rw [wordToken?, hk, if_pos (hn ▸ n.isIdentifier)]
  have hshape : Shape r ⟨c :: w, some (.name (c :: w))⟩ := .word hc hd hall hword hquote htoken
  rw [hn]
  exact hshape.heads.2

theorem reads (hr : IsJoint r) : Reads (n.text ++ r) [.name n.text] r := by
  refine .token (n.step?_eq hr) ?_ .refl
  simpa using List.length_pos_iff.2 n.ne_nil

theorem reads_member (hr : IsJoint r) :
    Reads ('.' :: (n.text ++ r)) [.symbol .dot, .name n.text] r := by
  obtain ⟨c, w, hn, hc, hd, -⟩ := exists_of_isIdentifier n.isIdentifier
  have hdot : step? ('.' :: (n.text ++ r)) = some (.token (.symbol .dot) (n.text ++ r)) := by
    rw [hn]
    exact (shape_dot hc hd (w ++ r)).heads.2
  exact .token hdot (by simp) (n.reads hr)

/-- The name as a member of the scope. -/
def freeTokens : List Token := [.name scopeName, .symbol .dot, .name n.text]

theorem reads_free (hr : IsJoint r) :
    Reads (scopeName ++ '.' :: (n.text ++ r)) n.freeTokens r := by
  have hscope := (shape_scope (n.text ++ r)).heads.2
  exact .token hscope (by simp [scopeName]) (n.reads_member hr)

theorem isPrimary_free : Parser.IsPrimary n.freeTokens
    (.member (.name scopeName) (Text.compose n.text)) := by
  have h := Parser.isPrimary_member scopeName n.text
  rwa [Text.compose_of_ascii (s := scopeName) (by decide)] at h

end Identifier

/-- An identifier that is made of word characters. -/
structure WordName extends Identifier where
  isWord : ∀ c ∈ text, Text.isWord c = true

namespace WordName

open Lexer Scoping

variable (n : WordName) {r : Text}

theorem qualifyFrom_eq (solid : Option Char) (hr : IsJoint r) :
    qualifyFrom scopeName solid (n.text ++ r) =
      prefixed scopeName n.text solid r ++ n.text ++ qualifyFrom scopeName n.text.getLast? r := by
  have h := resume_whole n.isWord n.ne_nil (hr.all (by decide)) false solid
  rwa [resume_false, resume_false, if_neg Bool.false_ne_true] at h

/-- A name that stands behind no point gets the scope. -/
theorem qualifyFrom_free {solid : Option Char} (hs : solid ≠ some '.') (hr : IsJoint r) :
    qualifyFrom scopeName solid (n.text ++ r) =
      scopeName ++ '.' :: (n.text ++ qualifyFrom scopeName n.text.getLast? r) := by
  have hargument : namesArgument r = false := by
    cases r with
    | nil => rfl
    | cons c r =>
      have hall : (joints.all fun c => !Text.isBlank c && c != '=') = true := by decide
      have := List.all_eq_true.1 hall c (hr c rfl)
      simp only [Bool.and_eq_true, Bool.not_eq_true', bne_iff_ne] at this
      exact namesArgument_of_ne this.1 this.2 r
  have hdecimal : n.text.head?.any Text.isDecimal = false := by
    obtain ⟨c, w, hn, -, -, hd, -⟩ := exists_of_isIdentifier n.isIdentifier
    simp [hn, hd]
  have hfree : isFree n.text solid r = true := by
    rw [isFree, n.not_isKeyword, hargument, bne_iff_ne.2 hs]
    rfl
  rw [n.qualifyFrom_eq solid hr, prefixed, hdecimal, hfree]
  simp

/-- A name behind a point stays as it is. -/
theorem qualifyFrom_member (hr : IsJoint r) (solid : Option Char) :
    qualifyFrom scopeName solid ('.' :: (n.text ++ r)) =
      '.' :: n.text ++ qualifyFrom scopeName n.text.getLast? r := by
  have hkept : prefixed scopeName n.text (some '.') r = [] := by
    simp [prefixed, isFree]
  rw [qualifyFrom_solid (by decide) (by decide), n.qualifyFrom_eq _ hr, hkept]
  rfl

end WordName

namespace Scoping

variable {s : Text}

/-! ## Names with one free word -/

theorem lt_length_of_freeNameAt {i : Nat} (h : FreeNameAt s i) : i < s.length := by
  obtain ⟨p, w, r, rfl, rfl, hfree⟩ := h
  obtain ⟨c, v, rfl, -⟩ := hfree.head
  simp

/-- In a text without literals, the scope is put in front of the free names. -/
theorem inserted_qualify (scope s : Text) :
    Inserted (scope ++ ['.']) (FreeNameAt s) 0 s (qualify scope s) := by
  simpa [qualify] using inserted_qualifyFrom scope (b := []) .nil (isClosed_nil s)

/-- The scope is put in front of a text in which a free name begins at the head and nowhere else. -/
theorem qualify_of_freeNameAt (h : ∀ i, FreeNameAt s i ↔ i = 0) (scope : Text) :
    qualify scope s = scope ++ '.' :: s := by
  have hins := inserted_qualify scope s
  have hpos := lt_length_of_freeNameAt ((h 0).2 rfl)
  revert hins
  generalize qualify scope s = t
  intro hins
  cases hins with
  | nil => cases hpos
  | keep hp _ => exact absurd ((h 0).2 rfl) hp
  | insert _ htail =>
    rw [htail.eq_of_forall_not fun k hk _ hfree => by have := (h k).1 hfree; omega]
    simp

theorem isWord_of_isKeyword (h : isKeyword s = true) : s.all Text.isWord = true := by
  have hexpressions : (Keyword.inExpressions.all fun e => e.1.all Text.isWord) = true := by
    decide +kernel
  have hstatements : (Keyword.inStatements.all fun w => w.all Text.isWord) = true := by
    decide +kernel
  rw [isKeyword, Keyword.ofText?] at h
  split at h
  next e he =>
    have hword := List.all_eq_true.1 hexpressions e (List.mem_of_find?_eq_some he)
    have hs := List.find?_some (p := fun e : Text × Keyword => e.1 == s) he
    rwa [beq_iff_eq.1 hs] at hword
  next =>
    split_ifs at h with hs
    · exact List.all_eq_true.1 hstatements s (List.contains_iff_mem.1 hs)
    · cases h

theorem not_isKeyword_of_freeNameAt (h : FreeNameAt s 0) : isKeyword s = false := by
  cases hk : isKeyword s with
  | false => rfl
  | true =>
    have hfree := (freeNameAt_iff (b := [])).1 h
    rw [List.takeWhile_eq_self_iff.2 (List.all_eq_true.1 (isWord_of_isKeyword hk))] at hfree
    exact hk.symm.trans hfree.keyword

end Scoping

/-- A name of word characters is free, and it is no other word. -/
theorem WordName.freeNameAt_iff (n : WordName) (i : Nat) :
    Scoping.FreeNameAt n.text i ↔ i = 0 := by
  constructor
  · intro h
    by_contra hi
    have hinside := Scoping.not_freeNameAt_of_inside (b := []) (s := []) n.isWord
      (k := i) (Nat.pos_of_ne_zero hi) (by simpa using Scoping.lt_length_of_freeNameAt h)
    rw [List.nil_append, List.append_nil] at hinside
    exact hinside h
  · rintro rfl
    obtain ⟨c, w, hn, -, -, hd, -⟩ := Lexer.exists_of_isIdentifier n.isIdentifier
    refine ⟨[], n.text, [], by simp, rfl, ⟨⟨c, w, hn, hd⟩, n.isWord, by simp, by simp⟩,
      n.not_isKeyword, by simp [Text.trimEnd], by simp [Text.trimStart]⟩

namespace Env

/-- A scope keeps no name from its data but that of its slot and hidden ones. -/
theorem lookup_of_not_isHidden {name : Text} (hslot : name ≠ slotName)
    (h : Admission.isHidden name = false) (r : Registry) (data : Value) : lookup r data name =
      match data.named? name with
      | some v => .ok v
      | none =>
        match r.find? name with
        | some id => .ok (.function id)
        | none => .error (.unbound name) := by
  rw [Admission.isHidden, Bool.or_eq_false_iff] at h
  have hconcealed : isConcealed name = false := h.1
  unfold lookup
  rw [if_neg hslot, hconcealed]
  exact if_neg Bool.false_ne_true

theorem member_scope_of_entries? {env : Env} (hdata : env.data.entries?.isSome = true) {name : Text}
    (hslot : name ≠ slotName) (h : Admission.isHidden name = false) :
    member env.registry env.scope name =
      match env.data.entryNamed? name with
      | some v => .ok v
      | none =>
        match env.registry.find? name with
        | some id => .ok (.function id)
        | none => .error (.unbound name) := by
  change lookup env.registry (scopeData env.data) name = _
  rw [scopeData_of_entries? hdata, lookup_of_not_isHidden hslot h, Value.named?_of_entries? hdata]

end Env

/-- The value of a member of the scope. -/
theorem Expr.eval_member_scope (env : Env) (place : List Nat) (name : Text) :
    eval env place (.member (.name Scoping.scopeName) name) =
      Value.settled place (Env.member env.registry env.scope name) := by
  have hscope : eval env (1 :: place) (.name Scoping.scopeName) = .ok env.scope := rfl
  rw [eval, hscope]
  rfl

end Stencil
