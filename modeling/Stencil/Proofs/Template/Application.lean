import Stencil.Proofs.Template.Names

/-! # Nested calls of free names

The calls that filters stand for apply names to members of names and to each other. Written without
the scope they get it in front of each free name, and what comes out is read as the nested calls. -/
namespace Stencil

/-- May a template use the name wherever a name stands? -/
def isPlainName (s : Text) : Bool :=
  Text.isIdentifier s && s.all Text.isAscii && !isKeyword s && !Admission.isHidden s &&
    s != Env.slotName

/-- A name of ASCII characters that is neither reserved nor hidden. -/
structure PlainName where
  text : Text
  isPlain : isPlainName text = true

/-- A free name, a member, or a free name called with arguments of which all but the first are free
names. -/
inductive Application
  | name (n : PlainName)
  | member (a : Application) (n : PlainName)
  | call (f : PlainName) (first : Application) (rest : List PlainName)

namespace PlainName

open Lexer Lexer.Lexeme Scoping

variable (n : PlainName) {r : Text}

theorem facts : Text.isIdentifier n.text = true ∧ n.text.all Text.isAscii = true ∧
    isKeyword n.text = false ∧ Admission.isHidden n.text = false ∧ n.text ≠ Env.slotName := by
  have h := n.isPlain
  simp only [isPlainName, Bool.and_eq_true, Bool.not_eq_true', bne_iff_ne] at h
  obtain ⟨⟨⟨⟨hid, hascii⟩, hkeyword⟩, hhidden⟩, hslot⟩ := h
  exact ⟨hid, hascii, hkeyword, hhidden, hslot⟩

theorem not_isKeyword : isKeyword n.text = false := n.facts.2.2.1

theorem not_isHidden : Admission.isHidden n.text = false := n.facts.2.2.2.1

theorem ne_slotName : n.text ≠ Env.slotName := n.facts.2.2.2.2

theorem isAscii_of_mem {c : Char} (h : c ∈ n.text) : Text.isAscii c = true :=
  List.all_eq_true.1 n.facts.2.1 c h

theorem isWordPart_of_mem {c : Char} (h : c ∈ n.text) : Number.isWordPart c = true := by
  obtain ⟨x, w, hn, -, -, -, hall⟩ := exists_of_isIdentifier n.facts.1
  exact hall c (hn ▸ h)

/-- The ASCII characters of identifiers are those of words. -/
def toWordName : WordName where
  text := n.text
  isIdentifier := n.facts.1
  isWord c h := by
    rw [isWord_of_isAscii (n.isAscii_of_mem h)]
    exact n.isWordPart_of_mem h
  not_isKeyword := n.not_isKeyword

@[simp] theorem text_toWordName : n.toWordName.text = n.text := rfl

theorem ne_nil : n.text ≠ [] := n.toWordName.ne_nil

theorem compose_eq : Text.compose n.text = n.text := Text.compose_of_ascii n.facts.2.1

end PlainName

namespace Parser

open Lexer

theorem bracketed_eq (code : Text) : bracketed code = '[' :: (code ++ ['\n']) ++ [']'] := by
  simp [bracketed]

/-- A primary as a source is a list of one element. -/
theorem IsPrimary.parse?_bracketed {c : Tokens} {v : Expr} (hc : IsPrimary c v) {s : Text}
    (hs : Holds s c) (hn : Nests (maxDepth - 1) c) (hline : .newline ∉ c)
    (hzero : Char.ofNat 0 ∉ s) : parse? (bracketed s) = some (.list [v]) := by
  have hunbroken : unbroken c = c := by
    rw [unbroken, List.filter_eq_self]
    intro t ht
    exact bne_iff_ne.2 fun h => hline (h ▸ ht)
  have hzero' : Char.ofNat 0 ∉ s ++ ['\n'] := by simpa using hzero
  have htokens : tokens? (bracketed s) = some (inSquares c) := by
    rw [bracketed_eq]
    -- Whether or not the line end in front of the bracket is a token, it is dropped.
    rcases hs.newline with h | h
    · rw [tokens?_inSquares h hn hzero', hunbroken]
      rfl
    · have hdropped : unbroken (c ++ [.newline]) = c := by
        rw [unbroken, List.filter_append]
        exact (List.append_nil _).trans hunbroken
      rw [tokens?_inSquares h (hn.append (.plain rfl .nil)) hzero', hdropped]
      rfl
  exact parse?_of_operand htokens (hc.isOperand_inSquares ⟨_, hn⟩)

end Parser

namespace Application

open Lexer Scoping

variable (a : Application) (n : PlainName) (ns : List PlainName) {r : Text}

/-! ## Writing -/

/-- The free names behind the first argument, with `mark` in front of each. -/
def further (mark : Text) (ns : List PlainName) : Text :=
  ns.flatMap fun n => ',' :: ' ' :: (mark ++ n.text)

/-- The application as it is written, with `mark` in front of each free name. -/
def written (mark : Text) : Application → Text
  | name n => mark ++ n.text
  | member a n => a.written mark ++ '.' :: n.text
  | call f a ns => mark ++ f.text ++ '(' :: (a.written mark ++ further mark ns ++ [')'])

/-- What stands in front of a free name: the scope, whose member it is. -/
def scopeMark : Text := scopeName ++ ['.']

/-- The characters of applications. -/
def isPlain (c : Char) : Bool := Number.isWordPart c || joints.contains c || c == ' '

theorem isPlain_of_isWordPart {c : Char} (h : Number.isWordPart c = true) : isPlain c = true := by
  rw [isPlain, h]
  rfl

theorem isPlain_of_mem_text {c : Char} (h : c ∈ n.text) : isPlain c = true :=
  isPlain_of_isWordPart (n.isWordPart_of_mem h)

theorem not_mem_of_isPlain {s : Text} (h : ∀ c ∈ s, isPlain c = true) {x : Char}
    (hx : isPlain x = false) : x ∉ s := by
  intro hmem
  rw [h x hmem] at hx
  cases hx

theorem isGap_of_isPlain {s : Text} (h : ∀ c ∈ s, isPlain c = true) : IsGap s := by
  intro c hc
  refine ⟨isQuote_eq_false_of (h c hc) (by decide), ?_⟩
  rintro rfl
  exact not_mem_of_isPlain h (by decide) hc

theorem isPlain_of_mem (mark : Text) (hm : ∀ c ∈ mark, isPlain c = true) :
    ∀ c ∈ a.written mark, isPlain c = true := by
  have hjoint : ∀ c ∈ '(' :: ')' :: '.' :: ',' :: [' '], isPlain c = true :=
    List.all_eq_true.1 (by decide)
  have hname : ∀ n : PlainName, ∀ c ∈ mark ++ n.text, isPlain c = true := by
    intro n c hc
    rcases List.mem_append.1 hc with hc | hc
    · exact hm c hc
    · exact isPlain_of_mem_text n hc
  induction a with
  | name n => exact hname n
  | member a n ih =>
    intro c hc
    rcases List.mem_append.1 hc with hc | hc
    · exact ih c hc
    rcases List.mem_cons.1 hc with rfl | hc
    · exact hjoint _ (by simp)
    · exact isPlain_of_mem_text n hc
  | call f a ns ih =>
    intro c hc
    simp only [written, further, List.mem_append, List.mem_cons, List.mem_flatMap,
      List.not_mem_nil, or_false] at hc
    rcases hc with (hc | hc) | rfl | (hc | ⟨n, -, rfl | rfl | hc | hc⟩) | rfl
    · exact hm c hc
    · exact isPlain_of_mem_text f hc
    · exact hjoint _ (by simp)
    · exact ih c hc
    · exact hjoint _ (by simp)
    · exact hjoint _ (by simp)
    · exact hm c hc
    · exact isPlain_of_mem_text n hc
    · exact hjoint _ (by simp)

theorem isPlain_of_mem_scopeMark : ∀ c ∈ scopeMark, isPlain c = true :=
  List.all_eq_true.1 (by decide)

/-! ## The free names get the scope -/

theorem qualifyFrom_free {solid : Option Char} (hs : solid ≠ some '.') (hr : IsJoint r) :
    qualifyFrom scopeName solid (n.text ++ r) =
      scopeMark ++ n.text ++ qualifyFrom scopeName n.text.getLast? r := by
  have h := n.toWordName.qualifyFrom_free hs hr
  simpa [scopeMark] using h

theorem isJoint_further (mark : Text) (ns : List PlainName) (r : Text) :
    IsJoint (further mark ns ++ ')' :: r) := by
  cases ns <;> exact isJoint_cons (by decide) _

theorem qualifyFrom_further (solid : Option Char) (r : Text) :
    qualifyFrom scopeName solid (further [] ns ++ ')' :: r) =
      further scopeMark ns ++ ')' :: qualifyFrom scopeName (some ')') r := by
  induction ns generalizing solid with
  | nil => exact qualifyFrom_solid (by decide) (by decide) solid r
  | cons n ns ih =>
    have h₀ : further [] (n :: ns) ++ ')' :: r =
        ',' :: ' ' :: (n.text ++ (further [] ns ++ ')' :: r)) := by simp [further]
    rw [h₀, qualifyFrom_solid (by decide) (by decide), qualifyFrom_blank (by decide) (by decide),
      qualifyFrom_free n (by decide) (isJoint_further [] ns r), ih]
    simp [further]

/-- The scope is put in front of the free names of an application, and what stands behind it is
rewritten as if no point stood in front. -/
theorem qualifyFrom_written (solid : Option Char) (hs : solid ≠ some '.') (hr : IsJoint r) :
    ∃ solid', solid' ≠ some '.' ∧ qualifyFrom scopeName solid (a.written [] ++ r) =
      a.written scopeMark ++ qualifyFrom scopeName solid' r := by
  induction a generalizing solid r with
  | name n => exact ⟨_, n.toWordName.getLast?_ne, qualifyFrom_free n hs hr⟩
  | member a n ih =>
    obtain ⟨solid', -, h⟩ := ih solid hs (isJoint_cons (c := '.') (by decide) (n.text ++ r))
    have hmember := n.toWordName.qualifyFrom_member hr solid'
    rw [n.text_toWordName] at hmember
    refine ⟨_, n.toWordName.getLast?_ne, ?_⟩
    rw [written, List.append_assoc, List.cons_append, h, hmember, n.text_toWordName, written,
      List.append_assoc]
  | call f a ns ih =>
    obtain ⟨solid', -, h⟩ := ih (some '(') (by decide) (isJoint_further [] ns r)
    have h₀ : (call f a ns).written [] ++ r =
        f.text ++ '(' :: (a.written [] ++ (further [] ns ++ ')' :: r)) := by simp [written]
    refine ⟨some ')', by decide, ?_⟩
    rw [h₀, qualifyFrom_free f hs (isJoint_cons (by decide) _),
      qualifyFrom_solid (by decide) (by decide), h, qualifyFrom_further]
    simp [written]

theorem exists_written_eq : ∃ (n : PlainName) (s : Text), a.written [] = n.text ++ s := by
  induction a with
  | name n => exact ⟨n, [], by simp [written]⟩
  | member a m ih =>
    obtain ⟨n, s, h⟩ := ih
    exact ⟨n, s ++ '.' :: m.text, by simp [written, h]⟩
  | call f a ns => exact ⟨f, '(' :: (a.written [] ++ further [] ns ++ [')']), rfl⟩

theorem head?_written : ∀ c ∈ (a.written []).head?, Text.isBlank c = false := by
  intro c hc
  obtain ⟨n, s, h⟩ := a.exists_written_eq
  rw [h, List.head?_append_of_ne_nil _ n.ne_nil] at hc
  exact n.toWordName.not_isBlank_of_mem (List.mem_of_head? hc)

theorem getLast?_written : ∀ c ∈ (a.written []).getLast?, Text.isBlank c = false := by
  have hname : ∀ (n : PlainName) (s : Text),
      ∀ c ∈ (s ++ n.text).getLast?, Text.isBlank c = false := by
    intro n s c hc
    rw [List.getLast?_append_of_ne_nil _ n.ne_nil] at hc
    exact n.toWordName.not_isBlank_of_mem (List.mem_of_getLast? hc)
  cases a with
  | name n => exact hname n []
  | member a n =>
    have h₀ : (member a n).written [] = a.written [] ++ ['.'] ++ n.text := by simp [written]
    rw [h₀]
    exact hname n _
  | call f a ns =>
    intro c hc
    have h₀ : (call f a ns).written [] =
        f.text ++ '(' :: (a.written [] ++ further [] ns) ++ [')'] := by simp [written]
    rw [h₀, List.getLast?_concat] at hc
    cases hc
    decide

/-- The rewriting puts the scope in front of the free names and changes nothing else. -/
theorem scoped?_written : scoped? scopeName (a.written []) = some (a.written scopeMark) := by
  have hstrip : Text.strip (a.written []) = weave (a.written []) [] := by
    rw [weave_nil]
    exact Text.strip_self a.head?_written a.getLast?_written
  have hgap := isGap_of_isPlain (a.isPlain_of_mem [] nofun)
  obtain ⟨solid, -, h⟩ := a.qualifyFrom_written none (by decide) isJoint_nil
  have hnil : qualifyFrom scopeName solid [] = [] := by rw [qualifyFrom]
  rw [List.append_nil, hnil, List.append_nil] at h
  rw [scoped?_weave (by decide) hstrip hgap, qualify, h, List.map_nil, weave_nil]

/-! ## Tokens -/

/-- A free name, as a member of the scope. -/
def freeTokens (n : PlainName) : List Token := [.name scopeName, .symbol .dot, .name n.text]

def tokens : Application → List Token
  | name n => freeTokens n
  | member a n => a.tokens ++ [.symbol .dot, .name n.text]
  | call f a ns => freeTokens f ++
      .symbol .parenOpen :: (Parser.argumentTokens a.tokens (ns.map freeTokens) ++
        [.symbol .parenClose])

/-- How many calls are around the innermost one. -/
def depth : Application → Nat
  | name _ => 0
  | member a _ => a.depth
  | call _ a _ => a.depth + 1

theorem reads_free (hr : IsJoint r) : Reads (scopeMark ++ n.text ++ r) (freeTokens n) r := by
  have h := n.toWordName.reads_free hr
  simpa [scopeMark, freeTokens, Identifier.freeTokens] using h

theorem reads_further (r : Text) :
    Reads (further scopeMark ns ++ ')' :: r) ((ns.map freeTokens).flatMap (.symbol .comma :: ·))
      (')' :: r) := by
  induction ns with
  | nil => exact .refl
  | cons n ns ih =>
    have h₀ : further scopeMark (n :: ns) ++ ')' :: r =
        ',' :: ' ' :: (scopeMark ++ n.text ++ (further scopeMark ns ++ ')' :: r)) := by
      simp [further]
    have hn := (reads_free n (isJoint_further scopeMark ns r)).append ih
    rw [h₀]
    exact .token rfl (by simp) (.skip rfl (by simp) hn)

theorem reads_written (hr : IsJoint r) : Reads (a.written scopeMark ++ r) a.tokens r := by
  induction a generalizing r with
  | name n => exact reads_free n hr
  | member a n ih =>
    rw [written, List.append_assoc]
    exact (ih (isJoint_cons (by decide) _)).append (n.toWordName.reads_member hr)
  | call f a ns ih =>
    have h₀ : (call f a ns).written scopeMark ++ r = scopeMark ++ f.text ++
        '(' :: (a.written scopeMark ++ (further scopeMark ns ++ ')' :: r)) := by simp [written]
    have harguments := (ih (isJoint_further scopeMark ns r)).append (reads_further ns r)
    have hclosed := harguments.append
      (.token (step?_single (c := ')') rfl r) (by simp) .refl)
    rw [h₀]
    exact (reads_free f (isJoint_cons (by decide) _)).append
      (.token (step?_paren _) (by simp) hclosed)

theorem nests_freeTokens (h : Nat) : Nests h (freeTokens n) :=
  .plain rfl (.plain rfl (.plain rfl .nil))

theorem nests_further (h : Nat) :
    Nests h ((ns.map freeTokens).flatMap (.symbol .comma :: ·)) := by
  induction ns with
  | nil => exact .nil
  | cons n ns ih => exact .plain rfl ((nests_freeTokens n h).append ih)

theorem nests_tokens : Nests a.depth a.tokens := by
  induction a with
  | name n => exact nests_freeTokens n 0
  | member a n ih => exact ih.append (.plain rfl (.plain rfl .nil))
  | call f a ns ih =>
    exact (nests_freeTokens f _).append (.group rfl (ih.append (nests_further ns _)) .nil)

theorem nests_arguments :
    Nests a.depth (Parser.argumentTokens a.tokens (ns.map freeTokens)) :=
  a.nests_tokens.append (nests_further ns _)

theorem depth_le_of_nests {h : Nat} (hn : Nests h a.tokens) : a.depth ≤ h := by
  induction a generalizing h with
  | name n => exact Nat.zero_le h
  | member a n ih => exact ih (hn.of_append ⟨_, a.nests_tokens⟩).1
  | call f a ns ih =>
    have harguments : Balanced (Parser.argumentTokens a.tokens (ns.map freeTokens)) :=
      ⟨_, nests_arguments a ns⟩
    obtain ⟨k, rfl, hk⟩ := Nests.of_group rfl harguments
      (hn.of_append ⟨0, nests_freeTokens f 0⟩).2
    exact Nat.succ_le_succ (ih (hk.of_append ⟨_, a.nests_tokens⟩).1)

theorem newline_not_mem_tokens : Token.newline ∉ a.tokens := by
  induction a with
  | name n => simp [tokens, freeTokens]
  | member a n ih => simp [tokens, ih]
  | call f a ns ih => simp [tokens, freeTokens, Parser.argumentTokens, ih]

/-! ## The expression -/

/-- A free name, as a member of the scope. -/
def free (n : PlainName) : Expr := .member (.name scopeName) n.text

/-- The nested calls. -/
def expr : Application → Expr
  | name n => free n
  | member a n => .member a.expr n.text
  | call f a ns => .call (free f) (a.expr :: ns.map free) []

theorem isPrimary_free : Parser.IsPrimary (freeTokens n) (free n) := by
  have h := n.toWordName.isPrimary_free
  rw [n.text_toWordName, n.compose_eq] at h
  exact h

theorem isPrimary_tokens : Parser.IsPrimary a.tokens a.expr := by
  induction a with
  | name n => exact isPrimary_free n
  | member a n ih =>
    have h := ih.member n.text
    rwa [n.compose_eq] at h
  | call f a ns ih =>
    apply (isPrimary_free f).call ih
    induction ns with
    | nil => exact .nil
    | cons n ns ih => exact .cons (isPrimary_free n) ih

theorem holds_written : Holds (a.written scopeMark) a.tokens := by
  have hreturn : '\r' ∉ a.written scopeMark :=
    not_mem_of_isPlain (a.isPlain_of_mem scopeMark isPlain_of_mem_scopeMark) (by decide)
  rw [Holds, unifyLines_eq hreturn]
  exact a.reads_written (isJoint_cons (by decide) [])

/-- The application with the scope in front of its free names is read as nested calls, if there are
not too many of them. -/
theorem parse?_bracketed (hd : a.depth < maxDepth) :
    Parser.parse? (bracketed (a.written scopeMark)) = some (.list [a.expr]) := by
  have hzero : Char.ofNat 0 ∉ a.written scopeMark :=
    not_mem_of_isPlain (a.isPlain_of_mem scopeMark isPlain_of_mem_scopeMark) (by decide)
  exact a.isPrimary_tokens.parse?_bracketed a.holds_written (a.nests_tokens.mono (by omega))
    a.newline_not_mem_tokens hzero

/-- Too many nested calls are not read at all. -/
theorem parse?_bracketed_eq_none (hd : maxDepth ≤ a.depth) :
    Parser.parse? (bracketed (a.written scopeMark)) = none := by
  apply Parser.parse?_eq_none
  rw [Option.eq_none_iff_forall_ne_some]
  intro us hus
  obtain ⟨ts, hts, hholds⟩ : ∃ ts, Balanced ts ∧
      Holds (a.written scopeMark ++ ['\n']) (a.tokens ++ ts) := by
    rcases a.holds_written.newline with h | h
    · exact ⟨[], .nil, by rwa [List.append_nil]⟩
    · exact ⟨[.newline], .single rfl, h⟩
  have hreads := hholds.reads_inBrackets step?_square (b := ']') rfl []
  rw [Parser.bracketed_eq] at hus
  rw [← unifyLines_inBrackets (by decide) rfl] at hreads
  have hbalanced : Balanced a.tokens := ⟨_, a.nests_tokens⟩
  have hnests := nests_of_tokens?_balanced hreads rfl (hbalanced.append hts) hus
  have hdepth := a.depth_le_of_nests (hnests.of_append hbalanced).1
  simp only [maxDepth] at hd hdepth
  omega

/-! ## Admission -/

theorem check_free : Admission.check (free n) = .ok () := by
  rw [free, Admission.check, if_neg (by simp [n.not_isHidden]), Admission.check, if_pos rfl]

theorem check_expr : Admission.check a.expr = .ok () := by
  induction a with
  | name n => exact check_free n
  | member a n ih => rw [expr, Admission.check, if_neg (by simp [n.not_isHidden]), ih]
  | call f a ns ih =>
    rw [expr, Admission.check, check_free]
    have hall : Admission.checkAll (a.expr :: ns.map free) = .ok () := by
      rw [Expr.checkAll_iff, List.forall_mem_cons, List.forall_mem_map]
      exact ⟨ih, fun n _ => check_free n⟩
    rw [hall]
    rfl

theorem namesOnce_member {e : Expr} (h : Emission.namesOnce (Emission.lower e) = true) (w : Text) :
    Emission.namesOnce (Emission.lower (.member e w)) = true := by
  simp only [Emission.lower, Emission.namesOnce, Emission.allNamesOnce, h]
  rfl

theorem namesOnce_expr : Emission.namesOnce (Emission.lower a.expr) = true := by
  induction a with
  | name n => rfl
  | member a n ih => exact namesOnce_member ih n.text
  | call f a ns ih =>
    have hall : Emission.allNamesOnce (Emission.lowerAll (a.expr :: ns.map free)) = true := by
      rw [Expr.allNamesOnce_lowerAll_iff, List.forall_mem_cons, List.forall_mem_map]
      exact ⟨ih, fun n _ => rfl⟩
    have hf : Emission.namesOnce (Emission.lower (free f)) = true := rfl
    rw [expr, Emission.lower, Emission.namesOnce, hf, hall]
    rfl

theorem isAdmissible_expr : a.expr.IsAdmissible := ⟨a.check_expr, a.namesOnce_expr⟩

theorem textSum?_expr : a.expr.textSum? = none := by
  cases a <;> rfl

end Application

end Stencil
