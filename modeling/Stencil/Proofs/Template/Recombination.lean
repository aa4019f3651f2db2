import Stencil.Proofs.Expr.Enclosing
import Stencil.Proofs.Expr.Sums
import Stencil.Template.Compile

/-! # A recombined source is read piece by piece

Texts and enclosed codes that are put together with plus signs are read as the sum of what each of
them is read as alone. -/
namespace Stencil

open Lexer

/-- An operand of a recombined source. -/
inductive Operand
  | text (s : Text)
  | code (s : Text)

namespace Operand

def written : Operand → Text
  | text s => Text.Quoted.encode s
  | code s => '(' :: s ++ [')']

/-- What the operand is read as alone. -/
def value? : Operand → Option Expr
  | text s => some (.text s)
  | code s => Parser.parse? ('(' :: s ++ [')'])

def ofPiece? (d : Dialect) : Piece → Option Operand
  | .literal s => some (text s)
  | .interpolation s => (Source.code? d s).map code

theorem fragment?_eq (d : Dialect) (p : Piece) :
    Source.fragment? d false p = (ofPiece? d p).map written := by
  cases p <;> simp [Source.fragment?, ofPiece?, written, Function.comp_def]

/-- The operands put together, behind an empty text. -/
def recombined (os : List Operand) : Text :=
  Text.Quoted.encode [] ++ os.flatMap fun o => Source.plusSign ++ o.written

theorem join_cons (sep x : Text) (xs : List Text) :
    Text.join sep (x :: xs) = x ++ xs.flatMap (sep ++ ·) := by
  induction xs generalizing x with
  | nil => simp [Text.join]
  | cons y ys ih => simp [Text.join, ih]

theorem ofPieces?_eq {d : Dialect} {ps : List Piece} (h : 2 ≤ ps.length) :
    Source.ofPieces? d ps = (ps.mapM (ofPiece? d)).map recombined := by
  obtain ⟨p, q, ps, rfl⟩ : ∃ p q qs, ps = p :: q :: qs := by
    rcases ps with _ | ⟨p, _ | ⟨q, ps⟩⟩
    · simp at h
    · simp at h
    · exact ⟨p, q, ps, rfl⟩
  have hm : ∀ ps : List Piece, ps.mapM (Source.fragment? d false) =
      (ps.mapM (ofPiece? d)).map (List.map written) := by
    intro ps
    induction ps with
    | nil => rfl
    | cons p ps ih =>
      rw [List.mapM_cons, List.mapM_cons, ih, fragment?_eq]
      cases ofPiece? d p with
      | none => rfl
      | some o => cases ps.mapM (ofPiece? d) <;> rfl
  rw [Source.ofPieces?, hm, Option.map_map]
  · refine congrArg (Option.map · _) (funext fun os => ?_)
    rw [Function.comp_apply, join_cons, List.flatMap_map]
    rfl
  · simp

/-! ## The tokens of a recombined source -/

/-- These are the tokens of the operand; those of a code keep to its parentheses and open at most
`k` more brackets at once. -/
def Holds (k : Nat) : Operand → List Token → Prop
  | text s, ts => ts = [Text.Quoted.token s]
  | code s, ts => ∃ us, Lexer.Holds s us ∧ Nests k us ∧
      ts = .symbol .parenOpen :: (us ++ [.symbol .parenClose])

theorem getLast?_written (o : Operand) : o.written.getLast? ≠ some '\r' := by
  cases o with
  | text s =>
    have : (Text.Quoted.encode s).getLast? = some (Text.Quoted.quoteFor s) := by
      simp [Text.Quoted.encode, List.getLast?_cons]
    rw [written, this]
    unfold Text.Quoted.quoteFor
    split <;> decide
  | code s =>
    have : ('(' :: s ++ [')']).getLast? = some ')' := by
      simp [List.getLast?_cons]
    rw [written, this]
    decide

theorem unifyLines_encode (s : Text) :
    unifyLines (Text.Quoted.encode s) = Text.Quoted.encode s :=
  unifyLines_eq fun h => by cases Text.Quoted.isBreak_of_mem_encode h

variable {k : Nat}

theorem Holds.reads {o : Operand} {ts : List Token} (h : o.Holds k ts) {e : Char}
    (he : isEnd e = true) (u : Text) :
    Reads (unifyLines o.written ++ e :: u) ts (e :: u) := by
  cases o with
  | text s =>
    rw [written, unifyLines_encode, show ts = _ from h]
    exact Text.Quoted.reads_encode s he u
  | code s =>
    obtain ⟨us, hus, -, rfl⟩ := h
    rw [written, unifyLines_inBrackets (by decide) rfl]
    have hread : Reads ('(' :: (unifyLines s ++ ')' :: e :: u))
        (.symbol .parenOpen :: (us ++ [.symbol .parenClose])) (e :: u) :=
      hus.reads_inBrackets step?_paren rfl (e :: u)
    simpa using hread

theorem step?_plus (r : Text) :
    step? ('+' :: ' ' :: r) = some (.token (.symbol .plus) (' ' :: r)) := by
  have hsym : symbol? ('+' :: [] ++ ' ' :: r) = some (.plus, ' ' :: r) := by
    rw [symbol?_append (by decide)]
    rfl
  have hbegin : beginsToken '+' := by
    unfold beginsToken
    decide
  have hnumber : ('+'.isDigit || ('+' == '.' && (' ' :: r).head?.any Char.isDigit)) = false := rfl
  rw [step?_token hbegin, if_neg (by decide), hnumber, if_neg (by decide), if_neg (by decide)]
  change tokenStep ((symbol? ('+' :: [] ++ ' ' :: r)).map _) = _
  rw [hsym]
  rfl

theorem reads_plusSign {s u : Text} {ts : List Token} (h : Reads s ts u) :
    Reads (Source.plusSign ++ s) (.symbol .plus :: ts) u :=
  .skip rfl (by simp [Source.plusSign]) (.token (step?_plus s) (by simp)
    (.skip rfl (by simp) h))

theorem unifyLines_plusSign (s : Text) :
    unifyLines (Source.plusSign ++ s) = Source.plusSign ++ unifyLines s := by
  rw [unifyLines_append fun h => absurd h (by decide)]
  rfl

theorem unifyLines_flatMap_cons (o : Operand) (s : Text) :
    unifyLines (Source.plusSign ++ o.written ++ s) =
      Source.plusSign ++ (unifyLines o.written ++ unifyLines s) := by
  rw [List.append_assoc, unifyLines_plusSign,
    unifyLines_append fun h => absurd h (getLast?_written o)]

theorem reads_operands {os : List Operand} {tss : List (List Token)}
    (h : List.Forall₂ (Holds k) os tss) {e : Char} (he : isEnd e = true) (u : Text) :
    Reads (unifyLines (os.flatMap fun o => Source.plusSign ++ o.written) ++ e :: u)
      (Parser.chain tss) (e :: u) := by
  induction h with
  | nil => exact .refl
  | @cons o ts os tss ho _ ih =>
    rw [List.flatMap_cons, unifyLines_flatMap_cons]
    simp only [List.append_assoc]
    refine reads_plusSign (Reads.append ?_ ih)
    cases os with
    | nil => exact ho.reads he u
    | cons p os =>
      rw [List.flatMap_cons, unifyLines_flatMap_cons]
      exact ho.reads (by decide) _

theorem getLast?_recombined (os : List Operand) : (recombined os).getLast? ≠ some '\r' := by
  unfold recombined
  rcases List.eq_nil_or_concat os with rfl | ⟨os, o, rfl⟩
  · decide
  · rw [List.concat_eq_append, List.flatMap_append, ← List.append_assoc, List.flatMap_singleton,
      ← List.append_assoc, List.getLast?_append]
    have hne : o.written ≠ [] := by
      cases o <;> simp [written, Text.Quoted.encode]
    rw [List.getLast?_eq_some_getLast hne, Option.some_or, ← List.getLast?_eq_some_getLast hne]
    exact getLast?_written o

theorem unifyLines_recombined (os : List Operand) : unifyLines (bracketed (recombined os)) =
    '[' :: (Text.Quoted.encode [] ++
      unifyLines (os.flatMap fun o => Source.plusSign ++ o.written) ++ ['\n', ']']) := by
  rw [bracketed, List.cons_append, unifyLines_cons (by decide),
    unifyLines_append fun h => absurd h (getLast?_recombined os), recombined,
    unifyLines_append fun h => absurd h (by decide), unifyLines_encode]
  rfl

theorem reads_recombined {os : List Operand} {tss : List (List Token)}
    (h : List.Forall₂ (Holds k) os tss) : Reads (unifyLines (bracketed (recombined os)))
      (.symbol .squareOpen :: ((Text.Quoted.token [] :: Parser.chain tss ++ [.newline]) ++
        [.symbol .squareClose])) [] := by
  rw [unifyLines_recombined]
  refine .token (step?_square _) (by simp) ?_
  have hend : Reads ['\n', ']'] [.newline, .symbol .squareClose] [] :=
    .token rfl (by simp) (.token (step?_single rfl []) (by simp) .refl)
  have hchain := (reads_operands h rfl [']']).append hend
  have hfirst : Reads (Text.Quoted.encode [] ++
      (unifyLines (os.flatMap fun o => Source.plusSign ++ o.written) ++ ['\n', ']']))
      [Text.Quoted.token []]
      (unifyLines (os.flatMap fun o => Source.plusSign ++ o.written) ++ ['\n', ']']) := by
    cases os with
    | nil => exact Text.Quoted.reads_encode [] rfl _
    | cons o os =>
      rw [List.flatMap_cons, unifyLines_flatMap_cons]
      exact Text.Quoted.reads_encode [] (by decide) _
  simpa using hfirst.append hchain

/-! ## The value of a recombined source -/

theorem unbroken_chain (tss : List (List Token)) :
    unbroken (Parser.chain tss) = Parser.chain (tss.map unbroken) := by
  induction tss with
  | nil => rfl
  | cons ts tss ih =>
    simp only [unbroken, Parser.chain, List.flatMap_cons, List.map_cons, List.filter_append] at ih ⊢
    rw [ih]
    rfl

theorem unbroken_parens (ts : List Token) :
    unbroken (.symbol .parenOpen :: (ts ++ [.symbol .parenClose])) =
      .symbol .parenOpen :: (unbroken ts ++ [.symbol .parenClose]) := by
  simp [unbroken]

theorem Holds.nests {o : Operand} {ts : List Token} (h : o.Holds k ts) : Nests (k + 1) ts := by
  cases o with
  | text s =>
    rw [show ts = _ from h]
    exact .plain rfl .nil
  | code s =>
    obtain ⟨us, -, hn, rfl⟩ := h
    exact .group rfl hn .nil

theorem nests_chain {os : List Operand} {tss : List (List Token)}
    (h : List.Forall₂ (Holds k) os tss) : Nests (k + 1) (Parser.chain tss) := by
  induction h with
  | nil => exact .nil
  | cons ho _ ih =>
    rw [Parser.chain, List.flatMap_cons]
    exact .append (.plain rfl ho.nests) ih

/-- Room for the brackets of a code among others: the brackets around them all and its own
parentheses are open too. -/
def room : Nat := maxDepth - 2

theorem tokens?_recombined {os : List Operand} {tss : List (List Token)}
    (h : List.Forall₂ (Holds room) os tss) (h₀ : Char.ofNat 0 ∉ recombined os) :
    tokens? (bracketed (recombined os)) =
      some (Parser.listedSum [Text.Quoted.token []] (tss.map unbroken)) := by
  have hnest : Nests (maxDepth - 1) (Text.Quoted.token [] :: Parser.chain tss ++ [.newline]) :=
    .append (.plain rfl (nests_chain h)) (.plain rfl .nil)
  rw [tokens?_group (by simpa [bracketed] using h₀) (reads_recombined h) rfl hnest]
  have e := unbroken_chain tss
  simp only [unbroken] at e
  simp [Parser.listedSum, e, Text.Quoted.token]

theorem Holds.of_nests {o : Operand} {ts : List Token} (h : o.Holds k ts)
    (hn : Nests (maxDepth - 1) ts) : o.Holds room ts := by
  cases o with
  | text s => exact h
  | code s =>
    obtain ⟨us, hus, hk, rfl⟩ := h
    obtain ⟨j, hj, hj'⟩ := hn.of_group rfl ⟨k, hk⟩
    exact ⟨us, hus, by rwa [show room = j from Nat.succ.inj hj], rfl⟩

/-- In a source that has tokens there is room for the brackets of each enclosed code. -/
theorem forall₂_of_tokens? {os : List Operand} {tss : List (List Token)} {us : List Token}
    (h : List.Forall₂ (Holds k) os tss) (hs : tokens? (bracketed (recombined os)) = some us) :
    List.Forall₂ (Holds room) os tss := by
  have hfirst : Nests (k + 1) [Text.Quoted.token []] := .plain rfl .nil
  have hlast : Nests (k + 1) [Token.newline] := .plain rfl .nil
  have hb := (hfirst.append (nests_chain h)).append hlast
  have hn := nests_of_tokens?_balanced (reads_recombined h) rfl ⟨_, hb⟩ hs
  have hchain := ((hn.of_append ⟨_, hfirst.append (nests_chain h)⟩).1.of_append ⟨_, hfirst⟩).2
  clear hs hb hn
  induction h with
  | nil => exact .nil
  | @cons o ts os tss ho h ih =>
    have hplus : Nests (k + 1) (.symbol .plus :: ts) := .plain rfl ho.nests
    obtain ⟨h₁, h₂⟩ := hchain.of_append ⟨_, hplus⟩
    cases h₁ with
    | plain _ h₁ => exact .cons (ho.of_nests h₁) (ih h₂)
    | group hc => cases hc

/-- A written text is read as the text. -/
theorem isOperand_token (s : Text) : Parser.IsOperand [Text.Quoted.token s] (.text s) := by
  refine ⟨⟨_, _, rfl, rfl⟩, fun m r hm hr => ?_⟩
  obtain ⟨m, rfl⟩ : ∃ i, m = i + 1 := ⟨m - 1, by omega⟩
  have hrun : Parser.stringRun r = ([], r) :=
    Parser.stringRun.eq_2 r fun tag d body q =>
      Parser.ne_cons_of_endsOperand hr (t := .string tag d body) rfl (by simp) q
  have hbody := Text.Quoted.text?_body (Text.Quoted.isQuote_quoteFor s) s
  rw [List.singleton_append, Text.Quoted.token, Parser.atom_string, Parser.stringRun, hrun]
  have hplain : Quotation.isTemplate [] = false ∧ Quotation.isBytes [] = false ∧
      Quotation.isRaw [] = false := ⟨rfl, rfl, rfl⟩
  simp [hplain, Parser.joinStrings?, Quotation.textOf?, hbody, Expr.text]

theorem Holds.isDelimited {o : Operand} {ts : List Token} (h : o.Holds k ts) :
    Parser.IsDelimited (unbroken ts) := by
  cases o with
  | text s =>
    rw [show ts = _ from h]
    exact (isOperand_token s).isDelimited
  | code s =>
    obtain ⟨us, -, hn, rfl⟩ := h
    rw [unbroken_parens]
    exact Parser.isDelimited_parens ⟨k, hn.filter⟩

/-- What the tokens of an operand are read as is its value alone. -/
theorem Holds.value?_eq_some_iff {o : Operand} {ts : List Token} (h : o.Holds (maxDepth - 1) ts)
    (h₀ : Char.ofNat 0 ∉ o.written) {e : Expr} :
    o.value? = some e ↔ Parser.IsOperand (unbroken ts) e := by
  cases o with
  | text s =>
    rw [show ts = _ from h]
    have hs := isOperand_token s
    exact ⟨fun he => Option.some.inj he ▸ hs, fun he => congrArg some (hs.unique he)⟩
  | code s =>
    obtain ⟨us, hus, hn, rfl⟩ := h
    have htok := tokens?_inParens hus hn (by simpa [written] using h₀)
    rw [unbroken_parens]
    exact Parser.parse?_eq_some_iff htok (Parser.isDelimited_parens ⟨_, hn.filter⟩)

theorem mapM_eq_some_iff {α β : Type} {f : α → Option β} {xs : List α} {ys : List β} :
    xs.mapM f = some ys ↔ List.Forall₂ (fun x y => f x = some y) xs ys := by
  induction xs generalizing ys with
  | nil => simp [eq_comm]
  | cons x xs ih =>
    rw [List.mapM_cons, List.forall₂_cons_left_iff]
    simp only [Option.bind_eq_bind, Option.bind_eq_some_iff, ih]
    constructor
    · rintro ⟨y, hy, ys', hys, h⟩
      cases h
      exact ⟨y, ys', hy, hys, rfl⟩
    · rintro ⟨y, ys', hy, hys, rfl⟩
      exact ⟨y, hy, ys', hys, rfl⟩

theorem exists_holds {os : List Operand} (h : ∀ s, code s ∈ os → EnclosedWithin k s) :
    ∃ tss, List.Forall₂ (Holds k) os tss := by
  induction os with
  | nil => exact ⟨[], .nil⟩
  | cons o os ih =>
    obtain ⟨tss, htss⟩ := ih fun s hs => h s (by simp [hs])
    cases o with
    | text s => exact ⟨_, .cons rfl htss⟩
    | code s =>
      obtain ⟨us, hus, hn⟩ := h s (by simp)
      exact ⟨_, .cons ⟨us, hus, hn, rfl⟩ htss⟩

theorem enclosedWithin_of_forall₂ {os : List Operand} {tss : List (List Token)}
    (h : List.Forall₂ (Holds k) os tss) : ∀ s, code s ∈ os → EnclosedWithin k s := by
  induction h with
  | nil => nofun
  | cons ho _ ih =>
    intro s hs
    rcases List.mem_cons.1 hs with rfl | hs
    · obtain ⟨us, hus, hn, -⟩ := ho
      exact ⟨us, hus, hn⟩
    · exact ih s hs

theorem isDelimited_of_mem {os : List Operand} {tss : List (List Token)}
    (h : List.Forall₂ (Holds k) os tss) : ∀ c ∈ tss.map unbroken, Parser.IsDelimited c := by
  induction h with
  | nil => nofun
  | cons ho _ ih =>
    intro c hc
    rcases List.mem_cons.1 hc with rfl | hc
    · exact ho.isDelimited
    · exact ih c hc

theorem exists_within {os : List Operand} (h : ∀ s, code s ∈ os → Enclosed s) :
    ∃ k, ∀ s, code s ∈ os → EnclosedWithin k s := by
  induction os with
  | nil => exact ⟨0, nofun⟩
  | cons o os ih =>
    obtain ⟨k, hk⟩ := ih fun s hs => h s (by simp [hs])
    cases o with
    | text s => exact ⟨k, fun s hs => hk s (by simpa using hs)⟩
    | code s =>
      obtain ⟨us, hus, j, hn⟩ := h s (by simp)
      refine ⟨max j k, fun t ht => ?_⟩
      rcases List.mem_cons.1 ht with ht | ht
      · cases ht
        exact ⟨us, hus, hn.mono (by omega)⟩
      · exact (hk t ht).mono (by omega)

/-- What can be read has no mark of the end of a text in it. -/
theorem not_mem_written {o : Operand} {e : Expr} (h : o.value? = some e) :
    Char.ofNat 0 ∉ o.written := by
  cases o with
  | text s =>
    intro hmem
    cases Text.Quoted.isBreak_of_mem_encode hmem
  | code s =>
    obtain ⟨ts, hts, -⟩ := Option.bind_eq_some_iff.1 h
    exact not_mem_of_tokens? hts

theorem not_mem_recombined {os : List Operand} :
    Char.ofNat 0 ∉ recombined os ↔ ∀ o ∈ os, Char.ofNat 0 ∉ o.written := by
  simp only [recombined, List.mem_append, List.mem_flatMap, not_or, not_exists, not_and]
  constructor
  · intro h o ho
    exact (h.2 o ho).2
  · intro h
    exact ⟨by decide, fun o ho => ⟨by decide, h o ho⟩⟩

theorem exists_of_mapM {α β : Type} {f : α → Option β} {xs : List α} {ys : List β}
    (h : xs.mapM f = some ys) : ∀ x ∈ xs, ∃ y, f x = some y := by
  rw [mapM_eq_some_iff] at h
  induction h with
  | nil => nofun
  | cons hxy _ ih =>
    intro x hx
    rcases List.mem_cons.1 hx with rfl | hx
    · exact ⟨_, hxy⟩
    · exact ih x hx

/-- Every member has an image of a kind if and only if there are images, all of the kind. -/
theorem exists_mapM_iff {α β : Type} {f : α → Option β} {P : β → Prop} {xs : List α} :
    (∃ ys, xs.mapM f = some ys ∧ ∀ y ∈ ys, P y) ↔ ∀ x ∈ xs, ∃ y, f x = some y ∧ P y := by
  induction xs with
  | nil => simp
  | cons x xs ih =>
    rw [List.forall_mem_cons, ← ih]
    simp only [mapM_eq_some_iff, List.forall₂_cons_left_iff]
    constructor
    · rintro ⟨_, ⟨y, ys, hy, hys, rfl⟩, hP⟩
      exact ⟨⟨y, hy, hP y (by simp)⟩, ys, hys, fun z hz => hP z (by simp [hz])⟩
    · rintro ⟨⟨y, hy, hPy⟩, ys, hys, hP⟩
      exact ⟨_, ⟨y, ys, hy, hys, rfl⟩, by simpa using ⟨hPy, hP⟩⟩

theorem Holds.mono {j : Nat} {o : Operand} {ts : List Token} (h : o.Holds j ts) (hk : j ≤ k) :
    o.Holds k ts := by
  cases o with
  | text s => exact h
  | code s =>
    obtain ⟨us, hus, hn, rfl⟩ := h
    exact ⟨us, hus, hn.mono hk, rfl⟩

theorem mapM_value?_eq_some_iff {os : List Operand} {tss : List (List Token)} {es : List Expr}
    (h : List.Forall₂ (Holds room) os tss) (h₀ : ∀ o ∈ os, Char.ofNat 0 ∉ o.written) :
    os.mapM value? = some es ↔ List.Forall₂ Parser.IsOperand (tss.map unbroken) es := by
  rw [mapM_eq_some_iff]
  induction h generalizing es with
  | nil => simp
  | @cons o ts os tss ho _ ih =>
    have hv := fun e => (ho.mono (k := maxDepth - 1) (by decide)).value?_eq_some_iff (e := e)
      (h₀ o (by simp))
    rw [List.map_cons, List.forall₂_cons_left_iff, List.forall₂_cons_left_iff]
    simp only [hv, ih fun o ho => h₀ o (by simp [ho])]

/-- Among others, enclosed operands are read as what they are read as alone. -/
theorem parse?_recombined {os : List Operand} {es : List Expr}
    (h : ∀ s, code s ∈ os → EnclosedWithin room s) (hes : os.mapM value? = some es) :
    Parser.parse? (bracketed (recombined os)) =
      some (.list [es.foldl (.binary .add) (.text [])]) := by
  obtain ⟨tss, htss⟩ := exists_holds h
  have h₀ : ∀ o ∈ os, Char.ofNat 0 ∉ o.written := by
    intro o ho
    obtain ⟨e, he⟩ := exists_of_mapM hes o ho
    exact not_mem_written he
  exact Parser.parse?_of_operand (tokens?_recombined htss (not_mem_recombined.2 h₀))
    (Parser.isOperand_listedSum (isOperand_token []) ((mapM_value?_eq_some_iff htss h₀).1 hes))

/-- If operands that keep to their brackets are read among others, there is room for their brackets
and each of them is read alone. -/
theorem of_parse?_recombined {os : List Operand} {e : Expr} (h : ∀ s, code s ∈ os → Enclosed s)
    (he : Parser.parse? (bracketed (recombined os)) = some e) :
    (∀ s, code s ∈ os → EnclosedWithin room s) ∧ ∃ es, os.mapM value? = some es := by
  obtain ⟨k, hk⟩ := exists_within h
  obtain ⟨tss, htss⟩ := exists_holds hk
  obtain ⟨us, hus, -⟩ := Option.bind_eq_some_iff.1 (show (tokens? _).bind _ = _ from he)
  have hroom := forall₂_of_tokens? htss hus
  have h₀ : ∀ o ∈ os, Char.ofNat 0 ∉ o.written := by
    have := not_mem_of_tokens? hus
    exact not_mem_recombined.1 fun hmem => this (by simp [bracketed, hmem])
  have htok := tokens?_recombined hroom (not_mem_recombined.2 h₀)
  obtain ⟨m, p, hp⟩ := Parser.atom_of_parse? htok rfl he
  obtain ⟨es, hes⟩ := Parser.operands_of_listedSum (r := []) (isOperand_token [])
    (isDelimited_of_mem hroom) ((congrArg (Parser.atom m) (List.append_nil _)).trans hp)
  exact ⟨enclosedWithin_of_forall₂ hroom, es, (mapM_value?_eq_some_iff hroom h₀).2 hes⟩

end Operand

end Stencil
