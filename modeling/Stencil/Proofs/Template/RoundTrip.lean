import Stencil.Proofs.Template.Concatenation

/-! # Literal text is read back

Texts are written into the source of a template and read again. What comes back are these texts,
whatever they hold, and never code. -/
namespace Stencil

open Lexer

namespace Text.Quoted

variable (s : Text)

/-- The only break of a line is that of the brackets. -/
theorem isBreak_of_mem_bracketed {c : Char} (h : c ∈ bracketed (encode s)) :
    c = '\n' ∨ isBreak c = false := by
  simp only [bracketed, List.cons_append, List.mem_cons, List.mem_append, List.not_mem_nil,
    or_false] at h
  rcases h with rfl | h | rfl | rfl
  · exact .inr rfl
  · exact .inr (isBreak_of_mem_encode h)
  · exact .inl rfl
  · exact .inr rfl

theorem unifyLines_bracketed :
    unifyLines (bracketed (encode s)) = bracketed (encode s) :=
  unifyLines_eq fun h => by rcases isBreak_of_mem_bracketed s h with h | h <;> cases h

/-- A written text that stands alone is the only token in its brackets. -/
theorem tokens?_bracketed :
    tokens? (bracketed (encode s)) = some (Parser.listedSum [token s] []) := by
  have hmark : Char.ofNat 0 ∉ bracketed (encode s) := fun h => by
    rcases isBreak_of_mem_bracketed s h with h | h <;> cases h
  have hend : Reads ['\n', ']'] [.newline, .symbol .squareClose] [] :=
    .token rfl (by simp) (.token (step?_single rfl []) (by simp) .refl)
  have hreads : Reads (unifyLines (bracketed (encode s)))
      (.symbol .squareOpen :: ([token s, .newline] ++ [.symbol .squareClose])) [] := by
    rw [unifyLines_bracketed]
    refine .token (step?_square _) (by simp [bracketed]) ?_
    exact (reads_encode s rfl [']']).append hend
  exact tokens?_group hmark hreads rfl (.plain rfl (.plain rfl .nil))

theorem parse?_bracketed :
    Parser.parse? (bracketed (encode s)) = some (.list [.text s]) :=
  Parser.parse?_of_operand (tokens?_bracketed s)
    (Parser.isOperand_listedSum (Operand.isOperand_token s) .nil)

end Text.Quoted

/-- A text is no sum. -/
theorem Expr.textSum?_text (s : Text) : (Expr.text s).textSum? = none := by
  rw [textSum?, text, summands]
  · cases s <;> rfl
  · intro l r h
    cases h

/-- A text that is written alone is a leaf that holds it. -/
theorem Tree.ofSource_encode (s : Text) :
    Tree.ofSource (Text.Quoted.encode s) = .ok (.leaf (.literal s)) :=
  Tree.ofSource_eq_ok_iff.2 ⟨_, by simp, Text.Quoted.parse?_bracketed s, by
    rw [Expr.listed, if_neg (by simp [Expr.text, Expr.isSpread]), Expr.tree_ofExpr,
      Expr.textSum?_text]
    rfl⟩

namespace Operand

variable (ss : List Text)

theorem mapM_ofPiece?_literal (d : Dialect) :
    (ss.map Piece.literal).mapM (ofPiece? d) = some (ss.map text) := by
  induction ss with
  | nil => rfl
  | cons s ss ih =>
    rw [List.map_cons, List.mapM_cons, ih]
    rfl

theorem mapM_value?_text : (ss.map text).mapM value? = some (ss.map Expr.text) := by
  induction ss with
  | nil => rfl
  | cons s ss ih =>
    rw [List.map_cons, List.mapM_cons, ih]
    rfl

theorem not_mem_text (c : Text) : code c ∉ ss.map text := by
  simp

end Operand

theorem Expr.joinedText_text (env : Env) (ss : List Text) :
    Expr.joinedText env (ss.map Expr.text) = .ok ss.flatten := by
  have hmap : (ss.map Expr.text).mapM (Expr.shownText env) = .ok ss := by
    induction ss with
    | nil => rfl
    | cons s ss ih =>
      rw [List.map_cons, List.mapM_cons, ih, shownText_text]
      rfl
  rw [Expr.joinedText, hmap]
  rfl

theorem Expr.isAdmissible_sum (ss : List Text) :
    ((ss.map Expr.text).foldl (Expr.binary .add) (Expr.text [])).IsAdmissible := by
  rw [isAdmissible_foldl_iff]
  refine ⟨isAdmissible_text [], fun e he => ?_⟩
  obtain ⟨s, -, rfl⟩ := List.mem_map.1 he
  exact isAdmissible_text s

open Operand

/-- A literal piece alone has a source that is read as a leaf with its text. Literal pieces, two or
more, have a source that is read as the concatenation of leaves with their texts, in order; it
compiles, and what it compiles to gives the texts one behind the other, whatever the data are. -/
theorem literal_round_trip (d : Dialect) :
    (∀ s, ∃ src, Source.ofPieces? d [.literal s] = some src ∧
      Tree.ofSource src = .ok (.leaf (.literal s))) ∧
    ∀ ss : List Text, 2 ≤ ss.length →
      ∃ src, Source.ofPieces? d (ss.map .literal) = some src ∧
        Tree.ofSource src = .ok (.concat (ss.map .literal)) ∧
        ∀ expression, ∃ c, Compiled.ofSource src expression = .ok c ∧
          ∀ r data, ∃ v, c.render r data = .ok v ∧ v.content = .text ss.flatten := by
  refine ⟨fun s => ⟨_, rfl, Tree.ofSource_encode s⟩, fun ss hlen => ?_⟩
  have hne : ss.map Expr.text ≠ [] := by
    rintro h
    rw [List.map_eq_nil_iff] at h
    subst h
    cases hlen
  have hcode : ∀ s, code s ∈ ss.map text → EnclosedWithin room s := fun s hs =>
    absurd hs (not_mem_text ss s)
  have hvalues := mapM_value?_text ss
  have hleaves : (ss.map Expr.text).map Leaf.ofExpr = ss.map Leaf.literal := by
    rw [List.map_map]
    rfl
  refine ⟨recombined (ss.map text), ?_, ?_, fun expression => ?_⟩
  · rw [ofPieces?_eq (by rwa [List.length_map]), mapM_ofPiece?_literal]
    rfl
  · rw [ofSource_recombined hcode hvalues hne, hleaves]
  · have hparse := parse?_recombined hcode hvalues
    have hc : Compiled.ofSource (recombined (ss.map text)) expression = .ok _ :=
      Compiled.ofSource_eq_ok_iff.2 ⟨_, by simp, hparse, by
        rw [Expr.listed_foldl]
        exact Expr.isAdmissible_sum ss, rfl⟩
    refine ⟨_, hc, fun r data => ?_⟩
    obtain ⟨-, hrender⟩ := compiled_recombined hcode hvalues hne hc
    refine ⟨_, (hrender r data).trans (by rw [Expr.joinedText_text]; rfl), ?_⟩
    exact Value.content_settle rfl [] []

/-- Both quotes, a backslash, a line end, a mark, and characters of each width without a printed
form. -/
theorem literal_round_trip_escapes :
    ∃ s t src : Text, s = "it's \"\\\n\x00".toList ∧
      t = ['é', '\'', Char.ofNat 0x200b, Char.ofNat 0xe0001] ∧
      src = "'' + 'it\\'s \"\\\\\\n\\x00' + \"é'\\u200b\\U000e0001\"".toList ∧
      2 ≤ [s, t].length ∧ Source.ofPieces? .standard [.literal s, .literal t] = some src ∧
      Tree.ofSource src = .ok (.concat [.literal s, .literal t]) ∧
      ∃ c, Compiled.ofSource src [] = .ok c ∧
        ∀ r data, ∃ v, c.render r data = .ok v ∧ v.content = .text [s, t].flatten := by
  have hlen : 2 ≤ ["it's \"\\\n\x00".toList,
      ['é', '\'', Char.ofNat 0x200b, Char.ofNat 0xe0001]].length := Nat.le_refl 2
  obtain ⟨src, hsrc, htree, hc⟩ := (literal_round_trip .standard).2 _ hlen
  have hwritten : Source.ofPieces? .standard [.literal "it's \"\\\n\x00".toList,
      .literal ['é', '\'', Char.ofNat 0x200b, Char.ofNat 0xe0001]] =
        some "'' + 'it\\'s \"\\\\\\n\\x00' + \"é'\\u200b\\U000e0001\"".toList := by
    decide +kernel
  exact ⟨_, _, src, rfl, rfl, Option.some.inj (hsrc.symm.trans hwritten), hlen, hsrc, htree, hc []⟩

end Stencil
