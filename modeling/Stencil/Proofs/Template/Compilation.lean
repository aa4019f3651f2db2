import Stencil.Proofs.Template.Joining

/-! # What compiles

A template with interpolations compiles if and only if its pieces have a source, none of its
interpolations is empty, and the source is a list of expressions that may be used. -/
namespace Stencil

/-- The expression that the elements of a list stand for as a source: one that is no spread is
itself. -/
def Expr.listed : List Expr → Expr
  | [e] => if e.isSpread then .tuple [e] else e
  | es => .tuple es

theorem Expr.isRegular_listed {es : List Expr} (h : (Expr.list es).isRegular = true) :
    (Expr.listed es).isRegular = true := by
  unfold listed
  split
  next e =>
    split_ifs
    · exact h
    · rw [isRegular, areRegular_cons, Bool.and_eq_true] at h
      exact h.1
  next => exact h

theorem Tree.ofSource_eq_ok_iff {source : Text} {t : Tree} :
    Tree.ofSource source = .ok t ↔ ∃ es, es ≠ [] ∧
      Parser.parse? (bracketed source) = some (.list es) ∧ t = ofExpr (Expr.listed es) := by
  have key : ∀ {es : List Expr}, es ≠ [] → Parser.parse? (bracketed source) = some (.list es) →
      Tree.ofSource source = .ok (ofExpr (Expr.listed es)) := by
    intro es hne h
    rcases es with _ | ⟨e, _ | ⟨f, es⟩⟩
    · exact absurd rfl hne
    · unfold Tree.ofSource
      rw [h]
      cases e <;> rfl
    · unfold Tree.ofSource
      rw [h]
      cases e <;> rfl
  constructor
  · intro h
    have hall : ∀ o, Parser.parse? (bracketed source) = o →
        ∃ es, es ≠ [] ∧ o = some (.list es) := by
      intro o ho
      unfold Tree.ofSource at h
      rw [ho] at h
      rcases o with _ | e
      · cases h
      · cases e with
        | list es =>
          rcases es with _ | ⟨e, es⟩
          · cases h
          · exact ⟨e :: es, by simp, rfl⟩
        | _ => cases h
    obtain ⟨es, hne, hes⟩ := hall _ rfl
    refine ⟨es, hne, hes, ?_⟩
    exact Except.ok.inj (h.symm.trans (key hne hes))
  · rintro ⟨es, hne, hes, rfl⟩
    exact key hne hes

/-- A source is compiled to what the elements of its list stand for. -/
theorem Compiled.ofSource_eq_ok_iff {source expression : Text} {c : Compiled} :
    Compiled.ofSource source expression = .ok c ↔ ∃ es, es ≠ [] ∧
      Parser.parse? (bracketed source) = some (.list es) ∧ (Expr.listed es).IsAdmissible ∧
      c = ⟨expression, source, Tree.ofExpr (Expr.listed es), (Expr.listed es).emission⟩ := by
  have hof : Compiled.ofSource source expression = .ok c ↔ ∃ t b, Tree.ofSource source = .ok t ∧
      Emission.emit t = .ok b ∧ c = ⟨expression, source, t, b⟩ := by
    unfold Compiled.ofSource
    cases Tree.ofSource source with
    | error r =>
      constructor
      · intro h
        cases h
      · rintro ⟨t, b, ht, -⟩
        cases ht
    | ok t =>
      simp only [bind, Except.bind]
      cases hb : Emission.emit t with
      | error r =>
        constructor
        · intro h
          cases h
        · rintro ⟨t', b, ht, hb', -⟩
          cases ht
          cases hb.symm.trans hb'
      | ok b =>
        constructor
        · intro h
          exact ⟨t, b, rfl, hb, (Except.ok.inj h).symm⟩
        · rintro ⟨t', b', ht, hb', rfl⟩
          cases ht
          cases hb.symm.trans hb'
          rfl
  rw [hof]
  simp only [Tree.ofSource_eq_ok_iff]
  constructor
  · rintro ⟨_, b, ⟨es, hne, hes, rfl⟩, hb, rfl⟩
    obtain ⟨ha, rfl⟩ := Expr.emit_ofExpr_iff.1 hb
    exact ⟨es, hne, hes, ha, rfl⟩
  · rintro ⟨es, hne, hes, ha, rfl⟩
    exact ⟨_, _, ⟨es, hne, hes, rfl⟩, Expr.emit_ofExpr_iff.2 ⟨ha, rfl⟩, rfl⟩

namespace Piece

theorem ofText_of_none {d : Dialect} {s : Text} (h : next? d s = none) :
    ofText d s = ofLiteral s := by
  rw [ofText]
  split
  next => rfl
  next m hm => cases h.symm.trans hm

theorem ofText_of_some {d : Dialect} {s : Text} {m : Text × Text × Text}
    (h : next? d s = some m) :
    ofText d s = ofLiteral m.1 ++ interpolation (Text.strip m.2.1) :: ofText d m.2.2 := by
  rw [ofText]
  split
  next hn => cases h.symm.trans hn
  next m' hm =>
    cases h.symm.trans hm
    rfl

theorem ofText_of_not_occursIn {d : Dialect} {s : Text} (h : occursIn d s = false) :
    ofText d s = ofLiteral s := by
  rw [occursIn, Option.isSome_eq_false_iff, Option.isNone_iff_eq_none] at h
  exact ofText_of_none h

theorem occursIn_of_mem {d : Dialect} {s v : Text} (h : interpolation v ∈ ofText d s) :
    occursIn d s = true := by
  cases ho : occursIn d s with
  | true => rfl
  | false =>
    rw [ofText_of_not_occursIn ho, ofLiteral] at h
    split_ifs at h <;> simp at h

theorem ofText_ne_nil {d : Dialect} {s : Text} (h : occursIn d s = true) : ofText d s ≠ [] := by
  obtain ⟨m, hm⟩ := Option.isSome_iff_exists.1 h
  rw [ofText_of_some hm]
  simp

/-- If a text with an interpolation is a single piece, the piece is the interpolation. -/
theorem ofText_eq_singleton {d : Dialect} {s : Text} (ho : occursIn d s = true)
    (hn : (ofText d s).length = 1) : ∃ v, ofText d s = [interpolation v] := by
  obtain ⟨m, hm⟩ := Option.isSome_iff_exists.1 ho
  rw [ofText_of_some hm] at hn ⊢
  rw [List.length_append, List.length_cons] at hn
  have hl : ofLiteral m.1 = [] := List.length_eq_zero_iff.1 (by omega)
  have hr : ofText d m.2.2 = [] := List.length_eq_zero_iff.1 (by omega)
  exact ⟨_, by rw [hl, hr, List.nil_append]⟩

/-- A text in more than one piece has an interpolation. -/
theorem occursIn_of_length {d : Dialect} {s : Text} (h : 2 ≤ (ofText d s).length) :
    occursIn d s = true := by
  cases ho : occursIn d s with
  | true => rfl
  | false =>
    rw [ofText_of_not_occursIn ho, ofLiteral] at h
    split_ifs at h <;> simp at h

end Piece

namespace Template

theorem draft_of_occursIn {d : Dialect} {s : Text} (ho : Piece.occursIn d (Text.strip s) = true) :
    draft d (Piece.ofText d) s =
      match Source.ofPieces? d (Piece.ofText d (Text.strip s)) with
      | none => .error .danglingPlaceholder
      | some src => .ok (.source (Text.strip s) (Piece.ofText d (Text.strip s)) src) := by
  obtain ⟨p, ps, hp⟩ := List.exists_cons_of_ne_nil (Piece.ofText_ne_nil ho)
  unfold draft
  dsimp only
  rw [ho, hp]
  rfl

theorem draft_of_not_occursIn {d : Dialect} {s : Text}
    (ho : Piece.occursIn d (Text.strip s) = false) :
    draft d (Piece.ofText d) s = .ok (.text (Margin.fold s)) := by
  rw [draft, ho]
  rfl

theorem compile_of_not_occursIn {d : Dialect} {s : Text}
    (ho : Piece.occursIn d (Text.strip s) = false) :
    compile d s = .ok (.text (Margin.fold s)) := by
  rw [compile, compileBy, draft_of_not_occursIn ho]
  rfl

theorem source_of_not_occursIn {d : Dialect} {s : Text}
    (ho : Piece.occursIn d (Text.strip s) = false) : source d s = .ok (Margin.fold s) := by
  rw [source, sourceBy, draft_of_not_occursIn ho]
  rfl

theorem compile_of_dangling {d : Dialect} {s : Text}
    (ho : Piece.occursIn d (Text.strip s) = true)
    (hs : Source.ofPieces? d (Piece.ofText d (Text.strip s)) = none) :
    compile d s = .error .danglingPlaceholder := by
  rw [compile, compileBy, draft_of_occursIn ho, hs]
  rfl

theorem compile_of_source {d : Dialect} {s src : Text}
    (ho : Piece.occursIn d (Text.strip s) = true)
    (hs : Source.ofPieces? d (Piece.ofText d (Text.strip s)) = some src) :
    compile d s =
      if (Piece.ofText d (Text.strip s)).any isEmptyInterpolation then
        .error (.compile ⟨Text.strip s, .emptyInterpolation⟩)
      else match Compiled.ofSource src (Text.strip s) with
        | .ok c => .ok (.compiled c)
        | .error e => .error (.compile e) := by
  rw [compile, compileBy, draft_of_occursIn ho, hs]
  rfl

theorem compile_eq_ok_iff {d : Dialect} {s : Text} {c : Compiled} :
    compile d s = .ok (.compiled c) ↔ Piece.occursIn d (Text.strip s) = true ∧
      (Piece.ofText d (Text.strip s)).any isEmptyInterpolation = false ∧
      ∃ src, Source.ofPieces? d (Piece.ofText d (Text.strip s)) = some src ∧
        Compiled.ofSource src (Text.strip s) = .ok c := by
  constructor
  · intro h
    cases ho : Piece.occursIn d (Text.strip s) with
    | false =>
      rw [compile_of_not_occursIn ho] at h
      cases h
    | true =>
      cases hs : Source.ofPieces? d (Piece.ofText d (Text.strip s)) with
      | none =>
        rw [compile_of_dangling ho hs] at h
        cases h
      | some src =>
        rw [compile_of_source ho hs] at h
        split_ifs at h with he
        refine ⟨rfl, by simpa using he, src, rfl, ?_⟩
        cases hc : Compiled.ofSource src (Text.strip s) with
        | error r =>
          rw [hc] at h
          cases h
        | ok c' =>
          rw [hc] at h
          cases h
          rfl
  · rintro ⟨ho, he, src, hs, hc⟩
    rw [compile_of_source ho hs, he, if_neg (by decide), hc]

/-- The template is taken for one with interpolations: there is something to evaluate, or it is
reported that it does not compile. -/
def ReadsAsExpression (d : Dialect) (s : Text) : Prop :=
  (∃ c, compile d s = .ok (.compiled c)) ∨ ∃ e, compile d s = .error (.compile e)

theorem readsAsExpression_iff {d : Dialect} {s : Text} :
    ReadsAsExpression d s ↔ Piece.occursIn d (Text.strip s) = true ∧
      Source.ofPieces? d (Piece.ofText d (Text.strip s)) ≠ none := by
  cases ho : Piece.occursIn d (Text.strip s) with
  | false => simp [ReadsAsExpression, compile_of_not_occursIn ho]
  | true =>
    cases hs : Source.ofPieces? d (Piece.ofText d (Text.strip s)) with
    | none => simp [ReadsAsExpression, compile_of_dangling ho hs]
    | some src =>
      rw [ReadsAsExpression, compile_of_source ho hs]
      cases (Piece.ofText d (Text.strip s)).any isEmptyInterpolation with
      | true => simp
      | false => cases Compiled.ofSource src (Text.strip s) <;> simp

/-- A template is a text, with its margins folded, if there are no interpolations between them. -/
theorem compile_eq_text_iff {d : Dialect} {s t : Text} :
    compile d s = .ok (.text t) ↔
      Piece.occursIn d (Text.strip s) = false ∧ t = Margin.fold s := by
  cases ho : Piece.occursIn d (Text.strip s) with
  | false => simp [compile_of_not_occursIn ho, eq_comm]
  | true =>
    cases hs : Source.ofPieces? d (Piece.ofText d (Text.strip s)) with
    | none => simp [compile_of_dangling ho hs]
    | some src =>
      rcases readsAsExpression_iff.2 ⟨ho, by simp [hs]⟩ with ⟨c, hc⟩ | ⟨e, he⟩
      · simp [hc]
      · simp [he]

end Template

end Stencil
