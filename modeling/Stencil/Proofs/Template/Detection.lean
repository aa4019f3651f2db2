import Stencil.Proofs.Template.Placeholders

/-! # Interpolations in a text and in its core

Compilation looks for interpolations between the blank margins of a template. It finds what is in the
template as it stands if no mark has a blank at its outer end, and only then. -/
namespace Stencil

/-- No blank stands where the marks around an interpolation begin and where they end. -/
structure Dialect.HasSolidEnds (d : Dialect) : Prop where
  opening : ∀ a ∈ d.opening.head?, Text.isBlank a = false
  closing : ∀ a ∈ d.closing.getLast?, Text.isBlank a = false

namespace Piece

variable {d : Dialect} {s t : Text}

theorem HoldsInterpolation.of_infix (h : HoldsInterpolation d s) (hs : s <:+: t) :
    HoldsInterpolation d t := by
  obtain ⟨x, hx, hi⟩ := h
  exact ⟨x, hx, hi.trans hs⟩

theorem head?_marked (d : Dialect) (t : Text) :
    (d.opening ++ t ++ d.closing).head? = d.opening.head? := by
  rw [List.append_assoc, List.head?_append_of_ne_nil _ d.opening_ne_nil]

theorem getLast?_marked (d : Dialect) (t : Text) :
    (d.opening ++ t ++ d.closing).getLast? = d.closing.getLast? :=
  List.getLast?_append_of_ne_nil _ d.closing_ne_nil

/-- The margins do not reach into an interpolation. -/
theorem HoldsInterpolation.strip (h : HoldsInterpolation d s) (hd : d.HasSolidEnds) :
    HoldsInterpolation d (Text.strip s) := by
  obtain ⟨x, hx, hi⟩ := h
  refine ⟨x, hx, Text.infix_strip ?_ ?_ hi⟩
  · rw [head?_marked]
    exact hd.opening
  · rw [getLast?_marked]
    exact hd.closing

theorem occursIn_strip (hd : d.HasSolidEnds) (s : Text) :
    occursIn d (Text.strip s) = occursIn d s := by
  rw [Bool.eq_iff_iff, occursIn_iff_holds, occursIn_iff_holds]
  exact ⟨fun h => h.of_infix (Text.strip_infix s), fun h => h.strip hd⟩

theorem occursIn_marked (ht : t ≠ []) : occursIn d (d.opening ++ t ++ d.closing) = true :=
  occursIn_iff_holds.2 ⟨t, ht, List.infix_rfl⟩

/-- The shortest interpolations there are tell whether the marks have solid ends. -/
theorem hasSolidEnds_of_occursIn {a : Char}
    (h : occursIn d (Text.strip (d.opening ++ [a] ++ d.closing)) = true) : d.HasSolidEnds := by
  obtain ⟨x, hx, hi⟩ := occursIn_iff_holds.1 h
  have hstrip : Text.strip (d.opening ++ [a] ++ d.closing) = d.opening ++ [a] ++ d.closing := by
    have hle := hi.length_le
    have hpos := List.length_pos_iff.2 hx
    have hinfix := Text.strip_infix (d.opening ++ [a] ++ d.closing)
    have hlen := hinfix.length_le
    simp only [List.length_append, List.length_singleton] at hle hlen
    exact hinfix.eq_of_length (by simp only [List.length_append, List.length_singleton]; omega)
  have hfirst := Text.head?_strip (d.opening ++ [a] ++ d.closing)
  have hlast := Text.getLast?_strip (d.opening ++ [a] ++ d.closing)
  rw [hstrip, head?_marked] at hfirst
  rw [hstrip, getLast?_marked] at hlast
  exact ⟨hfirst, hlast⟩

theorem hasSolidEnds_iff :
    d.HasSolidEnds ↔ ∀ s, occursIn d (Text.strip s) = occursIn d s := by
  refine ⟨occursIn_strip, fun h => hasSolidEnds_of_occursIn (a := 'a') ?_⟩
  rw [h]
  exact occursIn_marked (by simp)

end Piece

namespace Template

variable {d : Dialect} {s : Text}

theorem readsAsExpression_iff_not_dangles :
    ReadsAsExpression d s ↔ Piece.occursIn d (Text.strip s) = true ∧ ¬Dangles d s := by
  rw [readsAsExpression_iff, ne_eq, Source.ofPieces?_eq_none_iff]
  rfl

/-- Looking for interpolations in the core of a text finds the same as looking in the text if and
only if the marks have solid ends. Then a text without interpolations is compiled to a text, and a
text with interpolations is taken for an expression unless it dangles. -/
theorem detection_agrees (d : Dialect) :
    (d.HasSolidEnds ↔ ∀ s, Piece.occursIn d (Text.strip s) = Piece.occursIn d s) ∧
    (d.HasSolidEnds → ∀ s,
      ((∃ t, compile d s = .ok (.text t)) ↔ Piece.occursIn d s = false) ∧
      (ReadsAsExpression d s ↔ Piece.occursIn d s = true ∧ ¬Dangles d s)) := by
  refine ⟨Piece.hasSolidEnds_iff, fun hd s => ?_⟩
  have hs := Piece.occursIn_strip hd s
  constructor
  · simp only [compile_eq_text_iff, hs, exists_and_left, exists_eq, and_true]
  · rw [readsAsExpression_iff_not_dangles, hs]

/-- Marks with blanks at their inner ends, between margins. -/
theorem detection_agrees_inner :
    ∃ d : Dialect, d.opening = "<% ".toList ∧ d.closing = " %>".toList ∧ d.HasSolidEnds ∧
      ReadsAsExpression d "\n <% a %> \n".toList ∧
      Piece.occursIn d "\n <% a %> \n".toList = true := by
  let d : Dialect := { Dialect.standard with
    opening := "<% ".toList, closing := " %>".toList, opening_ne_nil := by decide,
    closing_ne_nil := by decide, opening_ne_closing := by decide }
  have hd : d.HasSolidEnds := by
    constructor <;> rintro _ ⟨⟩ <;> rfl
  have ho : Piece.occursIn d "\n <% a %> \n".toList = true := by decide
  have hmark : Scoping.mark ∉ "\n <% a %> \n".toList := by decide
  exact ⟨d, rfl, rfl, hd, (((detection_agrees d).2 hd _).2).2 ⟨ho, fun h => hmark h.mem⟩, ho⟩

/-- A line end that is a mark is cut with the margin, so the interpolation in front of it is taken
for text. A template that dangles is not taken for an expression, nor for a text. -/
theorem not_detection_agrees :
    (∃ d : Dialect, d.opening = "% ".toList ∧ d.closing = ['\n'] ∧
      Piece.occursIn d "% a\n".toList = true ∧
      Piece.occursIn d (Text.strip "% a\n".toList) = false ∧
      compile d "% a\n".toList = .ok (.text "% a ".toList) ∧
      ¬ReadsAsExpression d "% a\n".toList) ∧
    Piece.occursIn .standard "\x7b\x7b \x000\x00 \x7d\x7d".toList = true ∧
    ¬ReadsAsExpression .standard "\x7b\x7b \x000\x00 \x7d\x7d".toList := by
  constructor
  · let d : Dialect := { Dialect.standard with
      opening := "% ".toList, closing := ['\n'], opening_ne_nil := by decide,
      closing_ne_nil := by decide, opening_ne_closing := by decide }
    have ho : Piece.occursIn d (Text.strip "% a\n".toList) = false := by decide
    refine ⟨d, rfl, rfl, by decide, ho, compile_of_not_occursIn ho, fun h => ?_⟩
    have := (readsAsExpression_iff.1 h).1
    rw [ho] at this
    cases this
  · refine ⟨by decide, fun h => ?_⟩
    have hs : Source.ofPieces? .standard (Piece.ofText .standard
        (Text.strip "\x7b\x7b \x000\x00 \x7d\x7d".toList)) = none := by decide +kernel
    exact (readsAsExpression_iff.1 h).2 hs

end Template

end Stencil
