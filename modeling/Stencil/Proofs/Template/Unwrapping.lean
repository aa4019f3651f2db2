import Stencil.Proofs.Template.Detection

/-! # Texts between marks

A text that is put between marks is an interpolation. Taking the marks away gives the text back,
without its margins, if it is the only one: if no closing mark stands earlier than the one put there. -/
namespace Stencil

namespace Piece

variable {d : Dialect} {s t code : Text}

theorem ofText_eq_nil_iff : ofText d s = [] ↔ s = [] := by
  cases ho : occursIn d s with
  | true =>
    refine iff_of_false (ofText_ne_nil ho) ?_
    rintro rfl
    cases ho
  | false =>
    rw [ofText_of_not_occursIn ho, ofLiteral]
    cases s <;> simp

/-- A text is a single interpolation if it is one from its first mark to its last. -/
theorem ofText_eq_interpolation_iff : ofText d s = [interpolation code] ↔
    ∃ e, s = d.opening ++ e ++ d.closing ∧ Closes d e ∧ code = Text.strip e := by
  constructor
  · intro h
    have ho : occursIn d s = true := occursIn_of_mem (v := code) (by simp [h])
    obtain ⟨⟨l, e, r⟩, hnext⟩ := Option.isSome_iff_exists.1 ho
    obtain ⟨hs, -, hc⟩ := next?_eq_some_iff.1 hnext
    rw [ofText_of_some hnext] at h
    obtain ⟨hl, hr⟩ : ofLiteral l = [] ∧ ofText d r = [] := by
      have hlen := congrArg List.length h
      simp only [List.length_append, List.length_cons, List.length_nil] at hlen
      exact ⟨List.length_eq_zero_iff.1 (by omega), List.length_eq_zero_iff.1 (by omega)⟩
    rw [hl, hr] at h
    obtain rfl : l = [] := by
      cases l with
      | nil => rfl
      | cons c l => simp [ofLiteral] at hl
    obtain rfl := ofText_eq_nil_iff.1 hr
    exact ⟨e, by simpa using hs, hc, by simpa using h.symm⟩
  · rintro ⟨e, rfl, hc, rfl⟩
    have hnext : next? d (d.opening ++ e ++ d.closing) = some ([], e, []) :=
      next?_eq_some_iff.2 ⟨by simp, Text.firstAt_nil, hc⟩
    rw [ofText_of_some hnext, ofText_eq_nil_iff.2 rfl]
    rfl

/-- A text that holds no first character of the closing mark ends where the mark stands. -/
theorem closes_of_not_mem {c : Char} {q : Text} (hd : d.closing = c :: q) (hne : t ≠ [])
    (ht : c ∉ t) : Closes d t := by
  refine ⟨hne, List.length_pos_iff.2 hne, by simp, fun k _ hk hprefix => ht ?_⟩
  rw [List.drop_append_of_le_length (by omega), hd] at hprefix
  obtain ⟨u, hu⟩ := hprefix
  have hdrop : t.drop k ≠ [] := by simpa using hk
  obtain ⟨x, r, hx⟩ := List.exists_cons_of_ne_nil hdrop
  rw [hx, List.cons_append, List.cons_append] at hu
  obtain rfl := (List.cons.inj hu).1
  exact List.mem_of_mem_drop (i := k) (by simp [hx])

theorem single?_eq_some_iff :
    single? d s = some code ↔ ofText d (Text.strip s) = [interpolation code] := by
  unfold single?
  split
  next v hv => simp [hv]
  next hne => exact iff_of_false (by simp) (hne code)

/-- Marks with solid ends have no margins. -/
theorem strip_marked (hd : d.HasSolidEnds) (t : Text) :
    Text.strip (d.opening ++ t ++ d.closing) = d.opening ++ t ++ d.closing := by
  apply Text.strip_self
  · rw [head?_marked]
    exact hd.opening
  · rw [getLast?_marked]
    exact hd.closing

theorem single?_marked (hd : d.HasSolidEnds) : single? d (d.opening ++ t ++ d.closing) = some code ↔
    Closes d t ∧ code = Text.strip t := by
  rw [single?_eq_some_iff, strip_marked hd, ofText_eq_interpolation_iff]
  constructor
  · rintro ⟨e, he, h⟩
    obtain rfl : t = e := List.append_cancel_left (List.append_cancel_right he)
    exact h
  · intro h
    exact ⟨t, rfl, h⟩

/-- A text without interpolations is one between marks, and stays so. It is the only one if a closing
mark stands first where it ends, its first character apart. Then taking the marks away leaves its
core, and otherwise they are not taken away. -/
theorem unwrap_wrapped (hd : d.HasSolidEnds) (ht : t ≠ []) (ho : occursIn d t = false) :
    occursIn d (wrap d t) = true ∧ wrap d (wrap d t) = wrap d t ∧
    ((single? d (wrap d t)).isSome = true ↔
      Text.FirstAt d.closing (t ++ d.closing) 1 t.length) ∧
    (Text.FirstAt d.closing (t ++ d.closing) 1 t.length →
      unwrap d (wrap d t) = Text.strip t) ∧
    (¬Text.FirstAt d.closing (t ++ d.closing) 1 t.length →
      unwrap d (wrap d t) = wrap d t) := by
  have hwrap : wrap d t = d.opening ++ t ++ d.closing := by simp [wrap, ho]
  have hoccurs : occursIn d (wrap d t) = true := hwrap ▸ occursIn_marked ht
  have hcloses : Closes d t ↔ Text.FirstAt d.closing (t ++ d.closing) 1 t.length :=
    and_iff_right ht
  have hsingle : ∀ code, single? d (wrap d t) = some code ↔
      Text.FirstAt d.closing (t ++ d.closing) 1 t.length ∧ code = Text.strip t := by
    intro code
    rw [hwrap, single?_marked hd, hcloses]
  refine ⟨hoccurs, if_pos hoccurs, ?_, fun h => ?_, fun h => ?_⟩
  · simp only [Option.isSome_iff_exists, hsingle, exists_and_left, exists_eq, and_true]
  · rw [unwrap, (hsingle _).2 ⟨h, rfl⟩]
    rfl
  · have hnone : single? d (wrap d t) = none :=
      Option.eq_none_iff_forall_ne_some.2 fun code hcode => h ((hsingle code).1 hcode).1
    rw [unwrap, hnone]
    rfl

/-- A brace at the head of a text is no part of the closing mark, one at its end is. -/
theorem unwrap_wrapped_braces :
    Dialect.standard.HasSolidEnds ∧
    (∃ t : Text, t = "\x7d a ".toList ∧ t ≠ [] ∧ occursIn .standard t = false ∧
      Text.FirstAt Dialect.standard.closing (t ++ Dialect.standard.closing) 1 t.length ∧
      unwrap .standard (wrap .standard t) = "\x7d a".toList) ∧
    ∃ t : Text, t = " a\x7d".toList ∧ t ≠ [] ∧ occursIn .standard t = false ∧
      ¬Text.FirstAt Dialect.standard.closing (t ++ Dialect.standard.closing) 1 t.length ∧
      unwrap .standard (wrap .standard t) = "\x7b\x7b a\x7d\x7d\x7d".toList := by
  have hd : Dialect.standard.HasSolidEnds := by
    constructor <;> rintro _ ⟨⟩ <;> rfl
  have hhead : occursIn .standard "\x7d a ".toList = false := by decide
  have hend : occursIn .standard " a\x7d".toList = false := by decide
  obtain ⟨-, -, hfirst, hcore, -⟩ := unwrap_wrapped hd (by decide) hhead
  obtain ⟨-, -, hlater, -, hwhole⟩ := unwrap_wrapped hd (by decide) hend
  have hone := hfirst.1 (by decide +kernel)
  have hmore := mt hlater.2 (by decide +kernel)
  exact ⟨hd, ⟨_, rfl, by decide, hhead, hone, hcore hone⟩,
    ⟨_, rfl, by decide, hend, hmore, hwhole hmore⟩⟩

end Piece

end Stencil
