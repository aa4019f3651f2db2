import Stencil.Proofs.Template.Compilation
import Stencil.Proofs.Text.Margins

/-! # Folded margins

Folding keeps the core of a text and at most a space of either margin. A text that is folded stays as
it is, so the text that a template without interpolations is compiled to is compiled to itself. -/
namespace Stencil

namespace Margin

variable {c s x y : Text}

/-! ## The fold of a text in parts -/

/-- What is put in front of the core for the margin `y`: a lone blank that is no space is lost. -/
def lead (y : Text) : Text := if y = [' '] ∨ 2 ≤ y.length then [' '] else []

/-- What is put behind the core for the margins `y` and `x`. The blank that is lost in front counts
as one more behind. -/
def trail (y x : Text) : Text := if x ≠ [] ∨ y.length = 1 ∧ y ≠ [' '] then [' '] else []

theorem foldHead_margin {r : Text} (hy : ∀ a ∈ y, Text.isBlank a = true)
    (hr : ∀ a ∈ r.head?, Text.isBlank a = false) :
    foldHead (y ++ r) = (if 2 ≤ y.length then [' '] else y) ++ r := by
  rcases y with _ | ⟨a, _ | ⟨b, y⟩⟩
  · rcases r with _ | ⟨a, _ | ⟨b, r⟩⟩
    · rfl
    · rfl
    · simp [foldHead, hr a rfl]
  · rcases r with _ | ⟨b, r⟩
    · rfl
    · simp [foldHead, hr b rfl]
  · have htrim : Text.trimStart (y ++ r) = r := by
      rw [Text.trimStart, List.dropWhile_append_of_pos fun a ha => hy a (by simp [ha])]
      rcases r with _ | ⟨e, r⟩
      · rfl
      · rw [List.dropWhile_cons_of_neg (by simp [hr e rfl])]
    simp [foldHead, hy a (by simp), hy b (by simp), htrim]

theorem trimmed_margins (h : Text.IsFramed y c x) (hc : c ≠ []) (hlen : y.length ≤ 1) :
    trimmed (y ++ c ++ x) = lead y ++ c ++ trail y x := by
  rw [trimmed, h.strip_eq, lead, trail]
  rcases y with _ | ⟨a, _ | ⟨b, y⟩⟩
  · have hspaced : (c ++ x).head? ≠ some ' ' := by
      rw [List.head?_append_of_ne_nil _ hc]
      intro hspace
      cases h.first ' ' hspace
    rw [List.nil_append, if_neg hspaced]
    cases x <;> simp
  · by_cases ha : a = ' '
    · cases x <;> simp [ha]
    · have : c.length < c.length + x.length + 1 := by omega
      simp [ha, this]
  · simp at hlen

/-- Around a core, each margin leaves at most a space. -/
theorem fold_margins (h : Text.IsFramed y c x) (hc : c ≠ []) :
    fold (y ++ c ++ x) = lead y ++ c ++ trail y x := by
  obtain ⟨z, hz⟩ : ∃ z, (if 2 ≤ y.length then [' '] else y) = z := ⟨_, rfl⟩
  have hhead : foldHead (y ++ c ++ x) = z ++ c ++ x := by
    rw [List.append_assoc, foldHead_margin h.before, hz, List.append_assoc]
    rw [List.head?_append_of_ne_nil _ hc]
    exact h.first
  obtain ⟨hblank, hlen, hlead, htrail⟩ : (∀ a ∈ z, Text.isBlank a = true) ∧ z.length ≤ 1 ∧
      lead z = lead y ∧ trail z x = trail y x := by
    rw [← hz]
    split_ifs with hlen
    · have hlead : lead y = [' '] := if_pos (.inr hlen)
      have htrail : trail y x = trail [' '] x := by
        have : y.length ≠ 1 := by omega
        simp [trail, this]
      exact ⟨List.all_eq_true.1 rfl, Nat.le_refl 1, hlead.symm, htrail.symm⟩
    · exact ⟨h.before, by omega, rfl, rfl⟩
  have htrimmed := trimmed_margins { h with before := hblank } hc hlen
  rw [fold, hhead, ← hlead, ← htrail, ← htrimmed, ite_eq_right_iff]
  intro hone
  obtain ⟨rfl, rfl⟩ : z = [] ∧ x = [] := by
    have := List.length_pos_iff.2 hc
    simp only [List.length_append] at hone
    exact ⟨List.length_eq_zero_iff.1 (by omega), List.length_eq_zero_iff.1 (by omega)⟩
  rw [htrimmed]
  simp [lead, trail]

/-- Of a blank text a single blank is left, which is the space if there were more of them. -/
theorem fold_blank (hy : ∀ a ∈ y, Text.isBlank a = true) :
    fold y = if y.length ≤ 1 then y else [' '] := by
  have hhead := foldHead_margin (r := []) hy (by simp)
  rw [List.append_nil, List.append_nil] at hhead
  by_cases h : y.length ≤ 1
  · rw [if_neg (by omega)] at hhead
    rw [fold, hhead, if_pos h, if_pos h]
  · rw [if_pos (by omega)] at hhead
    rw [fold, hhead, if_neg h]
    rfl

/-- A text is blank and its fold is at most a single blank, or its fold is its core with what becomes
of the margins. -/
theorem fold_cases (s : Text) :
    (Text.strip s = [] ∧ (fold s).length ≤ 1 ∧ ∀ a ∈ fold s, Text.isBlank a = true) ∨
    (Text.strip s ≠ [] ∧ ∃ y x, s = y ++ Text.strip s ++ x ∧ Text.IsFramed y (Text.strip s) x ∧
      fold s = lead y ++ Text.strip s ++ trail y x) := by
  obtain ⟨y, x, hs, hframed, hnil⟩ := Text.exists_strip s
  by_cases hc : Text.strip s = []
  · rw [hc, hnil hc, List.append_nil, List.append_nil] at hs
    refine .inl ⟨hc, ?_⟩
    rw [hs, fold_blank hframed.before]
    split_ifs with h
    · exact ⟨h, hframed.before⟩
    · exact ⟨Nat.le_refl 1, List.all_eq_true.1 rfl⟩
  · refine .inr ⟨hc, y, x, hs, hframed, ?_⟩
    have hfold := fold_margins hframed hc
    rwa [← hs] at hfold

/-! ## Folded texts -/

/-- What may be left of a margin. -/
def spaces : List Text := [[], [' ']]

theorem lead_mem_spaces (y : Text) : lead y ∈ spaces := by
  unfold lead
  split_ifs <;> simp [spaces]

theorem trail_mem_spaces (y x : Text) : trail y x ∈ spaces := by
  unfold trail
  split_ifs <;> simp [spaces]

theorem isFramed_of_mem_spaces (hy : y ∈ spaces) (hx : x ∈ spaces) (s : Text) :
    Text.IsFramed y (Text.strip s) x := by
  have hall : (spaces.all fun x => x.all Text.isBlank) = true := by decide
  have hblank : ∀ z ∈ spaces, ∀ a ∈ z, Text.isBlank a = true := fun z hz =>
    List.all_eq_true.1 (List.all_eq_true.1 hall z hz)
  exact ⟨hblank y hy, hblank x hx, Text.head?_strip s, Text.getLast?_strip s⟩

/-- At most a character, or a core with at most a space at either end. -/
def IsFolded (s : Text) : Prop :=
  s.length ≤ 1 ∨ (Text.strip s ≠ [] ∧
    ∃ y ∈ spaces, ∃ x ∈ spaces, s = y ++ Text.strip s ++ x)

theorem strip_fold (s : Text) : Text.strip (fold s) = Text.strip s := by
  rcases fold_cases s with ⟨hc, -, hall⟩ | ⟨-, y, x, -, -, hfold⟩
  · rw [hc, Text.strip_eq_nil_iff]
    exact hall
  · rw [hfold]
    exact (isFramed_of_mem_spaces (lead_mem_spaces y) (trail_mem_spaces y x) s).strip_eq

theorem isFolded_fold (s : Text) : IsFolded (fold s) := by
  rcases fold_cases s with ⟨-, hlen, -⟩ | ⟨hc, y, x, -, -, hfold⟩
  · exact .inl hlen
  · rw [IsFolded, strip_fold]
    exact .inr ⟨hc, lead y, lead_mem_spaces y, trail y x, trail_mem_spaces y x, hfold⟩

/-- The folded texts are those that stay as they are. -/
theorem fold_eq_self_iff : fold s = s ↔ IsFolded s := by
  constructor
  · intro h
    rw [← h]
    exact isFolded_fold s
  · rintro (hlen | ⟨hc, y, hy, x, hx, hs⟩)
    · have hhead : foldHead s = s := by
        rcases s with _ | ⟨a, _ | ⟨b, s⟩⟩
        · rfl
        · rfl
        · simp at hlen
      rw [fold, hhead, if_pos hlen]
    · have hfold := fold_margins (isFramed_of_mem_spaces hy hx s) hc
      have hlead : lead y = y := by
        rcases List.mem_pair.1 hy with rfl | rfl <;> rfl
      have htrail : trail y x = x := by
        rcases List.mem_pair.1 hy with rfl | rfl <;> rcases List.mem_pair.1 hx with rfl | rfl <;> rfl
      rwa [← hs, hlead, htrail, ← hs] at hfold

/-! ## The ends of a folded text -/

/-- The text begins with a lone blank that is no space. Folding loses it. -/
def LosesBlank (s : Text) : Prop :=
  ∃ a r, s = a :: r ∧ Text.isBlank a = true ∧ a ≠ ' ' ∧ ∀ b ∈ r.head?, Text.isBlank b = false

/-- The text ends with a blank. -/
def EndsBlank (s : Text) : Prop := ∃ a ∈ s.getLast?, Text.isBlank a = true

theorem endsBlank_iff (h : Text.IsFramed y c x) (hc : c ≠ []) :
    EndsBlank (y ++ c ++ x) ↔ x ≠ [] := by
  unfold EndsBlank
  rcases List.eq_nil_or_concat x with rfl | ⟨t, a, rfl⟩
  · rw [List.append_nil, List.getLast?_append_of_ne_nil _ hc]
    simpa using h.last
  · have ha := h.behind a (by simp)
    simp [ha]

theorem losesBlank_iff (h : Text.IsFramed y c x) (hc : c ≠ []) :
    LosesBlank (y ++ c ++ x) ↔ y.length = 1 ∧ y ≠ [' '] := by
  obtain ⟨e, t, rfl⟩ := List.exists_cons_of_ne_nil hc
  have he := h.first e rfl
  rcases y with _ | ⟨a, _ | ⟨b, y⟩⟩
  · simp [LosesBlank, he]
  · have ha := h.before a (by simp)
    simp [LosesBlank, ha, he]
  · have hb := h.before b (by simp)
    simp [LosesBlank, hb]

theorem getLast?_fold_iff (h : Text.IsFramed y c x) (hc : c ≠ []) :
    (lead y ++ c ++ trail y x).getLast? = some ' ' ↔ x ≠ [] ∨ y.length = 1 ∧ y ≠ [' '] := by
  unfold trail
  split_ifs with hspaced
  · simp [hspaced]
  · rw [List.append_nil, List.getLast?_append_of_ne_nil _ hc]
    refine iff_of_false (fun hspace => ?_) hspaced
    cases h.last ' ' hspace

/-- A text that is not blank keeps its core, with at most a space at either end. There is one at the
end if the text ends with a blank, or if it begins with a lone blank that is no space. -/
theorem folded_ends (h : ∃ a ∈ s, Text.isBlank a = false) :
    (∃ y ∈ spaces, ∃ x ∈ spaces, fold s = y ++ Text.strip s ++ x) ∧
    ((fold s).getLast? = some ' ' ↔ EndsBlank s ∨ LosesBlank s) := by
  obtain ⟨a, ha, hsolid⟩ := h
  rcases fold_cases s with ⟨hc, -⟩ | ⟨hc, y, x, hs, hframed, hfold⟩
  · rw [Text.strip_eq_nil_iff.1 hc a ha] at hsolid
    cases hsolid
  · refine ⟨⟨lead y, lead_mem_spaces y, trail y x, trail_mem_spaces y x, hfold⟩, ?_⟩
    have hends := endsBlank_iff hframed hc
    have hloses := losesBlank_iff hframed hc
    rw [← hs] at hends hloses
    rw [hfold, getLast?_fold_iff hframed hc, hends, hloses]

/-- Line ends and spaces around a word. -/
theorem folded_ends_lines :
    ∃ s : Text, s = "\n\n  hello  \n".toList ∧ (∃ a ∈ s, Text.isBlank a = false) ∧
      fold s = " hello ".toList ∧
      (∃ y ∈ spaces, ∃ x ∈ spaces, fold s = y ++ Text.strip s ++ x) ∧
      ((fold s).getLast? = some ' ' ↔ EndsBlank s ∨ LosesBlank s) := by
  have h : ∃ a ∈ "\n\n  hello  \n".toList, Text.isBlank a = false :=
    ⟨'h', by decide, by decide⟩
  exact ⟨_, rfl, h, by decide, folded_ends h⟩

/-- The tab in front is lost and a space put behind, where the text ends with no blank. -/
theorem not_folded_ends :
    fold "\tfoo".toList = "foo ".toList ∧
    ¬∀ s : Text, (∃ a ∈ s, Text.isBlank a = false) →
      ((fold s).getLast? = some ' ' ↔ EndsBlank s) := by
  have hfold : fold "\tfoo".toList = "foo ".toList := by decide
  refine ⟨hfold, fun h => ?_⟩
  obtain ⟨a, ha, hblank⟩ := (h "\tfoo".toList ⟨'f', by decide, by decide⟩).1 (by rw [hfold]; rfl)
  cases ha
  cases hblank

end Margin

namespace Template

/-- Folding keeps the core of a text, and with it what compilation sees of interpolations. It is done
after one time, so a template that is compiled to a text is compiled to the same text again. -/
theorem text_stable (d : Dialect) (s : Text) :
    Text.strip (Margin.fold s) = Text.strip s ∧
    Margin.IsFolded (Margin.fold s) ∧ Margin.fold (Margin.fold s) = Margin.fold s ∧
    Piece.occursIn d (Text.strip (Margin.fold s)) = Piece.occursIn d (Text.strip s) ∧
    ∀ t, compile d s = .ok (.text t) → compile d t = .ok (.text t) ∧ source d t = .ok t := by
  have hstrip := Margin.strip_fold s
  have hfolded := Margin.isFolded_fold s
  have hfold := Margin.fold_eq_self_iff.2 hfolded
  refine ⟨hstrip, hfolded, hfold, by rw [hstrip], fun t ht => ?_⟩
  obtain ⟨ho, rfl⟩ := compile_eq_text_iff.1 ht
  rw [← hstrip] at ho
  have hcompile := compile_of_not_occursIn ho
  have hsource := source_of_not_occursIn ho
  rw [hfold] at hcompile hsource
  exact ⟨hcompile, hsource⟩

/-- Line ends and spaces around a word, with an opening mark that is not closed. -/
theorem text_stable_lines :
    ∃ s t : Text, s = "\n\n  \x7b\x7b a  \n".toList ∧ t = " \x7b\x7b a ".toList ∧
      compile .standard s = .ok (.text t) ∧
      compile .standard t = .ok (.text t) ∧ source .standard t = .ok t := by
  have ho : Piece.occursIn .standard (Text.strip "\n\n  \x7b\x7b a  \n".toList) = false := by decide
  have hfold : Margin.fold "\n\n  \x7b\x7b a  \n".toList = " \x7b\x7b a ".toList := by decide
  have hcompile := compile_of_not_occursIn ho
  rw [hfold] at hcompile
  obtain ⟨-, -, -, -, hagain⟩ := text_stable .standard "\n\n  \x7b\x7b a  \n".toList
  exact ⟨_, _, rfl, rfl, hcompile, hagain _ hcompile⟩

end Template

end Stencil
