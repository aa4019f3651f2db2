import Mathlib.Data.List.TakeWhile
import Stencil.Text.Blank

/-! # The margins of a text

A text is its core between blank margins, and the core is what is left without them. Whatever stands
in the text and is blank at neither end stands in the core. -/
namespace Stencil.Text

/-- What is left does not begin with a member that is dropped. -/
theorem head?_dropWhile {α : Type} (p : α → Bool) (s : List α) :
    ∀ a ∈ (s.dropWhile p).head?, p a = false := by
  intro a ha
  have := List.head?_dropWhile_not p s
  rw [ha] at this
  simpa using this

/-- What a list holds between margins of members with `p`. -/
theorem exists_margins {α : Type} (p : α → Bool) (s : List α) :
    ∃ y c x, s = y ++ c ++ x ∧ (∀ a ∈ y, p a = true) ∧ (∀ a ∈ x, p a = true) ∧
      (∀ a ∈ c.head?, p a = false) ∧ (∀ a ∈ c.getLast?, p a = false) ∧ (c = [] → x = []) := by
  have hfirst := head?_dropWhile p s
  obtain ⟨t, ht⟩ : ∃ t, s.dropWhile p = t := ⟨_, rfl⟩
  have hs : s = s.takeWhile p ++ t := by rw [← ht, List.takeWhile_append_dropWhile]
  rw [ht] at hfirst
  have hend : t = (t.reverse.dropWhile p).reverse ++ (t.reverse.takeWhile p).reverse := by
    rw [← List.reverse_append, List.takeWhile_append_dropWhile, List.reverse_reverse]
  have hx : ∀ a ∈ (t.reverse.takeWhile p).reverse, p a = true :=
    fun a ha => List.mem_takeWhile_imp (List.mem_reverse.1 ha)
  have hlast : ∀ a ∈ (t.reverse.dropWhile p).reverse.getLast?, p a = false := by
    rw [List.getLast?_reverse]
    exact head?_dropWhile p t.reverse
  generalize (t.reverse.takeWhile p).reverse = x at hend hx
  generalize (t.reverse.dropWhile p).reverse = c at hend hlast
  refine ⟨s.takeWhile p, c, x, by rw [List.append_assoc, ← hend, ← hs],
    fun a ha => List.mem_takeWhile_imp ha, hx, fun a ha => ?_, hlast, ?_⟩
  · obtain ⟨c', rfl⟩ := List.head?_eq_some_iff.1 ha
    exact hfirst a (by simp [hend])
  · rintro rfl
    rcases x with _ | ⟨a, x⟩
    · rfl
    · have := hfirst a (by simp [hend])
      rw [hx a (by simp)] at this
      cases this

/-- The text between blank margins. -/
theorem strip_eq {y c x : Text} (hy : ∀ a ∈ y, isBlank a = true) (hx : ∀ a ∈ x, isBlank a = true)
    (hfirst : ∀ a ∈ c.head?, isBlank a = false) (hlast : ∀ a ∈ c.getLast?, isBlank a = false) :
    strip (y ++ c ++ x) = c := by
  rw [strip, trimStart, List.append_assoc, List.dropWhile_append_of_pos hy]
  rcases c with _ | ⟨a, c⟩
  · rw [List.nil_append, List.dropWhile_eq_nil_iff.2 hx]
    rfl
  · rw [List.cons_append, List.dropWhile_cons_of_neg (by simp [hfirst a rfl]), ← List.cons_append,
      trimEnd, List.reverse_append,
      List.dropWhile_append_of_pos fun b hb => hx b (by simpa using hb)]
    obtain ⟨t, b, ht⟩ := (List.eq_nil_or_concat (a :: c)).resolve_left (by simp)
    rw [ht, List.concat_eq_append] at hlast ⊢
    rw [List.reverse_append, List.reverse_singleton, List.singleton_append,
      List.dropWhile_cons_of_neg (by simp [hlast b (by simp)])]
    simp

theorem strip_self {c : Text} (hfirst : ∀ a ∈ c.head?, isBlank a = false)
    (hlast : ∀ a ∈ c.getLast?, isBlank a = false) : strip c = c := by
  have h := strip_eq (y := []) (x := []) (by simp) (by simp) hfirst hlast
  rwa [List.nil_append, List.append_nil] at h

theorem mem_of_mem_strip {s : Text} {c : Char} (h : c ∈ strip s) : c ∈ s := by
  have := (List.dropWhile_sublist _).subset (List.mem_reverse.1 h)
  exact (List.dropWhile_sublist _).subset (List.mem_reverse.1 this)

/-- `c` stands between the blank margins `y` and `x` and is blank at neither end. -/
structure IsFramed (y c x : Text) : Prop where
  before : ∀ a ∈ y, isBlank a = true
  behind : ∀ a ∈ x, isBlank a = true
  first : ∀ a ∈ c.head?, isBlank a = false
  last : ∀ a ∈ c.getLast?, isBlank a = false

theorem IsFramed.strip_eq {y c x : Text} (h : IsFramed y c x) : strip (y ++ c ++ x) = c :=
  Text.strip_eq h.before h.behind h.first h.last

variable {m s : Text}

/-- Around its core a text has blanks only. A text that is blank altogether counts as the margin in
front. -/
theorem exists_strip (s : Text) :
    ∃ y x, s = y ++ strip s ++ x ∧ IsFramed y (strip s) x ∧ (strip s = [] → x = []) := by
  obtain ⟨y, c, x, hs, hy, hx, hfirst, hlast, hnil⟩ := exists_margins isBlank s
  have h : IsFramed y c x := ⟨hy, hx, hfirst, hlast⟩
  obtain rfl : strip s = c := hs ▸ h.strip_eq
  exact ⟨y, x, hs, h, hnil⟩

theorem head?_strip (s : Text) : ∀ a ∈ (strip s).head?, isBlank a = false := by
  obtain ⟨y, x, -, h, -⟩ := exists_strip s
  exact h.first

theorem getLast?_strip (s : Text) : ∀ a ∈ (strip s).getLast?, isBlank a = false := by
  obtain ⟨y, x, -, h, -⟩ := exists_strip s
  exact h.last

/-- Nothing is left of the blank texts only. -/
theorem strip_eq_nil_iff : strip s = [] ↔ ∀ a ∈ s, isBlank a = true := by
  constructor
  · intro h
    obtain ⟨y, x, hs, hframed, hnil⟩ := exists_strip s
    rw [hs, h, hnil h, List.append_nil, List.append_nil]
    exact hframed.before
  · intro h
    have hstrip := strip_eq (c := []) (x := []) h (by simp) (by simp) (by simp)
    rwa [List.append_nil, List.append_nil] at hstrip

theorem strip_infix (s : Text) : strip s <:+: s := by
  obtain ⟨y, x, hs, -⟩ := exists_strip s
  exact ⟨y, x, hs.symm⟩

/-- What does not begin with a member that is dropped is not cut when such members are dropped. -/
theorem infix_dropWhile {α : Type} {p : α → Bool} {m s : List α}
    (hm : ∀ a ∈ m.head?, p a = false) (h : m <:+: s) : m <:+: s.dropWhile p := by
  induction s with
  | nil => exact h
  | cons a s ih =>
    by_cases ha : p a = true
    · rw [List.dropWhile_cons_of_pos ha]
      apply ih
      rcases List.infix_cons_iff.1 h with hp | hi
      · rcases m with _ | ⟨b, m⟩
        · exact List.nil_infix
        · obtain rfl := (List.cons_prefix_cons.1 hp).1
          rw [hm b rfl] at ha
          cases ha
      · exact hi
    · rwa [List.dropWhile_cons_of_neg ha]

/-- What is blank at neither end is not cut with the margins. -/
theorem infix_strip (hfirst : ∀ a ∈ m.head?, isBlank a = false)
    (hlast : ∀ a ∈ m.getLast?, isBlank a = false) (h : m <:+: s) : m <:+: strip s := by
  have hstart : m <:+: trimStart s := infix_dropWhile hfirst h
  have hend : m.reverse <:+: (trimStart s).reverse.dropWhile isBlank :=
    infix_dropWhile (by rwa [List.head?_reverse]) (List.reverse_infix.2 hstart)
  rw [strip, trimEnd, ← List.reverse_infix, List.reverse_reverse]
  exact hend

end Stencil.Text
