import Mathlib.Data.List.Find
import Mathlib.Tactic.SplitIfs
import Stencil.Journal.Store

/-! # What a store holds behind a change

A node is put, taken away or moved, and a line is appended: what is then at each path, and that the
other paths are left as they were. -/
namespace Stencil.Journal.Store

variable {s : Store} {p q source target : Path} {n : Node} {l : Line}

/-! ## Single nodes -/

theorem get?_of_isGiven (h : p.isGiven = true) (s : Store) : s.get? p = some .directory := by
  rw [get?, if_pos h]

theorem get?_of_not_isGiven (h : p.isGiven = false) (s : Store) :
    s.get? p = (s.find? fun e => e.1 == p).map Prod.snd := by
  rw [get?, if_neg (by simp [h])]

theorem isDirectory_iff : s.isDirectory p = true ↔ s.get? p = some .directory := by
  simp [isDirectory]

theorem isDirectory_eq_false_iff : s.isDirectory p = false ↔ s.get? p ≠ some .directory := by
  simp [isDirectory]

/-- A path that is no directory is not one of those that always are. -/
theorem not_isGiven_of (h : s.isDirectory p = false) : p.isGiven = false := by
  rw [← Bool.not_eq_true]
  exact fun hp => isDirectory_eq_false_iff.1 h (get?_of_isGiven hp s)

theorem not_isGiven_of_none (h : s.get? p = none) : p.isGiven = false := by
  rw [← Bool.not_eq_true]
  intro hp
  rw [get?_of_isGiven hp] at h
  cases h

theorem find?_remove (s : Store) (p q : Path) : (s.remove p).find? (fun e => e.1 == q) =
    if q = p then none else s.find? fun e => e.1 == q := by
  rw [remove, List.find?_filter]
  split_ifs with h
  · simp [h]
  · apply congrArg (s.find? ·)
    funext e
    by_cases he : e.1 = q <;> simp [he, h]

theorem get?_remove (hp : p.isGiven = false) (s : Store) (q : Path) :
    (s.remove p).get? q = if q = p then none else s.get? q := by
  by_cases hq : q = p
  · subst hq
    rw [get?_of_not_isGiven hp, find?_remove, if_pos rfl, if_pos rfl, Option.map_none]
  · rw [get?, get?, find?_remove, if_neg hq, if_neg hq]

theorem get?_put (hp : p.isGiven = false) (s : Store) (n : Node) (q : Path) :
    (s.put p n).get? q = if q = p then some n else s.get? q := by
  by_cases hq : q = p
  · subst hq
    rw [get?_of_not_isGiven hp, put, List.find?_append, find?_remove, if_pos rfl, if_pos rfl]
    simp
  · have hlast : [(p, n)].find? (fun e => e.1 == q) = none := by simp [Ne.symm hq]
    rw [get?, get?, put, List.find?_append, find?_remove, if_neg hq, if_neg hq, hlast,
      Option.or_none]

/-! ## Moves -/

/-- Where a path is behind a move. -/
def moved (source target p : Path) : Path :=
  if source.isPrefixOf p then target ++ p.drop source.length else p

/-- Behind a move of a path to another one that is as long, a path that is not longer is what it
was, but for the two. -/
theorem moved_eq_iff (hlen : target.length = source.length) (hq : q.length ≤ source.length)
    (hp : p ≠ target) : moved source target p = q ↔
      if q = target then p = source else p = q ∧ q ≠ source := by
  by_cases hprefix : source <+: p
  · obtain ⟨r, rfl⟩ := hprefix
    have hmoved : moved source target (source ++ r) = target ++ r := by simp [moved]
    rw [hmoved]
    have hiff : target ++ r = q ↔ r = [] ∧ target = q := by
      constructor
      · rintro rfl
        rw [List.length_append] at hq
        have : r = [] := List.length_eq_zero_iff.1 (by omega)
        simp [this]
      · rintro ⟨rfl, rfl⟩
        simp
    rw [hiff]
    split_ifs with h
    · simp [h]
    · constructor
      · rintro ⟨-, rfl⟩
        exact absurd rfl h
      · rintro ⟨rfl, hne⟩
        rw [List.length_append] at hq
        have : r = [] := List.length_eq_zero_iff.1 (by omega)
        simp [this] at hne
  · have hmoved : moved source target p = p := by simp [moved, hprefix]
    rw [hmoved]
    split_ifs with h
    · subst h
      exact ⟨fun h => absurd h hp, fun h => absurd (h ▸ List.prefix_refl _) hprefix⟩
    · constructor
      · rintro rfl
        exact ⟨rfl, fun h => hprefix (h ▸ List.prefix_refl _)⟩
      · exact And.left

/-- Behind a move to a free path that is as long, what was at the source is at the target, and of
the paths that are not longer no other has changed. -/
theorem get?_move (hsource : source.isGiven = false) (htarget : target.isGiven = false)
    (hfree : s.get? target = none) (hlen : target.length = source.length)
    (hq : q.length ≤ source.length) : (s.move source target).get? q =
      if q = target then s.get? source else if q = source then none else s.get? q := by
  have hne : ∀ e ∈ s, e.1 ≠ target := by
    simpa [get?_of_not_isGiven htarget] using hfree
  have hmap : s.move source target = s.map fun e => (moved source target e.1, e.2) := by
    apply List.map_congr_left
    intro e _
    unfold moved
    split_ifs <;> rfl
  have hfind : ((s.move source target).find? fun e => e.1 == q).map Prod.snd =
      (s.find? fun e => moved source target e.1 == q).map Prod.snd := by
    rw [hmap, List.find?_map, Option.map_map]
    rfl
  have hpath : ∀ e ∈ s, (moved source target e.1 == q) =
      if q = target then e.1 == source else e.1 == q && q != source := by
    intro e he
    rw [Bool.eq_iff_iff, beq_iff_eq, moved_eq_iff hlen hq (hne e he)]
    split_ifs <;> simp
  rw [List.find?_congr hpath] at hfind
  by_cases hqt : q = target
  · subst hqt
    rw [get?_of_not_isGiven htarget, hfind, if_pos rfl, get?_of_not_isGiven hsource]
    simp
  by_cases hqs : q = source
  · subst hqs
    rw [get?_of_not_isGiven hsource, hfind, if_neg hqt, if_pos rfl]
    simp [hqt]
  · rw [if_neg hqt, if_neg hqs, get?, get?, hfind]
    simp only [if_neg hqt, bne_iff_ne.2 hqs, Bool.and_true]

/-! ## Lines -/

/-- The lines at a path; there are none where no file is. -/
def content (s : Store) (p : Path) : List Line := (s.lines? p).getD []

theorem lines?_eq_some_iff {ls : List Line} :
    s.lines? p = some ls ↔ s.get? p = some (.file ls) := by
  unfold lines?
  split
  next h => simp [h]
  next h =>
    simp only [reduceCtorEq, false_iff]
    exact h ls

theorem content_of_lines? {s t : Store} (h : s.lines? p = t.lines? p) :
    s.content p = t.content p := by
  rw [content, h, content]

theorem content_of_get? {s t : Store} (h : s.get? p = t.get? q) : s.content p = t.content q := by
  unfold content lines?
  rw [h]

theorem content_of_none (h : s.get? p = none) : s.content p = [] := by
  simp [content, lines?, h]

theorem content_of_file {ls : List Line} (h : s.get? p = some (.file ls)) : s.content p = ls := by
  simp [content, lines?, h]

/-- A place for a file: in a directory, and not one itself. -/
structure IsPlace (s : Store) (p : Path) : Prop where
  directory : s.isDirectory p.dropLast = true
  free : s.isDirectory p = false

theorem IsPlace.not_isGiven (h : s.IsPlace p) : p.isGiven = false := not_isGiven_of h.free

theorem IsPlace.ne_nil (h : s.IsPlace p) : p ≠ [] := by
  rintro rfl
  cases h.not_isGiven

/-- What is at a place for a file is nothing or a file. -/
theorem IsPlace.cases (h : s.IsPlace p) :
    s.get? p = none ∨ s.get? p = some (.file (s.content p)) := by
  cases hp : s.get? p with
  | none => exact .inl rfl
  | some n =>
    cases n with
    | directory => exact absurd hp (isDirectory_eq_false_iff.1 h.free)
    | file ls => exact .inr (by rw [content_of_file hp])

theorem IsPlace.ne_dropLast (h : s.IsPlace p) : p.dropLast ≠ p := by
  intro hp
  have := h.directory
  rw [hp, h.free] at this
  cases this

/-- A place for a file stays one while its directory stays. -/
theorem IsPlace.congr {t : Store} (h : s.IsPlace p)
    (hdirectory : t.get? p.dropLast = s.get? p.dropLast) (hfree : t.get? p ≠ some .directory) :
    t.IsPlace p where
  directory := by
    rw [isDirectory_iff, hdirectory]
    exact isDirectory_iff.1 h.directory
  free := isDirectory_eq_false_iff.2 hfree

/-- A file is begun at its place, and no other path changes. -/
theorem IsPlace.get?_touch (h : s.IsPlace p) (q : Path) :
    (s.touch p).get? q = if q = p then some (.file (s.content p)) else s.get? q := by
  unfold touch
  rcases h.cases with hp | hp
  · rw [if_neg (by simp [holds, hp, h.directory]), get?_put h.not_isGiven, content_of_none hp]
  · rw [if_pos (by simp [holds, hp])]
    split_ifs with hq
    · rw [hq, hp]
    · rfl

/-- A line is put at the end of a file, and no other path changes. -/
theorem IsPlace.get?_append (h : s.IsPlace p) (l : Line) (q : Path) :
    (s.append p l).get? q = if q = p then some (.file (s.content p ++ [l])) else s.get? q := by
  have hlines : (s.touch p).lines? p = some (s.content p) := by
    rw [lines?_eq_some_iff, h.get?_touch, if_pos rfl]
  unfold append
  dsimp only
  rw [hlines]
  dsimp only
  rw [get?_put h.not_isGiven]
  split_ifs with hq
  · rfl
  · rw [h.get?_touch, if_neg hq]

theorem IsPlace.touch (h : s.IsPlace p) : (s.touch p).IsPlace p :=
  h.congr (by rw [h.get?_touch, if_neg h.ne_dropLast]) (by simp [h.get?_touch])

/-- A file that is begun holds no line. -/
theorem IsPlace.content_touch (h : s.IsPlace p) (q : Path) :
    (s.touch p).content q = s.content q := by
  by_cases hq : q = p
  · rw [hq, content_of_file (h.get?_touch p ▸ if_pos rfl)]
  · exact content_of_get? (by rw [h.get?_touch, if_neg hq])

theorem IsPlace.append (h : s.IsPlace p) (l : Line) : (s.append p l).IsPlace p :=
  h.congr (by rw [h.get?_append, if_neg h.ne_dropLast]) (by simp [h.get?_append])

theorem IsPlace.content_append (h : s.IsPlace p) (l : Line) (q : Path) :
    (s.append p l).content q = if q = p then s.content q ++ [l] else s.content q := by
  split_ifs with hq
  · rw [hq, content_of_file (h.get?_append l p ▸ if_pos rfl)]
  · exact content_of_get? (by rw [h.get?_append, if_neg hq])

theorem IsPlace.isDirectory_append (h : s.IsPlace p) (l : Line) (q : Path) :
    (s.append p l).isDirectory q = s.isDirectory q := by
  unfold isDirectory
  rw [h.get?_append]
  split_ifs with hq
  · rw [hq]
    rcases h.cases with hp | hp <;> rw [hp] <;> rfl
  · rfl

end Stencil.Journal.Store
