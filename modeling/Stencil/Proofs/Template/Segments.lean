import Stencil.Proofs.Template.Literals
import Stencil.Template.Pipeline

/-! # Texts that a pipeline is cut into

Texts joined by the separator are cut apart again, if none of them is cut by itself, each leaves the
scan outside of quotes and brackets, and no separators come to stand side by side. The pipeline then
stands for its filters, applied one by one. -/
namespace Stencil

namespace Text

theorem breakAt?_append {c : Char} {q a : Text} (h : c ∉ a) (b : Text) :
    breakAt? (c :: q) (a ++ (c :: q ++ b)) = some (a, b) := by
  induction a with
  | nil =>
    rw [List.nil_append, List.cons_append, breakAt?, ← List.cons_append, after?_append]
  | cons x a ih =>
    rw [List.mem_cons, not_or] at h
    rw [List.cons_append, Scoping.breakAt?_of_ne h.1, ih h.2]
    rfl

theorem breakAt?_of_not_mem {c : Char} {a : Text} (h : c ∉ a) : breakAt? [c] a = none := by
  induction a with
  | nil => rfl
  | cons x a ih =>
    rw [List.mem_cons, not_or] at h
    rw [Scoping.breakAt?_of_ne h.1, ih h.2]
    rfl

end Text

namespace Pipeline

variable {sep : Char} {s t r : Text} {σ : Scan}

/-! ## The state of a scan behind a text -/

/-- A scan that is outside of quotes is so behind the text as well, with as many brackets open. -/
def IsLevel (s : Text) : Prop := ∀ σ : Scan, σ.mode = .plain →
  (s.foldl Scan.step σ).mode = .plain ∧ (s.foldl Scan.step σ).depth = σ.depth

/-- The characters that change what a separator is to a scan. -/
def turns : Text := ['\'', '"', '(', '[', '\x7b', ')', ']', '\x7d']

/-- Neither a quote nor a bracket. -/
def isInert (c : Char) : Bool := !turns.contains c

theorem isInert_of {f : Char → Bool} (hf : (turns.all fun c => !f c) = true) {c : Char}
    (h : f c = true) : isInert c = true := by
  rw [isInert, Bool.not_eq_true', List.contains_eq_mem, decide_eq_false_iff_not]
  intro hc
  have := List.all_eq_true.1 hf c hc
  simp [h] at this

theorem step_of_isInert {c : Char} (hc : isInert c = true) (hσ : σ.mode = .plain) :
    σ.step c = ⟨.plain, σ.depth, some c⟩ := by
  have hnot : isQuote c = false ∧ isOpener c = false ∧ isCloser c = false := by
    simp only [isInert, turns, List.contains_cons, List.contains_nil, Bool.or_false,
      Bool.not_eq_true', Bool.or_eq_false_iff] at hc
    simp [isQuote, isOpener, isCloser, hc]
  simp [Scan.step, hσ, hnot]

theorem before_step (σ : Scan) (c : Char) : (σ.step c).before = some c := by
  rcases σ with ⟨_ | q | q, depth, before⟩
  · simp only [Scan.step]
    split_ifs <;> rfl
  · simp only [Scan.step]
    split_ifs <;> rfl
  · rfl

theorem before_foldl (s : Text) (σ : Scan) :
    (s.foldl Scan.step σ).before = s.getLast?.or σ.before := by
  induction s generalizing σ with
  | nil => rfl
  | cons c s ih =>
    rw [List.foldl_cons, ih, before_step]
    cases s with
    | nil => rfl
    | cons d s => simp [List.getLast?_eq_some_getLast]

theorem isLevel_nil : IsLevel [] := fun _ hσ => ⟨hσ, rfl⟩

theorem IsLevel.append (hs : IsLevel s) (ht : IsLevel t) : IsLevel (s ++ t) := by
  intro σ hσ
  obtain ⟨hmode, hdepth⟩ := hs σ hσ
  obtain ⟨hmode', hdepth'⟩ := ht _ hmode
  rw [List.foldl_append]
  exact ⟨hmode', hdepth'.trans hdepth⟩

theorem isLevel_of_isInert (h : ∀ c ∈ s, isInert c = true) : IsLevel s := by
  induction s with
  | nil => exact isLevel_nil
  | cons c s ih =>
    obtain ⟨hc, hs⟩ := List.forall_mem_cons.1 h
    intro σ hσ
    rw [List.foldl_cons, step_of_isInert hc hσ]
    exact ih hs _ rfl

theorem IsLevel.parens (h : IsLevel s) : IsLevel ('(' :: (s ++ [')'])) := by
  intro σ hσ
  have hopen : σ.step '(' = ⟨.plain, σ.depth + 1, some '('⟩ := by
    rw [Scan.step, hσ]
    rfl
  obtain ⟨hmode, hdepth⟩ := h (σ.step '(') (by rw [hopen])
  rw [List.foldl_cons, List.foldl_append, List.foldl_cons, List.foldl_nil]
  have hclose : ∀ τ : Scan, τ.mode = .plain → τ.step ')' = ⟨.plain, τ.depth - 1, some ')'⟩ := by
    intro τ hτ
    rw [Scan.step, hτ]
    rfl
  rw [hclose _ hmode, hdepth, hopen]
  exact ⟨rfl, by simp⟩

/-! ## Cutting -/

theorem exists_segments_eq (sep : Char) (σ : Scan) (s : Text) :
    ∃ t ts, segments sep σ s = t :: ts := by
  induction s generalizing σ with
  | nil => exact ⟨[], [], rfl⟩
  | cons c s ih =>
    rw [segments]
    split_ifs
    · exact ⟨_, _, rfl⟩
    · obtain ⟨t, ts, h⟩ := ih (σ.step c)
      exact ⟨_, _, by rw [h, List.modifyHead_cons]⟩

theorem not_cuts_of_ne {c : Char} (h : c ≠ sep) (σ : Scan) (next : Option Char) :
    σ.cuts sep c next = false := by
  simp [Scan.cuts, h]

theorem eq_of_cuts {c : Char} {next : Option Char} (h : σ.cuts sep c next = true) : c = sep := by
  by_contra hne
  rw [not_cuts_of_ne hne] at h
  cases h

/-- The segments are the text without the separators that cut it. -/
theorem join_segments (sep : Char) (σ : Scan) (s : Text) :
    Text.join [sep] (segments sep σ s) = s := by
  induction s generalizing σ with
  | nil => rfl
  | cons c s ih =>
    obtain ⟨t, ts, hts⟩ := exists_segments_eq sep (σ.step c) s
    have hjoin := ih (σ.step c)
    rw [hts] at hjoin
    rw [segments, hts]
    split_ifs with hcut
    · obtain rfl := eq_of_cuts hcut
      simp [Text.join, hjoin]
    · rw [← hjoin]
      cases ts <;> simp [Text.join]

/-- In front of `r`, nothing in the text is cut, so `r` is cut as it is from there on. -/
def IsWhole (sep : Char) (σ : Scan) (s r : Text) : Prop :=
  segments sep σ (s ++ r) = (segments sep (s.foldl Scan.step σ) r).modifyHead (s ++ ·)

theorem IsWhole.nil (σ : Scan) (r : Text) : IsWhole sep σ [] r := by
  obtain ⟨t, ts, h⟩ := exists_segments_eq sep σ r
  simp [IsWhole, h]

theorem IsWhole.cons {c : Char} (hc : σ.cuts sep c (s ++ r).head? = false)
    (h : IsWhole sep (σ.step c) s r) : IsWhole sep σ (c :: s) r := by
  unfold IsWhole at h ⊢
  rw [List.cons_append, segments, hc, if_neg Bool.false_ne_true, h, List.modifyHead_modifyHead]
  rfl

theorem IsWhole.append (hs : IsWhole sep σ s (t ++ r))
    (ht : IsWhole sep (s.foldl Scan.step σ) t r) : IsWhole sep σ (s ++ t) r := by
  unfold IsWhole at hs ht ⊢
  rw [List.append_assoc, hs, ht, List.modifyHead_modifyHead, List.foldl_append]
  simp [Function.comp_def]

/-- A text without the separator is not cut. -/
theorem isWhole_of_not_mem (hs : sep ∉ s) (σ : Scan) (r : Text) : IsWhole sep σ s r := by
  induction s generalizing σ with
  | nil => exact .nil σ r
  | cons c s ih =>
    rw [List.mem_cons, not_or] at hs
    exact .cons (not_cuts_of_ne (Ne.symm hs.1) σ _) (ih hs.2 _)

/-- A text that is not cut by itself is not cut in front of a separator. -/
theorem isWhole_of_segments (h : segments sep σ s = [s]) (hr : r.head?.all (· == sep) = true) :
    IsWhole sep σ s r := by
  induction s generalizing σ with
  | nil => exact .nil σ r
  | cons c s ih =>
    rw [segments] at h
    split_ifs at h with hc
    · cases h
    · rw [Bool.not_eq_true] at hc
      obtain ⟨t, ts, hts⟩ := exists_segments_eq sep (σ.step c) s
      rw [hts, List.modifyHead_cons, List.cons.injEq, List.cons.injEq] at h
      obtain ⟨⟨-, rfl⟩, rfl⟩ := h
      refine .cons ?_ (ih hts)
      -- Only the last character has another one behind it now, and that is a separator.
      rcases t with _ | ⟨d, t⟩
      · rcases r with _ | ⟨d, r⟩
        · exact hc
        · obtain rfl : d = sep := by simpa using hr
          simp [Scan.cuts]
      · exact hc

/-- What stands in front of a text matters only to a separator at its beginning. -/
theorem segments_before (hs : s.head? ≠ some sep) (σ : Scan) (b : Option Char) :
    segments sep { σ with before := b } s = segments sep σ s := by
  rcases s with _ | ⟨c, s⟩
  · rfl
  · have hc : c ≠ sep := fun hc => hs (by rw [hc]; rfl)
    rw [segments, segments, not_cuts_of_ne hc, not_cuts_of_ne hc]
    rfl

/-- The state is outside of quotes and brackets. -/
def Scan.IsOuter (σ : Scan) : Prop := σ.mode = .plain ∧ σ.depth = 0

/-- A text that is not cut from a state on, and behind which the scan is outside of quotes and
brackets. -/
structure IsUncut (sep : Char) (σ : Scan) (s : Text) : Prop where
  segments_eq : segments sep σ s = [s]
  isOuter : (s.foldl Scan.step σ).IsOuter

theorem IsUncut.behind (h : IsUncut sep .start s) (hs : s.head? ≠ some sep) :
    IsUncut sep ⟨.plain, 0, some sep⟩ s where
  segments_eq := (segments_before hs .start (some sep)).trans h.segments_eq
  isOuter := by
    rcases s with _ | ⟨c, s⟩
    · exact ⟨rfl, rfl⟩
    · exact h.isOuter

/-- No separators come to stand side by side where these texts are joined. -/
structure StandApart (sep : Char) (s : Text) (ss : List Text) : Prop where
  getLast? : ∀ t ∈ (s :: ss).dropLast, t.getLast? ≠ some sep
  head? : ∀ t ∈ ss, t.head? ≠ some sep
  ne_nil : ∀ t ∈ ss.dropLast, t ≠ []

theorem head?_join {ss : List Text} (hhead : ∀ t ∈ ss, t.head? ≠ some sep)
    (hne : ∀ t ∈ ss.dropLast, t ≠ []) : (Text.join [sep] ss).head? ≠ some sep := by
  rcases ss with _ | ⟨t, _ | ⟨u, ss⟩⟩
  · simp [Text.join]
  · exact hhead t (by simp)
  · rw [Text.join, List.append_assoc, List.head?_append_of_ne_nil _ (hne t (by simp))]
    exact hhead t (by simp)

/-- Behind a segment, a lone separator cuts. -/
theorem segments_cut (hsep : isInert sep = true) (hs : IsUncut sep σ s)
    (hlast : s.getLast?.or σ.before ≠ some sep) (hr : r.head? ≠ some sep) :
    segments sep σ (s ++ sep :: r) = s :: segments sep ⟨.plain, 0, some sep⟩ r := by
  obtain ⟨hmode, hdepth⟩ := hs.isOuter
  have hcut : (s.foldl Scan.step σ).cuts sep sep r.head? = true := by
    simp [Scan.cuts, hmode, hdepth, hr, before_foldl, hlast]
  have hwhole : IsWhole sep σ s (sep :: r) := isWhole_of_segments hs.segments_eq (by simp)
  rw [hwhole, segments, hcut, if_pos rfl, List.modifyHead_cons, List.append_nil,
    step_of_isInert hsep hmode, hdepth]

/-- Segments that stand apart are cut apart again when they are joined by the separator. -/
theorem segments_join {ss : List Text} (hsep : isInert sep = true) (hs : IsUncut sep σ s)
    (hss : ∀ t ∈ ss, IsUncut sep .start t) (hbefore : s = [] → σ.before ≠ some sep ∨ ss = [])
    (hapart : StandApart sep s ss) : segments sep σ (Text.join [sep] (s :: ss)) = s :: ss := by
  induction ss generalizing s σ with
  | nil => exact hs.segments_eq
  | cons t ss ih =>
    obtain ⟨ht, hss⟩ := List.forall_mem_cons.1 hss
    obtain ⟨hfirst, hhead⟩ := List.forall_mem_cons.1 hapart.head?
    have hjoin : Text.join [sep] (s :: t :: ss) = s ++ sep :: Text.join [sep] (t :: ss) := by
      simp [Text.join]
    have hlast : s.getLast?.or σ.before ≠ some sep := by
      rcases s with _ | ⟨c, s⟩
      · simpa using hbefore rfl
      · have := hapart.getLast? (c :: s) (by simp)
        rwa [List.getLast?_eq_some_getLast (by simp)] at this ⊢
    rw [hjoin, segments_cut hsep hs hlast (head?_join hapart.head? hapart.ne_nil)]
    -- Behind the separator the next segment is cut as it is by itself.
    refine congrArg (s :: ·) (ih (ht.behind hfirst) hss ?_ ⟨?_, hhead, ?_⟩)
    · intro htn
      right
      by_contra hne
      obtain ⟨u, us, rfl⟩ := List.exists_cons_of_ne_nil hne
      exact hapart.ne_nil t (by simp) htn
    · exact fun u hu => hapart.getLast? u (by simp [hu])
    · intro u hu
      apply hapart.ne_nil u
      rcases ss with _ | ⟨v, ss⟩
      · simp at hu
      · simp [hu]

/-! ## Segments without the separator -/

/-- A text that stands between separators. -/
structure IsSegment (sep : Char) (s : Text) : Prop where
  ne_nil : s ≠ []
  not_mem : sep ∉ s
  isLevel : IsLevel s

theorem IsSegment.isUncut (h : IsSegment sep s) : IsUncut sep .start s where
  segments_eq := by
    have hwhole := isWhole_of_not_mem h.not_mem .start []
    rwa [IsWhole, List.append_nil, segments, List.modifyHead_cons, List.append_nil] at hwhole
  isOuter := h.isLevel .start rfl

theorem standApart_of_isSegment {ss : List Text} (h : ∀ t ∈ s :: ss, IsSegment sep t) :
    StandApart sep s ss where
  getLast? t ht hlast :=
    (h t (List.mem_of_mem_dropLast ht)).not_mem (List.mem_of_getLast? hlast)
  head? t ht hhead := (h t (List.mem_cons_of_mem s ht)).not_mem (List.mem_of_head? hhead)
  ne_nil t ht := (h t (List.mem_cons_of_mem s (List.mem_of_mem_dropLast ht))).ne_nil

/-- A pipeline of segments applies the filters one by one. -/
theorem expand_join {ss : List Text} (hsep : isInert sep = true) (hs : IsSegment sep s)
    (hss : ∀ t ∈ ss, IsSegment sep t) : expand sep (Text.join [sep] (s :: ss)) =
      ((ss.map Text.strip).filter fun f => !f.isEmpty).foldl apply (Text.strip s) := by
  rw [expand, segments_join hsep hs.isUncut (fun t ht => (hss t ht).isUncut)
    (fun h => absurd h hs.ne_nil) (standApart_of_isSegment (List.forall_mem_cons.2 ⟨hs, hss⟩))]

/-! ## Applying filters -/

/-- A filter without a parenthesis is called with the expression alone. -/
theorem apply_of_not_mem {f : Text} (h : '(' ∉ f) (e : Text) :
    apply e f = f ++ '(' :: e ++ [')'] := by
  rw [apply, Text.breakAt?_of_not_mem h]

/-- What stands behind the first parenthesis of a filter follows the expression. -/
theorem apply_of_paren {name : Text} (h : '(' ∉ name) (e args : Text) :
    apply e (name ++ '(' :: args) = Text.strip name ++ '(' :: e ++
      if Text.strip args = [')'] then [')'] else ", ".toList ++ args := by
  have hbreak : Text.breakAt? ['('] (name ++ '(' :: args) = some (name, args) :=
    Text.breakAt?_append (q := []) h args
  rw [apply, hbreak]
  dsimp only
  split_ifs
  · rfl
  · simp

theorem isInert_separator (d : Dialect) : isInert d.separator = true := by
  have hfree : isReservedSeparator d.separator = false := d.separator_free
  rw [← Bool.not_eq_false]
  intro hturn
  have hall : (turns.all isReservedSeparator) = true := by decide
  have hmem : d.separator ∈ turns := by simpa [isInert] using hturn
  rw [List.all_eq_true.1 hall _ hmem] at hfree
  cases hfree

/-- Segments that are not cut by themselves, joined by the separator, stand for the filters applied
to the first of them, one by one; a single one stands for itself without its blank margins. -/
theorem expand_of_uncut (d : Dialect) {s : Text} {ss : List Text}
    (huncut : ∀ t ∈ s :: ss, IsUncut d.separator .start t) (hapart : StandApart d.separator s ss) :
    expand d.separator (Text.join [d.separator] (s :: ss)) =
      ((ss.map Text.strip).filter fun f => !f.isEmpty).foldl apply (Text.strip s) ∧
    (∀ e f, '(' ∉ f → apply e f = f ++ '(' :: e ++ [')']) ∧
    ∀ e name args, '(' ∉ name → apply e (name ++ '(' :: args) = Text.strip name ++ '(' :: e ++
      if Text.strip args = [')'] then [')'] else ", ".toList ++ args := by
  obtain ⟨hs, hss⟩ := List.forall_mem_cons.1 huncut
  refine ⟨?_, fun e f h => apply_of_not_mem h e, fun e name args h => apply_of_paren h e args⟩
  rw [expand, segments_join (isInert_separator d) hs hss (fun _ => .inl (by simp [Scan.start]))
    hapart]

/-- With the backslash as separator: it is none between quotes or where it is doubled. -/
theorem expand_of_uncut_backslash :
    ∃ (d : Dialect) (s : Text) (ss : List Text), d.separator = '\\' ∧
      s = "\\\\ 'a\\'b' ".toList ∧ ss = [" f('\\\\', (x)) ".toList, [' '], "g ( )".toList] ∧
      (∀ t ∈ s :: ss, IsUncut d.separator .start t) ∧ StandApart d.separator s ss ∧
      expand d.separator (Text.join [d.separator] (s :: ss)) =
        "g(f(\\\\ 'a\\'b', '\\\\', (x)))".toList ∧
      expand d.separator (Text.join [d.separator] (s :: ss)) =
        ((ss.map Text.strip).filter fun f => !f.isEmpty).foldl apply (Text.strip s) := by
  let d : Dialect := { Dialect.standard with separator := '\\', separator_free := by decide }
  have huncut : ∀ t ∈ ["\\\\ 'a\\'b' ".toList, " f('\\\\', (x)) ".toList, [' '], "g ( )".toList],
      IsUncut d.separator .start t := by
    have h : ∀ t ∈ ["\\\\ 'a\\'b' ".toList, " f('\\\\', (x)) ".toList, [' '], "g ( )".toList],
        segments '\\' .start t = [t] ∧ (t.foldl Scan.step .start).mode = .plain ∧
          (t.foldl Scan.step .start).depth = 0 := by
      decide +kernel
    exact fun t ht => ⟨(h t ht).1, (h t ht).2⟩
  have hapart : StandApart d.separator "\\\\ 'a\\'b' ".toList
      [" f('\\\\', (x)) ".toList, [' '], "g ( )".toList] :=
    ⟨by decide, by decide, by decide⟩
  exact ⟨d, _, _, rfl, rfl, rfl, huncut, hapart, by decide +kernel,
    (expand_of_uncut d huncut hapart).1⟩

end Pipeline

end Stencil
