import Stencil.Journal.Rotation
import Stencil.Proofs.Journal.Files

/-! # What rotation keeps

A file and its backups, read from the oldest on, are a history of lines. A rotation moves the files
and leaves the history as it is, but for the last backup, which is given up when another one takes
its place. Only there can a rotation fail, and then nothing has been moved yet. -/
namespace Stencil.Journal.Rotation

variable {s t u : Store} {base q : Path} {k : Nat} {l : Line}

/-! ## The places of a file and its backups -/

/-- The file itself, and then its backups. -/
def slot (base : Path) : Nat → Path
  | 0 => base
  | i + 1 => backup base (i + 1)

theorem extend_append (d : Path) (n more : Text) :
    Path.extend (d ++ [n]) more = d ++ [n ++ more] := by
  simp [Path.extend]

theorem slot_append (d : Path) (n : Text) (i : Nat) : slot (d ++ [n]) i =
    d ++ [if i = 0 then n else n ++ '.' :: Text.digits 10 i] := by
  cases i with
  | zero => rfl
  | succ i => rw [slot, backup, extend_append, if_neg (Nat.succ_ne_zero i)]

theorem length_slot (hne : base ≠ []) (i : Nat) : (slot base i).length = base.length := by
  obtain ⟨d, n, rfl⟩ := List.eq_nil_or_concat base |>.resolve_left hne
  rw [List.concat_eq_append, slot_append]
  simp

theorem slot_inj (hne : base ≠ []) {i j : Nat} (hi : i ≤ backups) (hj : j ≤ backups) :
    slot base i = slot base j ↔ i = j := by
  have hdigits : ∀ i < backups + 1, ∀ j < backups + 1,
      Text.digits 10 i = Text.digits 10 j → i = j := by decide
  obtain ⟨d, n, rfl⟩ := List.eq_nil_or_concat base |>.resolve_left hne
  rw [List.concat_eq_append, slot_append, slot_append]
  refine ⟨fun h => ?_, fun h => by rw [h]⟩
  have hname := List.singleton_inj.1 (List.append_cancel_left h)
  split_ifs at hname with h₁ h₂ h₂
  · rw [h₁, h₂]
  · simp at hname
  · simp at hname
  · simp only [List.append_cancel_left_eq, List.cons.injEq, true_and] at hname
    exact hdigits i (by omega) j (by omega) hname

theorem ne_nil_of_not_isGiven (hbase : base.isGiven = false) : base ≠ [] := by
  rintro rfl
  cases hbase

theorem ne_slot (hne : base ≠ []) {j : Nat} (hpos : 0 < j) (hj : j ≤ backups) :
    base ≠ slot base j := by
  intro h
  have : 0 = j := (slot_inj hne (Nat.zero_le _) hj).1 h
  omega

theorem not_isGiven_slot (hbase : base.isGiven = false) {i : Nat} (hi : i ≤ backups) :
    (slot base i).isGiven = false := by
  have hlast : ∀ i < backups + 1, (Text.digits 10 i).getLast?.any
      (fun c => c != '.' && c != '/') = true := by decide
  have hne := ne_nil_of_not_isGiven hbase
  obtain ⟨d, n, rfl⟩ := List.eq_nil_or_concat base |>.resolve_left hne
  rw [List.concat_eq_append] at hbase ⊢
  rw [slot_append]
  split_ifs with h
  · exact hbase
  · obtain ⟨c, hc, hn⟩ := (Option.any_eq_true _ _).1 (hlast i (by omega))
    have hname : (n ++ '.' :: Text.digits 10 i).getLast? = some c := by
      rw [List.getLast?_append, List.getLast?_cons, hc]
      rfl
    have hnot : ∀ m : Text, m.getLast? ≠ some c → n ++ '.' :: Text.digits 10 i ≠ m := by
      rintro m hm rfl
      exact hm hname
    simp only [Bool.and_eq_true, bne_iff_ne] at hn
    have hup := hnot Path.upward (by simpa [Path.upward, eq_comm] using hn.1)
    have htop := hnot Path.top (by simpa [Path.top, eq_comm] using hn.2)
    simp [Path.isGiven, hup, htop]

/-! ## One move -/

/-- What is in a slot goes to the next one. -/
structure IsShift (base : Path) (k : Nat) (s t : Store) : Prop where
  target : t.get? (slot base (k + 1)) = s.get? (slot base k)
  source : t.get? (slot base k) = none
  others : ∀ q, q.length ≤ base.length → q ≠ slot base k → q ≠ slot base (k + 1) →
    t.get? q = s.get? q

/-- A move within a file's slots, to one where no directory is. -/
theorem exists_shift (hbase : base.isGiven = false) (hk : k + 1 ≤ backups)
    (hholds : s.holds (slot base k) = true)
    (hfree : s.isDirectory (slot base (k + 1)) = false) :
    ∃ t, shift? s (slot base k) (slot base (k + 1)) = some t ∧ IsShift base k s t := by
  have hne := ne_nil_of_not_isGiven hbase
  have hsource := not_isGiven_slot hbase (Nat.le_of_succ_le hk)
  have htarget := not_isGiven_slot hbase hk
  have hslots : slot base k ≠ slot base (k + 1) := by
    rw [Ne, slot_inj hne (by omega) hk]
    omega
  obtain ⟨u, hu, hget⟩ : ∃ u, clear? s (slot base (k + 1)) = some u ∧
      ∀ q, u.get? q = if q = slot base (k + 1) then none else s.get? q := by
    unfold clear?
    cases hs : s.get? (slot base (k + 1)) with
    | none =>
      refine ⟨s, rfl, fun q => ?_⟩
      split_ifs with hq
      · rw [hq, hs]
      · rfl
    | some n =>
      cases n with
      | directory => exact absurd hs (Store.isDirectory_eq_false_iff.1 hfree)
      | file ls => exact ⟨_, rfl, Store.get?_remove htarget s⟩
  have hmove : ∀ q, q.length ≤ base.length → (u.move (slot base k) (slot base (k + 1))).get? q =
      if q = slot base (k + 1) then u.get? (slot base k)
      else if q = slot base k then none else u.get? q := by
    intro q hq
    apply Store.get?_move hsource htarget
    · rw [hget, if_pos rfl]
    · rw [length_slot hne, length_slot hne]
    · rwa [length_slot hne]
  refine ⟨_, by rw [shift?, if_pos hholds, hu]; rfl, ?_, ?_, ?_⟩
  · rw [hmove _ (length_slot hne _).le, if_pos rfl, hget, if_neg hslots]
  · rw [hmove _ (length_slot hne _).le, if_neg hslots, if_pos rfl]
  · intro q hlen hq hq'
    rw [hmove q hlen, if_neg hq', if_neg hq, hget, if_neg hq']

/-! ## All moves -/

/-- What is in the slots up to `k` goes to the next ones each. -/
structure IsAdvance (base : Path) (k : Nat) (s t : Store) : Prop where
  target : ∀ i ≤ k, t.get? (slot base (i + 1)) = s.get? (slot base i)
  source : t.get? base = none
  others : ∀ q, q.length ≤ base.length → (∀ i ≤ k + 1, q ≠ slot base i) → t.get? q = s.get? q

theorem IsShift.isAdvance_zero (h : IsShift base 0 s t) : IsAdvance base 0 s t where
  target i hi := by
    obtain rfl : i = 0 := by omega
    exact h.target
  source := h.source
  others q hlen hq := h.others q hlen (hq 0 (by omega)) (hq 1 (by omega))

/-- Behind a move of the last slot, the others advance. -/
theorem IsShift.isAdvance_succ (hne : base ≠ []) (hk : k + 2 ≤ backups)
    (h : IsShift base (k + 1) s u) (hu : IsAdvance base k u t) : IsAdvance base (k + 1) s t where
  target i hi := by
    have hslot : ∀ {i j : Nat}, i ≤ backups → j ≤ backups → i ≠ j → slot base i ≠ slot base j :=
      fun hi hj hij h => hij ((slot_inj hne hi hj).1 h)
    rcases Nat.eq_or_lt_of_le hi with rfl | hi
    · rw [hu.others _ (length_slot hne _).le fun j hj => hslot (by omega) (by omega) (by omega),
        h.target]
    · rw [hu.target i (by omega), h.others _ (length_slot hne _).le
        (hslot (by omega) (by omega) (by omega)) (hslot (by omega) (by omega) (by omega))]
  source := hu.source
  others q hlen hq := by
    rw [hu.others q hlen fun i hi => hq i (by omega),
      h.others q hlen (hq _ (by omega)) (hq _ (by omega))]

theorem shiftFrom_of_none (h : shift? s (backup base (k + 1)) (backup base (k + 2)) = none) :
    shiftFrom s base (k + 1) = (s, false) := by
  rw [shiftFrom, h]

theorem shiftFrom_of_some (h : shift? s (backup base (k + 1)) (backup base (k + 2)) = some u) :
    shiftFrom s base (k + 1) = shiftFrom u base k := by
  rw [shiftFrom, h]

/-- The file itself is moved as a backup is, if it exists. -/
theorem shiftFrom_zero (hbase : base.isGiven = false) (hholds : s.holds base = true)
    (h : shift? s (slot base 0) (slot base 1) = some t) : shiftFrom s base 0 = (t, true) := by
  have hne : base ≠ backup base 1 :=
    ne_slot (ne_nil_of_not_isGiven hbase) (j := 1) (by decide) (by decide)
  have hbackup : (backup base 1).isGiven = false := not_isGiven_slot hbase (i := 1) (by decide)
  change shift? s base (backup base 1) = some t at h
  rw [shift?, if_pos hholds] at h
  obtain ⟨u, hu, rfl⟩ := Option.map_eq_some_iff.1 h
  have hkept : u.holds base = true := by
    unfold clear? at hu
    split at hu
    · cases hu
      exact hholds
    · cases hu
      rwa [Store.holds, Store.get?_remove hbackup, if_neg hne]
    · cases hu
  rw [shiftFrom, hu]
  dsimp only
  rw [if_pos hkept]

/-- Where a slot is free, all that is in front of it advances. -/
theorem exists_advance (hbase : base.isGiven = false) (hk : k + 1 ≤ backups)
    (hholds : s.holds base = true) (hfree : s.get? (slot base (k + 1)) = none) :
    ∃ t, shiftFrom s base k = (t, true) ∧ IsAdvance base k s t := by
  have hne := ne_nil_of_not_isGiven hbase
  induction k generalizing s with
  | zero =>
    obtain ⟨t, ht, hshift⟩ := exists_shift hbase hk hholds
      (Store.isDirectory_eq_false_iff.2 (by simp [hfree]))
    exact ⟨t, shiftFrom_zero hbase hholds ht, hshift.isAdvance_zero⟩
  | succ k ih =>
    obtain ⟨u, hu, hshift⟩ : ∃ u, shift? s (slot base (k + 1)) (slot base (k + 2)) = some u ∧
        IsShift base (k + 1) s u := by
      cases hs : s.holds (slot base (k + 1)) with
      | true =>
        exact exists_shift hbase hk hs (Store.isDirectory_eq_false_iff.2 (by simp [hfree]))
      | false =>
        -- Nothing is moved: both slots are free, and stay so.
        have hnone : s.get? (slot base (k + 1)) = none := by simpa [Store.holds] using hs
        exact ⟨s, by rw [shift?, if_neg (by simp [hs])], by rw [hfree, hnone], hnone,
          fun _ _ _ _ => rfl⟩
    obtain ⟨t, ht, hadvance⟩ := ih (s := u) (by omega)
      (by rwa [Store.holds, hshift.others _ le_rfl (ne_slot hne (by omega) (by omega))
        (ne_slot hne (by omega) (by omega))]) hshift.source
    exact ⟨t, (shiftFrom_of_some hu).trans ht, hshift.isAdvance_succ hne hk hadvance⟩

/-- A rotation moves the backups that there are; or, where the last two places are taken, it gives
up the last one or fails before anything is moved. -/
theorem rotate_cases (hbase : base.isGiven = false) (hholds : s.holds base = true) :
    (s.holds (backup base 4) = false ∧ completes s base = true ∧
      IsAdvance base 3 s (rotate s base)) ∨
    (s.holds (backup base 4) = true ∧ s.isDirectory (backup base 5) = true ∧
      completes s base = false ∧ rotate s base = s) ∨
    (s.holds (backup base 4) = true ∧ s.isDirectory (backup base 5) = false ∧
      completes s base = true ∧ IsAdvance base 4 s (rotate s base)) := by
  have hne := ne_nil_of_not_isGiven hbase
  unfold completes rotate backups
  cases hfourth : s.holds (backup base 4) with
  | false =>
    left
    have hnone : s.get? (backup base 4) = none := by simpa [Store.holds] using hfourth
    obtain ⟨t, ht, hadvance⟩ := exists_advance hbase (k := 3) (by decide) hholds hnone
    have hkeep : shift? s (backup base 4) (backup base 5) = some s := by
      rw [shift?, if_neg (by simp [hfourth])]
    rw [shiftFrom_of_some hkeep, ht]
    exact ⟨rfl, rfl, hadvance⟩
  | true =>
    right
    cases hlast : s.isDirectory (backup base 5) with
    | true =>
      left
      have hstuck : shift? s (backup base 4) (backup base 5) = none := by
        rw [shift?, if_pos hfourth, clear?, Store.isDirectory_iff.1 hlast]
        rfl
      rw [shiftFrom_of_none hstuck]
      exact ⟨rfl, rfl, rfl, rfl⟩
    | false =>
      right
      obtain ⟨u, hu, hshift⟩ := exists_shift hbase (k := 4) (by decide) hfourth hlast
      have hkept : u.holds base = true := by
        rwa [Store.holds, hshift.others _ le_rfl (ne_slot hne (by decide) (by decide))
          (ne_slot hne (by decide) (by decide))]
      obtain ⟨t, ht, hadvance⟩ := exists_advance hbase (k := 3) (by decide) hkept hshift.source
      rw [shiftFrom_of_some hu, ht]
      exact ⟨rfl, rfl, rfl, hshift.isAdvance_succ hne (by decide) hadvance⟩

/-! ## Histories -/

/-- The lines in the slots up to `k`, those in the last of them first. -/
def backlog (s : Store) (base : Path) : (k : Nat) → List Line
  | 0 => s.content base
  | k + 1 => s.content (slot base (k + 1)) ++ backlog s base k

/-- The lines of a file and its backups, the oldest first. -/
def history (s : Store) (base : Path) : List Line := backlog s base backups

theorem backlog_congr (h : ∀ i ≤ k, s.content (slot base i) = t.content (slot base i)) :
    backlog s base k = backlog t base k := by
  induction k with
  | zero => exact h 0 le_rfl
  | succ k ih => rw [backlog, backlog, h _ le_rfl, ih fun i hi => h i (by omega)]

/-- What advances stays in order. -/
theorem IsAdvance.backlog_eq (h : IsAdvance base k s t) {i : Nat} (hi : i ≤ k) :
    backlog t base (i + 1) = backlog s base i := by
  have hnext : ∀ i ≤ k, t.content (slot base (i + 1)) = s.content (slot base i) :=
    fun i hi => Store.content_of_get? (h.target i hi)
  induction i with
  | zero =>
    simp only [backlog, hnext 0 hi, Store.content_of_none h.source, List.append_nil]
    rfl
  | succ i ih =>
    rw [backlog, hnext _ hi, ih (by omega)]
    rfl

theorem IsAdvance.isPlace (hplace : s.IsPlace base) (h : IsAdvance base k s t) :
    t.IsPlace base := by
  refine hplace.congr (h.others _ (by simp) fun i _ hslot => ?_) (by simp [h.source])
  have hpos := List.length_pos_iff.2 hplace.ne_nil
  have hlen := congrArg List.length hslot
  rw [length_slot hplace.ne_nil, List.length_dropLast] at hlen
  omega

theorem completes_eq_false_iff (hbase : base.isGiven = false) (hholds : s.holds base = true) :
    completes s base = false ↔
      s.holds (backup base 4) = true ∧ s.isDirectory (backup base 5) = true := by
  rcases rotate_cases hbase hholds with ⟨h₄, hc, -⟩ | ⟨h₄, h₅, hc, -⟩ | ⟨h₄, h₅, hc, -⟩
  · simp [hc, h₄]
  · simp [hc, h₄, h₅]
  · simp [hc, h₅]

theorem isPlace_rotate (h : s.IsPlace base) (hholds : s.holds base = true) :
    (rotate s base).IsPlace base := by
  rcases rotate_cases h.not_isGiven hholds with ⟨-, -, ha⟩ | ⟨-, -, -, hr⟩ | ⟨-, -, -, ha⟩
  · exact ha.isPlace h
  · rwa [hr]
  · exact ha.isPlace h

/-- A rotation keeps the history, or what is behind the last backup. -/
theorem history_rotate (h : s.IsPlace base) (hholds : s.holds base = true) :
    history s base = if s.holds (backup base 4) && completes s base then
      s.content (backup base 5) ++ history (rotate s base) base
      else history (rotate s base) base := by
  have hlast : history s base = s.content (backup base 5) ++ backlog s base 4 := rfl
  rcases rotate_cases h.not_isGiven hholds with
    ⟨hfourth, hc, ha⟩ | ⟨-, -, hc, hr⟩ | ⟨hfourth, -, hc, ha⟩
  · have hkept : (rotate s base).content (backup base 5) = s.content (backup base 5) := by
      apply Store.content_of_get?
      refine ha.others (slot base 5) (length_slot h.ne_nil 5).le fun i hi hslot => ?_
      have : 5 = i := (slot_inj h.ne_nil (by decide) (by unfold backups; omega)).1 hslot
      omega
    have hnone : s.content (backup base 4) = [] :=
      Store.content_of_none (by simpa [Store.holds] using hfourth)
    have hrotate : history (rotate s base) base =
        (rotate s base).content (backup base 5) ++ backlog (rotate s base) base 4 := rfl
    have hbacklog : backlog s base 4 = s.content (backup base 4) ++ backlog s base 3 := rfl
    rw [hfourth, Bool.false_and, if_neg Bool.false_ne_true, hlast, hrotate, hkept,
      ha.backlog_eq le_rfl, hbacklog, hnone, List.nil_append]
  · rw [hc, Bool.and_false, if_neg Bool.false_ne_true, hr]
  · have hrotate : history (rotate s base) base = backlog s base 4 := ha.backlog_eq le_rfl
    rw [hfourth, hc, Bool.and_true, if_pos rfl, hlast, hrotate]

/-! ## Writing a line -/

theorem backlog_append (h : s.IsPlace base) (l : Line) (hk : k ≤ backups) :
    backlog (s.append base l) base k = backlog s base k ++ [l] := by
  induction k with
  | zero => rw [backlog, backlog, h.content_append, if_pos rfl]
  | succ k ih =>
    have hne := (ne_slot h.ne_nil k.succ_pos hk).symm
    rw [backlog, backlog, h.content_append, if_neg hne, ih (by omega), List.append_assoc]

/-- Is the file rotated before the line is written? -/
def rotates (limit : Nat) (s : Store) (base : Path) (l : Line) : Bool :=
  isDue limit (s.touch base) base l

/-- Does a rotation give up the last backup with these lines, as the last but one takes its
place? -/
def GivesUp (limit : Nat) (s : Store) (base : Path) (l : Line) (ls : List Line) : Prop :=
  rotates limit s base l = true ∧ s.holds (backup base 4) = true ∧
    s.lines? (backup base 5) = some ls

/-- A line that is written goes to the end of the history, and all else in it is kept, but for the
last backup, if that is given up. A rotation fails only where the last but one cannot take the place
of a directory, and then the line is all that is new. -/
structure KeepsHistory (limit : Nat) (s : Store) (base : Path) (l : Line) : Prop where
  kept : (∀ ls, ¬GivesUp limit s base l ls) →
    history (write limit s base l) base = history s base ++ [l]
  dropped : ∀ ls, GivesUp limit s base l ls → ∃ rest, history s base = ls ++ rest ∧
    history (write limit s base l) base = rest ++ [l]
  fails_iff : completes (s.touch base) base = false ↔
    s.holds (backup base 4) = true ∧ s.isDirectory (backup base 5) = true
  failed : rotates limit s base l = true → completes (s.touch base) base = false → ∀ q,
    (write limit s base l).get? q =
      if q = base then some (.file (s.content base ++ [l])) else s.get? q

theorem history_touch (h : s.IsPlace base) : history (s.touch base) base = history s base :=
  backlog_congr fun _ _ => h.content_touch _

theorem holds_touch (h : s.IsPlace base) : (s.touch base).holds base = true := by
  simp [Store.holds, h.get?_touch]

theorem write_eq (limit : Nat) (s : Store) (base : Path) (l : Line) : write limit s base l =
    (if rotates limit s base l then rotate (s.touch base) base else s.touch base).append base l :=
  rfl

theorem history_write (h : s.IsPlace base) (limit : Nat) (l : Line) :
    history (write limit s base l) base =
      (if rotates limit s base l then history (rotate (s.touch base) base) base
        else history s base) ++ [l] := by
  rw [write_eq]
  split_ifs
  · exact backlog_append (isPlace_rotate h.touch (holds_touch h)) l le_rfl
  · rw [← history_touch h]
    exact backlog_append h.touch l le_rfl

theorem isPlace_write (h : s.IsPlace base) (limit : Nat) (l : Line) :
    (write limit s base l).IsPlace base := by
  rw [write_eq]
  split_ifs
  · exact (isPlace_rotate h.touch (holds_touch h)).append l
  · exact h.touch.append l

theorem get?_touch_slot (h : s.IsPlace base) {j : Nat} (hpos : 0 < j) (hj : j ≤ backups) :
    (s.touch base).get? (slot base j) = s.get? (slot base j) := by
  rw [h.get?_touch, if_neg (ne_slot h.ne_nil hpos hj).symm]

theorem holds_fourth_touch (h : s.IsPlace base) :
    (s.touch base).holds (backup base 4) = s.holds (backup base 4) :=
  congrArg Option.isSome (get?_touch_slot h (j := 4) (by decide) (by decide))

theorem completes_touch_eq_false_iff (h : s.IsPlace base) :
    completes (s.touch base) base = false ↔
      s.holds (backup base 4) = true ∧ s.isDirectory (backup base 5) = true := by
  have hlast : (s.touch base).isDirectory (backup base 5) = s.isDirectory (backup base 5) :=
    congrArg (fun n => n == some Node.directory)
      (get?_touch_slot h (j := 5) (by decide) (by decide))
  rw [completes_eq_false_iff h.touch.not_isGiven (holds_touch h), holds_fourth_touch h, hlast]

theorem history_rotate_touch (h : s.IsPlace base) :
    history s base = if s.holds (backup base 4) && completes (s.touch base) base then
      s.content (backup base 5) ++ history (rotate (s.touch base) base) base
      else history (rotate (s.touch base) base) base := by
  have hrotate := history_rotate h.touch (holds_touch h)
  rwa [history_touch h, h.content_touch, holds_fourth_touch h] at hrotate

theorem history_write_of_not_givesUp (h : s.IsPlace base) {limit : Nat} {l : Line}
    (hkept : ∀ ls, ¬GivesUp limit s base l ls) :
    history (write limit s base l) base = history s base ++ [l] := by
  rw [history_write h]
  cases hdue : rotates limit s base l with
  | false => rw [if_neg Bool.false_ne_true]
  | true =>
    -- If the last backup is given up, there is no file that it would be.
    have hgiven : (s.holds (backup base 4) && completes (s.touch base) base) = true →
        s.content (backup base 5) = [] := by
      intro hmoved
      obtain ⟨h₄, hc⟩ := Bool.and_eq_true_iff.1 hmoved
      unfold Store.content
      cases hlines : s.lines? (backup base 5) with
      | none => rfl
      | some ls => exact absurd ⟨hdue, h₄, hlines⟩ (hkept ls)
    rw [if_pos rfl, history_rotate_touch h]
    split_ifs with hmoved
    · rw [hgiven hmoved, List.nil_append]
    · rfl

theorem exists_history_write_of_givesUp (h : s.IsPlace base) {limit : Nat} {l : Line}
    {ls : List Line} (hls : GivesUp limit s base l ls) : ∃ rest, history s base = ls ++ rest ∧
      history (write limit s base l) base = rest ++ [l] := by
  obtain ⟨hdue, h₄, hlines⟩ := hls
  have hfile := Store.lines?_eq_some_iff.1 hlines
  have hc : completes (s.touch base) base = true := by
    rw [← Bool.not_eq_false, completes_touch_eq_false_iff h,
      Store.isDirectory_eq_false_iff.2 (by simp [hfile])]
    simp
  have hrotate := history_rotate_touch h
  rw [h₄, hc, Bool.and_true, if_pos rfl, Store.content_of_file hfile] at hrotate
  exact ⟨_, hrotate, by rw [history_write h, if_pos hdue]⟩

theorem get?_write_of_not_completes (h : s.IsPlace base) {limit : Nat} {l : Line}
    (hrotates : rotates limit s base l = true) (hc : completes (s.touch base) base = false)
    (q : Path) : (write limit s base l).get? q =
      if q = base then some (.file (s.content base ++ [l])) else s.get? q := by
  have hstays : rotate (s.touch base) base = s.touch base := by
    rcases rotate_cases h.touch.not_isGiven (holds_touch h) with ⟨-, hc', -⟩ | ⟨-, -, -, hr⟩ |
      ⟨-, -, hc', -⟩
    · rw [hc] at hc'
      cases hc'
    · exact hr
    · rw [hc] at hc'
      cases hc'
  rw [write_eq, if_pos hrotates, hstays, h.touch.get?_append, h.content_touch, h.get?_touch]
  split_ifs <;> rfl

theorem keepsHistory (h : s.IsPlace base) (limit : Nat) (l : Line) :
    KeepsHistory limit s base l where
  kept := history_write_of_not_givesUp h
  dropped _ := exists_history_write_of_givesUp h
  fails_iff := completes_touch_eq_false_iff h
  failed := get?_write_of_not_completes h

/-! ## Writing several lines -/

def writes (limit : Nat) (base : Path) (s : Store) (ls : List Line) : Store :=
  ls.foldl (fun s l => write limit s base l) s

theorem isPlace_writes (h : s.IsPlace base) (limit : Nat) (ls : List Line) :
    (writes limit base s ls).IsPlace base := by
  induction ls generalizing s with
  | nil => exact h
  | cons l ls ih => exact ih (isPlace_write h limit l)

/-- With a line more, the history is still an end of what there was. -/
theorem history_write_suffix (h : s.IsPlace base) (limit : Nat) (l : Line) :
    history (write limit s base l) base <:+ history s base ++ [l] := by
  have hkeeps := keepsHistory h limit l
  by_cases hgiven : ∃ ls, GivesUp limit s base l ls
  · obtain ⟨ls, hls⟩ := hgiven
    obtain ⟨rest, hs, hw⟩ := hkeeps.dropped ls hls
    rw [hs, hw, List.append_assoc]
    exact List.suffix_append ls _
  · exact ⟨[], hkeeps.kept fun ls hls => hgiven ⟨ls, hls⟩⟩

theorem history_writes_suffix (h : s.IsPlace base) (limit : Nat) (ls : List Line) :
    history (writes limit base s ls) base <:+ history s base ++ ls := by
  induction ls generalizing s with
  | nil =>
    rw [List.append_nil]
    exact List.suffix_rfl
  | cons l ls ih =>
    obtain ⟨old, hold⟩ := history_write_suffix h limit l
    refine (ih (isPlace_write h limit l)).trans ⟨old, ?_⟩
    rw [← List.append_assoc, hold, List.append_assoc, List.singleton_append]

/-- Whatever has been written to a file in a directory, and whatever stands where its backups would
be, the next line goes to the end of the history. Nothing else of the history is lost but the last
backup, and that only when the last but one takes its place. -/
theorem history_of_writes (limit : Nat) {s : Store} {base : Path}
    (hdirectory : s.isDirectory base.dropLast = true) (hbase : s.isDirectory base = false)
    (before : List Line) (l : Line) : KeepsHistory limit (writes limit base s before) base l ∧
      history (writes limit base s before) base <:+ history s base ++ before := by
  have hplace : s.IsPlace base := ⟨hdirectory, hbase⟩
  exact ⟨keepsHistory (isPlace_writes hplace limit before) limit l,
    history_writes_suffix hplace limit before⟩

/-- Where a directory stands in the last place, the first line moves the backups that there are, and
the second one none. -/
theorem history_of_writes_stuck :
    ∃ (s : Store) (base : Path) (l m : Line), s.isDirectory base.dropLast = true ∧
      s.isDirectory base = false ∧ rotates 1 s base l = true ∧
      completes (s.touch base) base = true ∧ rotates 1 (writes 1 base s [l]) base m = true ∧
      completes ((writes 1 base s [l]).touch base) base = false ∧
      (writes 1 base s [l]).get? (backup base 4) = some (.file [m]) ∧
      KeepsHistory 1 (writes 1 base s [l]) base m ∧
      history (writes 1 base s [l]) base <:+ history s base ++ [l] := by
  refine ⟨[(["x.log.5".toList], .directory),
      (["x.log.3".toList], .file [⟨⟨['t'], ['n'], .error, ['p'], ['m']⟩, false⟩])],
    ["x.log".toList], ⟨⟨['t'], ['n'], .debug, ['p'], ['l']⟩, true⟩,
    ⟨⟨['t'], ['n'], .error, ['p'], ['m']⟩, false⟩, by decide, by decide, by decide +kernel,
    by decide +kernel, by decide +kernel, by decide +kernel, by decide +kernel,
    history_of_writes 1 (by decide) (by decide) _ _⟩

end Stencil.Journal.Rotation
