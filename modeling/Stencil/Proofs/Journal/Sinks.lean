import Mathlib.Data.List.Forall2
import Mathlib.Tactic.SplitIfs
import Stencil.Journal.Logging

/-! # The sinks of the instance in use

Whatever is asked for and closed, and in whatever order, only the logger of the instance in use has
sinks: a silent one without a directory, and with a directory one for the file of each level. -/
namespace Stencil.Journal

/-! ## Files in a directory -/

namespace Path

theorem parts_of_not_mem {s : Text} (h : '/' ∉ s) (name : Text) :
    parts name s = [name.reverse ++ s] := by
  induction s generalizing name with
  | nil => simp [parts]
  | cons c s ih =>
    have hc : c ≠ '/' := fun hc => h (by simp [hc])
    rw [parts, if_neg hc, ih fun hs => h (by simp [hs])]
    simp

/-- A single name is the path of itself. -/
theorem ofText_of_not_mem {s : Text} (h : '/' ∉ s) (hne : s ≠ []) : ofText s = [s] := by
  have hhead : s.head? ≠ some '/' := fun hs => h (List.mem_of_mem_head? hs)
  rw [ofText, parts_of_not_mem h, if_neg hhead]
  simp [hne]

theorem normal_append (p : Path) {n : Text} (hhere : n ≠ here) (hupward : n ≠ upward) :
    normal (p ++ [n]) = p.normal ++ [n] := by
  rw [normal, List.foldl_append, List.foldl_cons, List.foldl_nil, enter, if_neg hhere,
    if_neg hupward]
  rfl

end Path

theorem mem_fileName (name : Text) (level : Level) : '_' ∈ fileName name level := by
  simp [fileName]

theorem not_mem_fileName {name : Text} (h : '/' ∉ name) (level : Level) :
    '/' ∉ fileName name level := by
  have hsuffix : '/' ∉ level.suffix := by cases level <;> decide
  simp [fileName, h, hsuffix]

/-- The file of a logger whose name has no stroke lies right in the directory. -/
theorem filePath_fileName {name : Text} (h : '/' ∉ name) (directory : Text) (level : Level) :
    filePath directory (fileName name level) =
      (Path.ofText directory).normal ++ [fileName name level] := by
  have hmem := mem_fileName name level
  have hne : ∀ t : Text, '_' ∉ t → fileName name level ≠ t := fun t ht he => ht (he ▸ hmem)
  have hpath := Path.ofText_of_not_mem (not_mem_fileName h level) (hne _ (by decide))
  have htop : [fileName name level].head? ≠ some Path.top := fun ht =>
    hne _ (by decide) (Option.some.inj ht)
  rw [filePath, hpath, Path.join, if_neg htop, Path.normal_append _ (hne _ (by decide))
    (hne _ (by decide))]

/-! ## What sinks an instance has -/

/-- The sink of a level with a directory, for the file of this level. Unless the name has a stroke
in it, the file lies right in the directory. -/
def Sink.IsFileOf (directory name : Text) (level : Level) (s : Sink) : Prop :=
  ∃ detailed base, s = .file level detailed directory base ∧
    base = filePath directory (fileName name level) ∧
    ('/' ∉ name → base = (Path.ofText directory).normal ++ [fileName name level])

/-- The levels that have a file each. -/
def fileLevels : List Level := [.debug, .info, .warning, .error]

/-- One sink for the file of each level, and no others. -/
def HasFiles (directory name : Text) (ss : List Sink) : Prop :=
  List.Forall₂ (Sink.IsFileOf directory name) fileLevels ss

theorem hasFiles_fileSinks (directory name : Text) :
    HasFiles directory name (fileSinks directory name) := by
  have hfile : ∀ level detailed, Sink.IsFileOf directory name level
      (.file level detailed directory (filePath directory (fileName name level))) :=
    fun level detailed => ⟨detailed, _, rfl, rfl, fun h => filePath_fileName h directory level⟩
  exact .cons (hfile _ _) (.cons (hfile _ _) (.cons (hfile _ _) (.cons (hfile _ _) .nil)))

namespace Logging

/-- No instance is in use, and no logger has a sink. -/
structure IsBare (j : Logging) : Prop where
  current : j.current = none
  sinks : ∀ name, j.sinksOf name = []

/-- The logger of the instance in use has the sinks that belong to its directory, and no other
logger has a sink. -/
structure IsConsistent (j : Logging) : Prop where
  unused : j.current = none → ∀ name, j.sinksOf name = []
  others : ∀ i, j.current = some i → ∀ name, canonical name ≠ canonical i.name →
    j.sinksOf name = []
  silent : ∀ i, j.current = some i → i.directory = none → j.sinksOf i.name = [.silent]
  files : ∀ i d, j.current = some i → i.directory = some d → HasFiles d i.name (j.sinksOf i.name)

variable {j : Logging}

theorem IsBare.isConsistent (h : j.IsBare) : j.IsConsistent := by
  have hnone : ∀ i, j.current ≠ some i := fun i hi => nomatch h.current.symm.trans hi
  exact ⟨fun _ => h.sinks, fun i hi => (hnone i hi).elim, fun i hi => (hnone i hi).elim,
    fun i _ hi => (hnone i hi).elim⟩

theorem sinksOf_setSinks (j : Logging) (name other : Text) (ss : List Sink) :
    (j.setSinks name ss).sinksOf other =
      if canonical other = canonical name then ss else j.sinksOf other := by
  unfold sinksOf setSinks
  dsimp only
  split_ifs with h
  · rw [h, List.find?_cons_of_pos (by simp)]
    rfl
  · have hfind : (j.sinks.filter fun e => e.1 != canonical name).find?
        (fun e => e.1 == canonical other) = j.sinks.find? fun e => e.1 == canonical other := by
      rw [List.find?_filter]
      apply congrArg (j.sinks.find? ·)
      funext e
      by_cases he : e.1 = canonical other <;> simp [he, h]
    rw [List.find?_cons_of_neg (by simpa using Ne.symm h), hfind]

/-- An instance that has just been put into use where no logger had a sink. -/
theorem isConsistent_use (h : j.IsBare) {i : Instance} {ss : List Sink}
    (hsilent : i.directory = none → ss = [.silent])
    (hfiles : ∀ d, i.directory = some d → HasFiles d i.name ss) :
    IsConsistent { j.setSinks i.name ss with current := some i } := by
  have hsinks : ∀ name, sinksOf { j.setSinks i.name ss with current := some i } name =
      if canonical name = canonical i.name then ss else j.sinksOf name :=
    fun name => sinksOf_setSinks j i.name name ss
  constructor
  · exact nofun
  · rintro _ ⟨⟩ name hname
    rw [hsinks, if_neg hname, h.sinks]
  · rintro _ ⟨⟩ hd
    rw [hsinks, if_pos rfl, hsilent hd]
  · rintro _ d ⟨⟩ hd
    rw [hsinks, if_pos rfl]
    exact hfiles d hd

/-! ## What a step does -/

theorem close_of_none (h : j.current = none) : j.close = j := by
  rw [close, h]

/-- Closing takes away the sinks that there are. -/
theorem IsConsistent.isBare_close (h : j.IsConsistent) : j.close.IsBare := by
  cases hc : j.current with
  | none =>
    rw [close_of_none hc]
    exact ⟨hc, h.unused hc⟩
  | some i =>
    rw [close, hc]
    refine ⟨rfl, fun name => ?_⟩
    have hsinks : sinksOf { j.setSinks i.name [] with current := none } name =
        if canonical name = canonical i.name then [] else j.sinksOf name :=
      sinksOf_setSinks j i.name name []
    rw [hsinks]
    split_ifs with hname
    · rfl
    · exact h.others i hc name hname

@[simp] theorem store_close (j : Logging) : j.close.store = j.store := by
  unfold close
  split <;> rfl

/-- Where no logger has a sink, a logger is set up with a silent one or with those of its files,
unless its directory cannot be made. -/
theorem construct_of_isBare (h : j.IsBare) (directory : Option Text) (name : Text) :
    j.construct directory name =
      match directory with
      | none => ((j.setVerbose name).setSinks name [.silent], .ok ⟨none, name⟩)
      | some d =>
        match j.store.makeDirectory d with
        | (s, some e) => ({ j.setVerbose name with store := s }, .error e)
        | (s, none) => ({ j.setVerbose name with store := s }.setSinks name (fileSinks d name),
            .ok ⟨some d, name⟩) := by
  have hsinks : ((j.setVerbose name).sinksOf name).isEmpty = true :=
    List.isEmpty_iff.2 (h.sinks name)
  unfold construct
  dsimp only
  rw [hsinks]
  rfl

theorem acquire_of_current {i : Instance} {directory : Option Text} (hi : j.current = some i)
    (h : isOther i (j.directoryFor directory) = false) (name : Text) :
    j.acquire directory name = (j, .ok i) := by
  have hany : (j.current.any fun i => isOther i (j.directoryFor directory)) = false := by
    rw [hi]
    exact h
  unfold acquire
  dsimp only
  rw [hany, if_neg Bool.false_ne_true, hi]

theorem acquire_of_other {directory : Option Text}
    (h : ∀ i, j.current = some i → isOther i (j.directoryFor directory) = true) (name : Text) :
    j.acquire directory name =
      match j.close.construct (j.directoryFor directory) name with
      | (k, .ok i) => ({ k with current := some i }, .ok i)
      | (k, .error e) => (k, .error e) := by
  have hclose : (if j.current.any fun i => isOther i (j.directoryFor directory) then j.close
      else j) = j.close := by
    -- Without an instance there is nothing to close.
    cases hi : j.current with
    | none => exact (close_of_none hi).symm
    | some i => exact if_pos (h i hi)
  have hnone : j.close.current = none := by
    cases hi : j.current with
    | none => rwa [close_of_none hi]
    | some i => rw [close, hi]
  unfold acquire
  dsimp only
  rw [hclose]
  rcases j.close.construct (j.directoryFor directory) name with ⟨k, e | i⟩ <;> simp only [hnone]

/-- A logger is asked for: the instance in use serves, or there is none and no directory, or the
directory cannot be made, or it is made and a new instance is put into use. -/
theorem acquire_cases (h : j.IsConsistent) (directory : Option Text) (name : Text) :
    (∃ i, j.current = some i ∧
      (∀ d, j.directoryFor directory = some d → i.directory = some d) ∧
      j.acquire directory name = (j, .ok i)) ∨
    (j.directoryFor directory = none ∧ j.acquire directory name =
      ({ (j.close.setVerbose name).setSinks name [.silent] with current := some ⟨none, name⟩ },
        .ok ⟨none, name⟩)) ∨
    (∃ d s e, j.directoryFor directory = some d ∧ j.store.makeDirectory d = (s, some e) ∧
      j.acquire directory name = ({ j.close.setVerbose name with store := s }, .error e)) ∨
    (∃ d s, j.directoryFor directory = some d ∧ j.store.makeDirectory d = (s, none) ∧
      j.acquire directory name =
        ({ { j.close.setVerbose name with store := s }.setSinks name (fileSinks d name) with
          current := some ⟨some d, name⟩ }, .ok ⟨some d, name⟩)) := by
  by_cases hother : ∀ i, j.current = some i → isOther i (j.directoryFor directory) = true
  · right
    rw [acquire_of_other hother, construct_of_isBare h.isBare_close]
    cases hd : j.directoryFor directory with
    | none => exact .inl ⟨rfl, rfl⟩
    | some d =>
      right
      dsimp only
      rw [store_close]
      rcases hs : j.store.makeDirectory d with ⟨s, _ | e⟩
      · exact .inr ⟨d, s, rfl, hs, rfl⟩
      · exact .inl ⟨d, s, e, rfl, hs, rfl⟩
  · push Not at hother
    obtain ⟨i, hi, hsame⟩ := hother
    refine .inl ⟨i, hi, fun d hd => ?_, acquire_of_current hi (Bool.eq_false_iff.2 hsame) name⟩
    simpa [isOther, hd] using hsame

theorem isBare_setVerbose (h : j.IsBare) (name : Text) : (j.setVerbose name).IsBare :=
  ⟨h.current, h.sinks⟩

theorem IsBare.store (h : j.IsBare) (s : Store) : IsBare { j with store := s } :=
  ⟨h.current, h.sinks⟩

theorem IsConsistent.acquire (h : j.IsConsistent) (directory : Option Text) (name : Text) :
    (j.acquire directory name).1.IsConsistent := by
  have hbare := isBare_setVerbose h.isBare_close name
  rcases acquire_cases h directory name with ⟨i, -, -, ha⟩ | ⟨-, ha⟩ | ⟨d, s, e, -, -, ha⟩ |
    ⟨d, s, -, -, ha⟩
  · rwa [ha]
  · rw [ha]
    exact isConsistent_use (i := ⟨none, name⟩) hbare (fun _ => rfl) nofun
  · rw [ha]
    exact (hbare.store s).isConsistent
  · rw [ha]
    apply isConsistent_use (i := ⟨some d, name⟩) (hbare.store s) nofun
    rintro _ ⟨⟩
    exact hasFiles_fileSinks d name

/-- A logger that is asked for with a directory, and that is given, has its files there. -/
theorem IsConsistent.hasFiles (h : j.IsConsistent) {directory : Option Text} {name d : Text}
    {k : Logging} {i : Instance} (hd : j.directoryFor directory = some d)
    (ha : j.acquire directory name = (k, .ok i)) :
    i.directory = some d ∧ HasFiles d i.name (k.sinksOf i.name) := by
  have hk : k.IsConsistent := by
    have := h.acquire directory name
    rwa [ha] at this
  have hi : k.current = some i ∧ i.directory = some d := by
    rcases acquire_cases h directory name with ⟨i', hi, hdir, ha'⟩ | ⟨hnone, -⟩ |
      ⟨_, _, e, -, -, ha'⟩ | ⟨d', s, hd', -, ha'⟩
    · cases ha.symm.trans ha'
      exact ⟨hi, hdir d hd⟩
    · cases hd.symm.trans hnone
    · cases ha.symm.trans ha'
    · cases ha.symm.trans ha'
      cases hd.symm.trans hd'
      exact ⟨rfl, rfl⟩
  exact ⟨hi.2, hk.files i d hi.1 hi.2⟩

theorem store_acquire (h : j.IsConsistent) {directory : Option Text}
    (hd : j.directoryFor directory = none) (name : Text) :
    (j.acquire directory name).1.store = j.store := by
  rcases acquire_cases h directory name with ⟨i, -, -, ha⟩ | ⟨-, ha⟩ | ⟨d, s, e, hd', -, -⟩ |
    ⟨d, s, hd', -, -⟩
  · rw [ha]
  · rw [ha]
    exact store_close j
  · cases hd.symm.trans hd'
  · cases hd.symm.trans hd'

/-! ## Runs -/

/-- A logger is asked for, the instance in use is closed, or the directory of the environment is set
or taken away. -/
inductive Step
  | get (directory : Option Text) (name : Text)
  | close
  | environment (directory : Option Text)

def step (j : Logging) : Step → Logging
  | .get directory name => (j.acquire directory name).1
  | .close => j.close
  | .environment directory => { j with environment := directory }

def run (j : Logging) (steps : List Step) : Logging := steps.foldl step j

theorem IsConsistent.step (h : j.IsConsistent) (s : Step) : (j.step s).IsConsistent := by
  cases s with
  | get directory name => exact h.acquire directory name
  | close => exact h.isBare_close.isConsistent
  | environment directory => exact ⟨h.unused, h.others, h.silent, h.files⟩

theorem IsConsistent.run (h : j.IsConsistent) (steps : List Step) : (j.run steps).IsConsistent := by
  induction steps generalizing j with
  | nil => exact h
  | cons s steps ih => exact ih (h.step s)

/-- Is no directory in effect whenever a logger is asked for? -/
def NeverGiven (j : Logging) (steps : List Step) : Prop :=
  ∀ before directory name after, steps = before ++ .get directory name :: after →
    (j.run before).directoryFor directory = none

theorem NeverGiven.tail {s : Step} {steps : List Step} (h : j.NeverGiven (s :: steps)) :
    (j.step s).NeverGiven steps :=
  fun before directory name after hs =>
    h (s :: before) directory name after (by rw [hs, List.cons_append])

theorem store_run (h : j.IsConsistent) {steps : List Step} (hnever : j.NeverGiven steps) :
    (j.run steps).store = j.store := by
  induction steps generalizing j with
  | nil => rfl
  | cons s steps ih =>
    have hstep : (j.step s).store = j.store := by
      cases s with
      | get directory name => exact store_acquire h (hnever [] directory name steps rfl) name
      | close => exact store_close j
      | environment directory => rfl
    exact (ih (h.step s) hnever.tail).trans hstep

/-- From a start without an instance and without sinks, every run leaves sinks to the logger of the
instance in use alone: a silent one, or those of the files in its directory. So a logger that is
given for a directory has its files there, and where no directory was ever given nothing is made. -/
theorem sinks_of_run {j : Logging} (hcurrent : j.current = none)
    (hsinks : ∀ name, j.sinksOf name = []) (steps : List Step) :
    (j.run steps).IsConsistent ∧
    (∀ directory name d k i, (j.run steps).directoryFor directory = some d →
      (j.run steps).acquire directory name = (k, .ok i) →
      i.directory = some d ∧ HasFiles d i.name (k.sinksOf i.name)) ∧
    (j.NeverGiven steps → (j.run steps).store = j.store) := by
  have hstart : j.IsConsistent := IsBare.isConsistent ⟨hcurrent, hsinks⟩
  have hrun := hstart.run steps
  exact ⟨hrun, fun _ _ _ _ _ hd ha => hrun.hasFiles hd ha, store_run hstart⟩

/-- A file stands where the directory of the environment would be; then there is none to be made,
and then one that can be. -/
theorem sinks_of_run_occupied :
    ∃ (j : Logging) (steps : List Step), j.current = none ∧ (∀ name, j.sinksOf name = []) ∧
      (j.run (steps.take 1)).current = none ∧
      (j.run (steps.take 3)).current = some ⟨none, ['b']⟩ ∧
      (j.run steps).current = some ⟨some "logs".toList, ['c']⟩ ∧
      (j.run steps).IsConsistent ∧
      (∀ directory name d k i, (j.run steps).directoryFor directory = some d →
        (j.run steps).acquire directory name = (k, .ok i) →
        i.directory = some d ∧ HasFiles d i.name (k.sinksOf i.name)) ∧
      (j.NeverGiven steps → (j.run steps).store = j.store) :=
  ⟨{ start 0 [] with store := [(["f".toList], .file [])], environment := some "f".toList },
    [.get none ['a'], .environment (some []), .get none ['b'], .get (some "logs".toList) ['c']],
    rfl, fun _ => rfl, by decide, by decide, by decide, sinks_of_run rfl (fun _ => rfl) _⟩

/-- A name may lead out of the directory, and then the files lie elsewhere. -/
theorem sinks_outside :
    ((start 0 []).run [.get (some "logs".toList) "../x".toList]).current =
        some ⟨some "logs".toList, "../x".toList⟩ ∧
      ((start 0 []).run [.get (some "logs".toList) "../x".toList]).sinksOf "../x".toList =
        [.file .debug true "logs".toList ["x_debug.log".toList],
          .file .info false "logs".toList ["x_info.log".toList],
          .file .warning false "logs".toList ["x_warning.log".toList],
          .file .error true "logs".toList ["x_error.log".toList]] ∧
      (Path.ofText "logs".toList).normal = ["logs".toList] := by
  decide

end Logging

end Stencil.Journal
