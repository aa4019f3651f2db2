import Stencil.Proofs.Journal.Routing

/-! # Directories that cannot be made

The instance in use is closed before the directory of the next one is made. If that fails, no
instance is in use and no logger has a sink: the files keep their lines, but get no more of them.
Logging is as it was before only if no instance had been in use. -/
namespace Stencil.Journal.Logging

variable {j k : Logging} {directory : Option Text} {name d : Text} {e : PathError}

/-! ## Steps and records -/

/-- A step, or a record that is issued by any logger. -/
inductive Action
  | step (s : Step)
  | log (r : Record)

def act (j : Logging) : Action → Logging
  | .step s => j.step s
  | .log r => j.log r

def acts (j : Logging) (as : List Action) : Logging := as.foldl act j

/-- A record changes nothing but files. -/
theorem exists_log_eq (j : Logging) (r : Record) : ∃ s, j.log r = { j with store := s } := by
  unfold log
  split_ifs
  · exact ⟨_, rfl⟩
  · exact ⟨j.store, rfl⟩

theorem IsConsistent.store (h : j.IsConsistent) (s : Store) :
    IsConsistent { j with store := s } :=
  ⟨h.unused, h.others, h.silent, h.files⟩

theorem IsConsistent.act (h : j.IsConsistent) (a : Action) : (j.act a).IsConsistent := by
  cases a with
  | step s => exact h.step s
  | log r =>
    obtain ⟨s, hs⟩ := exists_log_eq j r
    rw [Logging.act, hs]
    exact h.store s

theorem IsConsistent.acts (h : j.IsConsistent) (as : List Action) : (j.acts as).IsConsistent := by
  induction as generalizing j with
  | nil => exact h
  | cons a as ih => exact ih (h.act a)

/-- Where no logger has a sink, records do nothing. -/
theorem log_of_isBare (h : j.IsBare) (r : Record) : j.log r = j := by
  have hreached : j.reached r.logger = [] := List.flatMap_eq_nil_iff.2 fun n _ => h.sinks n
  unfold log
  rw [hreached]
  split_ifs <;> rfl

/-! ## Failures -/

/-- A directory is called for, it is not that of the instance in use, and it cannot be made. -/
def Fails (j : Logging) (directory : Option Text) (e : PathError) : Prop :=
  ∃ d, j.directoryFor directory = some d ∧ (∀ i, j.current = some i → i.directory ≠ some d) ∧
    (j.store.makeDirectory d).2 = some e

/-- If no logger is given, the instance in use has been closed, and the store has at most some
directories more. -/
theorem exists_of_acquire_error (h : j.IsConsistent)
    (ha : j.acquire directory name = (k, .error e)) :
    ∃ d s, j.directoryFor directory = some d ∧ j.store.makeDirectory d = (s, some e) ∧
      k = { j.close.setVerbose name with store := s } := by
  rcases acquire_cases h directory name with ⟨i, -, -, ha'⟩ | ⟨-, ha'⟩ | ⟨d, s, e', hd, hs, ha'⟩ |
    ⟨d, s, -, -, ha'⟩
  · cases ha.symm.trans ha'
  · cases ha.symm.trans ha'
  · cases ha.symm.trans ha'
    exact ⟨d, s, hd, hs, rfl⟩
  · cases ha.symm.trans ha'

theorem acquire_eq_error_iff (h : j.IsConsistent) :
    (j.acquire directory name).2 = .error e ↔ j.Fails directory e := by
  constructor
  · intro he
    obtain ⟨d, s, hd, hs, -⟩ := exists_of_acquire_error h (Prod.ext rfl he)
    refine ⟨d, hd, fun i hi hdir => ?_, by rw [hs]⟩
    have hsame : isOther i (j.directoryFor directory) = false := by simp [isOther, hd, hdir]
    rw [acquire_of_current hi hsame name] at he
    cases he
  · rintro ⟨d, hd, hother, hs⟩
    rcases acquire_cases h directory name with ⟨i, hi, hdir, -⟩ | ⟨hd', -⟩ |
      ⟨d', s, e', hd', hs', ha⟩ | ⟨d', s, hd', hs', -⟩
    · exact absurd (hdir d hd) (hother i hi)
    · cases hd.symm.trans hd'
    · cases hd.symm.trans hd'
      rw [hs'] at hs
      cases hs
      rw [ha]
    · cases hd.symm.trans hd'
      rw [hs'] at hs
      cases hs

/-- The instance in use, the sinks of every logger and the lines of every file are what they were. -/
structure IsUnchanged (j k : Logging) : Prop where
  current : k.current = j.current
  sinks : ∀ n, k.sinksOf n = j.sinksOf n
  lines : ∀ p, k.store.lines? p = j.store.lines? p

/-- From a start without an instance and without sinks, behind any steps and records: no logger is
given exactly if the directory called for is not that of the instance in use and cannot be made. Then
no instance is in use, no logger has a sink and no record does anything any more, while every file
keeps its lines. So nothing has changed if no instance was in use before, and only then. -/
theorem closed_of_failure (hcurrent : j.current = none) (hsinks : ∀ n, j.sinksOf n = [])
    (as : List Action) (directory : Option Text) (name : Text) (e : PathError) :
    (((j.acts as).acquire directory name).2 = .error e ↔ (j.acts as).Fails directory e) ∧
    ∀ k, (j.acts as).acquire directory name = (k, .error e) →
      k.current = none ∧ (∀ n, k.sinksOf n = []) ∧ (∀ r, k.log r = k) ∧
      (∀ p, k.store.lines? p = (j.acts as).store.lines? p) ∧
      ((j.acts as).IsUnchanged k ↔ (j.acts as).current = none) := by
  have hconsistent := (IsBare.isConsistent ⟨hcurrent, hsinks⟩).acts as
  generalize j.acts as = j at hconsistent ⊢
  refine ⟨acquire_eq_error_iff hconsistent, fun k ha => ?_⟩
  obtain ⟨d, s, -, hs, rfl⟩ := exists_of_acquire_error hconsistent ha
  have hbare := (isBare_setVerbose hconsistent.isBare_close name).store s
  have hlines := (Store.makeDirectory_spec hs).2
  refine ⟨hbare.current, hbare.sinks, log_of_isBare hbare, hlines, fun h => ?_, fun h => ?_⟩
  · rw [← h.current]
    exact hbare.current
  · exact ⟨hbare.current.trans h.symm,
      fun n => (hbare.sinks n).trans (hconsistent.unused h n).symm, hlines⟩

/-- A logger that writes to files, and a record. -/
def written : List Action :=
  [.step (.get (some "logs".toList) compilerName),
    .log ⟨[], compilerName, .error, [], "1".toList⟩]

/-- The path of a file is asked for as a directory, with another directory in front of it that can be
made. -/
theorem closed_of_failure_occupied :
    ∃ k, (start 0 []).current = none ∧ (∀ n, (start 0 []).sinksOf n = []) ∧
      ((start 0 []).acts written).acquire (some "new/../logs/uxexpr_error.log".toList) compilerName =
        (k, .error .occupied) ∧
      ((start 0 []).acts written).current = some ⟨some "logs".toList, compilerName⟩ ∧
      k.store.isDirectory ["new".toList] = true ∧
      (k.store.content ["logs".toList, "uxexpr_error.log".toList]).map (·.record.message) =
        ["1".toList] ∧
      k.current = none ∧ (∀ n, k.sinksOf n = []) ∧ ∀ r, k.log r = k := by
  have hfails : (((start 0 []).acts written).acquire
      (some "new/../logs/uxexpr_error.log".toList) compilerName).2 = .error .occupied := by
    decide +kernel
  obtain ⟨-, hclosed⟩ := closed_of_failure (j := start 0 []) rfl (fun _ => rfl) written
    (some "new/../logs/uxexpr_error.log".toList) compilerName .occupied
  obtain ⟨hcurrent, hsinks, hlog, -, -⟩ := hclosed _ (Prod.ext rfl hfails)
  exact ⟨_, rfl, fun _ => rfl, Prod.ext rfl hfails, by decide +kernel, by decide +kernel,
    by decide +kernel, hcurrent, hsinks, hlog⟩

/-- The instance in use is gone when the directory of the next one cannot be made. -/
theorem not_unchanged_of_failure :
    ¬∀ (as : List Action) (directory : Option Text) (name : Text) (k : Logging) (e : PathError),
      ((start 0 []).acts as).acquire directory name = (k, .error e) →
        ((start 0 []).acts as).IsUnchanged k := by
  intro h
  have hfails : (((start 0 []).acts written).acquire
      (some "logs/uxexpr_error.log".toList) compilerName).2 = .error .occupied := by
    decide +kernel
  have hcurrent := (h written _ _ _ _ (Prod.ext rfl hfails)).current
  revert hcurrent
  decide +kernel

end Stencil.Journal.Logging
