import Stencil.Journal.Compilation
import Stencil.Proofs.Journal.Backups
import Stencil.Proofs.Journal.Sinks

/-! # Which records reach which file

While no file is rotated, a file of a directory holds the records of its level and of graver ones
that were issued while the directory was in use, each once and in order, and no other file is
written. -/
namespace Stencil.Journal

namespace Store

/-! ## Directories that are made -/

variable {s t : Store}

theorem content_of_isDirectory {p : Path} (h : s.isDirectory p = true) : s.content p = [] := by
  simp [content, lines?, isDirectory_iff.1 h]

theorem content_nil (p : Path) : content [] p = [] := by
  cases hp : p.isGiven with
  | true => exact content_of_isDirectory (isDirectory_iff.2 (get?_of_isGiven hp []))
  | false => exact content_of_none (get?_of_not_isGiven hp [])

theorem lines?_put_directory {p : Path} (h : s.get? p = none) (q : Path) :
    (s.put p .directory).lines? q = s.lines? q := by
  unfold lines?
  rw [get?_put (not_isGiven_of_none h)]
  split_ifs with hq
  · rw [hq, h]
  · rfl

/-- Making directories leaves the lines of all files, also if not all of them can be made. If they
can, the last of them is there. -/
theorem makeBelow_spec {done : Path} {ns : List Text} {e : Option PathError}
    (hdone : s.isDirectory done = true) (h : s.makeBelow done ns = (t, e)) :
    (e = none → t.isDirectory (ns.foldl Path.enter done) = true) ∧
      ∀ p, t.lines? p = s.lines? p := by
  induction ns generalizing s done with
  | nil =>
    cases h
    exact ⟨fun _ => hdone, fun _ => rfl⟩
  | cons n ns ih =>
    rw [makeBelow] at h
    split at h
    next hp => exact ih (isDirectory_iff.2 hp) h
    next hp =>
      cases h
      exact ⟨(fun he => by cases he), fun _ => rfl⟩
    next hp =>
      have hput : (s.put (done.enter n) .directory).isDirectory (done.enter n) = true := by
        rw [isDirectory_iff, get?_put (not_isGiven_of_none hp), if_pos rfl]
      obtain ⟨hmade, hlines⟩ := ih hput h
      exact ⟨hmade, fun p => (hlines p).trans (lines?_put_directory hp p)⟩

theorem makeDirectory_spec {d : Text} {e : Option PathError} (h : s.makeDirectory d = (t, e)) :
    (e = none → t.isDirectory (Path.ofText d).normal = true) ∧ ∀ p, t.lines? p = s.lines? p := by
  unfold makeDirectory at h
  split_ifs at h
  · cases h
    exact ⟨(fun he => by cases he), fun _ => rfl⟩
  · exact makeBelow_spec (isDirectory_iff.2 (get?_of_isGiven rfl s)) h

end Store

namespace Rotation

/-! ## Lines without rotation -/

variable {s : Store} {base : Path}

/-- A file that is never rotated only grows. -/
theorem get?_write_zero (h : s.IsPlace base) (l : Line) (q : Path) :
    (write 0 s base l).get? q = (s.append base l).get? q := by
  have hdue : rotates 0 s base l = false := by
    unfold rotates isDue
    split <;> rfl
  rw [write_eq, hdue, if_neg Bool.false_ne_true, h.touch.get?_append, h.get?_append,
    h.content_touch, h.get?_touch]
  split_ifs <;> rfl

end Rotation

/-! ## Records on their way to sinks -/

/-- The lines that a record adds at a path by way of a sink. -/
def Sink.lines (r : Record) (q : Path) : Sink → List Line
  | .silent => []
  | .file level detailed _ base =>
    if q = base ∧ level.number ≤ r.level.number then [⟨r, detailed⟩] else []

/-- The file of a sink has its place. -/
def Sink.IsOpen (s : Store) : Sink → Prop
  | .silent => True
  | .file _ _ _ base => s.IsPlace base

theorem Sink.IsOpen.congr {s t : Store} (h : ∀ q, t.isDirectory q = s.isDirectory q) {sink : Sink}
    (hs : sink.IsOpen s) : sink.IsOpen t := by
  cases sink with
  | silent => trivial
  | file level detailed directory base => exact ⟨(h _).trans hs.directory, (h _).trans hs.free⟩

namespace Logging

theorem deliver_spec {s : Store} {sink : Sink} (h : sink.IsOpen s) (r : Record) :
    (∀ q, (deliver 0 r s sink).isDirectory q = s.isDirectory q) ∧
      ∀ q, (deliver 0 r s sink).content q = s.content q ++ sink.lines r q := by
  cases sink with
  | silent => simp [deliver, Sink.lines]
  | file level detailed directory base =>
    by_cases hlevel : level.number ≤ r.level.number
    · rw [deliver, if_pos hlevel]
      constructor
      · intro q
        have hget := Rotation.get?_write_zero h ⟨r, detailed⟩ q
        rw [← h.isDirectory_append ⟨r, detailed⟩, Store.isDirectory, hget, Store.isDirectory]
      · intro q
        rw [Store.content_of_get? (Rotation.get?_write_zero h ⟨r, detailed⟩ q), h.content_append,
          Sink.lines]
        by_cases hq : q = base <;> simp [hq, hlevel]
    · simp [deliver, hlevel, Sink.lines]

theorem foldl_deliver_spec {s : Store} {ss : List Sink} (h : ∀ sink ∈ ss, sink.IsOpen s)
    (r : Record) : (∀ q, (ss.foldl (deliver 0 r) s).isDirectory q = s.isDirectory q) ∧
      ∀ q, (ss.foldl (deliver 0 r) s).content q = s.content q ++ ss.flatMap (Sink.lines r q) := by
  induction ss generalizing s with
  | nil => simp
  | cons sink ss ih =>
    obtain ⟨hsink, hss⟩ := List.forall_mem_cons.1 h
    obtain ⟨hdirectory, hcontent⟩ := deliver_spec hsink r
    obtain ⟨hdirectory', hcontent'⟩ := ih fun sink hs => (hss sink hs).congr hdirectory
    refine ⟨fun q => (hdirectory' q).trans (hdirectory q), fun q => ?_⟩
    rw [List.foldl_cons, hcontent', hcontent, List.flatMap_cons, List.append_assoc]

/-! ## Events -/

/-- What may happen to logging: the default logger is asked for, the instance in use is closed, the
directory of the environment is set or taken away, a record is issued, or a template is compiled. -/
inductive Event
  | get (directory : Option Text)
  | close
  | environment (directory : Option Text)
  | log (stamp : Text) (level : Level) (place message : Text)
  | compile (dialect : Dialect) (stamp place template : Text)

def happen (j : Logging) : Event → Logging
  | .get directory => j.step (.get directory compilerName)
  | .close => j.step .close
  | .environment directory => j.step (.environment directory)
  | .log stamp level place message => j.log ⟨stamp, compilerName, level, place, message⟩
  | .compile dialect stamp place s => j.compileIn dialect stamp place s

def after (j : Logging) (es : List Event) : Logging := es.foldl happen j

/-- The record that an event makes. -/
def Event.record? : Event → Option Record
  | .log stamp level place message => some ⟨stamp, compilerName, level, place, message⟩
  | .compile dialect stamp place s =>
    (recordOf? (Template.compile dialect s)).map fun r => ⟨stamp, compilerName, r.1, place, r.2⟩
  | _ => none

/-- The directory in use. -/
def directoryInUse (j : Logging) : Option Text := j.current.bind Instance.directory

/-- The records of events, each with the directory in use when it is issued. -/
def issued (j : Logging) : List Event → List (Option Text × Record)
  | [] => []
  | e :: es => (e.record?.map (j.directoryInUse, ·)).toList ++ issued (j.happen e) es

/-- No directory stands where the files of the instance in use are. -/
def IsFree (j : Logging) : Prop := ∀ i d, j.current = some i → i.directory = some d →
  ∀ f ∈ levelFiles, j.store.isDirectory (filePath d (fileName i.name f.1)) = false

/-- There is never a directory in the place of a file in use. -/
def NeverObstructed (j : Logging) (es : List Event) : Prop :=
  ∀ before after, es = before ++ after → (j.after before).IsFree

theorem isFree_iff {j : Logging} : j.IsFree ↔ ∀ i ∈ j.current, ∀ d ∈ i.directory, ∀ f ∈ levelFiles,
    j.store.isDirectory (filePath d (fileName i.name f.1)) = false :=
  ⟨fun h i hi d hd => h i d hi hd, fun h i d hi hd => h i hi d hd⟩

theorem neverObstructed_nil {j : Logging} : j.NeverObstructed [] ↔ j.IsFree := by
  refine ⟨fun h => h [] [] rfl, fun h before after hs => ?_⟩
  obtain ⟨rfl, -⟩ := List.append_eq_nil_iff.1 hs.symm
  exact h

theorem neverObstructed_cons {j : Logging} {e : Event} {es : List Event} :
    j.NeverObstructed (e :: es) ↔ j.IsFree ∧ (j.happen e).NeverObstructed es := by
  constructor
  · exact fun h => ⟨h [] _ rfl, fun before after hs => h (e :: before) after (by rw [hs]; rfl)⟩
  · rintro ⟨hfree, h⟩ before after hs
    rcases before with _ | ⟨e', before⟩
    · exact hfree
    · obtain ⟨rfl, hrest⟩ := List.cons.inj hs
      exact h before after hrest

instance (j : Logging) : Decidable j.IsFree := decidable_of_iff _ isFree_iff.symm

instance decidableNeverObstructed (j : Logging) :
    (es : List Event) → Decidable (j.NeverObstructed es)
  | [] => decidable_of_iff _ neverObstructed_nil.symm
  | e :: es =>
    have := decidableNeverObstructed (j.happen e) es
    decidable_of_iff _ neverObstructed_cons.symm

/-- What a run keeps: the logger of the instance in use is the default one, takes every record, and
has the sinks of its files, whose directory exists. -/
structure IsReady (j : Logging) : Prop where
  consistent : j.IsConsistent
  limit : j.limit = 0
  name : ∀ i, j.current = some i → i.name = compilerName
  verbose : ∀ i, j.current = some i → compilerName ∈ j.verbose
  sinks : ∀ i d, j.current = some i → i.directory = some d →
    j.sinksOf compilerName = fileSinks d compilerName
  made : ∀ i d, j.current = some i → i.directory = some d →
    j.store.isDirectory (Path.ofText d).normal = true

variable {j : Logging}

theorem IsBare.isReady (h : j.IsBare) (hlimit : j.limit = 0) : j.IsReady := by
  have hnone : ∀ {i}, j.current ≠ some i := fun hi => by
    rw [h.current] at hi
    cases hi
  exact ⟨h.isConsistent, hlimit, fun i hi => (hnone hi).elim, fun i hi => (hnone hi).elim,
    fun i d hi => (hnone hi).elim, fun i d hi => (hnone hi).elim⟩

@[simp] theorem limit_close (j : Logging) : j.close.limit = j.limit := by
  unfold close
  split <;> rfl

theorem IsReady.get (h : j.IsReady) (directory : Option Text) :
    (j.step (.get directory compilerName)).IsReady ∧
      ∀ q, (j.step (.get directory compilerName)).store.content q = j.store.content q := by
  have hconsistent := h.consistent.acquire directory compilerName
  rw [step]
  rcases acquire_cases h.consistent directory compilerName with ⟨i, -, -, ha⟩ | ⟨-, ha⟩ |
    ⟨d, s, e, -, hs, ha⟩ | ⟨d, s, -, hs, ha⟩
  · rw [ha]
    exact ⟨h, fun _ => rfl⟩
  · rw [ha] at hconsistent ⊢
    refine ⟨⟨hconsistent, (limit_close j).trans h.limit, ?_, ?_, ?_, ?_⟩,
      fun q => congrArg (Store.content · q) (store_close j)⟩
    · rintro _ ⟨⟩
      rfl
    · rintro _ ⟨⟩
      exact List.mem_cons_self
    · rintro _ d ⟨⟩ hd
      cases hd
    · rintro _ d ⟨⟩ hd
      cases hd
  · rw [ha]
    have hbare := isBare_setVerbose h.consistent.isBare_close compilerName
    exact ⟨(hbare.store s).isReady ((limit_close j).trans h.limit),
      fun q => Store.content_of_lines? ((Store.makeDirectory_spec hs).2 q)⟩
  · rw [ha] at hconsistent ⊢
    obtain ⟨hmade, hlines⟩ := Store.makeDirectory_spec hs
    refine ⟨⟨hconsistent, (limit_close j).trans h.limit, ?_, ?_, ?_, ?_⟩,
      fun q => Store.content_of_lines? (hlines q)⟩
    · rintro _ ⟨⟩
      rfl
    · rintro _ ⟨⟩
      exact List.mem_cons_self
    · rintro _ d ⟨⟩ ⟨⟩
      exact (sinksOf_setSinks _ _ _ _).trans (if_pos rfl)
    · rintro _ d ⟨⟩ ⟨⟩
      exact hmade rfl

/-! ## What a record adds -/

/-- The lines that a record adds at a path while a directory is in use. -/
def added (directory : Option Text) (r : Record) (q : Path) : List Line :=
  match directory with
  | none => []
  | some d => (fileSinks d compilerName).flatMap (Sink.lines r q)

theorem not_mem_compilerName : '/' ∉ compilerName := by decide

theorem filePath_compilerName (d : Text) (level : Level) :
    filePath d (fileName compilerName level) =
      (Path.ofText d).normal ++ [fileName compilerName level] :=
  filePath_fileName not_mem_compilerName d level

theorem reached_compilerName (h : j.IsReady) : j.reached compilerName = j.sinksOf compilerName := by
  have hroot : j.sinksOf rootName = [] := by
    cases hi : j.current with
    | none => exact h.consistent.unused hi rootName
    | some i => exact h.consistent.others i hi rootName (by rw [h.name i hi]; decide)
  have hancestry : ancestry (canonical compilerName) = [compilerName, rootName] := by decide
  rw [reached, hancestry, List.flatMap_cons, List.flatMap_cons, List.flatMap_nil, hroot]
  simp

theorem sinksOf_of_none (h : j.IsReady) (hd : j.directoryInUse = none) :
    ∀ sink ∈ j.sinksOf compilerName, sink = .silent := by
  cases hi : j.current with
  | none => simp [h.consistent.unused hi]
  | some i =>
    have hsilent := h.consistent.silent i hi (by simpa [directoryInUse, hi] using hd)
    rw [h.name i hi] at hsilent
    simp [hsilent]

theorem isOpen_fileSinks (h : j.IsReady) (hfree : j.IsFree) {i : Instance} {d : Text}
    (hi : j.current = some i) (hd : i.directory = some d) :
    ∀ sink ∈ fileSinks d compilerName, sink.IsOpen j.store := by
  unfold fileSinks
  rw [List.forall_mem_map]
  intro f hf
  have hplace := hfree i d hi hd f hf
  rw [h.name i hi, filePath_compilerName] at hplace
  change j.store.IsPlace _
  rw [filePath_compilerName]
  exact ⟨by rw [List.dropLast_concat]; exact h.made i d hi hd, hplace⟩

/-- A record is put into the files of the directory in use, and nothing else changes. -/
theorem log_spec (h : j.IsReady) (hfree : j.IsFree) {r : Record} (hr : r.logger = compilerName) :
    ∃ s, j.log r = { j with store := s } ∧ (∀ q, s.isDirectory q = j.store.isDirectory q) ∧
      (∀ q, s.content q = j.store.content q ++ added j.directoryInUse r q) ∧
      (j.directoryInUse = none → s = j.store) := by
  have hdeliver : deliver j.limit r = deliver 0 r := by rw [h.limit]
  unfold log
  rw [hr, reached_compilerName h, hdeliver]
  cases hd : j.directoryInUse with
  | none =>
    have hnothing : (j.sinksOf compilerName).foldl (deliver 0 r) j.store = j.store := by
      have hsilent := sinksOf_of_none h hd
      generalize j.sinksOf compilerName = ss at hsilent
      induction ss with
      | nil => rfl
      | cons sink ss ih =>
        obtain ⟨rfl, hss⟩ := List.forall_mem_cons.1 hsilent
        exact ih hss
    rw [hnothing]
    exact ⟨j.store, by split_ifs <;> rfl, fun _ => rfl, fun q => (List.append_nil _).symm,
      fun _ => rfl⟩
  | some d =>
    obtain ⟨i, hi, hid⟩ := Option.bind_eq_some_iff.1 hd
    have hancestry : ancestry (canonical compilerName) = [compilerName, rootName] := by decide
    have hthreshold : j.threshold compilerName ≤ r.level.number := by
      have hverbose : ((ancestry (canonical compilerName)).any fun n => j.verbose.contains n) =
          true := by
        simp [hancestry, h.verbose i hi]
      rw [threshold, if_pos hverbose]
      cases r.level <;> decide
    rw [if_pos hthreshold, h.sinks i d hi hid]
    obtain ⟨hdirectory, hcontent⟩ := foldl_deliver_spec (isOpen_fileSinks h hfree hi hid) r
    exact ⟨_, rfl, hdirectory, hcontent, fun hnone => by cases hnone⟩

theorem IsReady.store (h : j.IsReady) {s : Store}
    (hs : ∀ q, s.isDirectory q = j.store.isDirectory q) : IsReady { j with store := s } :=
  ⟨⟨h.consistent.unused, h.consistent.others, h.consistent.silent, h.consistent.files⟩, h.limit,
    h.name, h.verbose, h.sinks, fun i d hi hd => (hs _).trans (h.made i d hi hd)⟩

/-- An event makes a record of the default logger, or none. -/
theorem happen_of_record? {e : Event} {r : Record} (h : e.record? = some r) (j : Logging) :
    r.logger = compilerName ∧ j.happen e = j.log r := by
  cases e with
  | log stamp level place message =>
    cases h
    exact ⟨rfl, rfl⟩
  | compile dialect stamp place s =>
    obtain ⟨⟨level, message⟩, hm, rfl⟩ := Option.map_eq_some_iff.1 h
    refine ⟨rfl, ?_⟩
    rw [happen, compileIn, hm]
  | _ => cases h

/-- An event without a record leaves the lines of all files. -/
theorem happen_of_record?_eq_none {e : Event} (he : e.record? = none) (h : j.IsReady) :
    (j.happen e).IsReady ∧ ∀ q, (j.happen e).store.content q = j.store.content q := by
  cases e with
  | get directory => exact h.get directory
  | close =>
    exact ⟨h.consistent.isBare_close.isReady ((limit_close j).trans h.limit),
      fun q => congrArg (Store.content · q) (store_close j)⟩
  | environment directory =>
    have hconsistent := h.consistent.step (.environment directory)
    exact ⟨⟨hconsistent, h.limit, h.name, h.verbose, h.sinks, h.made⟩, fun _ => rfl⟩
  | log stamp level place message => cases he
  | compile dialect stamp place s =>
    have hnone : recordOf? (Template.compile dialect s) = none := Option.map_eq_none_iff.1 he
    have hsame : j.happen (.compile dialect stamp place s) = j := by rw [happen, compileIn, hnone]
    rw [hsame]
    exact ⟨h, fun _ => rfl⟩

theorem happen_spec (h : j.IsReady) (hfree : j.IsFree) (e : Event) : (j.happen e).IsReady ∧
    ∀ q, (j.happen e).store.content q = j.store.content q ++
      (j.issued [e]).flatMap fun i => added i.1 i.2 q := by
  cases he : e.record? with
  | none =>
    obtain ⟨hready, hcontent⟩ := happen_of_record?_eq_none he h
    exact ⟨hready, fun q => by simp [issued, he, hcontent]⟩
  | some r =>
    obtain ⟨hr, hlog⟩ := happen_of_record? he j
    obtain ⟨s, hs, hdirectory, hcontent, -⟩ := log_spec h hfree hr
    rw [hlog, hs]
    exact ⟨h.store hdirectory, fun q => by simp [issued, he, hcontent]⟩

/-- A run adds to each file what its records add one by one. -/
theorem content_after (h : j.IsReady) {es : List Event} (hfree : j.NeverObstructed es) :
    (j.after es).IsReady ∧ ∀ q, (j.after es).store.content q = j.store.content q ++
      (j.issued es).flatMap fun i => added i.1 i.2 q := by
  induction es generalizing j with
  | nil => exact ⟨h, fun q => (List.append_nil _).symm⟩
  | cons e es ih =>
    obtain ⟨hfirst, hrest⟩ := neverObstructed_cons.1 hfree
    obtain ⟨hready, hcontent⟩ := happen_spec h hfirst e
    obtain ⟨hready', hcontent'⟩ := ih hready hrest
    refine ⟨hready', fun q => ?_⟩
    have hissued : j.issued (e :: es) = j.issued [e] ++ (j.happen e).issued es := by simp [issued]
    rw [hissued, List.flatMap_append, ← List.append_assoc, ← hcontent]
    exact hcontent' q

/-! ## The files of a directory -/

/-- Is a record, issued with a directory in use, one for the file of a level in this directory? -/
def belongs (directory : Path) (level : Level) (e : Option Text × Record) : Bool :=
  e.1.any (fun d => (Path.ofText d).normal == directory) && decide (level.number ≤ e.2.level.number)

/-- The records in the file of a level in a directory. -/
def recordsIn (s : Store) (directory : Path) (level : Level) : List Record :=
  (s.content (directory ++ [fileName compilerName level])).map Line.record

theorem fileName_inj : ∀ f ∈ levelFiles, ∀ g ∈ levelFiles,
    fileName compilerName f.1 = fileName compilerName g.1 → f = g := by decide

theorem added_file {f : Level × Bool} (hf : f ∈ levelFiles) (directory : Path)
    (e : Option Text × Record) : added e.1 e.2 (directory ++ [fileName compilerName f.1]) =
      if belongs directory f.1 e then [⟨e.2, f.2⟩] else [] := by
  obtain ⟨_ | d, r⟩ := e
  · rfl
  have hbase : ∀ g ∈ levelFiles, directory ++ [fileName compilerName f.1] =
      filePath d (fileName compilerName g.1) ↔ (Path.ofText d).normal = directory ∧ g = f := by
    intro g hg
    rw [filePath_compilerName, List.append_singleton_inj]
    constructor
    · rintro ⟨rfl, hname⟩
      exact ⟨rfl, (fileName_inj f hf g hg hname).symm⟩
    · rintro ⟨rfl, rfl⟩
      exact ⟨rfl, rfl⟩
  have hlines : ∀ g ∈ levelFiles, Sink.lines r (directory ++ [fileName compilerName f.1])
      (.file g.1 g.2 d (filePath d (fileName compilerName g.1))) =
        if g = f ∧ belongs directory f.1 (some d, r) = true then [⟨r, f.2⟩] else [] := by
    intro g hg
    rw [Sink.lines]
    by_cases hgf : g = f
    · subst hgf
      simp [hbase g hg, belongs]
    · simp [hbase g hg, hgf]
  rw [added, fileSinks, List.flatMap_map, List.flatMap_congr hlines]
  -- The four levels have a file each, so one of the sinks is that of this file.
  simp only [levelFiles, List.mem_cons, List.not_mem_nil, or_false] at hf
  rcases hf with rfl | rfl | rfl | rfl <;> simp [levelFiles]

theorem added_other {q : Path}
    (hq : ∀ directory, ∀ f ∈ levelFiles, q ≠ directory ++ [fileName compilerName f.1])
    (e : Option Text × Record) : added e.1 e.2 q = [] := by
  obtain ⟨_ | d, r⟩ := e
  · rfl
  rw [added, fileSinks, List.flatMap_map, List.flatMap_eq_nil_iff]
  intro f hf
  rw [Sink.lines, filePath_compilerName, if_neg fun h => hq _ f hf h.1]

theorem flatMap_ite {α β : Type} (p : α → Bool) (f : α → β) (xs : List α) :
    (xs.flatMap fun x => if p x then [f x] else []) = (xs.filter p).map f := by
  induction xs with
  | nil => rfl
  | cons x xs ih => cases h : p x <;> simp [h, ih]

/-- Graver records are some of those of a level. -/
theorem belongs_sublist {graver level : Level} (h : level.number ≤ graver.number) (directory : Path)
    (es : List (Option Text × Record)) :
    (es.filter (belongs directory graver)).Sublist (es.filter (belongs directory level)) := by
  apply List.monotone_filter_right
  intro e he
  simp only [belongs, Bool.and_eq_true, decide_eq_true_eq] at he ⊢
  exact ⟨he.1, h.trans he.2⟩

/-- Each file of a directory holds just the records of its level and of graver ones that were issued
while the directory was in use, in order; other files hold nothing. A record that is issued while no
directory is in use changes no file, and the file of a graver level holds some of the records in
that of the level below. -/
structure IsRouted (j : Logging) (es : List Event) : Prop where
  files : ∀ directory, ∀ f ∈ levelFiles,
    (j.after es).store.content (directory ++ [fileName compilerName f.1]) =
      ((j.issued es).filter (belongs directory f.1)).map fun e => ⟨e.2, f.2⟩
  others : ∀ q, (∀ directory, ∀ f ∈ levelFiles, q ≠ directory ++ [fileName compilerName f.1]) →
    (j.after es).store.content q = []
  unheard : ∀ before e after, es = before ++ e :: after → e.record?.isSome = true →
    (j.after before).directoryInUse = none →
      ((j.after before).happen e).store = (j.after before).store
  graver : ∀ directory, List.IsChain (fun graver level =>
    (recordsIn (j.after es).store directory graver).Sublist
      (recordsIn (j.after es).store directory level)) [.error, .warning, .info, .debug]

/-- From a start without an instance, without sinks and without lines in any file, and while no file
is rotated, every run in which no directory obstructs a file routes its records. -/
theorem routed_of_run {j : Logging} (hcurrent : j.current = none)
    (hsinks : ∀ name, j.sinksOf name = []) (hlimit : j.limit = 0)
    (hstore : ∀ p, j.store.content p = []) {es : List Event} (hfree : j.NeverObstructed es) :
    j.IsRouted es := by
  have hstart : j.IsReady := IsBare.isReady ⟨hcurrent, hsinks⟩ hlimit
  have hcontent : ∀ q, (j.after es).store.content q =
      (j.issued es).flatMap fun i => added i.1 i.2 q := by
    intro q
    rw [(content_after hstart hfree).2, hstore, List.nil_append]
  have hfiles : ∀ directory, ∀ f ∈ levelFiles,
      (j.after es).store.content (directory ++ [fileName compilerName f.1]) =
        ((j.issued es).filter (belongs directory f.1)).map fun e => ⟨e.2, f.2⟩ := by
    intro directory f hf
    rw [hcontent, ← flatMap_ite]
    exact List.flatMap_congr fun e _ => added_file hf directory e
  have hrecords : ∀ directory, ∀ f ∈ levelFiles, recordsIn (j.after es).store directory f.1 =
      ((j.issued es).filter (belongs directory f.1)).map Prod.snd := by
    intro directory f hf
    rw [recordsIn, hfiles directory f hf, List.map_map]
    rfl
  refine ⟨hfiles, fun q hq => ?_, fun before e later hes he hd => ?_, fun directory => ?_⟩
  · rw [hcontent, List.flatMap_eq_nil_iff]
    exact fun e _ => added_other hq e
  · obtain ⟨r, hr⟩ := Option.isSome_iff_exists.1 he
    have hbefore : j.NeverObstructed before := fun a b hab =>
      hfree a (b ++ e :: later) (by rw [hes, hab, List.append_assoc])
    obtain ⟨hname, hlog⟩ := happen_of_record? hr (j.after before)
    obtain ⟨s, hs, -, -, hsame⟩ :=
      log_spec (content_after hstart hbefore).1 (hfree before _ hes) hname
    rw [hlog, hs, hsame hd]
  · have hsublist : ∀ f ∈ levelFiles, ∀ g ∈ levelFiles, g.1.number ≤ f.1.number →
        (recordsIn (j.after es).store directory f.1).Sublist
          (recordsIn (j.after es).store directory g.1) := by
      intro f hf g hg hle
      rw [hrecords directory f hf, hrecords directory g hg]
      exact (belongs_sublist hle directory _).map _
    exact .cons_cons (hsublist (.error, true) (by decide) (.warning, false) (by decide) (by decide))
      (.cons_cons (hsublist (.warning, false) (by decide) (.info, false) (by decide) (by decide))
        (.cons_cons (hsublist (.info, false) (by decide) (.debug, true) (by decide) (by decide))
          (.singleton _)))

/-- Two directories in turn, one of them written in two ways, and records between them. -/
theorem routed_of_run_turns :
    ∃ (j : Logging) (es : List Event), j.current = none ∧ (∀ name, j.sinksOf name = []) ∧
      j.limit = 0 ∧ (∀ p, j.store.content p = []) ∧ j.NeverObstructed es ∧
      (recordsIn (j.after es).store ["a".toList] .error).map Record.message = ["4".toList] ∧
      (recordsIn (j.after es).store ["a".toList] .info).map Record.message =
        ["1".toList, "4".toList] ∧
      (recordsIn (j.after es).store ["b".toList] .debug).map Record.level = [.debug, .warning] ∧
      j.IsRouted es := by
  refine ⟨start 0 [], [.log [] .error [] "0".toList, .get (some "a".toList),
      .log [] .info [] "1".toList, .environment (some "b".toList), .close,
      .log [] .critical [] "2".toList, .get none, .log [] .debug [] "3".toList,
      .compile .standard [] [] "\x7b\x7b ) \x7d\x7d".toList, .get (some "./b/../a".toList),
      .log [] .critical [] "4".toList],
    rfl, fun _ => rfl, rfl, Store.content_nil, by decide +kernel, by decide +kernel,
    by decide +kernel, by decide +kernel,
    routed_of_run rfl (fun _ => rfl) rfl Store.content_nil (by decide +kernel)⟩

end Logging

end Stencil.Journal
