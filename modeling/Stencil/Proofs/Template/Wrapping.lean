import Stencil.Proofs.Template.Application
import Stencil.Proofs.Template.Segments

/-! # Pipelines of names

A path with filters behind it, whose arguments are names, is cut at the separators and wrapped into
the nested call of the filters, the first of them innermost. -/
namespace Stencil

namespace Pipeline

open Application

/-! ## Pipelines as they are written -/

/-- A name and the members that are read of it, one of the other. -/
structure Path where
  head : PlainName
  steps : List PlainName

/-- A filter with its arguments; it may be written without parentheses if it has none. -/
structure Stage where
  name : PlainName
  arguments : Option (List PlainName)

abbrev Blanks := { s : Text // s.all Text.isBlank = true }

def noBlanks : Blanks := ⟨[], rfl⟩

theorem isBlank_of_mem (x : Blanks) : ∀ c ∈ x.1, Text.isBlank c = true := List.all_eq_true.1 x.2

theorem not_mem_blanks {c : Char} (hc : Text.isBlank c = false) (x : Blanks) : c ∉ x.1 := by
  intro h
  rw [isBlank_of_mem x c h] at hc
  cases hc

/-- A filter with the blanks in front of the separator and behind it. -/
structure Link where
  before : Blanks
  behind : Blanks
  stage : Stage

/-- A path and filters, between blanks. -/
structure Written where
  lead : Blanks
  path : Path
  links : List Link
  trail : Blanks

def Path.text (p : Path) : Text := p.head.text ++ p.steps.flatMap fun n => '.' :: n.text

def Stage.text (s : Stage) : Text :=
  match s.arguments with
  | none => s.name.text
  | some ns => s.name.text ++ '(' :: (Text.join ", ".toList (ns.map PlainName.text) ++ [')'])

/-- The arguments of a filter but for the first. -/
def Stage.names (s : Stage) : List PlainName := s.arguments.getD []

def Link.text (l : Link) : Text := l.before ++ '|' :: (l.behind ++ l.stage.text)

namespace Written

def stages (w : Written) : List Stage := w.links.map Link.stage

/-- The pipeline without the blanks around it. -/
def core (w : Written) : Text := w.path.text ++ w.links.flatMap Link.text

/-- The pipeline with the blanks around it. -/
def inside (w : Written) : Text := w.lead ++ w.core ++ w.trail

/-- The pipeline as a template. -/
def template (w : Written) : Text := "\x7b\x7b".toList ++ w.inside ++ "\x7d\x7d".toList

end Written

/-! ## The nested calls that they stand for -/

def Path.application (p : Path) : Application := p.steps.foldl .member (.name p.head)

/-- The filter applied. -/
def Stage.applied (a : Application) (s : Stage) : Application := .call s.name a s.names

def Written.application (w : Written) : Application :=
  w.stages.foldl Stage.applied w.path.application

theorem written_foldl_member (mark : Text) (a : Application) (ns : List PlainName) :
    (ns.foldl .member a).written mark = a.written mark ++ ns.flatMap fun n => '.' :: n.text := by
  induction ns generalizing a with
  | nil => simp
  | cons n ns ih => simp [ih, written]

theorem Path.text_eq (p : Path) : p.text = p.application.written [] :=
  (written_foldl_member [] (.name p.head) p.steps).symm

theorem join_eq_further (n : PlainName) (ns : List PlainName) :
    Text.join ", ".toList ((n :: ns).map PlainName.text) = n.text ++ further [] ns := by
  induction ns generalizing n with
  | nil => simp [Text.join, further]
  | cons m ns ih =>
    rw [List.map_cons, List.map_cons, Text.join, ← List.map_cons, ih]
    simp [further]

theorem depth_foldl_member (a : Application) (ns : List PlainName) :
    (ns.foldl .member a).depth = a.depth := by
  induction ns generalizing a with
  | nil => rfl
  | cons n ns ih => exact ih (.member a n)

theorem depth_foldl_applied (a : Application) (ss : List Stage) :
    (ss.foldl Stage.applied a).depth = a.depth + ss.length := by
  induction ss generalizing a with
  | nil => rfl
  | cons s ss ih =>
    rw [List.foldl_cons, ih, List.length_cons]
    simp only [Stage.applied, depth]
    omega

theorem Written.depth_application (w : Written) : w.application.depth = w.links.length := by
  rw [Written.application, depth_foldl_applied, Path.application, depth_foldl_member]
  simp [Application.depth, Written.stages]

/-! ## Cutting and wrapping -/

/-- What stands in a segment between its blanks. -/
structure IsCore (s : Text) : Prop where
  ne_nil : s ≠ []
  isPlain : ∀ c ∈ s, Application.isPlain c = true
  isLevel : IsLevel s
  head? : ∀ c ∈ s.head?, Text.isBlank c = false
  getLast? : ∀ c ∈ s.getLast?, Text.isBlank c = false

variable (a : Application) (n : PlainName) (ns : List PlainName)

theorem isCore_identifier (n : Identifier) : IsCore n.text where
  ne_nil := n.ne_nil
  isPlain _ hc := isPlain_of_isWordPart (n.isWordPart_of_mem hc)
  isLevel := isLevel_of_isInert fun _ hc => isInert_of (by decide) (n.isWordPart_of_mem hc)
  head? _ hc := n.not_isBlank_of_mem (List.mem_of_head? hc)
  getLast? _ hc := n.not_isBlank_of_mem (List.mem_of_getLast? hc)

theorem isLevel_text : IsLevel n.text := (isCore_identifier n.toWordName.toIdentifier).isLevel

theorem isLevel_cons {c : Char} {s : Text} (hc : isInert c = true) (hs : IsLevel s) :
    IsLevel (c :: s) :=
  (isLevel_of_isInert (s := [c]) (by simpa using hc)).append hs

theorem isLevel_further : IsLevel (further [] ns) := by
  induction ns with
  | nil => exact isLevel_nil
  | cons n ns ih =>
    exact isLevel_cons (by decide) (isLevel_cons (by decide) ((isLevel_text n).append ih))

theorem isLevel_written : IsLevel (a.written []) := by
  induction a with
  | name n => exact isLevel_text n
  | member a n ih => exact ih.append (isLevel_cons (by decide) (isLevel_text n))
  | call f a ns ih => exact (isLevel_text f).append (ih.append (isLevel_further ns)).parens

theorem isCore_written : IsCore (a.written []) where
  ne_nil := by
    obtain ⟨n, s, h⟩ := a.exists_written_eq
    simp [h, n.ne_nil]
  isPlain := a.isPlain_of_mem [] nofun
  isLevel := isLevel_written a
  head? := a.head?_written
  getLast? := a.getLast?_written

theorem isCore_stage (s : Stage) : IsCore s.text := by
  obtain ⟨n, _ | _ | ⟨m, ns⟩⟩ := s
  · exact isCore_written (.name n)
  · have hname := isCore_written (.name n)
    have htext : Stage.text ⟨n, some []⟩ = n.text ++ ['(', ')'] := rfl
    refine ⟨by simp [htext], ?_, ?_, ?_, ?_⟩
    · rw [htext, List.forall_mem_append]
      exact ⟨hname.isPlain, List.all_eq_true.1 (by decide)⟩
    · exact hname.isLevel.append isLevel_nil.parens
    · rw [htext, List.head?_append_of_ne_nil _ n.ne_nil]
      exact hname.head?
    · rw [htext, List.getLast?_append_of_ne_nil _ (by simp)]
      rintro _ ⟨⟩
      decide
  · have htext : Stage.text ⟨n, some (m :: ns)⟩ = (call n (.name m) ns).written [] := by
      simp only [Stage.text, join_eq_further, written, List.nil_append]
    rw [htext]
    exact isCore_written _

theorem IsCore.isSegment {s : Text} (h : IsCore s) (x y : Blanks) :
    IsSegment '|' (x ++ s ++ y) where
  ne_nil := by simp [h.ne_nil]
  not_mem := by
    rw [List.mem_append, List.mem_append]
    rintro ((hx | hs) | hy)
    · exact not_mem_blanks (by decide) x hx
    · exact Application.not_mem_of_isPlain h.isPlain (by decide) hs
    · exact not_mem_blanks (by decide) y hy
  isLevel := by
    have hblank : ∀ z : Blanks, IsLevel z := fun z =>
      isLevel_of_isInert fun c hc => isInert_of (by decide) (isBlank_of_mem z c hc)
    exact ((hblank x).append h.isLevel).append (hblank y)

theorem IsCore.strip_eq {s : Text} (h : IsCore s) (x y : Blanks) :
    Text.strip (x ++ s ++ y) = s :=
  Text.strip_eq (isBlank_of_mem x) (isBlank_of_mem y) h.head? h.getLast?

/-- The segments between separators, of which the first begins with `s`. -/
def segmentsFrom (s : Text) : List Link → List Text
  | [] => [s]
  | l :: ls => (s ++ l.before) :: segmentsFrom (l.behind ++ l.stage.text) ls

theorem join_segmentsFrom (s : Text) (ls : List Link) :
    Text.join ['|'] (segmentsFrom s ls) = s ++ ls.flatMap Link.text := by
  induction ls generalizing s with
  | nil => simp [segmentsFrom, Text.join]
  | cons l ls ih =>
    have h := ih (l.behind ++ l.stage.text)
    have hcons : ∃ t ts, segmentsFrom (l.behind ++ l.stage.text) ls = t :: ts := by
      cases ls <;> exact ⟨_, _, rfl⟩
    obtain ⟨t, ts, ht⟩ := hcons
    rw [ht] at h
    rw [segmentsFrom, ht, Text.join, h]
    simp [Link.text]

/-- The segments of a pipeline stand between separators, and without their blanks they are the first
text and the filters. -/
theorem segmentsFrom_spec {s : Text} (hs : IsCore s) (x : Blanks) (ls : List Link) :
    (∀ t ∈ segmentsFrom (x ++ s) ls, IsSegment '|' t) ∧
      (segmentsFrom (x ++ s) ls).map Text.strip = s :: ls.map fun l => l.stage.text := by
  induction ls generalizing s x with
  | nil =>
    have hsegment : IsSegment '|' (x.1 ++ s ++ []) := hs.isSegment x noBlanks
    have hstrip : Text.strip (x.1 ++ s ++ []) = s := hs.strip_eq x noBlanks
    rw [List.append_nil] at hsegment hstrip
    exact ⟨by simpa [segmentsFrom] using hsegment, by simp [segmentsFrom, hstrip]⟩
  | cons l ls ih =>
    obtain ⟨hall, hmap⟩ := ih (isCore_stage l.stage) l.behind
    constructor
    · rw [segmentsFrom, List.forall_mem_cons]
      exact ⟨hs.isSegment x l.before, hall⟩
    · rw [segmentsFrom, List.map_cons, hs.strip_eq, hmap]
      rfl

/-- The names up to a closing parenthesis have no blank margins. -/
theorem strip_names : Text.strip (n.text ++ (further [] ns ++ [')'])) =
    n.text ++ (further [] ns ++ [')']) := by
  have hhead : ∀ c ∈ (n.text ++ (further [] ns ++ [')'])).head?, Text.isBlank c = false := by
    rw [List.head?_append_of_ne_nil _ n.ne_nil]
    exact (isCore_written (.name n)).head?
  have hlast : ∀ c ∈ (n.text ++ (further [] ns ++ [')'])).getLast?, Text.isBlank c = false := by
    rw [← List.append_assoc, List.getLast?_concat]
    rintro _ ⟨⟩
    decide
  exact Text.strip_self hhead hlast

/-- A filter wraps an application into a call. -/
theorem apply_stage (s : Stage) : apply (a.written []) s.text = (s.applied a).written [] := by
  have hname : ∀ n : PlainName, '(' ∉ n.text := fun n => n.toWordName.not_mem (by decide)
  have hstrip : ∀ n : PlainName, Text.strip n.text = n.text := fun n =>
    have h := isCore_written (.name n)
    Text.strip_self h.head? h.getLast?
  obtain ⟨n, ns⟩ := s
  cases ns with
  | none =>
    rw [Stage.text, apply_of_not_mem (hname n)]
    simp [Stage.applied, Stage.names, written, further]
  | some ns =>
    rw [Stage.text, apply_of_paren (hname n), hstrip]
    cases ns with
    | nil =>
      rw [if_pos (by decide)]
      simp [Stage.applied, Stage.names, written, further]
    | cons m ns =>
      have hne : Text.strip (Text.join ", ".toList ((m :: ns).map PlainName.text) ++ [')']) ≠
          [')'] := by
        rw [join_eq_further, List.append_assoc, strip_names]
        obtain ⟨c, w, hm, hc, -⟩ := Lexer.exists_of_isIdentifier m.facts.1
        rw [hm]
        intro he
        rw [(List.cons.inj he).1] at hc
        cases hc
      rw [if_neg hne, join_eq_further]
      simp [Stage.applied, Stage.names, written, further]

theorem foldl_apply (ss : List Stage) : (ss.map Stage.text).foldl apply (a.written []) =
    (ss.foldl Stage.applied a).written [] := by
  induction ss generalizing a with
  | nil => rfl
  | cons s ss ih => rw [List.map_cons, List.foldl_cons, apply_stage, ih, List.foldl_cons]

theorem isCore_path (p : Path) : IsCore p.text := by
  rw [p.text_eq]
  exact isCore_written _

/-- A pipeline stands for its application. -/
theorem Written.expand_core (w : Written) : expand '|' w.core = w.application.written [] := by
  obtain ⟨hall, hmap⟩ := segmentsFrom_spec (isCore_path w.path) noBlanks w.links
  rw [noBlanks, List.nil_append] at hall hmap
  rw [core, ← join_segmentsFrom]
  generalize segmentsFrom w.path.text w.links = segments at hall hmap
  cases segments with
  | nil => cases hmap
  | cons t ts =>
    obtain ⟨ht, hts⟩ := List.forall_mem_cons.1 hall
    obtain ⟨hfirst, hrest⟩ := List.cons.inj hmap
    have hstages : (ts.map Text.strip).filter (fun f => !f.isEmpty) = w.stages.map Stage.text := by
      have hall : w.stages.map Stage.text = w.links.map fun l => l.stage.text := by
        rw [stages, List.map_map]
        rfl
      rw [hrest, hall, List.filter_eq_self]
      intro f hf
      obtain ⟨l, -, rfl⟩ := List.mem_map.1 hf
      simpa using (isCore_stage l.stage).ne_nil
    rw [expand_join (by decide) ht hts, hstages, hfirst, w.path.text_eq, foldl_apply]
    rfl

namespace Written

variable (w : Written)

theorem core_ne_nil : w.core ≠ [] := by
  simp [core, (isCore_path w.path).ne_nil]

theorem strip_inside : Text.strip w.inside = w.core := by
  apply Text.strip_eq (isBlank_of_mem w.lead) (isBlank_of_mem w.trail)
  · rw [core, List.head?_append_of_ne_nil _ (isCore_path w.path).ne_nil]
    exact (isCore_path w.path).head?
  · rw [core]
    rcases List.eq_nil_or_concat w.links with h | ⟨ls, l, h⟩
    · rw [h, List.flatMap_nil, List.append_nil]
      exact (isCore_path w.path).getLast?
    · have htext : w.path.text ++ (ls ++ [l]).flatMap Link.text =
          w.path.text ++ ls.flatMap Link.text ++ l.before ++ '|' :: l.behind ++ l.stage.text := by
        simp [Link.text]
      rw [h, List.concat_eq_append, htext,
        List.getLast?_append_of_ne_nil _ (isCore_stage l.stage).ne_nil]
      exact (isCore_stage l.stage).getLast?

theorem not_mem_core {x : Char} (hplain : Application.isPlain x = false)
    (hblank : Text.isBlank x = false) (hx : x ≠ '|') : x ∉ w.core := by
  have hcore : ∀ {s : Text}, IsCore s → x ∉ s := fun hs => not_mem_of_isPlain hs.isPlain hplain
  rw [core, List.mem_append, not_or, List.mem_flatMap]
  refine ⟨hcore (isCore_path w.path), ?_⟩
  rintro ⟨l, -, h⟩
  simp only [Link.text, List.mem_append, List.mem_cons] at h
  rcases h with h | h | h | h
  · exact not_mem_blanks hblank l.before h
  · exact hx h
  · exact not_mem_blanks hblank l.behind h
  · exact hcore (isCore_stage l.stage) h

theorem not_mem_inside {x : Char} (hplain : Application.isPlain x = false)
    (hblank : Text.isBlank x = false) (hx : x ≠ '|') : x ∉ w.inside := by
  rw [inside, List.mem_append, List.mem_append]
  rintro ((h | h) | h)
  · exact not_mem_blanks hblank w.lead h
  · exact w.not_mem_core hplain hblank hx h
  · exact not_mem_blanks hblank w.trail h

theorem strip_template : Text.strip w.template = w.template := by
  have hlast : w.template.getLast? = some '\x7d' := by
    have htext : w.template = "\x7b\x7b".toList ++ w.inside ++ ['\x7d'] ++ ['\x7d'] := by
      simp [template]
    rw [htext, List.getLast?_concat]
  apply Text.strip_self
  · rintro _ ⟨⟩
    decide
  · rw [hlast]
    rintro _ ⟨⟩
    decide

end Written

end Pipeline

end Stencil
