import Stencil.Proofs.Template.Factorization
import Stencil.Proofs.Template.Literals

/-! # Placeholders that stand for nothing

Putting the literals back fails only for a placeholder that the text itself holds, and only if its
number is that of no literal. Nothing else keeps a template from having a source, and a source that
is not accepted is reported with the template it comes from. -/
namespace Stencil

namespace Scoping

open Lexer (takeWhile_append_end)

/-! ## The placeholders of a text -/

theorem placeholder?_length {s t : Text} {n : Nat} (h : placeholder? s = some (n, t)) :
    t.length < s.length := by
  unfold placeholder? at h
  rcases s with _ | ⟨c, r⟩
  · cases h
  have hdrop := (List.dropWhile_sublist Text.isDecimal (l := r)).length_le
  dsimp only at h
  split_ifs at h
  split at h
  next e rest hrest =>
    rw [hrest] at hdrop
    split_ifs at h
    obtain ⟨m, -, hm⟩ := Option.map_eq_some_iff.1 h
    cases hm
    simp only [List.length_cons] at hdrop ⊢
    omega
  next => cases h

/-- The numbers of the placeholders of a text, in order. -/
def placeholders (s : Text) : List Nat :=
  match s with
  | [] => []
  | c :: r =>
    match _h : placeholder? (c :: r) with
    | some p => p.1 :: placeholders p.2
    | none => placeholders r
termination_by s.length
decreasing_by
  · exact placeholder?_length _h
  · simp

@[simp] theorem placeholders_nil : placeholders [] = [] := by
  rw [placeholders]

theorem placeholders_of_some {s t : Text} {n : Nat} (h : placeholder? s = some (n, t)) :
    placeholders s = n :: placeholders t := by
  rcases s with _ | ⟨c, r⟩
  · cases h
  rw [placeholders]
  split
  next p hp =>
    cases h.symm.trans hp
    rfl
  next hn => cases h.symm.trans hn

theorem placeholders_of_none {c : Char} {r : Text} (h : placeholder? (c :: r) = none) :
    placeholders (c :: r) = placeholders r := by
  rw [placeholders]
  split
  next p hp => cases h.symm.trans hp
  next => rfl

theorem placeholder?_of_ne {c : Char} (hc : c ≠ mark) (r : Text) :
    placeholder? (c :: r) = none := by
  rw [placeholder?, if_neg hc]

/-- Between two marks stands the number of a placeholder, or something else. -/
theorem placeholder?_between {g : Text} (hg : mark ∉ g) (t : Text) :
    placeholder? (mark :: (g ++ mark :: t)) =
      if g ≠ [] ∧ g.all Text.isDecimal then (Text.decimalValue? g).map (·, t) else none := by
  have hmark : Text.isDecimal mark = false := by decide
  obtain ⟨htake, hdrop⟩ := takeWhile_append_end hmark g t
  rw [placeholder?, if_pos rfl, htake, hdrop]
  cases hd : g.dropWhile Text.isDecimal with
  | nil =>
    have hall := List.dropWhile_eq_nil_iff.1 hd
    rw [List.takeWhile_eq_self_iff.2 hall, List.all_eq_true.2 hall]
    simp
  | cons x r =>
    have hx : x ∈ g := (List.dropWhile_sublist _).subset (hd ▸ List.mem_cons_self)
    have hne : x ≠ mark := fun h => hg (h ▸ hx)
    have hdec : Text.isDecimal x = false :=
      Text.head?_dropWhile Text.isDecimal g x (by rw [hd]; rfl)
    have hall : g.all Text.isDecimal = false := List.all_eq_false.2 ⟨x, hx, by simp [hdec]⟩
    simp [hall, hne]

theorem placeholder?_unclosed {t : Text} (ht : mark ∉ t) : placeholder? (mark :: t) = none := by
  rw [placeholder?, if_pos rfl]
  dsimp only
  split
  next e rest hrest =>
    have he : e ∈ t := (List.dropWhile_sublist _).subset (hrest ▸ List.mem_cons_self)
    exact if_neg fun h : e = mark ∧ _ => ht (h.1 ▸ he)
  next => rfl

theorem placeholders_gap {g : Text} (hg : mark ∉ g) (t : Text) :
    placeholders (g ++ t) = placeholders t := by
  induction g with
  | nil => rfl
  | cons c g ih =>
    have hc : c ≠ mark := fun h => hg (by simp [h])
    rw [List.cons_append, placeholders_of_none (placeholder?_of_ne hc _),
      ih fun h => hg (by simp [h])]

theorem placeholders_of_not_mem {s : Text} (h : mark ∉ s) : placeholders s = [] := by
  have := placeholders_gap h []
  rwa [List.append_nil, placeholders_nil] at this

/-! ## The scope adds none and breaks none -/

variable {scope : Text}

/-- The scope is only ever added. -/
theorem sublist_qualifyFrom (solid : Option Char) (s : Text) :
    s.Sublist (qualifyFrom scope solid s) := by
  induction hn : s.length using Nat.strongRecOn generalizing s solid with
  | _ n ih =>
  subst hn
  rcases s with _ | ⟨c, r⟩
  · exact List.nil_sublist _
  cases hw : Text.isWord c with
  | true =>
    have hlen := (List.dropWhile_sublist Text.isWord (l := r)).length_le
    have htail := ih _ (by simp only [List.length_cons]; omega)
      (c :: r.takeWhile Text.isWord).getLast? (r.dropWhile Text.isWord) rfl
    have hs : c :: r = (c :: r.takeWhile Text.isWord) ++ r.dropWhile Text.isWord := by
      rw [List.cons_append, List.takeWhile_append_dropWhile]
    rw [qualifyFrom_word hw]
    nth_rewrite 1 [hs]
    exact (List.sublist_append_right _ _).append htail
  | false =>
    cases hb : Text.isBlank c with
    | true => exact qualifyFrom_blank hw hb solid r ▸ (ih _ (by simp) _ _ rfl).cons_cons c
    | false => exact qualifyFrom_solid hw hb solid r ▸ (ih _ (by simp) _ _ rfl).cons_cons c

theorem all_isDecimal_qualifyFrom (solid : Option Char) (g : Text) :
    (qualifyFrom scope solid g).all Text.isDecimal = g.all Text.isDecimal := by
  rw [Bool.eq_iff_iff, List.all_eq_true, List.all_eq_true]
  constructor
  · intro h c hc
    exact h c ((sublist_qualifyFrom solid g).subset hc)
  · intro h
    rwa [qualifyFrom_decimals h]

theorem placeholder?_qualifyFrom (hscope : mark ∉ scope) {g : Text} (hg : mark ∉ g) (t : Text) :
    placeholder? (mark :: qualifyFrom scope (some mark) (g ++ mark :: t)) =
      (placeholder? (mark :: (g ++ mark :: t))).map fun p =>
        (p.1, qualifyFrom scope (some mark) p.2) := by
  rw [qualifyFrom_mark, placeholder?_between hg,
    placeholder?_between (not_mem_qualifyFrom hscope hg _), all_isDecimal_qualifyFrom]
  cases hd : g.all Text.isDecimal with
  | true =>
    rw [qualifyFrom_decimals (List.all_eq_true.1 hd)]
    split_ifs
    · simp [Function.comp_def]
    · rfl
  | false => simp

/-- With the scope in front of its free names, a text has the placeholders that it had. -/
theorem placeholders_qualifyFrom (hscope : mark ∉ scope) (solid : Option Char) (s : Text) :
    placeholders (qualifyFrom scope solid s) = placeholders s := by
  induction hn : s.length using Nat.strongRecOn generalizing s solid with
  | _ n ih =>
  subst hn
  by_cases hs : mark ∈ s
  · obtain ⟨g, t, rfl, hg⟩ := List.eq_append_cons_of_mem hs
    rw [qualifyFrom_mark, placeholders_gap (not_mem_qualifyFrom hscope hg _), placeholders_gap hg]
    -- The text up to the next mark says whether a placeholder begins at this one.
    by_cases ht : mark ∈ t
    · obtain ⟨g', u, rfl, hg'⟩ := List.eq_append_cons_of_mem ht
      have hq := placeholder?_qualifyFrom hscope hg' u
      cases hp : placeholder? (mark :: (g' ++ mark :: u)) with
      | some p =>
        rw [hp] at hq
        have hlen := placeholder?_length hp
        rw [placeholders_of_some hq, placeholders_of_some hp,
          ih _ (by simp at hlen ⊢; omega) _ _ rfl]
      | none =>
        rw [hp] at hq
        rw [placeholders_of_none hq, placeholders_of_none hp,
          ih _ (by simp; omega) _ _ rfl]
    · rw [placeholders_of_none (placeholder?_unclosed (not_mem_qualifyFrom hscope ht _)),
        placeholders_of_none (placeholder?_unclosed ht), ih _ (by simp; omega) _ _ rfl]
  · rw [placeholders_of_not_mem hs, placeholders_of_not_mem (not_mem_qualifyFrom hscope hs _)]

/-! ## Putting the literals back -/

theorem restore?_of_some {saved : List Text} {s t : Text} {n : Nat}
    (h : placeholder? s = some (n, t)) :
    restore? saved s = do return (← saved[n]?) ++ (← restore? saved t) := by
  rcases s with _ | ⟨c, r⟩
  · cases h
  have hlen := placeholder?_length h
  rw [restore?, h]
  exact if_pos (by simp at hlen; omega)

theorem restore?_of_none {saved : List Text} {c : Char} {r : Text}
    (h : placeholder? (c :: r) = none) :
    restore? saved (c :: r) = (restore? saved r).map (c :: ·) := by
  rw [restore?, h]

/-- The literals are put back unless a placeholder has a number that no literal has. -/
theorem restore?_eq_none_iff {saved : List Text} {s : Text} :
    restore? saved s = none ↔ ∃ n ∈ placeholders s, saved.length ≤ n := by
  induction hn : s.length using Nat.strongRecOn generalizing s with
  | _ n ih =>
  subst hn
  rcases s with _ | ⟨c, r⟩
  · simp [restore?]
  cases hp : placeholder? (c :: r) with
  | none =>
    rw [restore?_of_none hp, placeholders_of_none hp, Option.map_eq_none_iff, ih _ (by simp) rfl]
  | some p =>
    obtain ⟨n, t⟩ := p
    have htail := ih _ (placeholder?_length hp) rfl
    rw [restore?_of_some hp, placeholders_of_some hp, List.exists_mem_cons_iff, ← htail,
      ← List.getElem?_eq_none_iff]
    cases saved[n]? with
    | none => simp
    | some l => cases restore? saved t <;> simp

/-- An expression has no scoped form if it holds a placeholder that stands for nothing. -/
def Dangles (s : Text) : Prop :=
  ∃ n ∈ placeholders (mask (Text.strip s)).text, (mask (Text.strip s)).saved.length ≤ n

theorem scoped?_eq_none_iff (hscope : mark ∉ scope) {s : Text} :
    scoped? scope s = none ↔ Dangles s := by
  unfold scoped? Dangles
  dsimp only
  rw [restore?_eq_none_iff, qualify, placeholders_qualifyFrom hscope]

/-! ## A text without marks -/

theorem line?_eq_append {q : Char} {s a b : Text} (h : line? q s = some (a, b)) : s = a ++ b := by
  fun_induction line? q s generalizing a with
  | case1 => cases h
  | case2 s =>
    cases h
    rfl
  | case3 => cases h
  | case4 => cases h
  | case5 => cases h
  | case6 c d s _ _ ih =>
    obtain ⟨⟨x, y⟩, hx, he⟩ := Option.map_eq_some_iff.1 h
    cases he
    simp [ih hx]
  | case7 c s _ _ _ ih =>
    obtain ⟨⟨x, y⟩, hx, he⟩ := Option.map_eq_some_iff.1 h
    cases he
    simp [ih hx]

theorem block?_eq_append {q : Char} {s a b : Text} (h : block? q s = some (a, b)) :
    s = a ++ b := by
  obtain ⟨⟨x, y⟩, hx, he⟩ := Option.map_eq_some_iff.1 h
  cases he
  exact Text.eq_of_breakAt? hx

theorem quoted?_eq_append {s a b : Text} (h : quoted? s = some (a, b)) : s = a ++ b := by
  unfold quoted? at h
  rcases s with _ | ⟨q, r⟩
  · cases h
  dsimp only at h
  split_ifs at h
  split at h
  next body rest hlong =>
    cases h
    obtain ⟨t, ht, hblock⟩ := Option.bind_eq_some_iff.1 hlong
    rw [Text.eq_append_of_after? ht, block?_eq_append hblock]
    rfl
  next =>
    obtain ⟨⟨x, y⟩, hx, he⟩ := Option.map_eq_some_iff.1 h
    cases he
    rw [line?_eq_append hx]
    rfl

/-- A literal and what stands behind it are the text. -/
theorem literal?_eq_append {s a b : Text} (h : literal? s = some (a, b)) : s = a ++ b := by
  unfold literal? at h
  dsimp only at h
  split_ifs at h
  obtain ⟨⟨x, y⟩, hx, he⟩ := Option.map_eq_some_iff.1 h
  cases he
  rw [List.append_assoc, ← quoted?_eq_append hx, List.takeWhile_append_dropWhile]

/-- The placeholders of a masked text are those of its literals. -/
theorem placeholders_maskFrom {s : Text} (hs : mark ∉ s) (n : Nat) (before : Option Char) :
    placeholders (maskFrom n before s).text =
      List.range' n (maskFrom n before s).saved.length := by
  induction hlen : s.length using Nat.strongRecOn generalizing s n before with
  | _ k ih =>
  subst hlen
  rcases s with _ | ⟨c, r⟩
  · simp [maskFrom]
  cases hl : if mayPrecedeLiteral before then literal? (c :: r) else none with
  | none =>
    have hc : c ≠ mark := fun h => hs (by simp [h])
    rw [maskFrom_cons_of_none hl, placeholders_of_none (placeholder?_of_ne hc _),
      ih _ (by simp) (fun h => hs (by simp [h])) _ _ rfl]
  | some p =>
    obtain ⟨l, rest⟩ := p
    have hrest : c :: r = l ++ rest := by
      split_ifs at hl
      exact literal?_eq_append hl
    rw [maskFrom, hl]
    dsimp only
    split_ifs with hlen
    · rw [placeholders_of_some (placeholder?_placeholder n _),
        ih _ (by simp; omega) (fun h => hs (by simp [hrest, h])) _ _ rfl]
      rfl
    · rw [placeholders_of_not_mem hs]
      rfl

theorem Dangles.mem {s : Text} (h : Dangles s) : mark ∈ s := by
  by_contra hs
  obtain ⟨n, hn, hle⟩ := h
  rw [mask, placeholders_maskFrom (fun hm => hs (Text.mem_of_mem_strip hm)),
    List.mem_range'_1, Nat.zero_add] at hn
  exact absurd hn.2 (Nat.not_lt.2 hle)

end Scoping

namespace Pipeline

variable {m : Char}

theorem mem_of_mem_segments {sep : Char} {σ : Scan} {s t : Text} (ht : t ∈ segments sep σ s)
    (hm : m ∈ t) : m ∈ s := by
  induction s generalizing σ t with
  | nil => simp_all [segments]
  | cons c s ih =>
    rw [segments] at ht
    split_ifs at ht
    · rcases List.mem_cons.1 ht with rfl | ht
      · cases hm
      · exact List.mem_cons_of_mem c (ih ht hm)
    · cases hseg : segments sep (σ.step c) s with
      | nil => simp [hseg] at ht
      | cons u us =>
        have hu : ∀ v ∈ u :: us, m ∈ v → m ∈ s := fun v hv => ih (hseg ▸ hv)
        rw [hseg, List.modifyHead_cons] at ht
        rcases List.mem_cons.1 ht with rfl | ht
        · rcases List.mem_cons.1 hm with rfl | hm
          · exact List.mem_cons_self
          · exact List.mem_cons_of_mem c (hu u List.mem_cons_self hm)
        · exact List.mem_cons_of_mem c (hu t (List.mem_cons_of_mem u ht) hm)

/-- A filter adds parentheses, a comma and a space. -/
theorem mem_of_mem_apply (hadded : m ∉ "(), ".toList) {e f : Text} (h : m ∈ apply e f) :
    m ∈ e ∨ m ∈ f := by
  obtain ⟨h₁, h₂, h₃, h₄⟩ : m ≠ '(' ∧ m ≠ ')' ∧ m ≠ ',' ∧ m ≠ ' ' := by simpa using hadded
  unfold apply at h
  split at h
  next => simpa [h₁, h₂, or_comm] using h
  next name args hb =>
    have hf : f = name ++ ['('] ++ args := Text.eq_of_breakAt? hb
    have hname : m ∈ Text.strip name → m ∈ f := fun hn => by
      simp [hf, Text.mem_of_mem_strip hn]
    dsimp only at h
    split_ifs at h
    · simp only [List.mem_append, List.mem_cons, h₁, h₂, List.not_mem_nil, or_false,
        false_or] at h
      exact h.elim (fun hn => .inr (hname hn)) .inl
    · simp only [List.mem_append, List.mem_cons, h₁, h₃, h₄, false_or] at h
      rcases h with (hn | he) | ha
      · exact .inr (hname hn)
      · exact .inl he
      · exact .inr (by simp [hf, ha])

theorem mem_of_mem_expand {sep : Char} (hadded : m ∉ "(), ".toList) {s : Text}
    (h : m ∈ expand sep s) : m ∈ s := by
  have hfold : ∀ fs : List Text, (∀ f ∈ fs, m ∈ f → m ∈ s) → ∀ e : Text, (m ∈ e → m ∈ s) →
      m ∈ fs.foldl apply e → m ∈ s := by
    intro fs
    induction fs with
    | nil => exact fun _ e he h => he h
    | cons f fs ih =>
      intro hfs e he
      refine ih (fun g hg => hfs g (by simp [hg])) _ fun h => ?_
      exact (mem_of_mem_apply hadded h).elim he (hfs f (by simp))
  unfold expand at h
  split at h
  next => cases h
  next first rest hseg =>
    have hmem : ∀ t ∈ first :: rest, m ∈ t → m ∈ s := fun t ht => mem_of_mem_segments (hseg ▸ ht)
    refine hfold _ (fun f hf hm => ?_) _ (fun hm => ?_) h
    · obtain ⟨t, ht, rfl⟩ := List.mem_map.1 (List.mem_filter.1 hf).1
      exact hmem t (by simp [ht]) (Text.mem_of_mem_strip hm)
    · exact hmem first (by simp) (Text.mem_of_mem_strip hm)

end Pipeline

namespace Piece

variable {d : Dialect} {m : Char}

theorem mem_of_mem_ofText {s : Text} {p : Piece} (hp : p ∈ ofText d s) (hm : m ∈ p.text) :
    m ∈ s := by
  induction hn : s.length using Nat.strongRecOn generalizing s with
  | _ n ih =>
  subst hn
  have hliteral : ∀ {l : Text}, p ∈ ofLiteral l → m ∈ l := by
    intro l hl
    rw [ofLiteral] at hl
    split_ifs at hl
    · cases hl
    · obtain rfl := List.mem_singleton.1 hl
      exact hm
  cases hnext : next? d s with
  | none => exact hliteral (ofText_of_none hnext ▸ hp)
  | some parts =>
    obtain ⟨l, e, r⟩ := parts
    obtain ⟨hs, -⟩ := next?_eq_some_iff.1 hnext
    rw [ofText_of_some hnext, List.mem_append, List.mem_cons] at hp
    rw [hs]
    rcases hp with hl | rfl | hr
    · simp [hliteral hl]
    · have : m ∈ e := Text.mem_of_mem_strip hm
      simp [this]
    · have := ih _ (next?_length hnext) hr rfl
      simp [this]

end Piece

namespace Source

variable {d : Dialect}

theorem code?_eq_none_iff {code : Text} :
    code? d code = none ↔ Scoping.Dangles (Pipeline.expand d.separator code) :=
  Scoping.scoped?_eq_none_iff (by decide)

theorem fragment?_eq_none_iff {alone : Bool} {p : Piece} :
    fragment? d alone p = none ↔ ∃ code, p = .interpolation code ∧
      Scoping.Dangles (Pipeline.expand d.separator code) := by
  cases p with
  | literal s => simp [fragment?]
  | interpolation s => simp [fragment?, code?_eq_none_iff]

theorem mapM_eq_none_iff {α β : Type} {f : α → Option β} {xs : List α} :
    xs.mapM f = none ↔ ∃ x ∈ xs, f x = none := by
  induction xs with
  | nil => simp
  | cons x xs ih =>
    rw [List.mapM_cons, List.exists_mem_cons_iff, ← ih]
    cases f x with
    | none => simp
    | some y => cases xs.mapM f <;> simp

/-- Pieces have a source unless an interpolation among them holds a placeholder that stands for
nothing. -/
theorem ofPieces?_eq_none_iff {ps : List Piece} :
    ofPieces? d ps = none ↔ ∃ code, Piece.interpolation code ∈ ps ∧
      Scoping.Dangles (Pipeline.expand d.separator code) := by
  have hfragments : ∀ alone, (∃ p ∈ ps, fragment? d alone p = none) ↔
      ∃ code, Piece.interpolation code ∈ ps ∧
        Scoping.Dangles (Pipeline.expand d.separator code) := by
    intro alone
    simp only [fragment?_eq_none_iff]
    constructor
    · rintro ⟨_, hp, code, rfl, h⟩
      exact ⟨code, hp, h⟩
    · rintro ⟨code, hp, h⟩
      exact ⟨_, hp, code, rfl, h⟩
  unfold ofPieces?
  split
  next p => rw [← hfragments true, List.exists_mem_cons_iff]; simp
  next => rw [Option.map_eq_none_iff, mapM_eq_none_iff, hfragments]

end Source

namespace Template

open Scoping (Dangles mark)

variable {d : Dialect} {s : Text}

/-- A template dangles if one of its interpolations holds a placeholder that stands for nothing. -/
def Dangles (d : Dialect) (s : Text) : Prop :=
  ∃ code, Piece.interpolation code ∈ Piece.ofText d (Text.strip s) ∧
    Scoping.Dangles (Pipeline.expand d.separator code)

/-- Only a text that holds a mark dangles. -/
theorem Dangles.mem (h : Template.Dangles d s) : mark ∈ s := by
  obtain ⟨code, hcode, hd⟩ := h
  have hmem := Pipeline.mem_of_mem_expand (by decide) hd.mem
  exact Text.mem_of_mem_strip (Piece.mem_of_mem_ofText hcode hmem)

/-- There is a draft unless the text dangles; the draft of a text with interpolations is of the text
without its blank margins. -/
theorem draft_cases (d : Dialect) (s : Text) :
    (Dangles d s ∧ draft d (Piece.ofText d) s = .error .danglingPlaceholder) ∨
    (¬Dangles d s ∧ ((∃ t, draft d (Piece.ofText d) s = .ok (.text t)) ∨
      ∃ ps src, draft d (Piece.ofText d) s = .ok (.source (Text.strip s) ps src))) := by
  cases ho : Piece.occursIn d (Text.strip s) with
  | false =>
    have hd : ¬Dangles d s := by
      rintro ⟨code, hcode, -⟩
      rw [Piece.occursIn_of_mem hcode] at ho
      cases ho
    exact .inr ⟨hd, .inl ⟨Margin.fold s, draft_of_not_occursIn ho⟩⟩
  | true =>
    rw [draft_of_occursIn ho]
    cases hs : Source.ofPieces? d (Piece.ofText d (Text.strip s)) with
    | none => exact .inl ⟨Source.ofPieces?_eq_none_iff.1 hs, rfl⟩
    | some src =>
      refine .inr ⟨fun hd => ?_, .inr ⟨_, _, rfl⟩⟩
      rw [Source.ofPieces?_eq_none_iff.2 hd] at hs
      cases hs

theorem expression_of_ofSource {src expression : Text} {e : CompileError}
    (h : Compiled.ofSource src expression = .error e) : e.expression = expression := by
  unfold Compiled.ofSource at h
  dsimp only at h
  split at h
  next => cases h
  next =>
    cases h
    rfl

/-- A template that does not dangle has a source, and it compiles or is reported, without its blank
margins, as one that does not compile. A template that dangles has neither, and it holds a mark. -/
theorem compile_cases (d : Dialect) (s : Text) :
    (¬Dangles d s ∧ (∃ src, source d s = .ok src) ∧
      ((∃ t, compile d s = .ok t) ∨
        ∃ e, compile d s = .error (.compile e) ∧ e.expression = Text.strip s)) ∨
    (Dangles d s ∧ mark ∈ s ∧ source d s = .error .danglingPlaceholder ∧
      compile d s = .error .danglingPlaceholder) := by
  unfold source sourceBy compile compileBy
  rcases draft_cases d s with ⟨hd, hdraft⟩ | ⟨hd, ⟨t, hdraft⟩ | ⟨ps, src, hdraft⟩⟩
  · rw [hdraft]
    exact .inr ⟨hd, hd.mem, rfl, rfl⟩
  · rw [hdraft]
    exact .inl ⟨hd, ⟨t, rfl⟩, .inl ⟨.text t, rfl⟩⟩
  · rw [hdraft]
    refine .inl ⟨hd, ⟨src, rfl⟩, ?_⟩
    change (∃ t, (if ps.any isEmptyInterpolation then _ else _) = _) ∨
      ∃ e, (if ps.any isEmptyInterpolation then _ else _) = _ ∧ _
    split_ifs
    · exact .inr ⟨_, rfl, rfl⟩
    · cases hc : Compiled.ofSource src (Text.strip s) with
      | ok c => exact .inl ⟨.compiled c, rfl⟩
      | error e => exact .inr ⟨e, rfl, expression_of_ofSource hc⟩

/-- A number between marks of its own asks for a literal that is not there. -/
theorem compile_dangling :
    source .standard "\x7b\x7b \x000\x00 \x7d\x7d".toList = .error .danglingPlaceholder ∧
      compile .standard "\x7b\x7b \x000\x00 \x7d\x7d".toList = .error .danglingPlaceholder := by
  have ho : Piece.occursIn .standard
      (Text.strip "\x7b\x7b \x000\x00 \x7d\x7d".toList) = true := by decide +kernel
  have hs : Source.ofPieces? .standard (Piece.ofText .standard
      (Text.strip "\x7b\x7b \x000\x00 \x7d\x7d".toList)) = none := by decide +kernel
  unfold source sourceBy compile compileBy
  rw [draft_of_occursIn ho, hs]
  exact ⟨rfl, rfl⟩

end Template

end Stencil
