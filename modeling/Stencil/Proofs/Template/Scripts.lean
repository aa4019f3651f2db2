import Stencil.Proofs.Template.Application

/-! # Paths of identifiers of every script

An identifier may hold characters that belong to no word: the vowel signs of many scripts, accents
that stand behind their letter, the middle dot. The scope is put in front of words, so it may come
to stand inside of an identifier. A path of identifiers is rewritten identifier by identifier, and
the scope stands in front of it and nowhere else exactly if a word begins the first identifier and
none begins inside of any. -/
namespace Stencil

namespace Text

/-! ## Characters that begin identifiers -/

/-- At most `k` stretches of the table, joined end to end, hold all code points from `a` to `b`. -/
def Spans.covers (t : Spans) : (k a b : Nat) → Bool
  | 0, _, _ => false
  | k + 1, a, b => t.any fun s => Nat.ble s.1 a && Nat.ble a s.2 &&
      (Nat.ble b s.2 || covers t k (s.2 + 1) b)

/-- The table `u` holds each stretch of `t`. Tables are in order, and most stretches lie in one of
`v`, a part of `u`, which is searched from where the last search ended. -/
def Spans.holds (u : Spans) : (t v : Spans) → Bool
  | [], _ => true
  | s :: t, v =>
    match v.dropWhile fun p => Nat.blt p.2 s.1 with
    | [] => false
    | p :: v => (Nat.ble p.1 s.1 && Nat.ble s.2 p.2 || u.covers 5 s.1 s.2) && holds u t (p :: v)

theorem Spans.has_of_mem {t : Spans} {s : Nat × Nat} (hs : s ∈ t) {n : Nat} (h : s.1 ≤ n)
    (h' : n ≤ s.2) : t.has n = true :=
  List.any_eq_true.2 ⟨s, hs, by simp [h, h']⟩

theorem Spans.has_of_covers {t : Spans} {k a b n : Nat} (h : t.covers k a b = true) (ha : a ≤ n)
    (hb : n ≤ b) : t.has n = true := by
  induction k generalizing a with
  | zero => cases h
  | succ k ih =>
    obtain ⟨s, hs, h⟩ := List.any_eq_true.1 h
    simp only [Bool.and_eq_true, Bool.or_eq_true, Nat.ble_eq] at h
    by_cases hn : n ≤ s.2
    · exact has_of_mem hs (by omega) hn
    · exact ih (h.2.resolve_left (by omega)) (by omega)

theorem Spans.has_of_holds {u t v : Spans} (h : u.holds t v = true) (hv : v ⊆ u) {n : Nat}
    (hn : t.has n = true) : u.has n = true := by
  induction t generalizing v with
  | nil => cases hn
  | cons s t ih =>
    rw [holds] at h
    split at h
    next => cases h
    next p r hp =>
      have hr : p :: r ⊆ u := by
        rw [← hp]
        exact fun x hx => hv ((List.dropWhile_sublist _).subset hx)
      simp only [Bool.and_eq_true, Bool.or_eq_true, Nat.ble_eq] at h
      rw [has, List.any_cons, Bool.or_eq_true, Bool.and_eq_true, decide_eq_true_eq,
        decide_eq_true_eq] at hn
      rcases hn with hn | hn
      · rcases h.1 with hin | hcovers
        · exact has_of_mem (hr List.mem_cons_self) (by omega) (by omega)
        · exact has_of_covers hcovers hn.1 hn.2
      · exact ih h.2 hr hn

/-- Two letters of Mongolian that are written as marks, the script capital P and the estimated
sign. -/
def wordlessStarts : List Char := [Char.ofNat 0x1885, Char.ofNat 0x1886, '℘', '℮']

/-- The letters, the numerals and the four characters hold all that begins an identifier. -/
theorem has_of_startSpans {n : Nat} (h : Identifier.startSpans.has n = true) :
    Word.letterSpans.has n = true ∨ Word.numeralSpans.has n = true ∨
      n ∈ wordlessStarts.map Char.toNat := by
  have hhas := Spans.has_of_holds (t := Identifier.startSpans) (v := Word.letterSpans)
    (u := Word.letterSpans ++ Word.numeralSpans ++ wordlessStarts.map fun c => (c.toNat, c.toNat))
    (by decide +kernel) (by simp) h
  simp only [Spans.has, List.any_append, Bool.or_eq_true, or_assoc] at hhas
  refine hhas.imp_right (Or.imp_right fun hs => ?_)
  obtain ⟨_, hs, hn⟩ := List.any_eq_true.1 hs
  obtain ⟨c, hc, rfl⟩ := List.mem_map.1 hs
  simp only [Bool.and_eq_true, decide_eq_true_eq] at hn
  exact List.mem_map.2 ⟨c, hc, by omega⟩

/-- What may begin an identifier belongs to words, four characters apart. -/
theorem isWord_eq_false_iff {c : Char} (h : isIdentifierStart c = true) :
    isWord c = false ↔ c ∈ wordlessStarts := by
  constructor
  · intro hw
    cases hc : isAscii c with
    | true =>
      have hascii := Scoping.forall_ascii
        (p := fun c => isIdentifierStart c = true → isWord c = true) (by decide) hc h
      rw [hw] at hascii
      cases hascii
    | false =>
      rw [isIdentifierStart, hc] at h
      rw [isWord, isLetterOrNumeral, isLetter, isNumeral, hc, Bool.or_eq_false_iff,
        Bool.or_eq_false_iff] at hw
      rcases has_of_startSpans h with hl | hn | hs
      · exact absurd (hl.symm.trans hw.1.1) (by simp)
      · exact absurd (hn.symm.trans hw.1.2) (by simp)
      · obtain ⟨d, hd, hdc⟩ := List.mem_map.1 hs
        rwa [← Char.ofNat_toNat c, ← hdc, Char.ofNat_toNat]
  · intro hmem
    have hall : (wordlessStarts.all fun c => !isWord c) = true := by decide +kernel
    simpa using List.all_eq_true.1 hall c hmem

theorem exists_part {s : Text} {i : Nat} (hi : i < s.length) :
    ∃ p c q, s = p ++ c :: q ∧ p.length = i :=
  ⟨s.take i, s[i], s.drop (i + 1), by simp, List.length_take_of_le (by omega)⟩

end Text

namespace Scoping

variable {scope s : Text}

/-- Right behind a point no name is free. -/
theorem IsFreeName.getLast?_ne {p w r : Text} (h : IsFreeName p w r) : p.getLast? ≠ some '.' := by
  intro hlast
  obtain ⟨x, rfl⟩ := List.getLast?_eq_some_iff.1 hlast
  have hmember := h.member
  rw [Text.trimEnd_append_solid (by decide), List.getLast?_concat] at hmember
  exact hmember rfl

/-- The scope in front is the only insertion exactly if a free name begins at the head and nowhere
else. -/
theorem qualify_eq_iff : qualify scope s = scope ++ '.' :: s ↔ ∀ i, FreeNameAt s i ↔ i = 0 := by
  refine ⟨fun h => ?_, fun h => qualify_of_freeNameAt h scope⟩
  have hins := inserted_qualify scope s
  rw [h, List.append_cons scope '.' s] at hins
  by_cases hzero : FreeNameAt s 0
  · have hnot := hins.not_of_append (by simp) hzero
    refine fun i => ⟨fun hi => ?_, fun hi => hi ▸ hzero⟩
    by_contra hne
    exact hnot i (by omega) (by simpa using lt_length_of_freeNameAt hi) hi
  · -- The scope ends with a point, so what stands in front of the first insertion does too.
    obtain ⟨a, b, rfl, hne, hcomm, ha⟩ := hins.exists_commute (by simp) hzero
    have hlast : a.getLast? = some '.' := by
      have := congrArg List.getLast? hcomm
      rwa [List.getLast?_append_of_ne_nil _ hne, ← List.append_assoc, List.getLast?_concat] at this
    rw [Nat.zero_add] at ha
    exact absurd hlast (freeNameAt_iff.1 ha).getLast?_ne

/-- Behind `p` a word begins with `c` that is no keyword, and `c` is no digit. -/
structure Begins (p : Text) (c : Char) (q : Text) : Prop where
  before : ∀ x ∈ p.getLast?, Text.isWord x = false
  head : Text.isWord c = true
  decimal : Text.isDecimal c = false
  keyword : isKeyword ((c :: q).takeWhile Text.isWord) = false

end Scoping

namespace Identifier

open Scoping

variable (n : Identifier) {p q b r : Text} {c : Char}

/-! ## The words of an identifier -/

/-- Behind a part of an identifier stands no point. -/
theorem getLast?_trimEnd_ne (hp : ∀ x ∈ p, x ∈ n.text) (hne : p ≠ []) (b : Text) :
    (Text.trimEnd (b ++ p)).getLast? ≠ some '.' := by
  obtain ⟨y, x, rfl⟩ := (List.eq_nil_or_concat p).resolve_left hne
  rw [List.concat_eq_append] at hp ⊢
  have hx := hp x (by simp)
  rw [← List.append_assoc, Text.trimEnd_append_solid (n.not_isBlank_of_mem hx),
    List.getLast?_concat]
  rintro ⟨⟩
  exact n.not_mem (by decide) hx

/-- Neither a part of an identifier nor a point gives a value to an argument. -/
theorem namesArgument_append (hq : ∀ x ∈ q, x ∈ n.text) (hr : ∀ x ∈ r.head?, x = '.') :
    namesArgument (q ++ r) = false := by
  rcases q with _ | ⟨x, q⟩
  · rcases r with _ | ⟨x, r⟩
    · rfl
    · obtain rfl := hr x rfl
      exact namesArgument_of_ne (by decide) (by decide) r
  · have hx := hq x List.mem_cons_self
    refine namesArgument_of_ne (n.not_isBlank_of_mem hx) ?_ (q ++ r)
    rintro rfl
    exact n.not_mem (by decide) hx

theorem begins_of_isFreeName (hb : b = [] ∨ b.getLast? = some '.')
    (hf : IsFreeName (b ++ p) ((c :: q).takeWhile Text.isWord) r) :
    (p = [] → b = []) ∧ Begins p c q := by
  obtain ⟨x, v, hx, hdecimal⟩ := hf.head
  have hc : Text.isWord c = true := by
    by_contra hc
    rw [List.takeWhile_cons_of_neg hc] at hx
    cases hx
  rw [List.takeWhile_cons_of_pos hc] at hx
  obtain rfl := (List.cons.inj hx).1
  refine ⟨?_, ?_, hc, hdecimal, hf.keyword⟩
  · rintro rfl
    rw [List.append_nil] at hf
    exact hb.resolve_right hf.getLast?_ne
  · intro x hx
    refine hf.before x ?_
    rwa [List.getLast?_append_of_ne_nil _ (by rintro rfl; cases hx)]

theorem isFreeName_of_begins (h : n.text = p ++ c :: q) (hr : ∀ x ∈ r.head?, x = '.')
    (hp : p = [] → b = []) (hbegins : Begins p c q) :
    IsFreeName (b ++ p) ((c :: q).takeWhile Text.isWord)
      ((c :: q).dropWhile Text.isWord ++ r) where
  head := ⟨c, q.takeWhile Text.isWord, List.takeWhile_cons_of_pos hbegins.head, hbegins.decimal⟩
  word _ hx := List.mem_takeWhile_imp hx
  before x hx := by
    by_cases hnil : p = []
    · rw [hnil, hp hnil] at hx
      cases hx
    · rw [List.getLast?_append_of_ne_nil _ hnil] at hx
      exact hbegins.before x hx
  behind x hx := by
    rw [List.head?_append, Option.mem_def, Option.or_eq_some_iff] at hx
    rcases hx with hx | ⟨-, hx⟩
    · exact Text.head?_dropWhile _ _ x hx
    · exact hr x hx ▸ (by decide)
  keyword := hbegins.keyword
  member := by
    by_cases hnil : p = []
    · rw [hnil, hp hnil]
      simp [Text.trimEnd]
    · exact n.getLast?_trimEnd_ne (fun x hx => h ▸ List.mem_append_left _ hx) hnil b
  argument := by
    rw [← namesArgument_eq_false_iff]
    exact n.namesArgument_append
      (fun x hx => h ▸ List.mem_append_right p ((List.dropWhile_sublist _).subset hx)) hr

/-- Between points, a word of an identifier is a free name exactly if it does not stand right behind
a point. -/
theorem freeNameAt_part_iff (h : n.text = p ++ c :: q)
    (hb : b = [] ∨ b.getLast? = some '.') (hr : ∀ x ∈ r.head?, x = '.') :
    FreeNameAt (b ++ (n.text ++ r)) (b.length + p.length) ↔
      (p = [] → b = []) ∧ Begins p c q := by
  obtain ⟨htake, hdrop⟩ : (c :: q ++ r).takeWhile Text.isWord = (c :: q).takeWhile Text.isWord ∧
      (c :: q ++ r).dropWhile Text.isWord = (c :: q).dropWhile Text.isWord ++ r := by
    rcases r with _ | ⟨x, r⟩
    · simp
    · obtain rfl := hr x rfl
      exact Lexer.takeWhile_append_end (by decide) _ _
  have hsplit : b ++ (n.text ++ r) = (b ++ p) ++ (c :: q ++ r) := by simp [h]
  rw [hsplit, ← List.length_append, Scoping.freeNameAt_iff, htake, hdrop]
  exact ⟨begins_of_isFreeName hb, fun hw => n.isFreeName_of_begins h hr hw.1 hw.2⟩

theorem freeNameAt_iff (h : n.text = p ++ c :: q) :
    FreeNameAt n.text p.length ↔ Begins p c q := by
  have := n.freeNameAt_part_iff h (.inl rfl) (r := []) (by simp)
  simpa using this

/-- Between points, an identifier has the free names that it has alone, but for one right behind a
point. -/
theorem freeNameAt_between_iff (hb : b = [] ∨ b.getLast? = some '.') (hr : ∀ x ∈ r.head?, x = '.')
    {i : Nat} (hi : i < n.text.length) : FreeNameAt (b ++ (n.text ++ r)) (b.length + i) ↔
      FreeNameAt n.text i ∧ (i = 0 → b = []) := by
  obtain ⟨p, c, q, hn, rfl⟩ := Text.exists_part hi
  rw [n.freeNameAt_part_iff hn hb hr, n.freeNameAt_iff hn, and_comm, List.length_eq_zero_iff]

/-- The identifier begins with a word that is no keyword. -/
structure IsHeaded : Prop where
  head : ∀ c ∈ n.text.head?, c ∉ Text.wordlessStarts
  keyword : isKeyword (n.text.takeWhile Text.isWord) = false

/-- Inside of the identifier no word begins but keywords and words with a digit in front. -/
def IsWhole : Prop := ∀ p c q, n.text = p ++ c :: q → Begins p c q → p = []

theorem isHeaded_iff : n.IsHeaded ↔ FreeNameAt n.text 0 := by
  obtain ⟨c, q, hn⟩ := List.exists_cons_of_ne_nil n.ne_nil
  have hstart : Text.isIdentifierStart c = true := by
    have := n.isIdentifier
    rw [hn, Text.isIdentifier, Bool.and_eq_true] at this
    exact this.1
  have hword : Text.isWord c = true ↔ c ∉ Text.wordlessStarts := by
    rw [← Text.isWord_eq_false_iff hstart, Bool.not_eq_false]
  have hzero : FreeNameAt n.text 0 ↔ Begins [] c q := n.freeNameAt_iff (p := []) hn
  rw [hzero]
  constructor
  · rintro ⟨hhead, hkeyword⟩
    rw [hn] at hhead hkeyword
    exact ⟨by simp, hword.2 (hhead c rfl), Text.not_isDecimal_of_isIdentifierStart hstart, hkeyword⟩
  · rintro ⟨-, hhead, -, hkeyword⟩
    rw [← hn] at hkeyword
    refine ⟨?_, hkeyword⟩
    rw [hn]
    rintro _ ⟨⟩
    exact hword.1 hhead

theorem isWhole_iff : n.IsWhole ↔ ∀ i, FreeNameAt n.text i → i = 0 := by
  constructor
  · intro h i hi
    obtain ⟨p, c, q, hn, rfl⟩ := Text.exists_part (lt_length_of_freeNameAt hi)
    rw [h p c q hn ((n.freeNameAt_iff hn).1 hi)]
    rfl
  · intro h p c q hn hbegins
    exact List.length_eq_zero_iff.1 (h _ ((n.freeNameAt_iff hn).2 hbegins))

/-- An identifier of word characters is a single word. -/
theorem isHeaded_and_isWhole (h : ∀ c ∈ n.text, Text.isWord c = true) :
    n.IsHeaded ∧ n.IsWhole := by
  have hfree := WordName.freeNameAt_iff ⟨n, h⟩
  exact ⟨n.isHeaded_iff.2 ((hfree 0).2 rfl), n.isWhole_iff.2 fun i => (hfree i).1⟩

/-! ## Paths -/

/-- The identifiers with points between them. -/
def dotted (ns : List Identifier) : Text := Text.join ['.'] (ns.map text)

variable {ns : List Identifier} {m : Identifier}

theorem dotted_singleton : dotted [n] = n.text := rfl

theorem dotted_cons_cons : dotted (n :: m :: ns) = n.text ++ '.' :: dotted (m :: ns) := by
  simp [dotted, Text.join]

/-- Behind its first identifier a path ends or goes on with a point. -/
theorem exists_dotted_cons (n : Identifier) (ns : List Identifier) :
    ∃ r, dotted (n :: ns) = n.text ++ r ∧ ∀ x ∈ r.head?, x = '.' := by
  rcases ns with _ | ⟨m, ns⟩
  · exact ⟨[], by simp [dotted_singleton], by simp⟩
  · exact ⟨_, n.dotted_cons_cons, by simp⟩

/-- Each further identifier of a path stands between points. -/
theorem exists_dotted_between (h : m ∈ ns) (n : Identifier) :
    ∃ b r, dotted (n :: ns) = b ++ (m.text ++ r) ∧ b.getLast? = some '.' ∧
      ∀ x ∈ r.head?, x = '.' := by
  induction ns generalizing n with
  | nil => cases h
  | cons k ns ih =>
    rw [dotted_cons_cons]
    rcases List.mem_cons.1 h with rfl | h
    · obtain ⟨r, hr, hhead⟩ := exists_dotted_cons m ns
      exact ⟨n.text ++ ['.'], r, by simp [hr], by simp, hhead⟩
    · obtain ⟨b, r, hb, hlast, hhead⟩ := ih h k
      refine ⟨n.text ++ '.' :: b, r, by simp [hb], ?_, hhead⟩
      rw [List.getLast?_append_of_ne_nil _ (by simp), List.getLast?_cons, hlast]
      rfl

theorem mem_dotted {x : Char} (h : x ∈ dotted ns) : x = '.' ∨ ∃ m ∈ ns, x ∈ m.text := by
  induction ns with
  | nil => cases h
  | cons n ns ih =>
    rcases ns with _ | ⟨m, ns⟩
    · exact .inr ⟨n, by simp, dotted_singleton n ▸ h⟩
    · rw [dotted_cons_cons, List.mem_append, List.mem_cons] at h
      rcases h with h | rfl | h
      · exact .inr ⟨n, by simp, h⟩
      · exact .inl rfl
      · exact (ih h).imp_right fun ⟨k, hk, hx⟩ => ⟨k, List.mem_cons_of_mem n hk, hx⟩

/-- A path has neither literals nor margins. -/
theorem scoped?_dotted {scope : Text} (hscope : mark ∉ scope) (ns : List Identifier) :
    scoped? scope (dotted ns) = some (qualify scope (dotted ns)) := by
  have hplain : ∀ x ∈ dotted ns, Application.isPlain x = true ∧ Text.isBlank x = false := by
    intro x hx
    rcases mem_dotted hx with rfl | ⟨m, -, hx⟩
    · exact ⟨by decide, by decide⟩
    · exact ⟨Application.isPlain_of_isWordPart (m.isWordPart_of_mem hx), m.not_isBlank_of_mem hx⟩
  have hstrip : Text.strip (dotted ns) = dotted ns :=
    Text.strip_self (fun x hx => (hplain x (List.mem_of_head? hx)).2)
      fun x hx => (hplain x (List.mem_of_getLast? hx)).2
  have hgap : IsGap (Text.strip (dotted ns)) := by
    rw [hstrip]
    exact Application.isGap_of_isPlain fun x hx => (hplain x hx).1
  rw [scoped?_of_isGap hscope hgap, hstrip]

/-- The identifiers of a path are rewritten one by one, all but the first as behind a point. -/
theorem qualifyFrom_dotted (scope : Text) (solid : Option Char) (n : Identifier)
    (ns : List Identifier) : qualifyFrom scope solid (dotted (n :: ns)) =
      Text.join ['.'] (qualifyFrom scope solid n.text ::
        ns.map fun m => qualifyFrom scope (some '.') m.text) := by
  induction ns generalizing n solid with
  | nil => rfl
  | cons m ns ih =>
    rw [dotted_cons_cons, qualifyFrom_append (by decide) (by decide) (by decide), ih,
      List.map_cons, Text.join, List.append_assoc, List.singleton_append]

/-- Behind a point nothing is put in front of an identifier, and inside of it what is put there
otherwise. -/
theorem inserted_member (scope : Text) : Inserted (scope ++ ['.'])
    (fun i => FreeNameAt n.text i ∧ i ≠ 0) 0 n.text (qualifyFrom scope (some '.') n.text) := by
  have hb : IsResumption ['.'] (some '.') n.text :=
    ⟨by simp [Text.trimEnd, Text.isBlank], fun _ _ _ x hx => by cases hx; decide⟩
  have hins := inserted_qualifyFrom scope hb (isClosed_nil n.text)
  refine hins.shift (k := 1) fun j _ hj => ?_
  have hiff := n.freeNameAt_between_iff (b := ['.']) (r := []) (.inr rfl) (by simp)
    (by simpa using hj)
  simpa using hiff

end Identifier

namespace Scoping

open Identifier (dotted)

variable {n : Identifier} {ns : List Identifier}

/-- What a path is made of that gets the scope in front and nowhere else. -/
theorem isHeaded_of_freeNameAt (h : ∀ i, FreeNameAt (dotted (n :: ns)) i ↔ i = 0) :
    n.IsHeaded ∧ ∀ m ∈ n :: ns, m.IsWhole := by
  obtain ⟨r, hr, hhead⟩ := Identifier.exists_dotted_cons n ns
  have hfirst : ∀ i, i < n.text.length →
      (FreeNameAt n.text i ↔ FreeNameAt (dotted (n :: ns)) i) := by
    intro i hi
    have hiff := n.freeNameAt_between_iff (.inl rfl) hhead hi
    simpa [hr] using hiff.symm
  constructor
  · exact n.isHeaded_iff.2 ((hfirst 0 (List.length_pos_iff.2 n.ne_nil)).2 ((h 0).2 rfl))
  · intro m hm
    rw [Identifier.isWhole_iff]
    intro i hi
    have hlt := lt_length_of_freeNameAt hi
    rcases List.mem_cons.1 hm with rfl | hm
    · exact (h i).1 ((hfirst i hlt).1 hi)
    · obtain ⟨b, r, hb, hlast, hhead⟩ := Identifier.exists_dotted_between hm n
      by_contra hne
      have hinside := (m.freeNameAt_between_iff (.inr hlast) hhead hlt).2
        ⟨hi, fun h => absurd h hne⟩
      rw [← hb, h] at hinside
      omega

theorem qualify_dotted (scope : Text) (hn : n.IsHeaded) (hns : ∀ m ∈ n :: ns, m.IsWhole) :
    qualify scope (dotted (n :: ns)) = scope ++ '.' :: dotted (n :: ns) := by
  obtain ⟨hwhole, hns⟩ := List.forall_mem_cons.1 hns
  have hfree : qualify scope n.text = scope ++ '.' :: n.text :=
    qualify_of_freeNameAt (fun i => ⟨n.isWhole_iff.1 hwhole i, fun hi => hi ▸ n.isHeaded_iff.1 hn⟩)
      scope
  have hmember : ns.map (fun m => qualifyFrom scope (some '.') m.text) =
      ns.map Identifier.text := by
    refine List.map_congr_left fun m hm => (m.inserted_member scope).eq_of_forall_not ?_
    exact fun i _ _ hi => hi.2 (m.isWhole_iff.1 (hns m hm) i hi.1)
  rw [qualify] at hfree ⊢
  rw [Identifier.qualifyFrom_dotted, hfree, hmember, dotted]
  cases ns <;> simp [Text.join]

/-- A path of identifiers is rewritten identifier by identifier. In the first, the scope is put in
front of the words that are free names in it; in the others too, but not at the head. So the whole
is the path with the scope in front exactly if the first identifier begins with a word that is no
keyword, which four characters do not, and no such word begins inside of an identifier. This holds
of all identifiers that are made of word characters. -/
theorem scoped_dotted {scope : Text} (hscope : mark ∉ scope) :
    ∃ free member : Identifier → Text,
      (∀ n, Inserted (scope ++ ['.']) (FreeNameAt n.text) 0 n.text (free n)) ∧
      (∀ n, Inserted (scope ++ ['.']) (fun i => FreeNameAt n.text i ∧ i ≠ 0) 0 n.text
        (member n)) ∧
      ∀ n ns,
        scoped? scope (dotted (n :: ns)) = some (Text.join ['.'] (free n :: ns.map member)) ∧
        (scoped? scope (dotted (n :: ns)) = some (scope ++ '.' :: dotted (n :: ns)) ↔
          n.IsHeaded ∧ ∀ m ∈ n :: ns, m.IsWhole) ∧
        ((∀ m ∈ n :: ns, ∀ c ∈ m.text, Text.isWord c = true) →
          scoped? scope (dotted (n :: ns)) = some (scope ++ '.' :: dotted (n :: ns))) := by
  have hiff : ∀ n ns, scoped? scope (dotted (n :: ns)) = some (scope ++ '.' :: dotted (n :: ns)) ↔
      n.IsHeaded ∧ ∀ m ∈ n :: ns, m.IsWhole := by
    intro n ns
    rw [Identifier.scoped?_dotted hscope, Option.some.injEq]
    exact ⟨fun h => isHeaded_of_freeNameAt (qualify_eq_iff.1 h),
      fun h => qualify_dotted scope h.1 h.2⟩
  refine ⟨fun n => qualify scope n.text, fun n => qualifyFrom scope (some '.') n.text,
    fun n => inserted_qualify scope n.text, fun n => n.inserted_member scope, fun n ns =>
    ⟨?_, hiff n ns, fun hword => ?_⟩⟩
  · rw [Identifier.scoped?_dotted hscope, qualify, Identifier.qualifyFrom_dotted]
    rfl
  · have hunit := fun (m : Identifier) hm => m.isHeaded_and_isWhole (hword m hm)
    exact (hiff n ns).2 ⟨(hunit n List.mem_cons_self).1, fun m hm => (hunit m hm).2⟩

/-- Letters of two scripts are word characters, and behind the marks that end the last identifier
begins no word. -/
theorem scoped_dotted_scripts :
    mark ∉ scopeName ∧ ∃ n m k : Identifier, n.text = "größe".toList ∧ m.text = "имя".toList ∧
      k.text = "हिं".toList ∧ (∀ i ∈ [n, m], ∀ c ∈ i.text, Text.isWord c = true) ∧
      scoped? scopeName (dotted [n, m]) = some "scope.größe.имя".toList ∧
      k.text.any (fun c => !Text.isWord c) = true ∧ k.IsHeaded ∧ k.IsWhole := by
  have hscope : mark ∉ scopeName := by decide
  have hword : "größe".toList.all Text.isWord = true ∧ "имя".toList.all Text.isWord = true ∧
      "हिं".toList.any (fun c => !Text.isWord c) = true := by decide +kernel
  obtain ⟨n, hn⟩ : ∃ n : Identifier, n.text = "größe".toList :=
    ⟨⟨_, by decide +kernel, by decide +kernel⟩, rfl⟩
  obtain ⟨m, hm⟩ : ∃ m : Identifier, m.text = "имя".toList :=
    ⟨⟨_, by decide +kernel, by decide +kernel⟩, rfl⟩
  obtain ⟨k, hk⟩ : ∃ k : Identifier, k.text = "हिं".toList :=
    ⟨⟨_, by decide +kernel, by decide +kernel⟩, rfl⟩
  have hall : ∀ i ∈ [n, m], ∀ c ∈ i.text, Text.isWord c = true := by
    simp only [List.forall_mem_cons, hn, hm]
    exact ⟨List.all_eq_true.1 hword.1, List.all_eq_true.1 hword.2.1, by simp⟩
  have hpath : scopeName ++ '.' :: dotted [n, m] = "scope.größe.имя".toList := by
    rw [Identifier.dotted_cons_cons, Identifier.dotted_singleton, hn, hm]
    decide
  have hmarks : scoped? scopeName (dotted [k]) = some (scopeName ++ '.' :: dotted [k]) := by
    rw [Identifier.dotted_singleton, hk]
    decide +kernel
  obtain ⟨free, member, -, -, h⟩ := scoped_dotted hscope
  obtain ⟨hheaded, hwhole⟩ := (h k []).2.1.1 hmarks
  exact ⟨hscope, n, m, k, hn, hm, hk, hall, hpath ▸ (h n [m]).2.2 hall, hk ▸ hword.2.2, hheaded,
    hwhole k List.mem_cons_self⟩

/-- Behind a mark inside of an identifier another word begins and gets the scope. -/
theorem not_scoped_dotted :
    ∃ n : Identifier, n.text = "नमस्ते".toList ∧
      scoped? scopeName (dotted [n]) = some "scope.नमस्scope.ते".toList ∧
      scoped? scopeName (dotted [n]) ≠ some (scopeName ++ '.' :: dotted [n]) := by
  obtain ⟨n, hn⟩ : ∃ n : Identifier, n.text = "नमस्ते".toList :=
    ⟨⟨_, by decide +kernel, by decide +kernel⟩, rfl⟩
  refine ⟨n, hn, ?_⟩
  rw [Identifier.dotted_singleton, hn]
  decide +kernel

end Scoping

end Stencil
