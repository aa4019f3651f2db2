import Mathlib
import Stencil.Proofs.Expr.Endings

/-! # Numbers in front of other texts

The reading of a number looks no further than to the first character behind it, a word that may
follow it apart. So a number is read again in front of every text that begins alike. Inside of a
number a letter stands only behind a digit, a letter or a point. -/
namespace Stencil.Number

variable {s r r' a b : Text} {c d : Char} {D : Char → Bool}

/-! ## Letters inside of numbers -/

/-- Is the end of the text in a run of letters and digits that begins with a digit or behind a
point, if this is so (`inside`) at its begin? Nothing if a run begins with a letter elsewhere. -/
def trace : (inside : Bool) → Text → Option Bool
  | inside, [] => some inside
  | inside, c :: s =>
    if isWordPart c then (if inside || c.isDigit then trace true s else none)
    else if c = '.' then trace true s
    else if c = '+' ∨ c = '-' then trace false s
    else none

theorem trace_append (i : Bool) (a b : Text) : trace i (a ++ b) = (trace i a).bind (trace · b) := by
  induction a generalizing i with
  | nil => rfl
  | cons c a ih =>
    simp only [List.cons_append, trace]
    split_ifs <;> first | rfl | exact ih _

theorem trace_cons (h : isWordPart c = true) (a : Text) : trace true (c :: a) = trace true a := by
  simp [trace, h]

theorem trace_of_word (h : ∀ c ∈ a, isWordPart c = true) : trace true a = some true := by
  induction a with
  | nil => rfl
  | cons c a ih => rw [trace_cons (h c (by simp)), ih fun x hx => h x (by simp [hx])]

theorem isWordPart_of_isDigit (h : c.isDigit = true) : isWordPart c = true := by
  simp [isWordPart, Char.isAlphanum, h]

theorem trace_digit (i : Bool) (h : d.isDigit = true) (a : Text) :
    trace i (d :: a) = trace true (d :: a) := by
  simp [trace, isWordPart_of_isDigit h, h]

/-! ## What may follow -/

/-- The texts begin with the same character, or no word goes on in either and no point follows. -/
def BeginsLike (r r' : Text) : Prop :=
  r'.head? = r.head? ∨
    r.head?.all (fun c => !isWordPart c) = true ∧
      r'.head?.all (fun c => !isWordPart c && c != '.') = true

/-- A number that ends in front of `r` may end in front of `r'` as well. -/
def Follows (r r' : Text) : Prop := mayEnd r' = true ∧ BeginsLike r r'

theorem BeginsLike.append (h : BeginsLike r r') (a : Text) : BeginsLike (a ++ r) (a ++ r') := by
  cases a with
  | nil => exact h
  | cons c a => exact .inl rfl

theorem BeginsLike.not_point (h : BeginsLike r r') (hr : ∀ t, r = '.' :: t → False) :
    ∀ t, r' = '.' :: t → False := by
  rintro t rfl
  rcases h with hh | ⟨-, hh⟩
  · obtain ⟨u, hu⟩ := List.head?_eq_some_iff.1 hh.symm
    exact hr u hu
  · cases hh

theorem startsExponent_eq_false (h : s.head?.all (fun c => !isWordPart c) = true) :
    startsExponent s = false := by
  cases s with
  | nil => rfl
  | cons c s =>
    rw [startsExponent, Bool.or_eq_false_iff]
    constructor <;> rw [beq_eq_false_iff_ne] <;> rintro rfl <;> cases h

theorem startsExponent_eq (h : BeginsLike r r') : startsExponent r' = startsExponent r := by
  rcases h with hh | ⟨h, h'⟩
  · cases r <;> cases r' <;> simp_all [startsExponent]
  · have hword : r'.head?.all (fun c => !isWordPart c) = true := by
      cases r' with
      | nil => rfl
      | cons c r' => exact (Bool.and_eq_true_iff.1 h').1
    rw [startsExponent_eq_false h, startsExponent_eq_false hword]

/-- A word behind a number begins with one of these letters. -/
theorem head_of_mayEnd (h : mayEnd (c :: s) = true) (hc : isWordPart c = true) :
    c ∈ ['a', 'e', 'f', 'i', 'o', 'n'] ∧ (c = 'e' → s.head? = some 'l') := by
  have hall : ∀ w ∈ followers, w.head?.all (['a', 'e', 'f', 'i', 'o', 'n'].contains ·) = true ∧
      (w.head? = some 'e' → w.tail.head? = some 'l') ∧ w ≠ [] := by decide
  have hw : ∃ w ∈ followers, (Text.after? w (c :: s)).isSome = true := by
    simpa [mayEnd, hc] using h
  obtain ⟨w, hw, hs⟩ := hw
  obtain ⟨u, hu⟩ := Option.isSome_iff_exists.1 hs
  have hwu := Text.eq_append_of_after? hu
  obtain ⟨h₁, h₂, h₃⟩ := hall w hw
  obtain ⟨x, w, rfl⟩ := List.exists_cons_of_ne_nil h₃
  obtain ⟨rfl, rfl⟩ := List.cons.inj hwu
  refine ⟨by simpa using h₁, ?_⟩
  rintro rfl
  obtain ⟨v, hv⟩ := List.head?_eq_some_iff.1 (h₂ rfl)
  rw [List.tail_cons] at hv
  rw [hv]
  rfl

theorem ne_of_mayEnd (h : mayEnd (c :: s) = true) (hd : d ∉ ['a', 'e', 'f', 'i', 'o', 'n'])
    (hw : isWordPart d = true) : c ≠ d := by
  rintro rfl
  exact hd (head_of_mayEnd h hw).1

theorem not_isDigit_of_mayEnd (h : mayEnd (c :: s) = true) : c.isDigit = false := by
  by_contra hc
  rw [Bool.not_eq_false] at hc
  have := (head_of_mayEnd h (isWordPart_of_isDigit hc)).1
  simp only [List.mem_cons, List.not_mem_nil, or_false] at this
  rcases this with rfl | rfl | rfl | rfl | rfl | rfl <;> cases hc

theorem finish?_of_mayEnd (h : mayEnd s = true) : finish? s = some ([], s) := by
  cases s with
  | nil => rfl
  | cons c s =>
    have hj : ¬(c = 'j' ∨ c = 'J') := by
      rintro (rfl | rfl)
      · exact ne_of_mayEnd h (by decide) rfl rfl
      · exact ne_of_mayEnd h (by decide) rfl rfl
    rw [finish?, if_neg hj, if_pos h]

theorem exponent?_of_mayEnd (h : mayEnd s = true) : exponent? s = some ([], s) := by
  cases s with
  | nil => rfl
  | cons c s =>
    by_cases hc : c = 'e' ∨ c = 'E'
    · have he : c = 'e' := hc.resolve_right fun hE => ne_of_mayEnd h (by decide) rfl hE
      subst he
      obtain ⟨s, rfl⟩ := List.head?_eq_some_iff.1 ((head_of_mayEnd h rfl).2 rfl)
      rw [exponent?_digit hc (by decide), if_neg (by decide), if_pos h]
    · rw [exponent?_of_ne hc, finish?_of_mayEnd h]

theorem fraction?_of_mayEnd (h : mayEnd s = true) : fraction? s = some ([], s) := by
  cases s with
  | nil => rfl
  | cons c s =>
    rw [fraction?, if_neg (by simp [not_isDigit_of_mayEnd h])]
    exact exponent?_of_mayEnd h

/-! ## Digits -/

theorem digitGroups?_of_head (h : s.head?.all (fun c => !D c && c != '_') = true) :
    digitGroups? D s = some ([], s) := by
  cases s with
  | nil => rfl
  | cons c s =>
    simp only [List.head?_cons, Option.all_some, Bool.and_eq_true, Bool.not_eq_true',
      bne_iff_ne] at h
    rw [digitGroups?_cons, if_neg (by simp [h.1]), if_neg h.2]

theorem not_digit_of_beginsLike (hD : ∀ c, D c = true → isWordPart c = true)
    (hr : r.head?.all (fun c => !D c && c != '_') = true) (h : BeginsLike r r') :
    r'.head?.all (fun c => !D c && c != '_') = true := by
  rcases h with h | ⟨-, h⟩
  · rwa [h]
  · cases r' with
    | nil => rfl
    | cons c r' =>
      simp only [List.head?_cons, Option.all_some, Bool.and_eq_true, Bool.not_eq_true',
        bne_iff_ne] at h ⊢
      refine ⟨by_contra fun hc => ?_, ?_⟩
      · rw [hD c (by simpa using hc)] at h
        cases h.1
      · rintro rfl
        cases h.1

theorem digitGroups?_spec (hD : ∀ c, D c = true → isWordPart c = true)
    (h : digitGroups? D s = some (a, r)) : s = a ++ r ∧ (∀ c ∈ a, isWordPart c = true) ∧
      ∀ r', BeginsLike r r' → digitGroups? D (a ++ r') = some (a, r') := by
  have stop : ∀ {r}, r.head?.all (fun c => !D c && c != '_') = true →
      ∀ r', BeginsLike r r' → digitGroups? D r' = some ([], r') := fun hr r' hf =>
    digitGroups?_of_head (not_digit_of_beginsLike hD hr hf)
  fun_induction digitGroups? D s generalizing a with
  | case1 =>
    cases h
    exact ⟨rfl, by simp, stop rfl⟩
  | case2 c s hc ih =>
    obtain ⟨p, hp, he⟩ := Option.map_eq_some_iff.1 h
    cases he
    obtain ⟨hs, hw, hread⟩ := ih hp
    refine ⟨by rw [hs]; rfl, by simpa [hD c hc] using hw, fun r' hf => ?_⟩
    rw [List.cons_append, digitGroups?_cons, if_pos hc, hread r' hf]
    rfl
  | case3 d s hd hc ih =>
    obtain ⟨p, hp, he⟩ := Option.map_eq_some_iff.1 h
    cases he
    obtain ⟨hs, hw, hread⟩ := ih hp
    refine ⟨by rw [hs]; rfl, ?_, fun r' hf => ?_⟩
    · simp only [List.mem_cons, forall_eq_or_imp]
      exact ⟨rfl, hD d hd, hw⟩
    · rw [List.cons_append, List.cons_append, digitGroups?_cons, if_neg hc, if_pos rfl]
      simp only [hd, if_true, hread r' hf]
      rfl
  | case4 => cases h
  | case5 => cases h
  | case6 c s hc hl =>
    cases h
    exact ⟨rfl, by simp, stop (by simp [hc, hl])⟩

/-! ## The parts of a number -/

/-- The reader takes the last part of a number from a text, and takes the same part in front of
every text that may follow. -/
def IsReader (f : Text → Option (Text × Text)) : Prop :=
  ∀ {s a r}, f s = some (a, r) → s = a ++ r ∧ trace true a = some true ∧ mayEnd r = true ∧
    ∀ r', Follows r r' → f (a ++ r') = some (a, r')

/-- Digits and another part behind them. -/
def digitsThen (D : Char → Bool) (f : Text → Option (Text × Text)) (s : Text) :
    Option (Text × Text) :=
  (digitGroups? D s).bind fun x => (f x.2).map fun y => (x.1 ++ y.1, y.2)

theorem digitsThen_spec {f : Text → Option (Text × Text)} (hf : IsReader f)
    (hD : ∀ c, D c = true → isWordPart c = true) (hd : D d = true)
    (h : digitsThen D f (d :: s) = some (a, r)) :
    ∃ a', a = d :: a' ∧ s = a' ++ r ∧ trace true a = some true ∧ mayEnd r = true ∧
      ∀ r', Follows r r' → digitsThen D f (a ++ r') = some (a, r') := by
  obtain ⟨⟨ds, r₁⟩, h₁, h₂⟩ := Option.bind_eq_some_iff.1 h
  obtain ⟨⟨b, r₂⟩, h₃, he⟩ := Option.map_eq_some_iff.1 h₂
  cases he
  obtain ⟨hs, hw, hread⟩ := digitGroups?_spec hD h₁
  obtain ⟨ds, rfl⟩ : ∃ t, ds = d :: t := by
    rw [digitGroups?_cons, if_pos hd] at h₁
    obtain ⟨p, -, hp⟩ := Option.map_eq_some_iff.1 h₁
    exact ⟨p.1, (Prod.mk.inj hp).1.symm⟩
  obtain ⟨rfl, hb, hend, hread'⟩ := hf h₃
  refine ⟨ds ++ b, rfl, by simpa using hs, ?_, hend, fun r' hr => ?_⟩
  · rw [trace_append, trace_of_word hw]
    exact hb
  · rw [digitsThen, List.append_assoc, hread _ (hr.2.append b), Option.bind_some, hread' r' hr]
    rfl

theorem finish?_isReader : IsReader finish? := by
  intro s a r h
  rcases s with _ | ⟨c, s⟩
  · cases h
    exact ⟨rfl, rfl, rfl, fun r' hr => finish?_of_mayEnd hr.1⟩
  rw [finish?] at h
  split_ifs at h with hj hm hm
  · cases h
    refine ⟨rfl, ?_, hm, fun r' hr => ?_⟩
    · rcases hj with rfl | rfl <;> rfl
    · rw [List.singleton_append, finish?, if_pos hj, if_pos hr.1]
  · cases h
    exact ⟨rfl, rfl, hm, fun r' hr => finish?_of_mayEnd hr.1⟩

/-- The end of a number as a part of it. -/
def theEnd? (s : Text) : Option (Text × Text) := if mayEnd s then some ([], s) else none

theorem theEnd?_isReader : IsReader theEnd? := by
  intro s a r h
  rw [theEnd?] at h
  split_ifs at h with hm
  cases h
  exact ⟨rfl, rfl, hm, fun r' hr => if_pos hr.1⟩

theorem exponent?_signed {x y : Char} (hx : x = 'e' ∨ x = 'E') (hy : y = '+' ∨ y = '-')
    (hd : d.isDigit = true) (s : Text) : exponent? (x :: y :: d :: s) =
      (digitsThen Char.isDigit finish? (d :: s)).map fun z => (x :: y :: z.1, z.2) := by
  rw [exponent?_sign hx hy, if_pos hd, digitsThen, Option.map_bind]
  simp [Function.comp_def]

theorem exponent?_unsigned {x : Char} (hx : x = 'e' ∨ x = 'E') (hd : d.isDigit = true) (s : Text) :
    exponent? (x :: d :: s) =
      (digitsThen Char.isDigit finish? (d :: s)).map fun z => (x :: z.1, z.2) := by
  have hy : ¬(d = '+' ∨ d = '-') := by
    rintro (rfl | rfl)
    · cases hd
    · cases hd
  rw [exponent?_digit hx hy, if_pos hd, digitsThen, Option.map_bind]
  simp [Function.comp_def]

/-- Digits and the end of a number behind the first characters `w` of an exponent. -/
theorem digits_of_prefix {f : Text → Option (Text × Text)} {w : Text} (hd : d.isDigit = true)
    (hf : ∀ s, f (w ++ d :: s) =
      (digitsThen Char.isDigit finish? (d :: s)).map fun z => (w ++ z.1, z.2))
    (hw : ∀ a, trace true (w ++ d :: a) = trace true (d :: a))
    (h : f (w ++ d :: s) = some (a, r)) : w ++ d :: s = a ++ r ∧ trace true a = some true ∧
      mayEnd r = true ∧ ∀ r', Follows r r' → f (a ++ r') = some (a, r') := by
  rw [hf] at h
  obtain ⟨⟨b, r⟩, hb, he⟩ := Option.map_eq_some_iff.1 h
  cases he
  obtain ⟨b, rfl, rfl, ht, hend, hread⟩ :=
    digitsThen_spec finish?_isReader (fun _ => isWordPart_of_isDigit) hd hb
  refine ⟨by simp, (hw b).trans ht, hend, fun r' hr => ?_⟩
  have hb := hread r' hr
  rw [List.cons_append] at hb
  rw [List.append_assoc, List.cons_append, hf, hb]
  rfl

theorem exponent?_isReader : IsReader exponent? := by
  intro s a r h
  rcases s with _ | ⟨x, s⟩
  · cases h
    exact ⟨rfl, rfl, rfl, fun r' hr => exponent?_of_mayEnd hr.1⟩
  by_cases hx : x = 'e' ∨ x = 'E'
  · have htrace : ∀ p, trace true (x :: p) = trace true p := by
      rcases hx with rfl | rfl <;> exact fun _ => rfl
    rcases s with _ | ⟨y, s⟩
    · simp [exponent?, hx] at h
    -- Behind the letter, a sign asks for digits; without a sign the letter may belong to a word.
    by_cases hy : y = '+' ∨ y = '-'
    · have hsign : ∀ p, trace true (y :: p) = trace false p := by
        rcases hy with rfl | rfl <;> exact fun _ => rfl
      rcases s with _ | ⟨d, s⟩
      · simp [exponent?, hx, hy] at h
      by_cases hd : d.isDigit = true
      · exact digits_of_prefix (w := [x, y]) hd (exponent?_signed hx hy hd)
          (fun a => ((htrace _).trans (hsign _)).trans (trace_digit false hd a)) h
      · rw [exponent?_sign hx hy, if_neg hd] at h
        cases h
    · by_cases hd : y.isDigit = true
      · exact digits_of_prefix (w := [x]) hd (exponent?_unsigned hx hd) (fun _ => htrace _) h
      · rw [exponent?_digit hx hy, if_neg hd] at h
        split_ifs at h with hm
        cases h
        exact ⟨rfl, rfl, hm, fun r' hr => exponent?_of_mayEnd hr.1⟩
  · rw [exponent?_of_ne hx] at h
    obtain ⟨hs, ht, hend, hread⟩ := finish?_isReader h
    refine ⟨hs, ht, hend, fun r' hr => ?_⟩
    rcases a with _ | ⟨y, a⟩
    · exact exponent?_of_mayEnd hr.1
    · obtain ⟨rfl, -⟩ := List.cons.inj hs
      rw [List.cons_append, exponent?_of_ne hx, ← List.cons_append, hread r' hr]

theorem fraction?_eq {x : Char} (hx : x.isDigit = true) (s : Text) :
    fraction? (x :: s) = digitsThen Char.isDigit exponent? (x :: s) := fraction?_digit hx s

theorem fraction?_isReader : IsReader fraction? := by
  intro s a r h
  rcases s with _ | ⟨x, s⟩
  · cases h
    exact ⟨rfl, rfl, rfl, fun r' hr => fraction?_of_mayEnd hr.1⟩
  by_cases hx : x.isDigit = true
  · rw [fraction?_eq hx] at h
    obtain ⟨a, rfl, rfl, ht, hend, hread⟩ :=
      digitsThen_spec exponent?_isReader (fun _ => isWordPart_of_isDigit) hx h
    refine ⟨rfl, ht, hend, fun r' hr => ?_⟩
    rw [List.cons_append, fraction?_eq hx, ← List.cons_append, hread r' hr]
  · have heq : ∀ t, fraction? (x :: t) = exponent? (x :: t) := fun t => by
      rw [fraction?, if_neg hx]
    rw [heq] at h
    obtain ⟨hs, ht, hend, hread⟩ := exponent?_isReader h
    refine ⟨hs, ht, hend, fun r' hr => ?_⟩
    rcases a with _ | ⟨y, a⟩
    · exact fraction?_of_mayEnd hr.1
    · obtain ⟨rfl, -⟩ := List.cons.inj hs
      rw [List.cons_append, heq, ← List.cons_append, hread r' hr]

/-! ## Numbers -/

theorem digitsToEnd?_eq (hd : D d = true) (s : Text) :
    digitsToEnd? D (d :: s) = digitsThen D theEnd? (d :: s) := by
  rw [digitsToEnd?_cons hd, digitsThen]
  refine congrArg (Option.bind _) (funext fun x => ?_)
  unfold theEnd?
  split_ifs
  · simp
  · rfl

theorem digitsToEnd?_isReader (hD : ∀ c, D c = true → isWordPart c = true) :
    IsReader (digitsToEnd? D) := by
  intro s a r h
  rcases s with _ | ⟨x, s⟩
  · cases h
  by_cases hx : D x = true
  · rw [digitsToEnd?_eq hx] at h
    obtain ⟨a, rfl, rfl, ht, hend, hread⟩ := digitsThen_spec theEnd?_isReader hD hx h
    refine ⟨rfl, ht, hend, fun r' hr => ?_⟩
    rw [List.cons_append, digitsToEnd?_eq hx, ← List.cons_append, hread r' hr]
  · rw [digitsToEnd?, if_neg hx] at h
    cases h

theorem based?_isReader (hD : ∀ c, D c = true → isWordPart c = true) (hl : D '_' = false) :
    IsReader (based? D) := by
  intro s a r h
  by_cases hs : ∃ t, s = '_' :: t
  · obtain ⟨t, rfl⟩ := hs
    obtain ⟨⟨b, r⟩, hb, he⟩ := Option.map_eq_some_iff.1 h
    cases he
    obtain ⟨rfl, ht, hend, hread⟩ := digitsToEnd?_isReader hD hb
    refine ⟨rfl, ht, hend, fun r' hr => ?_⟩
    rw [List.cons_append, based?, hread r' hr]
    rfl
  · have hne : ∀ t, s = '_' :: t → False := fun t ht => hs ⟨t, ht⟩
    rw [based?.eq_2 D s hne] at h
    obtain ⟨rfl, ht, hend, hread⟩ := digitsToEnd?_isReader hD h
    refine ⟨rfl, ht, hend, fun r' hr => ?_⟩
    have := hread r' hr
    rw [based?.eq_2, this]
    intro t hat
    rw [hat, digitsToEnd?, if_neg (by simp [hl])] at this
    cases this

theorem wholeRest_spec {ds : Text} (h : wholeRest ds s = some (a, r)) :
    ∃ b, a = ds ++ b ∧ s = b ++ r ∧ trace true b = some true ∧ mayEnd r = true ∧
      ∀ r', Follows r r' → wholeRest ds (b ++ r') = some (a, r') := by
  by_cases hs : ∃ t, s = '.' :: t
  · obtain ⟨t, rfl⟩ := hs
    obtain ⟨⟨b, r⟩, hb, he⟩ := Option.map_eq_some_iff.1 h
    cases he
    obtain ⟨rfl, ht, hend, hread⟩ := fraction?_isReader hb
    refine ⟨'.' :: b, rfl, rfl, ht, hend, fun r' hr => ?_⟩
    rw [List.cons_append, wholeRest, hread r' hr]
    rfl
  · have hne : ∀ t, s = '.' :: t → False := fun t ht => hs ⟨t, ht⟩
    rw [wholeRest.eq_2 ds s hne] at h
    obtain ⟨⟨b, r₁⟩, hb, hpad⟩ := Option.bind_eq_some_iff.1 h
    simp only at hpad
    split_ifs at hpad with hp
    cases hpad
    obtain ⟨rfl, ht, hend, hread⟩ := exponent?_isReader hb
    refine ⟨b, rfl, rfl, ht, hend, fun r' hr => ?_⟩
    have hlike : BeginsLike (b ++ r) (b ++ r') := hr.2.append b
    rw [wholeRest.eq_2 ds _ (hlike.not_point hne), hread r' hr, Option.bind_some]
    simp only
    rw [startsExponent_eq hlike, if_neg hp]

theorem whole?_isReader : IsReader whole? := by
  intro s a r h
  rw [whole?_eq] at h
  obtain ⟨⟨ds, r₁⟩, h₁, h₂⟩ := Option.bind_eq_some_iff.1 h
  obtain ⟨rfl, hw, hread⟩ := digitGroups?_spec (fun _ => isWordPart_of_isDigit) h₁
  obtain ⟨b, rfl, hb, ht, hend, hread'⟩ := wholeRest_spec h₂
  simp only at hb hread hread'
  subst hb
  refine ⟨by simp, by rw [trace_append, trace_of_word hw]; exact ht, hend, fun r' hr => ?_⟩
  rw [whole?_eq, List.append_assoc, hread _ (hr.2.append b)]
  exact hread' r' hr

/-- The digits of another base are parts of words, and so is the letter that announces it. -/
theorem isWordPart_of_base? (h : base? c = some D) :
    (∀ x, D x = true → isWordPart x = true) ∧ D '_' = false ∧ isWordPart c = true := by
  have hhex : ∀ x, isHexDigit x = true → isWordPart x = true := by
    intro x hx
    simp only [isHexDigit, Bool.or_eq_true, Bool.and_eq_true, decide_eq_true_eq] at hx
    simp only [isWordPart, Char.isAlphanum, Char.isAlpha, Char.isUpper, Char.isLower,
      Bool.or_eq_true, Bool.and_eq_true, decide_eq_true_eq]
    rcases hx with (hx | hx) | hx
    · exact .inl (.inl (.inr hx))
    · exact .inl (.inl (.inl (.inr ⟨hx.1, Char.le_trans hx.2 (by decide)⟩)))
    · exact .inl (.inl (.inl (.inl ⟨hx.1, Char.le_trans hx.2 (by decide)⟩)))
  have hoctal : ∀ x, isOctalDigit x = true → isWordPart x = true := by
    intro x hx
    simp only [isOctalDigit, Bool.and_eq_true, decide_eq_true_eq] at hx
    refine isWordPart_of_isDigit ?_
    simp only [Char.isDigit, Bool.and_eq_true, decide_eq_true_eq]
    exact ⟨hx.1, Char.le_trans hx.2 (by decide)⟩
  have hbinary : ∀ x, isBinaryDigit x = true → isWordPart x = true := by
    intro x hx
    simp only [isBinaryDigit, Bool.or_eq_true, beq_iff_eq] at hx
    rcases hx with rfl | rfl <;> rfl
  unfold base? at h
  split_ifs at h with h₁ h₂ h₃ <;> cases h
  · exact ⟨hhex, rfl, by rcases h₁ with rfl | rfl <;> rfl⟩
  · exact ⟨hoctal, rfl, by rcases h₂ with rfl | rfl <;> rfl⟩
  · exact ⟨hbinary, rfl, by rcases h₃ with rfl | rfl <;> rfl⟩

/-- No base is announced at the head of the text behind a zero. -/
def IsDecimal (s : Text) : Prop := s.head? ≠ some '.' ∧ ∀ c t, s = '0' :: c :: t → base? c = none

theorem scan?_decimal (h : IsDecimal s) : scan? s = whole? s := by
  by_cases hz : ∃ c t, s = '0' :: c :: t
  · obtain ⟨c, t, rfl⟩ := hz
    rw [scan?_zero, h.2 c t rfl]
  · rw [scan?.eq_3]
    · rintro t rfl
      exact h.1 rfl
    · rintro c t rfl
      exact hz ⟨c, t, rfl⟩

theorem base?_of_not_isWordPart (h : isWordPart c = false) : base? c = none := by
  cases hb : base? c with
  | none => rfl
  | some D => exact absurd (isWordPart_of_base? hb).2.2 (by simp [h])

theorem IsDecimal.follows (h : IsDecimal (a ++ r)) (hr : BeginsLike r r') (ha : a ≠ []) :
    IsDecimal (a ++ r') := by
  obtain ⟨x, a, rfl⟩ := List.exists_cons_of_ne_nil ha
  refine ⟨h.1, fun c t ht => ?_⟩
  rcases a with _ | ⟨y, a⟩
  · obtain ⟨rfl, rfl⟩ := List.cons.inj ht
    rcases hr with hh | ⟨-, hh⟩
    · obtain ⟨u, hu⟩ := List.head?_eq_some_iff.1 hh.symm
      exact h.2 c u (by rw [hu]; rfl)
    · simp only [List.head?_cons, Option.all_some, Bool.and_eq_true,
        Bool.not_eq_true'] at hh
      exact base?_of_not_isWordPart hh.1
  · obtain ⟨rfl, htail⟩ := List.cons.inj ht
    obtain ⟨hy, -⟩ := List.cons.inj htail
    exact hy ▸ h.2 y (a ++ r) rfl

/-- A number that begins with a digit or a point is read again in front of what may follow it. -/
theorem scan?_spec (h : scan? s = some (a, r))
    (hs : s.head?.any (fun c => c.isDigit || c == '.') = true) :
    s = a ++ r ∧ a ≠ [] ∧ (∀ i, trace i a = some true) ∧ mayEnd r = true ∧
      ∀ r', Follows r r' → scan? (a ++ r') = some (a, r') := by
  rcases s with _ | ⟨x, s⟩
  · cases hs
  by_cases hdot : x = '.'
  · subst hdot
    obtain ⟨⟨b, r⟩, hb, he⟩ := Option.map_eq_some_iff.1 h
    cases he
    obtain ⟨rfl, ht, hend, hread⟩ := fraction?_isReader hb
    refine ⟨rfl, by simp, fun _ => ht, hend, fun r' hr => ?_⟩
    rw [List.cons_append, scan?, hread r' hr]
    rfl
  have hx : x.isDigit = true := by simpa [hdot] using hs
  by_cases hbase : ∃ c t D, x :: s = '0' :: c :: t ∧ base? c = some D
  · obtain ⟨c, t, D, hs, hb⟩ := hbase
    obtain ⟨rfl, rfl⟩ := List.cons.inj hs
    rw [scan?_zero, hb] at h
    obtain ⟨⟨b, r⟩, hb', he⟩ := Option.map_eq_some_iff.1 h
    cases he
    obtain ⟨hD, hl, hc⟩ := isWordPart_of_base? hb
    obtain ⟨rfl, ht, hend, hread⟩ := based?_isReader hD hl hb'
    refine ⟨rfl, by simp, fun i => ?_, hend, fun r' hr => ?_⟩
    · exact (trace_digit i rfl _).trans ((trace_cons rfl _).trans ((trace_cons hc b).trans ht))
    · rw [List.cons_append, List.cons_append, scan?_zero, hb]
      simp only [hread r' hr]
      rfl
  · have hdec : IsDecimal (x :: s) := by
      refine ⟨by simpa using hdot, fun c t ht => ?_⟩
      cases hb : base? c with
      | none => rfl
      | some D => exact (hbase ⟨c, t, D, ht, hb⟩).elim
    rw [scan?_decimal hdec] at h
    obtain ⟨hs', ht, hend, hread⟩ := whole?_isReader h
    obtain ⟨a, rfl⟩ : ∃ t, a = x :: t := by
      rw [whole?_eq, digitGroups?_cons, if_pos hx] at h
      obtain ⟨y, hy, h⟩ := Option.bind_eq_some_iff.1 h
      obtain ⟨z, -, rfl⟩ := Option.map_eq_some_iff.1 hy
      obtain ⟨b, rfl, -⟩ := wholeRest_spec h
      exact ⟨z.1 ++ b, rfl⟩
    rw [hs'] at hdec
    refine ⟨hs', by simp, fun i => (trace_digit i hx a).trans ht, hend, fun r' hr => ?_⟩
    rw [scan?_decimal (hdec.follows hr.2 (by simp)), hread r' hr]

end Stencil.Number
