import Mathlib.Data.List.TakeWhile
import Stencil.Proofs.Expr.Reading

/-! # Marks that end every token

A closing bracket, a space and a line end belong to no token that begins in front of them, strings
apart. So a reader that has stopped at a closing bracket stops at each of these marks, whatever
stands behind. -/
namespace Stencil

/-- A mark that goes on with no token. -/
def isEnd (c : Char) : Bool := c == ')' || c == ']' || c == ' ' || c == '\n'

/-- A closing mark of the two brackets that texts are put in. -/
def isCloser (c : Char) : Bool := c == ')' || c == ']'

theorem isEnd_of_isCloser {c : Char} (h : isCloser c = true) : isEnd c = true := by
  simp only [isCloser, Bool.or_eq_true, beq_iff_eq] at h
  rcases h with rfl | rfl <;> rfl

theorem ne_of_isEnd {e x : Char} (he : isEnd e = true) (hx : isEnd x = false) : e ≠ x := by
  rintro rfl
  rw [he] at hx
  cases hx

theorem eq_false_of_isEnd {e : Char} (f : Char → Bool) (he : isEnd e = true)
    (h : ([')', ']', ' ', '\n'].map f).all (! ·) = true) : f e = false := by
  simp only [isEnd, Bool.or_eq_true, beq_iff_eq] at he
  simp at h
  rcases he with ((rfl | rfl) | rfl) | rfl <;> simp [h]

variable {α β : Type}

/-- What `f` reads of `p` in front of a closing bracket it reads in front of every end mark. -/
def Stops (f : Text → Option (α × Text)) (p : Text) : Prop :=
  ∀ c a r, isCloser c = true → f (p ++ [c]) = some (a, r) → ∃ q, q <:+ p ∧ r = q ++ [c] ∧
    ∀ e u, isEnd e = true → f (p ++ e :: u) = some (a, q ++ e :: u)

namespace Stops

variable {f : Text → Option (α × Text)} {p : Text}

/-- A reader that behind some characters does what another does with the rest of them. -/
theorem of_suffix {g : Text → Option (β × Text)} {q : Text} {φ : β → α} (hq : q <:+ p)
    (hg : Stops g q)
    (h : ∀ e u, isEnd e = true → f (p ++ e :: u) = (g (q ++ e :: u)).map fun x => (φ x.1, x.2)) :
    Stops f p := by
  intro c a r hc hf
  rw [h c [] (isEnd_of_isCloser hc)] at hf
  obtain ⟨⟨b, r'⟩, hb, hab⟩ := Option.map_eq_some_iff.1 hf
  cases hab
  obtain ⟨q', hq', rfl, hread⟩ := hg c b r' hc hb
  refine ⟨q', hq'.trans hq, rfl, fun e u he => ?_⟩
  rw [h e u he, hread e u he]
  rfl

/-- A reader that refuses. -/
theorem of_none (h : ∀ c, isCloser c = true → f (p ++ [c]) = none) : Stops f p := by
  intro c a r hc hf
  rw [h c hc] at hf
  cases hf

/-- A reader that stops behind a part of the characters. -/
theorem of_some {a : α} {q : Text} (hq : q <:+ p)
    (h : ∀ e u, isEnd e = true → f (p ++ e :: u) = some (a, q ++ e :: u)) : Stops f p := by
  intro c b r hc hf
  cases (h c [] (isEnd_of_isCloser hc)).symm.trans hf
  exact ⟨q, hq, rfl, h⟩

/-- One reader after another. -/
theorem bind {g : α → Text → Option (β × Text)} {h : Text → Option (β × Text)} (hf : Stops f p)
    (hg : ∀ a q, q <:+ p → Stops (g a) q) (hh : ∀ s, h s = (f s).bind fun x => g x.1 x.2) :
    Stops h p := by
  intro c b r hc hb
  rw [hh] at hb
  obtain ⟨⟨a, r₁⟩, h₁, h₂⟩ := Option.bind_eq_some_iff.1 hb
  obtain ⟨q, hq, rfl, hread⟩ := hf c a r₁ hc h₁
  obtain ⟨q', hq', rfl, hread'⟩ := hg a q hq c b r hc h₂
  refine ⟨q', hq'.trans hq, rfl, fun e u he => ?_⟩
  rw [hh, hread e u he]
  exact hread' e u he

end Stops

/-! ## Numbers -/

namespace Number

theorem digitGroups?_cons (isDigit : Char → Bool) (c : Char) (s : Text) :
    digitGroups? isDigit (c :: s) =
      if isDigit c then (digitGroups? isDigit s).map fun p => (c :: p.1, p.2)
      else if c = '_' then
        match s with
        | d :: s' =>
          if isDigit d then (digitGroups? isDigit s').map fun p => (c :: d :: p.1, p.2) else none
        | [] => none
      else some ([], c :: s) := by
  cases s <;> rfl

theorem digitGroups?_stops {isDigit : Char → Bool} (hd : ∀ e, isEnd e = true → isDigit e = false)
    (p : Text) : Stops (digitGroups? isDigit) p := by
  induction hn : p.length using Nat.strongRecOn generalizing p with
  | _ n ih =>
  subst hn
  rcases p with _ | ⟨x, p⟩
  · refine .of_some (a := []) List.suffix_rfl fun e u he => ?_
    rw [List.nil_append, digitGroups?_cons, hd e he, if_neg (by simp), if_neg (ne_of_isEnd he rfl)]
  by_cases hx : isDigit x = true
  · exact .of_suffix (List.suffix_cons x p) (ih _ (by simp) p rfl) fun e u _ => by
      rw [List.cons_append, digitGroups?_cons, if_pos hx]
  by_cases hl : x = '_'
  · rcases p with _ | ⟨d, p⟩
    · refine .of_none fun c hc => ?_
      rw [List.singleton_append, digitGroups?_cons, if_neg hx, if_pos hl]
      simp only [hd c (isEnd_of_isCloser hc), Bool.false_eq_true, if_false]
    by_cases hdig : isDigit d = true
    · refine .of_suffix (q := p) (φ := fun a => x :: d :: a) ⟨[x, d], rfl⟩
        (ih _ (by simp only [List.length_cons]; omega) p rfl) fun e u _ => ?_
      rw [List.cons_append, List.cons_append, digitGroups?_cons, if_neg hx, if_pos hl]
      simp only [hdig, if_true]
    · refine .of_none fun c hc => ?_
      rw [List.cons_append, List.cons_append, digitGroups?_cons, if_neg hx, if_pos hl]
      simp only [hdig, Bool.false_eq_true, if_false]
  · refine .of_some (a := []) List.suffix_rfl fun e u _ => ?_
    rw [List.cons_append, digitGroups?_cons, if_neg hx, if_neg hl]

theorem after?_isSome_append {w : Text} {e : Char} (he : e ∉ w) (p u : Text) :
    (Text.after? w (p ++ e :: u)).isSome = (Text.after? w p).isSome := by
  induction w generalizing p with
  | nil => rfl
  | cons a w ih =>
    rcases p with _ | ⟨x, p⟩
    · have : a ≠ e := fun h => he (by simp [h])
      simp [Text.after?, this]
    · have := ih (fun h => he (by simp [h])) p
      by_cases hx : a = x <;> simp [Text.after?, hx, this]

/-- Whether a number may end depends on nothing behind a character that goes on with no word. -/
theorem mayEnd_append_of_not_isWordPart {e : Char} (he : isWordPart e = false) (p u : Text) :
    mayEnd (p ++ e :: u) = mayEnd p := by
  have hw : ∀ w ∈ followers, e ∉ w := by
    intro w hw hmem
    have hwords : (followers.all fun w => w.all isWordPart) = true := by decide
    rw [List.all_eq_true.1 (List.all_eq_true.1 hwords w hw) e hmem] at he
    cases he
  unfold mayEnd
  congr 1
  · rw [Bool.eq_iff_iff]
    simp only [List.any_eq_true]
    constructor <;> rintro ⟨w, hmem, h⟩ <;> refine ⟨w, hmem, ?_⟩
    · rwa [after?_isSome_append (hw w hmem)] at h
    · rwa [after?_isSome_append (hw w hmem)]
  · cases p with
    | nil => simp [he]
    | cons x p => rfl

theorem mayEnd_append {e : Char} (he : isEnd e = true) (p u : Text) :
    mayEnd (p ++ e :: u) = mayEnd p :=
  mayEnd_append_of_not_isWordPart (eq_false_of_isEnd isWordPart he (by decide)) p u

/-- A reader that takes nothing, and refuses a number that may not end there. -/
theorem stops_of_mayEnd {f : Text → Option (Text × Text)} {p : Text}
    (h : ∀ e u, isEnd e = true → f (p ++ e :: u) =
      if mayEnd (p ++ e :: u) then some ([], p ++ e :: u) else none) : Stops f p := by
  by_cases hm : mayEnd p = true
  · exact .of_some (a := []) List.suffix_rfl fun e u he => by
      rw [h e u he, mayEnd_append he, if_pos hm]
  · exact .of_none fun c hc => by
      rw [h c [] (isEnd_of_isCloser hc), mayEnd_append (isEnd_of_isCloser hc), if_neg hm]

theorem finish?_stops (p : Text) : Stops finish? p := by
  rcases p with _ | ⟨x, p⟩
  · refine .of_some (a := []) List.suffix_rfl fun e u he => ?_
    have hj : ¬(e = 'j' ∨ e = 'J') := by
      rintro (h | h)
      · exact ne_of_isEnd he rfl h
      · exact ne_of_isEnd he rfl h
    have hm : mayEnd (e :: u) = true := mayEnd_append he [] u
    rw [List.nil_append, finish?, if_neg hj, if_pos hm]
  by_cases hx : x = 'j' ∨ x = 'J'
  · by_cases hm : mayEnd p = true
    · refine .of_some (q := p) (a := [x]) (List.suffix_cons x p) fun e u he => ?_
      rw [List.cons_append, finish?, if_pos hx, mayEnd_append he, if_pos hm]
    · refine .of_none fun c hc => ?_
      rw [List.cons_append, finish?, if_pos hx, mayEnd_append (isEnd_of_isCloser hc), if_neg hm]
  · exact stops_of_mayEnd fun e u _ => by rw [List.cons_append, finish?, if_neg hx]

theorem isDigit_of_isEnd (e : Char) (he : isEnd e = true) : e.isDigit = false :=
  eq_false_of_isEnd Char.isDigit he (by decide)

/-- Digits and the end behind the first characters of an exponent. -/
theorem digits_finish_stops (p : Text) (φ : Text → Text → Text) :
    Stops (fun s => (digitGroups? Char.isDigit s).bind fun x =>
      (finish? x.2).map fun y => (φ x.1 y.1, y.2)) p :=
  .bind (g := fun a s => (finish? s).map fun y => (φ a y.1, y.2))
    (digitGroups?_stops isDigit_of_isEnd p)
    (fun _ q _ => .of_suffix List.suffix_rfl (finish?_stops q) fun _ _ _ => rfl) fun _ => rfl

theorem exponent?_of_ne {x : Char} (hx : ¬(x = 'e' ∨ x = 'E')) (s : Text) :
    exponent? (x :: s) = finish? (x :: s) := by
  simp only [exponent?, hx, if_false]

theorem exponent?_sign {x y : Char} (hx : x = 'e' ∨ x = 'E') (hy : y = '+' ∨ y = '-') (d : Char)
    (s : Text) : exponent? (x :: y :: d :: s) =
      if d.isDigit then (digitGroups? Char.isDigit (d :: s)).bind fun a =>
        (finish? a.2).map fun b => (x :: y :: a.1 ++ b.1, b.2)
      else none := by
  simp only [exponent?, hx, hy, if_true, Option.map_eq_bind]
  rfl

theorem exponent?_digit {x y : Char} (hx : x = 'e' ∨ x = 'E') (hy : ¬(y = '+' ∨ y = '-'))
    (s : Text) : exponent? (x :: y :: s) =
      if y.isDigit then (digitGroups? Char.isDigit (y :: s)).bind fun a =>
        (finish? a.2).map fun b => (x :: a.1 ++ b.1, b.2)
      else if mayEnd (x :: y :: s) then some ([], x :: y :: s) else none := by
  simp only [exponent?, hx, hy, if_true, if_false, Option.map_eq_bind]
  rfl

theorem exponent?_stops (p : Text) : Stops exponent? p := by
  have sign : ∀ e, isEnd e = true → ¬(e = '+' ∨ e = '-') := by
    rintro e he (h | h)
    · exact ne_of_isEnd he rfl h
    · exact ne_of_isEnd he rfl h
  rcases p with _ | ⟨x, p⟩
  · refine .of_suffix (φ := id) List.suffix_rfl (finish?_stops []) fun e u he => ?_
    have hx : ¬(e = 'e' ∨ e = 'E') := by
      rintro (h | h)
      · exact ne_of_isEnd he rfl h
      · exact ne_of_isEnd he rfl h
    rw [List.nil_append, exponent?_of_ne hx]
    simp
  by_cases hx : x = 'e' ∨ x = 'E'
  · rcases p with _ | ⟨y, p⟩
    · refine stops_of_mayEnd fun e u he => ?_
      rw [List.singleton_append, exponent?_digit hx (sign e he), if_neg]
      simp [isDigit_of_isEnd e he]
    by_cases hy : y = '+' ∨ y = '-'
    · rcases p with _ | ⟨d, p⟩
      · refine .of_none fun c hc => ?_
        rw [List.cons_append, List.singleton_append, exponent?_sign hx hy, if_neg]
        simp [isDigit_of_isEnd c (isEnd_of_isCloser hc)]
      by_cases hd : d.isDigit = true
      · refine .of_suffix (q := d :: p) (φ := id) ⟨[x, y], rfl⟩
          (digits_finish_stops (d :: p) fun a b => x :: y :: a ++ b) fun e u _ => ?_
        simp only [List.cons_append]
        rw [exponent?_sign hx hy, if_pos hd]
        simp
      · refine .of_none fun c hc => ?_
        simp only [List.cons_append]
        rw [exponent?_sign hx hy, if_neg hd]
    · by_cases hd : y.isDigit = true
      · refine .of_suffix (q := y :: p) (φ := id) ⟨[x], rfl⟩
          (digits_finish_stops (y :: p) fun a b => x :: a ++ b) fun e u _ => ?_
        simp only [List.cons_append]
        rw [exponent?_digit hx hy, if_pos hd]
        simp
      · refine stops_of_mayEnd fun e u _ => ?_
        simp only [List.cons_append]
        rw [exponent?_digit hx hy, if_neg hd]
  · refine .of_suffix (φ := id) List.suffix_rfl (finish?_stops (x :: p)) fun e u _ => ?_
    rw [List.cons_append, exponent?_of_ne hx]
    simp

theorem fraction?_digit {x : Char} (hx : x.isDigit = true) (s : Text) :
    fraction? (x :: s) = (digitGroups? Char.isDigit (x :: s)).bind fun a =>
      (exponent? a.2).map fun b => (a.1 ++ b.1, b.2) := by
  simp only [fraction?, hx, if_true, Option.map_eq_bind]
  rfl

theorem fraction?_stops (p : Text) : Stops fraction? p := by
  rcases p with _ | ⟨x, p⟩
  · refine .of_suffix (φ := id) List.suffix_rfl (exponent?_stops []) fun e u he => ?_
    rw [List.nil_append, fraction?, if_neg (by simp [isDigit_of_isEnd e he])]
    simp
  by_cases hx : x.isDigit = true
  · have digits : Stops (fun s => (digitGroups? Char.isDigit s).bind fun a =>
        (exponent? a.2).map fun b => (a.1 ++ b.1, b.2)) (x :: p) :=
      .bind (g := fun a s => (exponent? s).map fun b => (a ++ b.1, b.2))
        (digitGroups?_stops isDigit_of_isEnd _)
        (fun _ q _ => .of_suffix List.suffix_rfl (exponent?_stops q) fun _ _ _ => rfl)
        fun _ => rfl
    refine .of_suffix (φ := id) List.suffix_rfl digits fun e u _ => ?_
    rw [List.cons_append, fraction?_digit hx]
    simp
  · refine .of_suffix (φ := id) List.suffix_rfl (exponent?_stops (x :: p)) fun e u _ => ?_
    rw [List.cons_append, fraction?, if_neg hx]
    simp

theorem digitsToEnd?_cons {isDigit : Char → Bool} {x : Char} (hx : isDigit x = true) (s : Text) :
    digitsToEnd? isDigit (x :: s) = (digitGroups? isDigit (x :: s)).bind fun a =>
      if mayEnd a.2 then some a else none := by
  rw [digitsToEnd?, if_pos hx]
  cases digitGroups? isDigit (x :: s) <;> rfl

/-- The end of a number as a reader of nothing. -/
theorem mayEnd_stops (a : Text) (p : Text) :
    Stops (fun s => if mayEnd s then some (a, s) else none) p := by
  by_cases hm : mayEnd p = true
  · exact .of_some List.suffix_rfl fun e u he => by rw [mayEnd_append he, if_pos hm]
  · exact .of_none fun c hc => by rw [mayEnd_append (isEnd_of_isCloser hc), if_neg hm]

theorem digitsToEnd?_stops {isDigit : Char → Bool} (hd : ∀ e, isEnd e = true → isDigit e = false)
    (p : Text) : Stops (digitsToEnd? isDigit) p := by
  rcases p with _ | ⟨x, p⟩
  · exact .of_none fun c hc => by
      rw [List.nil_append, digitsToEnd?, if_neg (by simp [hd c (isEnd_of_isCloser hc)])]
  by_cases hx : isDigit x = true
  · have digits : Stops (fun s => (digitGroups? isDigit s).bind fun a =>
        if mayEnd a.2 then some a else none) (x :: p) :=
      .bind (digitGroups?_stops hd _) (fun a q _ => mayEnd_stops a q) fun _ => rfl
    refine .of_suffix (φ := id) List.suffix_rfl digits fun e u _ => ?_
    rw [List.cons_append, digitsToEnd?_cons hx]
    simp
  · exact .of_none fun c _ => by rw [List.cons_append, digitsToEnd?, if_neg hx]

theorem based?_stops {isDigit : Char → Bool} (hd : ∀ e, isEnd e = true → isDigit e = false)
    (p : Text) : Stops (based? isDigit) p := by
  by_cases hl : ∃ q, p = '_' :: q
  · obtain ⟨q, rfl⟩ := hl
    exact .of_suffix (List.suffix_cons _ q) (digitsToEnd?_stops hd q) fun _ _ _ => rfl
  · refine .of_suffix (φ := id) List.suffix_rfl (digitsToEnd?_stops hd p) fun e u he => ?_
    rw [based?.eq_2]
    · simp
    · intro r hr
      rcases p with _ | ⟨x, p⟩
      · exact ne_of_isEnd he rfl (List.cons.inj hr).1
      · exact hl ⟨p, by rw [(List.cons.inj hr).1]⟩

theorem startsExponent_append {e : Char} (he : isEnd e = true) (p u : Text) :
    startsExponent (p ++ e :: u) = startsExponent p := by
  cases p with
  | nil => exact eq_false_of_isEnd (fun c => c == 'e' || c == 'E') he (by decide)
  | cons x p => rfl

/-- What follows the whole part of a decimal. -/
def wholeRest (ds s : Text) : Option (Text × Text) :=
  match s with
  | '.' :: r => (fraction? r).map fun x => (ds ++ '.' :: x.1, x.2)
  | s => (exponent? s).bind fun x =>
    if isPadded ds && x.1.isEmpty && !startsExponent s then none else some (ds ++ x.1, x.2)

theorem wholeRest_stops (ds p : Text) : Stops (wholeRest ds) p := by
  by_cases hdot : ∃ q, p = '.' :: q
  · obtain ⟨q, rfl⟩ := hdot
    exact .of_suffix (φ := fun a => ds ++ '.' :: a) (List.suffix_cons _ q) (fraction?_stops q)
      fun _ _ _ => rfl
  · have step : ∀ e u, isEnd e = true → wholeRest ds (p ++ e :: u) =
        (exponent? (p ++ e :: u)).bind fun x =>
          if isPadded ds && x.1.isEmpty && !startsExponent p then none
          else some (ds ++ x.1, x.2) := by
      intro e u he
      rw [wholeRest, startsExponent_append he]
      intro r hr
      rcases p with _ | ⟨x, p⟩
      · exact ne_of_isEnd he rfl (List.cons.inj hr).1
      · exact hdot ⟨p, by rw [(List.cons.inj hr).1]⟩
    have pad : Stops (fun s => (exponent? s).bind fun x =>
        if isPadded ds && x.1.isEmpty && !startsExponent p then none
        else some (ds ++ x.1, x.2)) p := by
      refine .bind (g := fun a s => if isPadded ds && a.isEmpty && !startsExponent p then none
        else some (ds ++ a, s)) (exponent?_stops p) (fun a q _ => ?_) fun _ => rfl
      split
      · exact .of_none fun _ _ => rfl
      · exact .of_some List.suffix_rfl fun _ _ _ => rfl
    exact .of_suffix (φ := id) List.suffix_rfl pad fun e u he => by simp [step e u he]

theorem whole?_eq (s : Text) :
    whole? s = (digitGroups? Char.isDigit s).bind fun x => wholeRest x.1 x.2 := by
  unfold whole?
  refine congrArg (Option.bind _) (funext fun x => ?_)
  obtain ⟨ds, r⟩ := x
  by_cases hr : ∃ q, r = '.' :: q
  · obtain ⟨q, rfl⟩ := hr
    simp only [wholeRest, Option.map_eq_bind]
    rfl
  · have hr' : ∀ q, r = '.' :: q → False := fun q hq => hr ⟨q, hq⟩
    simp only [wholeRest.eq_2 ds r hr']
    rfl

theorem whole?_stops (p : Text) : Stops whole? p :=
  .bind (digitGroups?_stops isDigit_of_isEnd p) (fun ds q _ => wholeRest_stops ds q) whole?_eq

/-- The letters that announce another base, and the reader of its digits. -/
def base? (c : Char) : Option (Char → Bool) :=
  if c = 'x' ∨ c = 'X' then some isHexDigit
  else if c = 'o' ∨ c = 'O' then some isOctalDigit
  else if c = 'b' ∨ c = 'B' then some isBinaryDigit
  else none

theorem scan?_zero (c : Char) (s : Text) : scan? ('0' :: c :: s) =
    match base? c with
    | some f => (based? f s).map fun x => ('0' :: c :: x.1, x.2)
    | none => whole? ('0' :: c :: s) := by
  unfold scan? base?
  simp only
  split_ifs <;> rfl

theorem base?_of_isEnd {e : Char} (he : isEnd e = true) : base? e = none := by
  have h : ∀ x, isEnd x = false → e ≠ x := fun x hx => ne_of_isEnd he hx
  simp [base?, h 'x' rfl, h 'X' rfl, h 'o' rfl, h 'O' rfl, h 'b' rfl, h 'B' rfl]

theorem base?_not_end {c : Char} {f : Char → Bool} (h : base? c = some f) :
    ∀ e, isEnd e = true → f e = false := by
  intro e he
  unfold base? at h
  split_ifs at h <;> cases h <;> exact eq_false_of_isEnd _ he (by decide)

theorem scan?_stops (p : Text) : Stops scan? p := by
  rcases p with _ | ⟨x, p⟩
  · refine .of_suffix (φ := id) List.suffix_rfl (whole?_stops []) fun e u he => ?_
    rw [scan?.eq_3]
    · simp
    · intro r hr
      exact ne_of_isEnd he rfl (List.cons.inj hr).1
    · intro c r hr
      exact ne_of_isEnd he rfl (List.cons.inj hr).1
  by_cases hdot : x = '.'
  · subst hdot
    exact .of_suffix (φ := fun a => '.' :: a) (List.suffix_cons _ p) (fraction?_stops p)
      fun _ _ _ => rfl
  by_cases hzero : x = '0'
  · subst hzero
    rcases p with _ | ⟨c, p⟩
    · refine .of_suffix (φ := id) List.suffix_rfl (whole?_stops ['0']) fun e u he => ?_
      rw [List.singleton_append, scan?_zero, base?_of_isEnd he]
      simp
    · cases hb : base? c with
      | none =>
        refine .of_suffix (φ := id) List.suffix_rfl (whole?_stops _) fun e u he => ?_
        rw [List.cons_append, List.cons_append, scan?_zero, hb]
        simp
      | some f =>
        refine .of_suffix (φ := fun a => '0' :: c :: a) ⟨['0', c], rfl⟩
          (based?_stops (base?_not_end hb) p) fun e u he => ?_
        rw [List.cons_append, List.cons_append, scan?_zero, hb]
  · refine .of_suffix (φ := id) List.suffix_rfl (whole?_stops (x :: p)) fun e u he => ?_
    rw [scan?.eq_3]
    · simp
    · intro r hr
      exact hdot (List.cons.inj hr).1
    · intro c r hr
      exact hzero (List.cons.inj hr).1

end Number

/-! ## Strings -/

namespace Quotation

theorem scanLine?_quote (q : Char) (s : Text) : scanLine? q (q :: s) = some ([], s) := by
  simp [scanLine?.eq_def]

theorem scanLine?_newline {q : Char} (hq : q ≠ '\n') (s : Text) :
    scanLine? q ('\n' :: s) = none := by
  simp [scanLine?.eq_def, hq.symm]

theorem scanLine?_escape {q : Char} (hq : q ≠ '\\') (d : Char) (s : Text) :
    scanLine? q ('\\' :: d :: s) = (scanLine? q s).map fun p => ('\\' :: d :: p.1, p.2) := by
  rw [scanLine?.eq_def]
  simp [hq.symm]

theorem scanLine?_plain {q c : Char} (hc : c ≠ q) (hn : c ≠ '\n') (hb : c ≠ '\\') (s : Text) :
    scanLine? q (c :: s) = (scanLine? q s).map fun p => (c :: p.1, p.2) := by
  rw [scanLine?.eq_def]
  simp [hc, hn, hb]

theorem scanLine?_short {q : Char} {s : Text} (hs : s.length ≤ 1) (hq : s.head? ≠ some q) :
    scanLine? q s = none := by
  rcases s with _ | ⟨c, _ | ⟨d, s⟩⟩
  · rfl
  · have : c ≠ q := fun h => hq (by rw [h]; rfl)
    rw [scanLine?.eq_def]
    simp [this, scanLine?]
  · simp at hs

theorem scanLine?_stops {q : Char} (hq : isEnd q = false) (hqb : q ≠ '\\') (p : Text) :
    Stops (scanLine? q) p := by
  have hqn : q ≠ '\n' := by
    rintro rfl
    cases hq
  induction hn : p.length using Nat.strongRecOn generalizing p with
  | _ n ih =>
  subst hn
  rcases p with _ | ⟨x, p⟩
  · refine .of_none fun c hc => scanLine?_short (by simp) fun h => ?_
    exact ne_of_isEnd (isEnd_of_isCloser hc) hq (Option.some.inj h)
  by_cases hx : x = q
  · subst hx
    exact .of_some (a := []) (List.suffix_cons x p) fun e u _ => scanLine?_quote x _
  by_cases hl : x = '\n'
  · subst hl
    exact .of_none fun c _ => scanLine?_newline hqn _
  by_cases hb : x = '\\'
  · subst hb
    rcases p with _ | ⟨d, p⟩
    · refine .of_none fun c _ => ?_
      rw [List.singleton_append, scanLine?_escape hqb]
      rfl
    · refine .of_suffix (q := p) (φ := fun a => '\\' :: d :: a) ⟨['\\', d], rfl⟩
        (ih _ (by simp only [List.length_cons]; omega) p rfl) fun e u _ => ?_
      rw [List.cons_append, List.cons_append, scanLine?_escape hqb]
  · refine .of_suffix (φ := fun a => x :: a) (List.suffix_cons x p) (ih _ (by simp) p rfl)
      fun e u _ => ?_
    rw [List.cons_append, scanLine?_plain hx hl hb]

theorem scanBlock?_quote (q a b : Char) (s : Text) : scanBlock? q (q :: a :: b :: s) =
    if a = q ∧ b = q then some ([], s)
    else (scanBlock? q (a :: b :: s)).map fun p => (q :: p.1, p.2) := by
  rw [scanBlock?.eq_def]
  simp

theorem scanBlock?_escape {q : Char} (hq : q ≠ '\\') (d : Char) (s : Text) :
    scanBlock? q ('\\' :: d :: s) = (scanBlock? q s).map fun p => ('\\' :: d :: p.1, p.2) := by
  rw [scanBlock?.eq_def]
  simp [hq.symm]

theorem scanBlock?_plain {q c : Char} (hc : c ≠ q) (hb : c ≠ '\\') (s : Text) :
    scanBlock? q (c :: s) = (scanBlock? q s).map fun p => (c :: p.1, p.2) := by
  rw [scanBlock?.eq_def]
  simp [hc, hb]

theorem scanBlock?_short {q : Char} {s : Text} (hs : s.length ≤ 2) : scanBlock? q s = none := by
  cases h : scanBlock? q s with
  | none => rfl
  | some p =>
    have := scanBlock?_length h
    omega

theorem scanBlock?_stops {q : Char} (hq : isEnd q = false) (hqb : q ≠ '\\') (p : Text) :
    Stops (scanBlock? q) p := by
  induction hn : p.length using Nat.strongRecOn generalizing p with
  | _ n ih =>
  subst hn
  rcases p with _ | ⟨x, p⟩
  · exact .of_none fun c _ => scanBlock?_short (by simp)
  by_cases hx : x = q
  · subst hx
    rcases p with _ | ⟨a, _ | ⟨b, p⟩⟩
    · exact .of_none fun c _ => scanBlock?_short (by simp)
    · refine .of_suffix (φ := fun y => x :: y) (List.suffix_cons x [a]) (ih _ (by simp) [a] rfl)
        fun e u he => ?_
      have : ¬(a = x ∧ e = x) := fun h => ne_of_isEnd he hq h.2
      rw [List.cons_append, List.singleton_append, scanBlock?_quote, if_neg this]
    · by_cases hab : a = x ∧ b = x
      · refine .of_some (a := []) (q := p) ⟨[x, a, b], rfl⟩ fun e u _ => ?_
        simp only [List.cons_append]
        rw [scanBlock?_quote, if_pos hab]
      · refine .of_suffix (φ := fun y => x :: y) (List.suffix_cons x _)
          (ih _ (by simp) (a :: b :: p) rfl) fun e u _ => ?_
        simp only [List.cons_append]
        rw [scanBlock?_quote, if_neg hab]
  by_cases hb : x = '\\'
  · subst hb
    rcases p with _ | ⟨d, p⟩
    · exact .of_none fun c _ => scanBlock?_short (by simp)
    · refine .of_suffix (q := p) (φ := fun a => '\\' :: d :: a) ⟨['\\', d], rfl⟩
        (ih _ (by simp only [List.length_cons]; omega) p rfl) fun e u _ => ?_
      rw [List.cons_append, List.cons_append, scanBlock?_escape hqb]
  · refine .of_suffix (φ := fun a => x :: a) (List.suffix_cons x p) (ih _ (by simp) p rfl)
      fun e u _ => ?_
    rw [List.cons_append, scanBlock?_plain hx hb]

end Quotation

namespace Lexer

theorem string?_block (tag : Text) (q : Char) (s : Text) : string? tag (q :: q :: q :: s) =
    (Quotation.scanBlock? q s).map fun p => (.string tag [q, q, q] p.1, p.2) := by
  simp [string?]

theorem string?_line (tag : Text) (q : Char) {s : Text}
    (hs : ∀ r, s = q :: q :: r → False) : string? tag (q :: s) =
      (Quotation.scanLine? q s).map fun p => (.string tag [q] p.1, p.2) := by
  rcases s with _ | ⟨a, _ | ⟨b, s⟩⟩
  · rfl
  · rfl
  · have : ¬(a = q ∧ b = q) := fun h => hs s (by rw [h.1, h.2])
    simp [string?, this]

theorem isQuote_iff {q : Char} : isQuote q = true ↔ q = '\'' ∨ q = '"' := by
  simp [isQuote]

theorem isQuote_eq_false_of {f : Char → Bool} {c : Char} (hc : f c = true)
    (hf : f '\'' = false ∧ f '"' = false) : isQuote c = false := by
  rw [← Bool.not_eq_true, isQuote_iff]
  rintro (rfl | rfl)
  · exact Bool.false_ne_true (hf.1.symm.trans hc)
  · exact Bool.false_ne_true (hf.2.symm.trans hc)

theorem isQuote_facts {q : Char} (hq : isQuote q = true) : isEnd q = false ∧ q ≠ '\\' := by
  rcases isQuote_iff.1 hq with rfl | rfl <;> decide

theorem string?_stops (tag : Text) {q : Char} (hq : isQuote q = true) (p : Text) :
    Stops (string? tag) (q :: p) := by
  obtain ⟨hend, hback⟩ := isQuote_facts hq
  by_cases hb : ∃ r, p = q :: q :: r
  · obtain ⟨r, rfl⟩ := hb
    refine .of_suffix (q := r) (φ := fun a => .string tag [q, q, q] a) ⟨[q, q, q], rfl⟩
      (Quotation.scanBlock?_stops hend hback r) fun e u _ => ?_
    simp only [List.cons_append]
    rw [string?_block]
  · refine .of_suffix (φ := fun a => .string tag [q] a) (List.suffix_cons q p)
      (Quotation.scanLine?_stops hend hback p) fun e u he => ?_
    rw [List.cons_append, string?_line]
    intro r hr
    rcases p with _ | ⟨a, _ | ⟨b, p⟩⟩
    · exact ne_of_isEnd he hend (List.cons.inj hr).1
    · exact ne_of_isEnd he hend (List.cons.inj (List.cons.inj hr).2).1
    · simp only [List.cons_append, List.cons.injEq] at hr
      exact hb ⟨p, by rw [hr.1, hr.2.1]⟩

/-! ## Words, marks and steps -/

theorem takeWhile_append_end {e : Char} {f : Char → Bool} (he : f e = false) (p u : Text) :
    (p ++ e :: u).takeWhile f = p.takeWhile f ∧
      (p ++ e :: u).dropWhile f = p.dropWhile f ++ e :: u := by
  induction p with
  | nil => simp [he]
  | cons x p ih => by_cases hx : f x = true <;> simp [hx, ih]

/-- What a word is, when it is followed by `r`. -/
def wordBefore (w r : Text) : Option (Token × Text) :=
  match Keyword.ofText? w with
  | some k => some (.keyword k, r)
  | none => if Text.isIdentifier w then some (.name w, r) else none

theorem word?_eq (s : Text) : word? s =
    if (s.dropWhile Number.isWordPart).head?.any isQuote &&
        Quotation.isTag (s.takeWhile Number.isWordPart) then
      string? (s.takeWhile Number.isWordPart) (s.dropWhile Number.isWordPart)
    else wordBefore (s.takeWhile Number.isWordPart) (s.dropWhile Number.isWordPart) := rfl

theorem wordBefore_stops (w : Text) (p : Text) : Stops (wordBefore w) p := by
  unfold wordBefore
  split
  · exact .of_some List.suffix_rfl fun _ _ _ => rfl
  · split
    · exact .of_some List.suffix_rfl fun _ _ _ => rfl
    · exact .of_none fun _ _ => rfl

theorem word?_stops (p : Text) : Stops word? p := by
  have hw : ∀ e, isEnd e = true → Number.isWordPart e = false := fun e he =>
    eq_false_of_isEnd _ he (by decide)
  have hsuf : p.dropWhile Number.isWordPart <:+ p := List.dropWhile_suffix _
  have hhead : ∀ e u, isEnd e = true → (p.dropWhile Number.isWordPart ++ e :: u).head?.any isQuote =
      (p.dropWhile Number.isWordPart).head?.any isQuote := by
    intro e u he
    cases p.dropWhile Number.isWordPart with
    | nil => simp [eq_false_of_isEnd isQuote he (by decide)]
    | cons x r => rfl
  by_cases hq : ((p.dropWhile Number.isWordPart).head?.any isQuote &&
      Quotation.isTag (p.takeWhile Number.isWordPart)) = true
  · have hstr :
        Stops (string? (p.takeWhile Number.isWordPart)) (p.dropWhile Number.isWordPart) := by
      rw [Bool.and_eq_true] at hq
      cases hd : p.dropWhile Number.isWordPart with
      | nil => simp [hd] at hq
      | cons x r =>
        rw [hd] at hq
        exact string?_stops _ hq.1 r
    refine .of_suffix (φ := id) hsuf hstr fun e u he => ?_
    obtain ⟨h₁, h₂⟩ := takeWhile_append_end (hw e he) p u
    rw [word?_eq, h₁, h₂, hhead e u he, if_pos hq]
    simp
  · refine .of_suffix (φ := id) hsuf (wordBefore_stops (p.takeWhile Number.isWordPart) _)
      fun e u he => ?_
    obtain ⟨h₁, h₂⟩ := takeWhile_append_end (hw e he) p u
    rw [word?_eq, h₁, h₂, hhead e u he, if_neg hq]
    simp

theorem after?_append_end {w : Text} {e : Char} (he : e ∉ w) (p u : Text) :
    Text.after? w (p ++ e :: u) = (Text.after? w p).map (· ++ e :: u) := by
  induction w generalizing p with
  | nil => rfl
  | cons a w ih =>
    rcases p with _ | ⟨x, p⟩
    · have : a ≠ e := fun h => he (by simp [h])
      simp [Text.after?, this]
    · have := ih (fun h => he (by simp [h])) p
      by_cases hx : a = x <;> simp [Text.after?, hx, this]

theorem findSome?_map {γ δ ε : Type} {l : List γ} {f : γ → Option δ} {g : γ → Option ε} {φ : ε → δ}
    (h : ∀ x ∈ l, f x = (g x).map φ) : l.findSome? f = (l.findSome? g).map φ := by
  induction l with
  | nil => rfl
  | cons x l ih =>
    rw [List.findSome?_cons, List.findSome?_cons, h x (by simp)]
    cases g x with
    | none => exact ih fun y hy => h y (by simp [hy])
    | some z => rfl

theorem forall_mem_symbol {f : Char → Bool} (h : (symbols.all fun w => w.1.all f) = true) :
    ∀ w ∈ symbols, ∀ x ∈ w.1, f x = true := fun w hw =>
  List.all_eq_true.1 (List.all_eq_true.1 h w hw)

theorem forall_mem_symbol_tail {f : Char → Bool}
    (h : (symbols.all fun w => w.1.tail.all f) = true) :
    ∀ w ∈ symbols, ∀ x ∈ w.1.tail, f x = true := fun w hw =>
  List.all_eq_true.1 (List.all_eq_true.1 h w hw)

/-- No mark of the grammar goes on with an end mark. -/
theorem not_mem_symbol : ∀ w ∈ symbols, ∀ x ∈ w.1.tail, isEnd x = false := by
  intro w hw x hx
  simpa using forall_mem_symbol_tail (f := fun x => !isEnd x) (by decide) w hw x hx

/-- A character inside of no mark does not matter for the mark in front of it. -/
theorem symbol?_append_of_not_mem {x e : Char} (he : ∀ w ∈ symbols, e ∉ w.1.tail) (p u : Text) :
    symbol? (x :: p ++ e :: u) = (symbol? (x :: p)).map fun y => (y.1, y.2 ++ e :: u) := by
  refine findSome?_map fun w hw => ?_
  have hmem := he w hw
  have : Text.after? w.1 (x :: p ++ e :: u) = (Text.after? w.1 (x :: p)).map (· ++ e :: u) := by
    cases hs : w.1 with
    | nil => rfl
    | cons a v =>
      rw [hs] at hmem
      rw [List.cons_append, Text.after?, Text.after?]
      by_cases hx : a = x
      · rw [if_pos hx, if_pos hx]
        exact after?_append_end hmem p u
      · rw [if_neg hx, if_neg hx]
        rfl
  rw [this]
  simp [Function.comp_def]

theorem symbol?_append {x e : Char} (he : isEnd e = true) (p u : Text) :
    symbol? (x :: p ++ e :: u) = (symbol? (x :: p)).map fun y => (y.1, y.2 ++ e :: u) := by
  refine symbol?_append_of_not_mem (fun w hw h => ?_) p u
  rw [not_mem_symbol w hw e h] at he
  cases he

theorem symbol?_suffix {s r : Text} {m : Symbol} (h : symbol? s = some (m, r)) : r <:+ s := by
  obtain ⟨w, _, hw⟩ := List.exists_of_findSome?_eq_some h
  obtain ⟨q, hq, he⟩ := Option.map_eq_some_iff.1 hw
  cases he
  exact ⟨w.1, (Text.eq_append_of_after? hq).symm⟩

theorem symbol?_stops (x : Char) (p : Text) : Stops symbol? (x :: p) := by
  cases h : symbol? (x :: p) with
  | none => exact .of_none fun c hc => by rw [symbol?_append (isEnd_of_isCloser hc), h]; rfl
  | some y =>
    exact .of_some (symbol?_suffix h) fun e u he => by rw [symbol?_append he, h]; rfl

/-- A step as what it finds and the rest. -/
def Step.pair (σ : Step) : List Token × Text := (σ.tokens, σ.rest)

/-- A character that begins a token of its own kind. -/
def beginsToken (x : Char) : Prop :=
  ¬(x = ' ' ∨ x = '\t' ∨ x = Char.ofNat 12) ∧ x ≠ '\n' ∧ x ≠ '#' ∧ x ≠ '\\'

theorem step?_token {x : Char} (hx : beginsToken x) (s : Text) : step? (x :: s) =
    if isQuote x then tokenStep (string? [] (x :: s))
    else if x.isDigit || (x == '.' && s.head?.any Char.isDigit) then
      tokenStep ((Number.scan? (x :: s)).map fun p => (.number p.1, p.2))
    else if isWordHead x then tokenStep (word? (x :: s))
    else tokenStep ((symbol? (x :: s)).map fun p => (.symbol p.1, p.2)) := by
  obtain ⟨h₁, h₂, h₃, h₄⟩ := hx
  unfold step?
  simp only [h₁, h₂, h₃, h₄, if_false]

theorem step?_token_stops {x : Char} (hx : beginsToken x) (p : Text) :
    Stops (fun s => (step? s).map Step.pair) (x :: p) := by
  have pair : ∀ o : Option (Token × Text),
      (tokenStep o).map Step.pair = o.map fun y => ([y.1], y.2) := by
    intro o
    simp [tokenStep, Function.comp_def, Step.pair, Step.tokens, Step.rest]
  by_cases hq : isQuote x = true
  · refine .of_suffix (φ := fun t => [t]) List.suffix_rfl (string?_stops [] hq p) fun e u _ => ?_
    rw [List.cons_append, step?_token hx, if_pos hq, pair]
  have hdigit : ∀ e u, isEnd e = true → (x.isDigit || (x == '.' && (p ++ e :: u).head?.any
      Char.isDigit)) = (x.isDigit || (x == '.' && p.head?.any Char.isDigit)) := by
    intro e u he
    cases p with
    | nil => simp [Number.isDigit_of_isEnd e he]
    | cons y p => rfl
  by_cases hd : (x.isDigit || (x == '.' && p.head?.any Char.isDigit)) = true
  · refine .of_suffix (φ := fun a => [.number a]) List.suffix_rfl
      (Number.scan?_stops (x :: p)) fun e u he => ?_
    rw [List.cons_append, step?_token hx, if_neg hq, if_pos (by rw [hdigit e u he]; exact hd), pair]
    simp [Function.comp_def]
  have hd' : ∀ e u, isEnd e = true → ¬(x.isDigit || (x == '.' && (p ++ e :: u).head?.any
      Char.isDigit)) = true := fun e u he => by rw [hdigit e u he]; exact hd
  by_cases hw : isWordHead x = true
  · refine .of_suffix (φ := fun t => [t]) List.suffix_rfl (word?_stops (x :: p)) fun e u he => ?_
    rw [List.cons_append, step?_token hx, if_neg hq, if_neg (hd' e u he), if_pos hw, pair]
  · refine .of_suffix (φ := fun a => [.symbol a]) List.suffix_rfl (symbol?_stops x p)
      fun e u he => ?_
    rw [List.cons_append, step?_token hx, if_neg hq, if_neg (hd' e u he), if_neg hw, pair]
    simp [Function.comp_def]

theorem dropWhile_append_of_mem {f : Char → Bool} {c : Char} (hc : f c = false) {p : Text}
    (hp : c ∈ p) (r : Text) : (p ++ r).dropWhile f = p.dropWhile f ++ r := by
  induction p with
  | nil => cases hp
  | cons x p ih =>
    by_cases hx : f x = true
    · have : c ∈ p := by
        rcases List.mem_cons.1 hp with rfl | h
        · rw [hc] at hx
          cases hx
        · exact h
      simp [hx, ih this]
    · simp [hx]

theorem step?_backslash_eq (s : Text) : step? ('\\' :: s) = match s with
    | '\n' :: d :: r => some (.skip (d :: r))
    | _ => none := rfl

theorem step?_backslash {s : Text} (hs : ∀ d r, s = '\n' :: d :: r → False) :
    (step? ('\\' :: s)).map Step.pair = none := by
  rw [step?_backslash_eq]
  split
  next d r => exact (hs d r rfl).elim
  next => rfl

/-- What a step finds in front of an end mark, comments without a line end apart. -/
theorem step?_stops {x : Char} {p : Text} (hx : x = '#' → '\n' ∈ p) :
    Stops (fun s => (step? s).map Step.pair) (x :: p) := by
  by_cases h₁ : x = ' ' ∨ x = '\t' ∨ x = Char.ofNat 12
  · refine .of_some (a := []) (List.suffix_cons x p) fun e u _ => ?_
    simp [step?, h₁, Step.pair, Step.tokens, Step.rest]
  by_cases h₂ : x = '\n'
  · subst h₂
    exact .of_some (a := [.newline]) (List.suffix_cons _ p) fun e u _ => rfl
  by_cases h₃ : x = '#'
  · subst h₃
    refine .of_some (a := []) ((List.dropWhile_suffix (· != '\n')).trans (List.suffix_cons _ p))
      fun e u _ => ?_
    have : step? ('#' :: p ++ e :: u) = some (.skip ((p ++ e :: u).dropWhile (· != '\n'))) := rfl
    rw [this, dropWhile_append_of_mem (by simp) (hx rfl)]
    rfl
  by_cases h₄ : x = '\\'
  · subst h₄
    by_cases hp : ∃ q, p = '\n' :: q
    · obtain ⟨q, rfl⟩ := hp
      refine .of_some (a := []) (q := q) ⟨['\\', '\n'], rfl⟩ fun e u _ => ?_
      cases q <;> rfl
    · refine .of_none fun c hc => ?_
      rw [List.cons_append, step?_backslash]
      intro d r hr
      rcases p with _ | ⟨y, p⟩
      · cases (List.cons.inj hr).2
      · exact hp ⟨p, by rw [(List.cons.inj hr).1]⟩
  · exact step?_token_stops ⟨h₁, h₂, h₃, h₄⟩ p

/-! ## Texts that are read up to an end mark -/

/-- A step in front of a closing bracket: it does not reach the bracket, and is the same in front
of every end mark, unless a comment takes the bracket with it. -/
theorem step?_closer {c x : Char} (hc : isCloser c = true) {p : Text} {σ : Step}
    (h : step? (x :: p ++ [c]) = some σ) :
    (x = '#' ∧ '\n' ∉ p ∧ σ.rest = []) ∨ ∃ q, q <:+ x :: p ∧ σ.rest = q ++ [c] ∧
      ∀ e u, isEnd e = true → ∃ τ, step? (x :: p ++ e :: u) = some τ ∧
        τ.tokens = σ.tokens ∧ τ.rest = q ++ e :: u := by
  by_cases hx : x = '#' ∧ '\n' ∉ p
  · obtain ⟨rfl, hp⟩ := hx
    have hstep : step? ('#' :: p ++ [c]) = some (.skip ((p ++ [c]).dropWhile (· != '\n'))) := rfl
    cases hstep.symm.trans h
    refine .inl ⟨rfl, hp, ?_⟩
    have hall : ∀ y ∈ p ++ [c], (y != '\n') = true := by
      intro y hy
      rw [bne_iff_ne]
      rintro rfl
      rcases List.mem_append.1 hy with hy | hy
      · exact hp hy
      · cases List.mem_singleton.1 hy
        cases hc
    exact List.dropWhile_eq_nil_iff.2 hall
  · have hx' : x = '#' → '\n' ∈ p := fun he => by simpa [he] using hx
    obtain ⟨q, hq, hr, hread⟩ := step?_stops hx' c σ.tokens σ.rest hc
      (Option.map_eq_some_iff.2 ⟨σ, h, rfl⟩)
    refine .inr ⟨q, hq, hr, fun e u he => ?_⟩
    obtain ⟨τ, hτ, hp⟩ := Option.map_eq_some_iff.1 (hread e u he)
    exact ⟨τ, hτ, congrArg Prod.fst hp, congrArg Prod.snd hp⟩

/-- What stands in front of a closing bracket is read alike in front of every end mark. -/
theorem Reads.swap {c : Char} (hc : isCloser c = true) {p : Text} {ts : List Token}
    (h : Reads (p ++ [c]) ts [c]) {e : Char} (he : isEnd e = true) (u : Text) :
    Reads (p ++ e :: u) ts (e :: u) := by
  generalize hs : p ++ [c] = s at h
  generalize hw : [c] = w at h
  induction h generalizing p with
  | refl =>
    obtain rfl : p = [] := by simpa using hs.trans hw.symm
    exact .refl
  | @step s σ ts w hstep hr tail ih =>
    subst hs hw
    have hpos : 1 ≤ σ.rest.length := by simpa using tail.length_le
    rcases p with _ | ⟨x, p⟩
    · simp only [List.nil_append, List.length_singleton] at hr
      omega
    rcases step?_closer hc hstep with ⟨-, -, h₀⟩ | ⟨q, hq, h₀, hread⟩
    · simp [h₀] at hpos
    obtain ⟨τ, hτ, htok, hrest⟩ := hread e u he
    rw [← htok]
    refine .step hτ ?_ (hrest ▸ ih h₀.symm rfl)
    rw [hrest]
    simp [h₀] at hr ⊢
    omega

/-- The mark of a closing bracket. -/
def closer (c : Char) : Symbol := if c = ')' then .parenClose else .squareClose

theorem step?_single {c : Char} (hc : isCloser c = true) (r : Text) :
    step? (c :: r) = some (.token (.symbol (closer c)) r) := by
  simp only [isCloser, Bool.or_eq_true, beq_iff_eq] at hc
  rcases hc with rfl | rfl <;> rfl

theorem Reads.nil_eq {ts : List Token} {u : Text} (h : Reads [] ts u) : ts = [] := by
  cases h with
  | refl => rfl
  | step h => cases h

/-- The closing bracket behind a line end is the last token. -/
theorem Reads.last {c : Char} (hc : isCloser c = true) {p : Text} {ts : List Token}
    (hp : p = [] ∨ ['\n'] <:+ p) (h : Reads (p ++ [c]) ts []) :
    ∃ us, ts = us ++ [.symbol (closer c)] ∧ Reads (p ++ [c]) us [c] := by
  generalize hs : p ++ [c] = s at h
  generalize hw : ([] : Text) = w at h
  induction h generalizing p with
  | refl => simp [← hw] at hs
  | @step s σ ts w hstep hr tail ih =>
    subst hs hw
    rcases p with _ | ⟨x, p⟩
    · cases (step?_single hc []).symm.trans hstep
      have := tail.nil_eq
      subst this
      exact ⟨[], rfl, .refl⟩
    have hend : ['\n'] <:+ x :: p := by simpa using hp
    rcases step?_closer hc hstep with ⟨rfl, hmem, -⟩ | ⟨q, hq, h₀, -⟩
    · obtain ⟨a, ha⟩ := hend
      rcases a with _ | ⟨y, a⟩
      · cases ha
      · have := (List.cons.inj ha).2
        exact absurd (by simp [← this]) hmem
    · have hq' : q = [] ∨ ['\n'] <:+ q := by
        rcases q with _ | ⟨y, q⟩
        · exact .inl rfl
        · exact .inr (List.suffix_of_suffix_length_le hend hq (by simp))
      obtain ⟨us, rfl, hus⟩ := ih hq' h₀.symm rfl
      exact ⟨σ.tokens ++ us, by simp, .step hstep hr (h₀ ▸ hus)⟩

end Lexer

end Stencil
