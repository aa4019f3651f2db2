/-! # Texts -/
namespace Stencil

/-- A text is the list of its characters: lengths, positions and cuts count characters. -/
abbrev Text := List Char

namespace Text

/-- A table of code points, as first and last of each stretch. -/
abbrev Spans := List (Nat × Nat)

def Spans.has (t : Spans) (n : Nat) : Bool :=
  t.any fun s => decide (s.1 ≤ n) && decide (n ≤ s.2)

def isAscii (c : Char) : Bool := c.toNat < 128

/-- What follows `p` in `s`, if `s` begins with `p`. -/
def after? : (p s : Text) → Option Text
  | [], s => some s
  | _ :: _, [] => none
  | a :: p, c :: s => if a = c then after? p s else none

theorem after?_append (p s : Text) : after? p (p ++ s) = some s := by
  induction p with
  | nil => rfl
  | cons a p ih => simp [after?, ih]

theorem eq_append_of_after? {p s r : Text} (h : after? p s = some r) : s = p ++ r := by
  induction p generalizing s with
  | nil => simp_all [after?]
  | cons a p ih =>
    cases s with
    | nil => simp [after?] at h
    | cons c s =>
      by_cases hc : a = c
      · subst hc; simp [after?] at h; simp [ih h]
      · simp [after?, hc] at h

theorem after?_eq_some_iff {p s r : Text} : after? p s = some r ↔ s = p ++ r :=
  ⟨eq_append_of_after?, fun h => h ▸ after?_append p r⟩

/-- The text before the first occurrence of `p` and the text after it. -/
def breakAt? (p : Text) : Text → Option (Text × Text)
  | [] => (after? p []).map ([], ·)
  | c :: s =>
    match after? p (c :: s) with
    | some r => some ([], r)
    | none => (breakAt? p s).map fun b => (c :: b.1, b.2)

theorem eq_of_breakAt? {p s a b : Text} (h : breakAt? p s = some (a, b)) : s = a ++ p ++ b := by
  induction s generalizing a b with
  | nil =>
    obtain ⟨r, hr, he⟩ := Option.map_eq_some_iff.1 h
    cases he
    simpa using eq_append_of_after? hr
  | cons c s ih =>
    cases hp : after? p (c :: s) with
    | some r =>
      simp only [breakAt?, hp, Option.some.injEq, Prod.mk.injEq] at h
      obtain ⟨rfl, rfl⟩ := h
      simpa using eq_append_of_after? hp
    | none =>
      simp only [breakAt?, hp] at h
      obtain ⟨⟨x, y⟩, hx, he⟩ := Option.map_eq_some_iff.1 h
      cases he
      simp [ih hx]

/-- Does `p` occur in `s`? -/
def occurs (p s : Text) : Bool := (breakAt? p s).isSome

/-- `xs` with `sep` between neighbours. -/
def join (sep : Text) : List Text → Text
  | [] => []
  | [x] => x
  | x :: y :: xs => x ++ sep ++ join sep (y :: xs)

/-- Digits of `n` in the given base, most significant first. -/
def digits (base n : Nat) : Text := Nat.toDigits base n

/-- The decimal text of an integer. -/
def ofInt (i : Int) : Text :=
  match i with
  | .ofNat n => digits 10 n
  | .negSucc n => '-' :: digits 10 (n + 1)

/-- Hexadecimal digits of `n`, filled up with zeros to `width`. -/
def hex (width n : Nat) : Text :=
  let ds := digits 16 n
  List.replicate (width - ds.length) '0' ++ ds

end Text
end Stencil
