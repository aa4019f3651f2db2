import Stencil.Template.Dialect

/-! # The pieces of a template text

A text is read as literal stretches and interpolations. An interpolation is the shortest stretch of
at least one character between an opening and a closing mark, and the first one wins. -/
namespace Stencil

inductive Piece
  | literal (s : Text)
  | interpolation (code : Text)
  deriving DecidableEq

namespace Piece

def isInterpolation : Piece → Bool
  | literal _ => false
  | interpolation _ => true

def text : Piece → Text
  | literal s => s
  | interpolation s => s

/-- What stands between the marks of the interpolation at the head of a text, and the rest. -/
def inside? (d : Dialect) (s : Text) : Option (Text × Text) := do
  match ← Text.after? d.opening s with
  | [] => none
  | c :: r => (Text.breakAt? d.closing r).map fun b => (c :: b.1, b.2)

/-- The text before the first interpolation, what stands between its marks, and the rest. -/
def next? (d : Dialect) : Text → Option (Text × Text × Text)
  | [] => none
  | c :: s =>
    match inside? d (c :: s) with
    | some m => some ([], m)
    | none => (next? d s).map fun m => (c :: m.1, m.2)

theorem inside?_length {d : Dialect} {s e r : Text} (h : inside? d s = some (e, r)) :
    r.length < s.length := by
  unfold inside? at h
  cases ho : Text.after? d.opening s with
  | none => simp [ho] at h
  | some t =>
    have hs := Text.eq_append_of_after? ho
    cases t with
    | nil => simp [ho] at h
    | cons c t =>
      simp only [ho, Option.bind_eq_bind, Option.bind_some] at h
      obtain ⟨⟨a, b⟩, hb, he⟩ := Option.map_eq_some_iff.1 h
      cases he
      rw [hs, Text.eq_of_breakAt? hb]
      simp; omega

theorem next?_length {d : Dialect} {s l e r : Text} (h : next? d s = some (l, e, r)) :
    r.length < s.length := by
  induction s generalizing l with
  | nil => simp [next?] at h
  | cons c s ih =>
    cases hi : inside? d (c :: s) with
    | some m =>
      simp only [next?, hi, Option.some.injEq, Prod.mk.injEq] at h
      obtain ⟨-, rfl⟩ := h
      exact inside?_length hi
    | none =>
      simp only [next?, hi] at h
      obtain ⟨⟨a, b⟩, hb, he⟩ := Option.map_eq_some_iff.1 h
      cases he
      have := ih hb
      simp; omega

/-- Literal text as pieces: none if it is empty. -/
def ofLiteral (s : Text) : List Piece := if s.isEmpty then [] else [literal s]

/-- The pieces of a text in order. Literal pieces are not empty; interpolations are without their
blank margins. -/
def ofText (d : Dialect) (s : Text) : List Piece :=
  match _h : next? d s with
  | none => ofLiteral s
  | some m => ofLiteral m.1 ++ interpolation (Text.strip m.2.1) :: ofText d m.2.2
termination_by s.length
decreasing_by exact next?_length _h

/-- Is there an interpolation in the text? -/
def occursIn (d : Dialect) (s : Text) : Bool := (next? d s).isSome

/-- The code of a text that is one interpolation, blank margins apart. -/
def single? (d : Dialect) (s : Text) : Option Text :=
  match ofText d (Text.strip s) with
  | [interpolation code] => some code
  | _ => none

/-- The code of a text that is one interpolation; any other text as it is. -/
def unwrap (d : Dialect) (s : Text) : Text := (single? d s).getD s

/-- The text between marks, unless it holds an interpolation already. -/
def wrap (d : Dialect) (s : Text) : Text :=
  if occursIn d s then s else d.opening ++ s ++ d.closing

end Piece
end Stencil
