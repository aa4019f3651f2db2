import Mathlib.Data.List.Induction
import Stencil.Proofs.Expr.Contents
import Stencil.Proofs.Template.Concatenation

/-! # Templates of a single interpolation

The source of a single interpolation is read in square brackets. In parentheses it would be the same
expression, unless it is one element with a comma behind it, which makes a tuple there. -/
namespace Stencil

namespace Parser

variable {c : Tokens} {es : List Expr} {e : Expr}

theorem balanced_of_square {n : Nat} (hne : es ≠ [])
    (h : atom n (inSquares c) = some (.list es, [])) : Balanced c := by
  rcases n with _ | _ | n
  · cases h
  · cases h
  rw [inSquares, atom] at h
  have hl := Local.all n
  rcases c with _ | ⟨t, c⟩
  · exact ⟨0, .nil⟩
  by_cases ht : t = .symbol .squareClose
  · subst ht
    rw [List.cons_append, square] at h
    have hnil := (Prod.mk.inj (Option.some.inj h)).1
    exact absurd (Expr.list.inj hnil).symm hne
  · obtain ⟨u, d, e, content, hd, hb, -, -, -⟩ := display_spec square_isDisplay hl.element
      hl.elements hl.clauses (by simpa using fun h => ht h) h
    have hcd : t :: c = u :: d := (List.append_inj' hd rfl).1
    rw [hcd]
    exact hb

/-- In parentheses a list of elements is the expression it stands for, unless the list is a single
element; then a comma behind it makes a tuple. -/
theorem eq_of_inSquares (hb : Balanced c) (hne : es ≠ []) (hs : IsOperand (inSquares c) (.list es))
    (hp : IsOperand (inParens c) e) :
    e = Expr.listed es ∨ ∃ x, x.isSpread = false ∧ es = [x] ∧ e = .tuple [x] := by
  have hc : c ≠ [] := by
    rintro rfl
    cases isOperand_inSquares_nil_iff.1 hs
    exact hne rfl
  obtain ⟨hy, x, content, hx⟩ := content_of_inSquares hb hc hs
  rw [isOperand_inSquares_iff hx hb] at hs
  rw [isOperand_inParens_iff hx hb hy] at hp
  cases content with
  | one =>
    cases hs
    simp only [DisplayKind.value, DisplayKind.parens] at hp
    split_ifs at hp with hspread
    cases hp
    left
    rw [Expr.listed, if_neg hspread]
  | more ys =>
    cases hs
    cases hp
    rcases ys with _ | ⟨y, ys⟩
    · cases hspread : x.isSpread with
      | true =>
        left
        rw [Expr.listed, if_pos hspread]
        rfl
      | false => exact .inr ⟨x, hspread, rfl, rfl⟩
    · exact .inl rfl
  | iteration => cases hs

end Parser

open Lexer in
/-- What a source in parentheses is read as. -/
theorem eq_of_parse?_parens {source : Text} {es : List Expr} {e : Expr} (hne : es ≠ [])
    (hs : Parser.parse? (bracketed source) = some (.list es))
    (he : Parser.parse? ('(' :: source ++ ['\n', ')']) = some e) :
    e = Expr.listed es ∨ ∃ x, x.isSpread = false ∧ es = [x] ∧ e = .tuple [x] := by
  obtain ⟨us, hus, -⟩ := Option.bind_eq_some_iff.1 hs
  obtain ⟨ws, hws, -⟩ := Option.bind_eq_some_iff.1 he
  have hsquares : bracketed source = '[' :: (source ++ ['\n']) ++ [']'] := by simp [bracketed]
  have hparens : '(' :: source ++ ['\n', ')'] = '(' :: (source ++ ['\n']) ++ [')'] := by simp
  obtain ⟨ts, hts, rfl⟩ := holds_of_tokens? (by decide) step?_square rfl (hsquares ▸ hus)
  obtain ⟨ts', hts', rfl⟩ := holds_of_tokens? (by decide) step?_paren rfl (hparens ▸ hws)
  obtain rfl := hts.unique hts'
  obtain ⟨m, hm⟩ := Parser.atom_of_parse?_list hus rfl hs
  have hb := Parser.balanced_of_square hne hm
  exact Parser.eq_of_inSquares hb hne
    ((Parser.parse?_eq_some_iff hus (Parser.isDelimited_squares hb)).1 hs)
    ((Parser.parse?_eq_some_iff hws (Parser.isDelimited_parens hb)).1 he)

/-! ## Sums of texts -/

namespace Value

theorem content_constant {v : Value} {s : Text} (h : v.content = .text s) :
    v.constant.content = .text s := by
  obtain ⟨i, c⟩ := v
  cases h
  rfl

/-- To a text only a text can be added. -/
theorem add_text {v w x : Value} {s : Text} (hv : v.content = .text s) (h : add v w = .ok x) :
    ∃ t, w.content = .text t ∧ x.content = .text (s ++ t) := by
  obtain ⟨i, c⟩ := v
  obtain ⟨j, k⟩ := w
  cases hv
  cases k with
  | text t =>
    refine ⟨t, rfl, ?_⟩
    cases h
    rcases t with _ | ⟨b, t⟩
    · simp
    · rcases s with _ | ⟨a, s⟩ <;> rfl
  | _ => cases h

end Value

namespace Expr

theorem content_of_finished {e : Expr} {place : List Nat} {r : Outcome Value} {v : Value}
    (h : finished e place r = .ok v) :
    ∃ w, r = .ok w ∧ ∀ t, w.content = .text t → v.content = .text t := by
  unfold finished at h
  cases r with
  | error f => split_ifs at h <;> cases h
  | ok w =>
    refine ⟨w, rfl, fun t ht => ?_⟩
    split_ifs at h
    · cases h
      exact Value.content_settle (Value.content_constant ht) _ _
    · cases h
      exact Value.content_settle ht _ _

/-- A sum that begins with a text has a value only if each operand is a text. -/
theorem texts_of_eval_foldl {env : Env} {es : List Expr} {place : List Nat} {v : Value}
    (h : eval env place (es.foldl (.binary .add) (.text [])) = .ok v) :
    ∃ ts, List.Forall₂ (fun e t => ∃ q w, eval env q e = .ok w ∧ w.content = .text t) es ts ∧
      v.content = .text ts.flatten := by
  induction es using List.reverseRecOn generalizing place v with
  | nil =>
    cases h
    exact ⟨[], .nil, rfl⟩
  | append_singleton es e ih =>
    rw [List.foldl_append, List.foldl_cons, List.foldl_nil, eval] at h
    cases hsum : eval env (0 :: place) (es.foldl (.binary .add) (.text [])) with
    | error f =>
      rw [hsum] at h
      cases h
    | ok x =>
      rw [hsum] at h
      obtain ⟨ts, hts, hx⟩ := ih hsum
      cases hlast : eval env (1 :: place) e with
      | error f =>
        rw [hlast] at h
        cases h
      | ok w =>
        rw [hlast] at h
        obtain ⟨y, hy, hv⟩ := content_of_finished h
        obtain ⟨t, ht, hyt⟩ := Value.add_text hx hy
        refine ⟨ts ++ [t], List.rel_append hts (.cons ⟨_, w, hlast, ht⟩ .nil), ?_⟩
        rw [hv _ hyt, List.flatten_append]
        simp

end Expr

namespace Template

/-- The source is one element with a comma behind it, and in parentheses it is a tuple. -/
def IsLoneElement (source : Text) (x e : Expr) : Prop :=
  x.isSpread = false ∧ Parser.parse? (bracketed source) = some (.list [x]) ∧ e = .tuple [x]

variable {d : Dialect} {s : Text} {c : Compiled} {e : Expr}

/-- A template renders what the elements of its source stand for. -/
theorem render_eq_rendered (hc : compile d s = .ok (.compiled c)) :
    ∃ es, es ≠ [] ∧ Parser.parse? (bracketed c.source) = some (.list es) ∧
      ∀ r data, c.render r data = (Expr.listed es).rendered ⟨r, data⟩ := by
  obtain ⟨-, -, src, -, hsrc⟩ := compile_eq_ok_iff.1 hc
  obtain ⟨es, hne, hes, -, rfl⟩ := Compiled.ofSource_eq_ok_iff.1 hsrc
  exact ⟨es, hne, hes, fun r data =>
    Expr.eval_emission (Expr.isRegular_listed (Parser.isRegular_of_parse? hes)) _⟩

end Template

end Stencil
