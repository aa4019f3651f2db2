import Stencil.Proofs.Template.Composition

/-! # What a name alone stands for

A template of one free name gives the entry of the data under the name or, if the data are no
mapping, their attribute; else the filter that is registered under the name. There is no other place
where the name is looked up, and if none of them has it, the name is unbound. -/
namespace Stencil

namespace Env

/-- The data have nothing under a name. A mapping has entries alone, and all else has attributes. -/
inductive Lacks (data : Value) (name : Text) : Prop
  | entry {es : List (Value × Value)} : data.entries? = some es →
      Value.lookup? (.text name) es = none → Lacks data name
  | attribute : data.entries? = none → data.attribute? name = none → Lacks data name

/-- What a name stands for in data and among filters. -/
inductive Resolves (r : Registry) (data : Value) (name : Text) : Outcome Value → Prop
  | entry {es : List (Value × Value)} {v : Value} : data.entries? = some es →
      Value.lookup? (.text name) es = some v → Resolves r data name (.ok v)
  | attribute {v : Value} : data.entries? = none → data.attribute? name = some v →
      Resolves r data name (.ok v)
  | filter {id : Nat} : Lacks data name → r.find? name = some id →
      Resolves r data name (.ok (.function id))
  | unbound : Lacks data name → r.find? name = none →
      Resolves r data name (.error (.unbound name))

variable {r : Registry} {data v : Value} {name : Text}

theorem named?_eq_none_iff : data.named? name = none ↔ Lacks data name := by
  rw [Value.named?]
  constructor
  · intro h
    cases hes : data.entries? with
    | some es =>
      rw [hes] at h
      exact .entry hes h
    | none =>
      rw [hes] at h
      exact .attribute hes h
  · rintro (⟨hes, h⟩ | ⟨hes, h⟩)
    · rw [hes]
      exact h
    · rw [hes]
      exact h

/-- A plain name stands for what is found for it in the scope, and for nothing else. -/
theorem resolves_iff (n : PlainName) (o : Outcome Value) :
    Resolves r data n.text o ↔ o = lookup r data n.text := by
  rw [Env.lookup_of_not_isHidden n.ne_slotName n.not_isHidden]
  constructor
  · rintro (⟨hes, h⟩ | ⟨hes, h⟩ | ⟨hl, h⟩ | ⟨hl, h⟩)
    · rw [Value.named?, hes]
      simp only [h]
    · rw [Value.named?, hes]
      simp only [h]
    · simp only [named?_eq_none_iff.2 hl, h]
    · simp only [named?_eq_none_iff.2 hl, h]
  · rintro rfl
    cases hnamed : data.named? n.text with
    | some v =>
      rw [Value.named?] at hnamed
      cases hes : data.entries? with
      | some es =>
        rw [hes] at hnamed
        exact .entry hes hnamed
      | none =>
        rw [hes] at hnamed
        exact .attribute hes hnamed
    | none =>
      have hl := named?_eq_none_iff.1 hnamed
      cases hfind : r.find? n.text with
      | some id => exact .filter hl hfind
      | none => exact .unbound hl hfind

end Env

namespace Value

/-- An object that has a place keeps it. -/
theorem settled_of_ne_fresh {v : Value} (h : v.id ≠ .fresh) (place : List Nat) :
    settled place (.ok v) = .ok v := by
  obtain ⟨i, c⟩ := v
  cases i with
  | fresh => exact absurd rfl h
  | _ => rfl

end Value

namespace Pipeline

open Env (Resolves scopeData)

theorem all_isBlank_space : [' '].all Text.isBlank = true := rfl

/-- A name between blanks. -/
def ofName (n : PlainName) : Written :=
  ⟨⟨[' '], all_isBlank_space⟩, ⟨n, []⟩, [], ⟨[' '], all_isBlank_space⟩⟩

theorem eval_name (env : Env) (place : List Nat) (n : PlainName) :
    Expr.eval env place (Application.free n) =
      Value.settled place (Env.lookup env.registry (scopeData env.data) n.text) :=
  Expr.eval_member_scope env place n.text

/-- Names of the scope, of the helper and of methods, letters of numbers and of literals, and words
that are reserved in some places only are plain. -/
example : ["scope".toList, "_member".toList, "keys".toList, "upper".toList, "e5".toList,
    "rb".toList, "match".toList, "_".toList].all isPlainName = true := by decide

end Pipeline

end Stencil
