import Mathlib
import Stencil.Proofs.Expr.Contents
import Stencil.Proofs.Template.Compilation

/-! # The data that a template reads

A template that uses its scope only to read members of it gives the same for any data that agree on
these members: the other entries of the data make no difference. -/
namespace Stencil

open Scoping (scopeName)

namespace Expr

/-- Is this the scope itself? -/
def isScope : Expr → Bool
  | name n => n == scopeName
  | _ => false

mutual

/-- The uses of the scope in reading order: the name of the member that is read of it, or nothing
where the scope stands for itself. -/
def scopeUses : Expr → List (Option Text)
  | literal _ | construct _ => []
  | name n => if n = scopeName then [none] else []
  | member e n => if e.isScope then [some n] else scopeUses e
  | unary _ e | spread e | spreadAll e | named _ e | shown e => scopeUses e
  | item e k | pair e k | binary _ e k => scopeUses e ++ scopeUses k
  | slice l h s => scopeUses l ++ scopeUses h ++ scopeUses s
  | choose t y n => scopeUses t ++ scopeUses y ++ scopeUses n
  | call f args byName => scopeUses f ++ allScopeUses args ++ allScopeUses byName
  | compare e _ es => scopeUses e ++ allScopeUses es
  | connect _ es | list es | tuple es | set es | dict es | joined es => allScopeUses es

def allScopeUses : List Expr → List (Option Text)
  | [] => []
  | e :: es => scopeUses e ++ allScopeUses es

end

/-- A use of the scope that gives the same in both surroundings: a member is read, and it is the
same. -/
def SameUse (a b : Env) (u : Option Text) : Prop :=
  ∃ n, u = some n ∧ Env.lookup a.registry (Env.scopeData a.data) n =
    Env.lookup b.registry (Env.scopeData b.data) n

variable {a b : Env} {e : Expr} {es : List Expr}

theorem alike_name {n : Text} (hn : n ≠ scopeName) : Alike a b (name n) (name n) := by
  intro place
  rw [eval, eval, Env.name, Env.name, if_neg hn, if_neg hn]

theorem alike_scope_member (he : e.isScope = true) {n : Text} (hn : SameUse a b (some n)) :
    Alike a b (member e n) (member e n) := by
  obtain ⟨_, hm, hlookup⟩ := hn
  cases hm
  cases e with
  | name m =>
    obtain rfl : m = scopeName := by simpa [isScope] using he
    intro place
    have hscope : ∀ env : Env, eval env place (member (name scopeName) n) =
        Value.settled place (Env.lookup env.registry (Env.scopeData env.data) n) := fun _ => rfl
    rw [hscope, hscope, hlookup]
  | _ => cases he

mutual

/-- By the parts of an expression: only the scope is not the same on both sides. -/
theorem alikeIn_of_sameUses (hr : a.registry = b.registry) :
    ∀ e : Expr, (∀ u ∈ scopeUses e, SameUse a b u) → AlikeIn a b e e
  | literal _, _ | construct _, _ => .alone rfl rfl fun _ => rfl
  | name n, h => by
    rw [scopeUses] at h
    have hn : n ≠ scopeName := by
      rintro rfl
      obtain ⟨_, hnone, -⟩ := h none (by simp)
      cases hnone
    exact .alone rfl rfl (alike_name hn)
  | member e n, h => by
    rw [scopeUses] at h
    cases he : e.isScope with
    | true => exact .alone rfl rfl (alike_scope_member he (h (some n) (by simp [he])))
    | false =>
      rw [he] at h
      exact .alone rfl rfl (.member hr (alikeIn_of_sameUses hr e h).alike n)
  | item e k, h => by
    rw [scopeUses, List.forall_mem_append] at h
    exact .alone rfl rfl
      (.item (alikeIn_of_sameUses hr e h.1).alike (alikeIn_of_sameUses hr k h.2).alike rfl)
  | slice l k s, h => by
    simp only [scopeUses, List.forall_mem_append] at h
    exact .alone rfl rfl (.slice (alikeIn_of_sameUses hr l h.1.1).alike
      (alikeIn_of_sameUses hr k h.1.2).alike (alikeIn_of_sameUses hr s h.2).alike)
  | call f args byName, h => by
    simp only [scopeUses, List.forall_mem_append] at h
    exact .alone rfl rfl (.call hr (alikeIn_of_sameUses hr f h.1.1).alike
      (forall₂_of_sameUses hr args h.1.2) (forall₂_of_sameUses hr byName h.2))
  | unary op e, h => by
    rw [scopeUses] at h
    exact .alone rfl rfl (.unary op (alikeIn_of_sameUses hr e h).alike rfl)
  | binary op l r, h => by
    rw [scopeUses, List.forall_mem_append] at h
    exact .alone rfl rfl
      (.binary op (alikeIn_of_sameUses hr l h.1).alike (alikeIn_of_sameUses hr r h.2).alike rfl)
  | connect c es, h => by
    rw [scopeUses] at h
    exact .alone rfl rfl (.connect c (forall₂_of_sameUses hr es h))
  | compare e ops es, h => by
    rw [scopeUses, List.forall_mem_append] at h
    exact .alone rfl rfl
      (.compare ops (alikeIn_of_sameUses hr e h.1).alike (forall₂_of_sameUses hr es h.2))
  | choose t y n, h => by
    simp only [scopeUses, List.forall_mem_append] at h
    exact .alone rfl rfl (.choose (alikeIn_of_sameUses hr t h.1.1).alike
      (alikeIn_of_sameUses hr y h.1.2).alike (alikeIn_of_sameUses hr n h.2).alike)
  | list es, h => by
    rw [scopeUses] at h
    exact .alone rfl rfl (.list (forall₂_of_sameUses hr es h))
  | tuple es, h => by
    rw [scopeUses] at h
    exact .alone rfl rfl (.tuple (forall₂_of_sameUses hr es h) rfl)
  | set es, h => by
    rw [scopeUses] at h
    exact .alone rfl rfl (.set (forall₂_of_sameUses hr es h) rfl)
  | dict es, h => by
    rw [scopeUses] at h
    exact .alone rfl rfl (.dict hr (forall₂_of_sameUses hr es h))
  | pair k v, h => by
    rw [scopeUses, List.forall_mem_append] at h
    exact .pair (alikeIn_of_sameUses hr k h.1).alike (alikeIn_of_sameUses hr v h.2).alike
  | spread e, h => by
    rw [scopeUses] at h
    exact .spread (alikeIn_of_sameUses hr e h).alike
  | spreadAll e, h => by
    rw [scopeUses] at h
    exact .spreadAll (alikeIn_of_sameUses hr e h).alike
  | named n e, h => by
    rw [scopeUses] at h
    exact .named n (alikeIn_of_sameUses hr e h).alike
  | joined es, h => by
    rw [scopeUses] at h
    exact .alone rfl rfl (.joined (forall₂_of_sameUses hr es h))
  | shown e, h => by
    rw [scopeUses] at h
    exact .alone rfl rfl (.shown (alikeIn_of_sameUses hr e h).alike)

theorem forall₂_of_sameUses (hr : a.registry = b.registry) :
    ∀ es : List Expr, (∀ u ∈ allScopeUses es, SameUse a b u) → List.Forall₂ (AlikeIn a b) es es
  | [], _ => .nil
  | e :: es, h => by
    rw [allScopeUses, List.forall_mem_append] at h
    exact .cons (alikeIn_of_sameUses hr e h.1) (forall₂_of_sameUses hr es h.2)

end

/-- An expression whose uses of the scope are the same has the same value. -/
theorem eval_eq_of_sameUses (hr : a.registry = b.registry) (h : ∀ u ∈ scopeUses e, SameUse a b u)
    (place : List Nat) : e.eval a place = e.eval b place :=
  (alikeIn_of_sameUses hr e h).alike place

theorem mem_scopeUses_foldl {u : Option Text} {s : Expr}
    (h : u ∈ scopeUses s ∨ ∃ e ∈ es, u ∈ scopeUses e) :
    u ∈ scopeUses (es.foldl (.binary .add) s) := by
  induction es generalizing s with
  | nil => simpa using h
  | cons x es ih =>
    apply ih
    rw [scopeUses, List.mem_append]
    rcases h with h | ⟨e, he, hu⟩
    · exact .inl (.inl h)
    · rcases List.mem_cons.1 he with rfl | he
      · exact .inl (.inr hu)
      · exact .inr ⟨e, he, hu⟩

/-- What the elements of a list stand for uses the scope as they do. -/
theorem scopeUses_listed (es : List Expr) : scopeUses (listed es) = allScopeUses es := by
  unfold listed
  split
  next e =>
    split_ifs
    · rw [scopeUses]
    · rw [allScopeUses, allScopeUses, List.append_nil]
  next => rw [scopeUses]

theorem joinedText_congr (h : ∀ e ∈ es, shownText a e = shownText b e) :
    joinedText a es = joinedText b es := by
  have hparts : es.mapM (shownText a) = es.mapM (shownText b) := by
    induction es with
    | nil => rfl
    | cons e es ih =>
      rw [List.mapM_cons, List.mapM_cons, h e (by simp), ih fun x hx => h x (by simp [hx])]
  rw [joinedText, joinedText, hparts]

/-- The parts of a concatenation use the scope as their sum does. -/
theorem rendered_eq_of_sameUses (hr : a.registry = b.registry)
    (h : ∀ u ∈ scopeUses e, SameUse a b u) : e.rendered a = e.rendered b := by
  unfold rendered
  split
  next ps hsum =>
    have hparts : ∀ p ∈ ps, shownText a p = shownText b p := by
      intro p hp
      have huses : ∀ u ∈ scopeUses p, SameUse a b u := fun u hu =>
        h u (eq_foldl_of_textSum? hsum ▸ mem_scopeUses_foldl (.inr ⟨p, hp, hu⟩))
      rw [shownText, shownText, eval_eq_of_sameUses hr huses]
    rw [joinedText_congr hparts]
  next => exact eval_eq_of_sameUses hr h []

end Expr

namespace Env

/-- What a scope with a mapping for its data has under a name other than that of its slot. -/
theorem lookup_eq_of_entryNamed? {r : Registry} {c d : Value} (hc : c.entries?.isSome = true)
    (hd : d.entries?.isSome = true) {n : Text} (hn : n ≠ slotName)
    (h : c.entryNamed? n = d.entryNamed? n) :
    lookup r (scopeData c) n = lookup r (scopeData d) n := by
  rw [scopeData_of_entries? hc, scopeData_of_entries? hd, lookup, lookup, if_neg hn, if_neg hn,
    Value.named?_of_entries? hc, Value.named?_of_entries? hd, h]

end Env

namespace Compiled

open Stencil.Expr (allScopeUses)

end Compiled

end Stencil
