import Mathlib.Tactic.SplitIfs
import Stencil.Filter.Standard

/-! # The registry is an ordered map

Behind any registrations a name stands for the function that was registered last under it, and the
names are those under which a function was registered, in their order. -/
namespace Stencil

/-- Functions in the order in which they were registered, each with its name. -/
abbrev Registrations := List (Text × Function)

/-- The function that was registered last under a name. -/
def Registrations.last? (h : Registrations) (name : Text) : Option Function :=
  (h.reverse.find? fun e => e.1 == name).map Prod.snd

theorem find?_name_cons {α : Type} (e : Text × α) (es : List (Text × α)) (name : Text) :
    (e :: es).find? (fun e => e.1 == name) =
      if e.1 = name then some e else es.find? fun e => e.1 == name := by
  split_ifs with h
  · exact List.find?_cons_of_pos (beq_iff_eq.2 h)
  · exact List.find?_cons_of_neg (mt beq_iff_eq.1 h)

namespace Registrations

variable {h : Registrations} {name other : Text} {f : Function}

theorem last?_append : last? (h ++ [(name, f)]) other =
    if name = other then some f else h.last? other := by
  rw [last?, List.reverse_append, List.reverse_singleton, List.singleton_append, find?_name_cons]
  split_ifs <;> rfl

end Registrations

namespace Registry

variable {r : Registry} {h : Registrations} {name other : Text} {f : Function} {id : Nat}
  {es : List (Text × Nat)}

/-! ## Names in their order -/

theorem find?_insertName : (insertName name id es).find? (fun e => e.1 == other) =
    if name = other then some (name, id) else es.find? fun e => e.1 == other := by
  induction es with
  | nil => rw [insertName, find?_name_cons]
  | cons e es ih =>
    rw [insertName]
    split_ifs with heq hother hlt hother hother
    · rw [find?_name_cons, if_pos hother]
    · rw [find?_name_cons, find?_name_cons, if_neg hother, if_neg (heq ▸ hother)]
    · rw [find?_name_cons, if_pos hother]
    · rw [find?_name_cons, if_neg hother]
    · rw [find?_name_cons, ih, if_pos hother, if_neg fun he => heq (hother.trans he.symm)]
    · rw [find?_name_cons, ih, if_neg hother, find?_name_cons]

theorem mem_insertName : other ∈ (insertName name id es).map Prod.fst ↔
    other = name ∨ other ∈ es.map Prod.fst := by
  induction es with
  | nil => simp [insertName]
  | cons e es ih =>
    rw [insertName]
    split_ifs with heq hlt
    · simp [heq]
    · simp
    · rw [List.map_cons, List.mem_cons, ih, List.map_cons, List.mem_cons, or_left_comm]

theorem lt_of_not_lt (hne : name ≠ other) (hlt : ¬name < other) : other < name :=
  Decidable.byContradiction fun h =>
    hne (List.le_antisymm (List.not_lt.1 h) (List.not_lt.1 hlt))

theorem pairwise_insertName (h : (es.map Prod.fst).Pairwise (· < ·)) :
    ((insertName name id es).map Prod.fst).Pairwise (· < ·) := by
  induction es with
  | nil => simp [insertName]
  | cons e es ih =>
    rw [List.map_cons, List.pairwise_cons] at h
    obtain ⟨hhead, htail⟩ := h
    rw [insertName]
    split_ifs with heq hlt
    · rw [List.map_cons, List.pairwise_cons, heq]
      exact ⟨hhead, htail⟩
    · rw [List.map_cons, List.map_cons, List.pairwise_cons, List.forall_mem_cons,
        List.pairwise_cons]
      exact ⟨⟨hlt, fun n hn => List.lt_trans hlt (hhead n hn)⟩, hhead, htail⟩
    · rw [List.map_cons, List.pairwise_cons]
      refine ⟨fun n hn => ?_, ih htail⟩
      rcases mem_insertName.1 hn with rfl | hn
      · exact lt_of_not_lt heq hlt
      · exact hhead n hn

/-! ## Registrations -/

theorem register_eq_ok_iff {r' : Registry} :
    r.register name f = .ok r' ↔ Text.isIdentifier name = true ∧ r' = r.add name f := by
  rw [register]
  cases Text.isIdentifier name <;> simp [eq_comm]

theorem find?_add : (r.add name f).find? other =
    if name = other then some r.functions.length else r.find? other := by
  rw [find?, add, find?_insertName]
  split_ifs <;> rfl

/-- The names of a registry stand for the functions registered last under them. -/
structure Represents (r : Registry) (h : Registrations) : Prop where
  find? : ∀ name, (r.find? name).map (r.functions[·]?) = (h.last? name).map some
  ordered : r.list.Pairwise (· < ·)
  mem_list : ∀ name, name ∈ r.list ↔ name ∈ h.map Prod.fst

namespace Represents

theorem empty : Represents .empty [] := ⟨fun _ => rfl, .nil, fun _ => .rfl⟩

theorem exists_find? (hr : r.Represents h) (hf : h.last? name = some f) :
    ∃ id, r.find? name = some id ∧ r.functions[id]? = some f := by
  have hfind := hr.find? name
  rw [hf, Option.map_some, Option.map_eq_some_iff] at hfind
  exact hfind

theorem find?_eq_none (hr : r.Represents h) (hf : h.last? name = none) : r.find? name = none := by
  have hfind := hr.find? name
  rwa [hf, Option.map_none, Option.map_eq_none_iff] at hfind

theorem function? (hr : r.Represents h) (name : Text) : r.function? name = h.last? name := by
  rw [Registry.function?]
  cases hf : h.last? name with
  | none => rw [hr.find?_eq_none hf, Option.bind_none]
  | some f =>
    obtain ⟨id, hid, hfid⟩ := hr.exists_find? hf
    rw [hid, Option.bind_some, hfid]

/-- One more registration. -/
theorem add (hr : r.Represents h) (name : Text) (f : Function) :
    (r.add name f).Represents (h ++ [(name, f)]) where
  find? other := by
    rw [find?_add, Registrations.last?_append]
    split_ifs with hname
    · simp [Registry.add]
    · cases hf : h.last? other with
      | none => rw [hr.find?_eq_none hf, Option.map_none, Option.map_none]
      | some g =>
        obtain ⟨id, hid, hg⟩ := hr.exists_find? hf
        obtain ⟨hlt, -⟩ := List.getElem?_eq_some_iff.1 hg
        rw [hid, Option.map_some, Option.map_some, Registry.add, List.getElem?_append_left hlt, hg]
  ordered := pairwise_insertName hr.ordered
  mem_list other := by
    have hmem : other ∈ (r.add name f).list ↔ other = name ∨ other ∈ r.list := mem_insertName
    rw [hmem, hr.mem_list, List.map_append, List.mem_append, List.map_singleton,
      List.mem_singleton, or_comm]

theorem foldl_add (hr : r.Represents h) (es : Registrations) :
    (es.foldl (fun r e => r.add e.1 e.2) r).Represents (h ++ es) := by
  induction es generalizing r h with
  | nil => rwa [List.append_nil]
  | cons e es ih =>
    have := ih (hr.add e.1 e.2)
    rwa [List.append_assoc, List.singleton_append] at this

end Represents

theorem represents_standard : Registry.standard.Represents Filter.standard :=
  Represents.empty.foldl_add Filter.standard

end Registry

end Stencil
