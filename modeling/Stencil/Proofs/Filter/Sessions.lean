import Mathlib
import Stencil.Proofs.Filter.Registration
import Stencil.Proofs.Template.Coincidence
import Stencil.Proofs.Template.Names
import Stencil.Proofs.Template.Sandbox
import Stencil.Proofs.Template.Single

/-! # Registrations between compilations and calls

A template that has been compiled holds no functions. When it is called it finds those that have
been registered by then, also for names that were free or stood for something else when it was
compiled. -/
namespace Stencil

open Scoping (scopeName)

/-! ## The members of the scope that a template reads -/

namespace Expr

open Admission (isHidden check)

mutual

/-- A template that may be compiled reads no hidden member of the scope. -/
theorem not_isHidden_of_scopeUses : ∀ e : Expr, check e = .ok () →
    ∀ n, some n ∈ scopeUses e → isHidden n = false
  | literal _, _, n, hn | construct _, _, n, hn => by
    rw [scopeUses] at hn
    cases hn
  | name m, _, n, hn => by
    rw [scopeUses] at hn
    split_ifs at hn
    · simp at hn
    · cases hn
  | member e m, h, n, hn => by
    rw [check] at h
    split_ifs at h with hm
    rw [scopeUses] at hn
    split_ifs at hn
    · obtain rfl : n = m := by simpa using hn
      simpa using hm
    · exact not_isHidden_of_scopeUses e h n hn
  | unary _ e, h, n, hn | spread e, h, n, hn | spreadAll e, h, n, hn | named _ e, h, n, hn => by
    rw [check] at h
    rw [scopeUses] at hn
    exact not_isHidden_of_scopeUses e h n hn
  | item e k, h, n, hn | pair e k, h, n, hn | binary _ e k, h, n, hn => by
    rw [check, ok_bind_iff] at h
    rw [scopeUses, List.mem_append] at hn
    rcases hn with hn | hn
    · exact not_isHidden_of_scopeUses e h.1 n hn
    · exact not_isHidden_of_scopeUses k h.2 n hn
  | slice l k s, h, n, hn | choose l k s, h, n, hn => by
    simp only [check, ok_bind_iff] at h
    simp only [scopeUses, List.mem_append] at hn
    rcases hn with (hn | hn) | hn
    · exact not_isHidden_of_scopeUses l h.1 n hn
    · exact not_isHidden_of_scopeUses k h.2.1 n hn
    · exact not_isHidden_of_scopeUses s h.2.2 n hn
  | call f args byName, h, n, hn => by
    simp only [check, ok_bind_iff, checkAll_iff] at h
    simp only [scopeUses, List.mem_append] at hn
    rcases hn with (hn | hn) | hn
    · exact not_isHidden_of_scopeUses f h.1 n hn
    · exact not_isHidden_of_allScopeUses args h.2.1 n hn
    · exact not_isHidden_of_allScopeUses byName h.2.2 n hn
  | compare e _ es, h, n, hn => by
    rw [check, ok_bind_iff, checkAll_iff] at h
    rw [scopeUses, List.mem_append] at hn
    rcases hn with hn | hn
    · exact not_isHidden_of_scopeUses e h.1 n hn
    · exact not_isHidden_of_allScopeUses es h.2 n hn
  | connect _ es, h, n, hn | list es, h, n, hn | tuple es, h, n, hn | set es, h, n, hn => by
    rw [check, checkAll_iff] at h
    rw [scopeUses] at hn
    exact not_isHidden_of_allScopeUses es h n hn
  | dict es, h, n, hn => by
    rw [check, ok_bind_iff] at h
    rw [scopeUses] at hn
    exact not_isHidden_of_allScopeUses es (Admission.checkKeys_values h.1 h.2) n hn
  | joined _, h, _, _ | shown _, h, _, _ => by
    cases h

theorem not_isHidden_of_allScopeUses : ∀ es : List Expr, (∀ e ∈ es, check e = .ok ()) →
    ∀ n, some n ∈ allScopeUses es → isHidden n = false
  | [], _, n, hn => by
    rw [allScopeUses] at hn
    cases hn
  | e :: es, h, n, hn => by
    rw [List.forall_mem_cons] at h
    rw [allScopeUses, List.mem_append] at hn
    rcases hn with hn | hn
    · exact not_isHidden_of_scopeUses e h.1 n hn
    · exact not_isHidden_of_allScopeUses es h.2 n hn

end

end Expr

/-! ## What a name stands for -/

namespace Registry

variable {r : Registry} {h : Registrations} {name : Text} {o : Outcome Value}

/-- What a name that the data lack stands for: the function that was registered last under it, or
nothing. -/
inductive StandsFor (r : Registry) (h : Registrations) (name : Text) : Outcome Value → Prop
  | function {f : Function} {id : Nat} : h.last? name = some f →
      (∀ a, Env.call r (.function id) a = f a) → StandsFor r h name (.ok (.function id))
  | unbound : h.last? name = none → StandsFor r h name (.error (.unbound name))

theorem Represents.standsFor (hr : r.Represents h) (hslot : name ≠ Env.slotName)
    (hhidden : Admission.isHidden name = false) {data : Value} (hdata : data.named? name = none) :
    StandsFor r h name (Env.lookup r data name) := by
  rw [Env.lookup_of_not_isHidden hslot hhidden, hdata]
  cases hf : h.last? name with
  | none =>
    rw [hr.find?_eq_none hf]
    exact .unbound hf
  | some f =>
    obtain ⟨id, hid, hfid⟩ := hr.exists_find? hf
    rw [hid]
    refine .function hf fun a => ?_
    change r.call id a = f a
    rw [Registry.call, hfid]

theorem StandsFor.settled (ho : StandsFor r h name o) (place : List Nat) :
    Value.settled place o = o := by
  cases ho <;> rfl

end Registry

open Env (scopeData slotName)
open Stencil.Expr (allScopeUses)

/-- The second data have one more name, which stands for a value. -/
structure Env.HasMore (data data' : Value) (name : Text) (v : Value) : Prop where
  added : (scopeData data').named? name = some v
  kept : ∀ n, n ≠ name → (scopeData data').named? n = (scopeData data).named? n

theorem Value.agrees_text (s t : Text) : (Value.text s).agrees (.text t) = decide (s = t) := by
  have hequals : (Value.text s).equals (.text t) = (s == t) := by
    simp [Value.text, equals, equalContents]
  have hsame : (Value.text s).isSame (.text t) = false := by
    simp [Value.text, isSame]
  rw [agrees, hequals, hsame, Bool.false_or]
  exact beq_eq_decide s t

/-- A dictionary with one more entry has one more name. -/
theorem Env.hasMore_cons (i : Identity) (es : List (Value × Value)) (name : Text) (v : Value) :
    HasMore ⟨i, .dict es⟩ ⟨i, .dict ((.text name, v) :: es)⟩ name v where
  added := by
    change Value.lookup? (.text name) ((.text name, v) :: es) = some v
    rw [Value.lookup?, Value.entryAt?, List.find?_cons_of_pos (by simp [Value.agrees_text])]
    rfl
  kept n hn := by
    change Value.lookup? (.text n) ((.text name, v) :: es) = Value.lookup? (.text n) es
    have hagrees : (Value.text name).agrees (.text n) = false := by
      rw [Value.agrees_text, decide_eq_false hn.symm]
    rw [Value.lookup?, Value.entryAt?, List.find?_cons_of_neg (by simp [hagrees])]
    rfl

/-- The scope is used for members alone, and not for its slot. -/
def ReadsMembers (es : List Expr) : Prop :=
  ∀ u ∈ allScopeUses es, ∃ n, u = some n ∧ n ≠ slotName

/-- How a compiled template finds the free names that the data lack. Wherever it reads one, this
stands for the function registered last. If it uses the scope for members alone, then calling it is
calling it with data that have this function under the name. -/
structure Compiled.IsLateBound (c : Compiled) (r : Registry) (h : Registrations)
    (es : List Expr) : Prop where
  parse : Parser.parse? (bracketed c.source) = some (.list es)
  value : ∀ data, c.render r data = (Expr.listed es).rendered ⟨r, data⟩
  free : ∀ n, some n ∈ allScopeUses es → n ≠ slotName →
    ∀ data, (scopeData data).named? n = none → ∃ o, r.StandsFor h n o ∧
      (∀ place, Expr.eval ⟨r, data⟩ place (.member (.name scopeName) n) = o) ∧
      (ReadsMembers es → ∀ v data', o = .ok v → Env.HasMore data data' n v →
        c.render r data = c.render r data')

theorem Compiled.exists_isLateBound {d : Dialect} {s : Text} {c : Compiled} {r : Registry}
    {h : Registrations} (hc : Template.compile d s = .ok (.compiled c)) (hr : r.Represents h) :
    ∃ es, c.IsLateBound r h es := by
  obtain ⟨-, -, src, -, hsrc⟩ := Template.compile_eq_ok_iff.1 hc
  obtain ⟨es, -, hes, ⟨hcheck, -⟩, rfl⟩ := Compiled.ofSource_eq_ok_iff.1 hsrc
  have hvalue : ∀ data, (Expr.listed es).emission.eval ⟨r, data⟩ [] =
      (Expr.listed es).rendered ⟨r, data⟩ := fun data =>
    Expr.eval_emission (Expr.isRegular_listed (Parser.isRegular_of_parse? hes)) _
  refine ⟨es, hes, hvalue, fun n hn hslot data hdata => ?_⟩
  have hhidden : Admission.isHidden n = false :=
    Expr.not_isHidden_of_scopeUses _ hcheck n (Expr.scopeUses_listed es ▸ hn)
  have ho := hr.standsFor hslot hhidden hdata
  refine ⟨_, ho, ho.settled, fun hmembers v data' hv hmore => ?_⟩
  -- Under the name both data give the function, and under all others the same.
  have hlookup : Env.lookup r (scopeData data') n = .ok v := by
    rw [Env.lookup_of_not_isHidden hslot hhidden, hmore.added]
  have huses : ∀ u ∈ (Expr.listed es).scopeUses, Expr.SameUse ⟨r, data⟩ ⟨r, data'⟩ u := by
    rw [Expr.scopeUses_listed]
    intro u hu
    obtain ⟨m, rfl, hm⟩ := hmembers u hu
    refine ⟨m, rfl, ?_⟩
    by_cases hmn : m = n
    · subst hmn
      exact hv.trans hlookup.symm
    · change Env.lookup r (scopeData data) m = Env.lookup r (scopeData data') m
      rw [Env.lookup, Env.lookup, if_neg hm, if_neg hm, hmore.kept m hmn]
  calc (Expr.listed es).emission.eval ⟨r, data⟩ []
    _ = (Expr.listed es).rendered ⟨r, data⟩ := hvalue data
    _ = (Expr.listed es).rendered ⟨r, data'⟩ := Expr.rendered_eq_of_sameUses rfl huses
    _ = (Expr.listed es).emission.eval ⟨r, data'⟩ [] := (hvalue data').symm

/-! ## Sessions -/

/-- A registry in use, and the templates that have been compiled. -/
structure Session where
  registry : Registry
  compiled : List Compiled

namespace Session

/-- A session with the standard filters. -/
def start : Session := ⟨.standard, []⟩

/-- What is asked of a session. -/
inductive Request
  | register (name : Text) (f : Function)
  | compile (d : Dialect) (s : Text)
  | call (i : Nat) (data : Value)

inductive Answer
  | registered
  | rejected (e : Registry.InvalidName)
  | template (t : Except TemplateError Template)
  | value (o : Option (Outcome Value))

variable (k : Session)

/-- A request: the session behind it, and the answer. A template is called by its number. -/
def step : Request → Session × Answer
  | .register name f =>
    match k.registry.register name f with
    | .ok r => ({ k with registry := r }, .registered)
    | .error e => (k, .rejected e)
  | .compile d s =>
    match Template.compile d s with
    | .ok (.compiled c) => ({ k with compiled := k.compiled ++ [c] }, .template (.ok (.compiled c)))
    | t => (k, .template t)
  | .call i data => (k, .value (k.compiled[i]?.map fun c => c.render k.registry data))

def run (qs : List Request) : Session := qs.foldl (fun k q => (k.step q).1) k

/-- The registration that a request makes, if its name is accepted. -/
def Request.accepted? : Request → Option (Text × Function)
  | .register name f => if Text.isIdentifier name then some (name, f) else none
  | .compile _ _ | .call _ _ => none

/-- The template that a request compiles. -/
def Request.compiled? : Request → Option Compiled
  | .compile d s =>
    match Template.compile d s with
    | .ok (.compiled c) => some c
    | _ => none
  | .register _ _ | .call _ _ => none

/-- The registrations of a session that began with the standard filters. -/
def registrations (qs : List Request) : Registrations :=
  Filter.standard ++ qs.filterMap Request.accepted?

variable {k} {h : Registrations}

/-- A name that is no identifier is rejected, and nothing else; then nothing changes. -/
theorem step_register_eq (name : Text) (f : Function) :
    k.step (.register name f) =
      if Text.isIdentifier name then ({ k with registry := k.registry.add name f }, .registered)
      else (k, .rejected ⟨name⟩) := by
  rw [step, Registry.register]
  split_ifs <;> rfl

/-- What a request does to the registry and to the templates. -/
theorem step_spec (hk : k.registry.Represents h) (q : Request) :
    (k.step q).1.registry.Represents (h ++ q.accepted?.toList) ∧
      (k.step q).1.compiled = k.compiled ++ q.compiled?.toList := by
  have hnone : k.registry.Represents (h ++ []) ∧ k.compiled = k.compiled ++ [] := by
    simpa using hk
  cases q with
  | register name f =>
    rw [step_register_eq, Request.accepted?]
    split_ifs
    · exact ⟨hk.add name f, (List.append_nil _).symm⟩
    · exact hnone
  | compile d s =>
    rw [step, Request.accepted?, Request.compiled?]
    split
    · exact ⟨hnone.1, rfl⟩
    · exact hnone
  | call i data => exact hnone

theorem run_spec (hk : k.registry.Represents h) (qs : List Request) :
    (k.run qs).registry.Represents (h ++ qs.filterMap Request.accepted?) ∧
      (k.run qs).compiled = k.compiled ++ qs.filterMap Request.compiled? := by
  induction qs generalizing k h with
  | nil => simpa [run] using hk
  | cons q qs ih =>
    obtain ⟨hregistry, hcompiled⟩ := step_spec hk q
    have hrun := ih hregistry
    rw [hcompiled, List.append_assoc, List.append_assoc] at hrun
    have hcons : ∀ {α : Type} (f : Request → Option α),
        (q :: qs).filterMap f = (f q).toList ++ qs.filterMap f := by
      intro α f
      rw [List.filterMap_cons]
      cases f q <;> rfl
    rw [hcons, hcons]
    exact hrun

/-- A session is an ordered map of names to the functions registered last under them, and what has
been compiled uses these. -/
structure IsOrderedMap (k : Session) (h : Registrations) : Prop where
  rejected : ∀ name f, (∃ e, (k.step (.register name f)).2 = .rejected e) ↔
    Text.isIdentifier name = false
  unchanged : ∀ name f, Text.isIdentifier name = false → (k.step (.register name f)).1 = k
  function? : ∀ name, k.registry.function? name = h.last? name
  ordered : k.registry.list.Pairwise (· < ·)
  mem_list : ∀ name, name ∈ k.registry.list ↔ name ∈ h.map Prod.fst
  lateBound : ∀ c ∈ k.compiled, ∃ es, c.IsLateBound k.registry h es

theorem Request.compiled?_eq_some_iff {q : Request} {c : Compiled} : q.compiled? = some c ↔
    ∃ d s, q = .compile d s ∧ Template.compile d s = .ok (.compiled c) := by
  cases q with
  | register _ _ => simp [compiled?]
  | call _ _ => simp [compiled?]
  | compile d s =>
    rw [compiled?]
    constructor
    · intro h
      split at h
      next c' hc' =>
        cases h
        exact ⟨d, s, rfl, hc'⟩
      next => cases h
    · rintro ⟨d', s', hq, hc⟩
      cases hq
      rw [hc]

/-- Behind any registrations, compilations and calls, a name stands for the function of its last
accepted registration, and every template that has been compiled uses it as such. -/
theorem isOrderedMap_of_run (qs : List Request) :
    (start.run qs).IsOrderedMap (registrations qs) ∧
      ∀ d s c, .compile d s ∈ qs → Template.compile d s = .ok (.compiled c) →
        c ∈ (start.run qs).compiled := by
  obtain ⟨hregistry, hcompiled⟩ := run_spec (k := start) Registry.represents_standard qs
  have hmem : ∀ c, c ∈ (start.run qs).compiled ↔
      ∃ d s, .compile d s ∈ qs ∧ Template.compile d s = .ok (.compiled c) := by
    intro c
    rw [hcompiled]
    simp [start, List.mem_filterMap, Request.compiled?_eq_some_iff]
  refine ⟨⟨fun name f => ?_, fun name f hname => ?_, hregistry.function?, hregistry.ordered,
    hregistry.mem_list, fun c hc => ?_⟩, fun d s c hq hc => (hmem c).2 ⟨d, s, hq, hc⟩⟩
  · rw [step_register_eq]
    cases Text.isIdentifier name <;> simp
  · rw [step_register_eq, hname, if_neg Bool.false_ne_true]
  · obtain ⟨d, s, -, hds⟩ := (hmem c).1 hc
    exact Compiled.exists_isLateBound hds hregistry

/-- A template that reads the name of the slot, and a function that is registered under it. -/
def slotRequests : List Request :=
  [.compile .standard "\x7b\x7b _Scope__data \x7d\x7d".toList, .register slotName fun _ => .ok .none]

def slotData : Value := ⟨.given 0, .dict [(.text ['a'], .int 1)]⟩

/-- The slot of the scope stands before a function that is registered under its name, although the
data have nothing there: the template gives the data. -/
theorem not_lateBound_slot :
    (∃ f, (start.run slotRequests).registry.function? slotName = some f) ∧
      (scopeData slotData).named? slotName = none ∧
      ∃ c, (start.run slotRequests).compiled = [c] ∧
        c.render (start.run slotRequests).registry slotData = .ok slotData ∧
        ∃ es, Parser.parse? (bracketed c.source) = some (.list es) ∧
          some slotName ∈ allScopeUses es ∧
          ¬∃ o, (start.run slotRequests).registry.StandsFor (registrations slotRequests) slotName o ∧
            ∀ place, Expr.eval ⟨(start.run slotRequests).registry, slotData⟩ place
              (.member (.name scopeName) slotName) = o := by
  have hparse : Parser.parse? (bracketed "scope._Scope__data".toList) =
      some (.list [.member (.name scopeName) slotName]) := by
    rw [Parser.parse?_eq (c := Parser.inSquares
      [.name "scope".toList, .symbol .dot, .name slotName]) (by decide +kernel)]
    cbv
  obtain ⟨c, hc, hsource, hbody⟩ : ∃ c, Template.compile .standard
      "\x7b\x7b _Scope__data \x7d\x7d".toList = .ok (.compiled c) ∧
        c.source = "scope._Scope__data".toList ∧
        c.body = (Expr.listed [.member (.name scopeName) slotName]).emission :=
    ⟨_, Template.compile_eq_ok_iff.2 ⟨by decide +kernel, by decide +kernel,
      "scope._Scope__data".toList, by decide +kernel,
      Compiled.ofSource_eq_ok_iff.2 ⟨_, by simp, hparse, ⟨rfl, rfl⟩, rfl⟩⟩, rfl, rfl⟩
  obtain ⟨hregistry, hcompiled⟩ :=
    run_spec (k := start) Registry.represents_standard slotRequests
  have hlast : (registrations slotRequests).last? slotName = some fun _ => .ok .none := by
    have happend : registrations slotRequests =
        Filter.standard ++ [(slotName, fun _ => .ok .none)] := rfl
    rw [happend, Registrations.last?_append, if_pos rfl]
  refine ⟨⟨_, (hregistry.function? slotName).trans hlast⟩, by cbv, c, ?_, ?_, _, hsource ▸ hparse,
    by decide, ?_⟩
  · rw [hcompiled, slotRequests, List.filterMap_cons,
      Request.compiled?_eq_some_iff.2 ⟨_, _, rfl, hc⟩]
    rfl
  · rw [Compiled.render, hbody]
    rfl
  · rintro ⟨o, ho, heval⟩
    obtain rfl : .ok slotData = o := heval []
    cases ho

end Session

end Stencil
