import Stencil.Filter.Standard
import Stencil.Proofs.Expr.Sums
import Stencil.Proofs.Template.Trace

/-! # The lowered expression takes the same course

An expression and its lowered form are evaluated in lockstep: the same parts at the same places, in
the same order and with the same results, and the same conditions decided in the same way. -/
namespace Stencil

open Emission

/-- Two results are traced alike, and their outcome is `r`. -/
structure Traced.Simulates {α : Type} (o p : Traced α) (r : Outcome α) : Prop where
  same : o = p
  outcome : p.outcome = r

namespace Traced

variable {α β : Type} {o p o' p' : Traced α} {r r' : Outcome α}

theorem Simulates.quiet (r : Outcome α) : Simulates (quiet r) (quiet r) r := ⟨rfl, rfl⟩

theorem Simulates.pure (a : α) : Simulates (pure a) (pure a : Traced α) (.ok a) := .quiet _

theorem Simulates.value (place : List Nat) (r : Outcome Value) :
    Simulates (value place r) (value place r) r := ⟨rfl, rfl⟩

theorem Simulates.bind {f g : α → Traced β} {h : α → Outcome β} (ho : Simulates o p r)
    (hf : ∀ a, Simulates (f a) (g a) (h a)) : Simulates (o >>= f) (p >>= g) (r >>= h) := by
  obtain ⟨rfl, rfl⟩ := ho
  obtain ⟨events, r⟩ := o
  have hfg : f = g := funext fun a => (hf a).same
  refine ⟨by rw [hfg], ?_⟩
  cases r with
  | error e => rfl
  | ok a => exact (hf a).outcome

theorem Simulates.map (f : α → β) (ho : Simulates o p r) :
    Simulates (do return f (← o)) (do return f (← p)) (f <$> r) := by
  rw [map_eq_pure_bind]
  exact ho.bind fun a => .pure _

/-- What is written down at the end of an evaluation does not change its result. -/
theorem Simulates.finish {o p : Traced Value} {r : Outcome Value} (ho : Simulates o p r)
    (place : List Nat) : Simulates (do let v ← o; Traced.value place (.ok v))
      (do let v ← p; Traced.value place (.ok v)) r := by
  have h := ho.bind fun v => .value place (.ok v)
  rwa [show (r >>= fun v => Except.ok v) = r from bind_pure r] at h

theorem Simulates.ite {c : Prop} [Decidable c] (ho : Simulates o p r) (ho' : Simulates o' p' r') :
    Simulates (if c then o else o') (if c then p else p') (if c then r else r') := by
  split_ifs
  · exact ho
  · exact ho'

/-- A condition that is written down decides what it decides. -/
theorem Simulates.test (place : List Nat) {b : Bool} (ho : Simulates o p r)
    (ho' : Simulates o' p' r') : Simulates (do if ← test place b then o else o')
      (do if ← test place b then p else p') (if b then r else r') :=
  .bind (r := .ok b) ⟨rfl, rfl⟩ fun _ => .ite ho ho'

end Traced

namespace Expr

open Traced

variable {env : Env} {e : Expr} {es : List Expr}

/-! ## What lowering keeps of a list -/

@[simp] theorem length_lowerAll (es : List Expr) : (lowerAll es).length = es.length := by
  rw [lowerAll_eq_map, List.length_map]

theorem isPair_lower (e : Expr) : (lower e).isPair = e.isPair := by
  cases e <;> rfl

theorem groupSize_lowerAll (es : List Expr) : groupSize (lowerAll es) = groupSize es := by
  have htake : ((lowerAll es).takeWhile isPair).length = (es.takeWhile isPair).length := by
    rw [lowerAll_eq_map, List.takeWhile_map, List.length_map]
    exact congrArg (fun f => (es.takeWhile f).length) (funext isPair_lower)
  rw [groupSize, groupSize, htake]

theorem isReadySet_lowerAll (es : List Expr) : isReadySet (lowerAll es) = isReadySet es := by
  rw [isReadySet, isReadySet, areConstant_lowerAll, length_lowerAll]

/-- An expression of constants stays one. -/
theorem value_finished (e : Expr) (place : List Nat) (r : Outcome Value) :
    Simulates (value place (finished (lower e) place r)) (value place (finished e place r))
      (finished e place r) := by
  rw [finished, isConstant_lower]
  exact .value _ _

/-! ## Lists of expressions -/

/-- The lowered expression is traced as the expression, which has its value, wherever it stands. -/
def Simulated (env : Env) (e : Expr) : Prop :=
  ∀ place, Simulates (trace env place (lower e)) (trace env place e) (eval env place e)

/-- The same for what is evaluated of an element of a list. -/
def SimulatedIn (env : Env) : Expr → Prop
  | spread e | spreadAll e | named _ e => Simulated env e
  | pair k v => Simulated env k ∧ Simulated env v
  | e => Simulated env e

theorem SimulatedIn.simulated (h : SimulatedIn env e) : Simulated env e := by
  cases e with
  | spread | spreadAll | named | pair => exact fun _ => .quiet _
  | _ => exact h

theorem traceAnd_simulates (h : ∀ e ∈ es, SimulatedIn env e) (place : List Nat) (i : Nat) :
    Simulates (traceAnd env place i (lowerAll es)) (traceAnd env place i es)
      (evalAnd env place i es) := by
  induction es generalizing i with
  | nil => exact .pure _
  | cons e es ih =>
    have he := (h e (by simp)).simulated
    have hes := ih fun e he => h e (by simp [he])
    cases es with
    | nil => exact he _
    | cons f es =>
      rw [lowerAll, traceAnd.eq_3 _ _ _ _ _ (by simp [lowerAll]),
        traceAnd.eq_3 _ _ _ _ _ (by simp), evalAnd_cons_cons]
      exact .bind (he _) fun v => .test _ (hes _) (.pure v)

theorem traceOr_simulates (h : ∀ e ∈ es, SimulatedIn env e) (place : List Nat) (i : Nat) :
    Simulates (traceOr env place i (lowerAll es)) (traceOr env place i es)
      (evalOr env place i es) := by
  induction es generalizing i with
  | nil => exact .pure _
  | cons e es ih =>
    have he := (h e (by simp)).simulated
    have hes := ih fun e he => h e (by simp [he])
    cases es with
    | nil => exact he _
    | cons f es =>
      rw [lowerAll, traceOr.eq_3 _ _ _ _ _ (by simp [lowerAll]),
        traceOr.eq_3 _ _ _ _ _ (by simp), evalOr_cons_cons]
      exact .bind (he _) fun v => .test _ (.pure v) (hes _)

theorem traceChain_simulates (h : ∀ e ∈ es, SimulatedIn env e) (place : List Nat) (i : Nat)
    (v : Value) (ops : List Comparison) :
    Simulates (traceChain env place i v ops (lowerAll es)) (traceChain env place i v ops es)
      (evalChain env place i v ops es) := by
  induction es generalizing i v ops with
  | nil => cases ops <;> exact .pure _
  | cons e es ih =>
    have he := (h e (by simp)).simulated
    have hes := ih fun e he => h e (by simp [he])
    cases ops with
    | nil => exact .pure _
    | cons c cs =>
      refine .bind (he _) fun w => .bind (.quiet _) fun b => .test _ ?_ (.pure _)
      cases cs with
      | nil => exact .pure _
      | cons d cs => exact hes _ _ _

theorem traceItems_cons (he : e.isSpread = false) (place : List Nat) (i : Nat)
    (es : List Expr) : traceItems env place i (e :: es) = (do
      let v ← trace env (i :: place) e
      return v :: (← traceItems env place (i + 1) es)) :=
  traceItems.eq_3 _ _ _ _ _ fun x hx => by simp [hx, isSpread] at he

theorem traceItems_simulates (h : ∀ e ∈ es, SimulatedIn env e) (place : List Nat) (i : Nat) :
    Simulates (traceItems env place i (lowerAll es)) (traceItems env place i es)
      (evalItems env place i es) := by
  induction es generalizing i with
  | nil => exact .pure _
  | cons e es ih =>
    have he := h e (by simp)
    have hes := ih fun e he => h e (by simp [he])
    cases hs : e.isSpread with
    | true =>
      obtain ⟨x, rfl⟩ := exists_spread hs
      have hx : Simulated env x := he
      exact .bind (hx _) fun v => .bind (.quiet _) fun vs => .bind (hes _) fun ws => .pure _
    | false =>
      rw [lowerAll, traceItems_cons (by simpa using hs), traceItems_cons hs, evalItems_cons hs]
      exact .bind (he.simulated _) fun v => .bind (hes _) fun ws => .pure _

theorem traceSet_cons (he : e.isSpread = false) (place : List Nat) (i : Nat) (adding : Bool)
    (t : Table) (waiting : List Value) (es : List Expr) :
    traceSet env place i adding t waiting (e :: es) = (do
      let v ← trace env (i :: place) e
      if adding then traceSet env place (i + 1) true (← quiet (addHashable t [v])) [] es
      else traceSet env place (i + 1) false t (waiting ++ [v]) es) :=
  traceSet.eq_3 _ _ _ _ _ _ _ _ fun x hx => by simp [hx, isSpread] at he

theorem traceSet_simulates (h : ∀ e ∈ es, SimulatedIn env e) (place : List Nat) (i : Nat)
    (adding : Bool) (t : Table) (waiting : List Value) :
    Simulates (traceSet env place i adding t waiting (lowerAll es))
      (traceSet env place i adding t waiting es) (evalSet env place i adding t waiting es) := by
  induction es generalizing i adding t waiting with
  | nil => exact .quiet _
  | cons e es ih =>
    have he := h e (by simp)
    have hes := ih fun e he => h e (by simp [he])
    cases hs : e.isSpread with
    | true =>
      obtain ⟨x, rfl⟩ := exists_spread hs
      have hx : Simulated env x := he
      exact .bind (.quiet _) fun t => .bind (hx _) fun v => .bind (.quiet _) fun u => hes _ _ _ _
    | false =>
      rw [lowerAll, traceSet_cons (by simpa using hs), traceSet_cons hs, evalSet_cons hs]
      exact .bind (he.simulated _) fun v =>
        .ite (.bind (.quiet _) fun u => hes _ _ _ _) (hes _ _ _ _)

theorem traceDict_simulates (h : ∀ e ∈ es, SimulatedIn env e) (place : List Nat) (i left : Nat)
    (adding : Bool) (done waiting : List (Value × Value)) :
    Simulates (traceDict env place i left adding done waiting (lowerAll es))
      (traceDict env place i left adding done waiting es)
      (evalDict env place i left adding done waiting es) := by
  induction es generalizing i left adding done waiting with
  | nil => exact .quiet _
  | cons e es ih =>
    have he := h e (by simp)
    have hes := ih fun e he => h e (by simp [he])
    cases e with
    | spreadAll x =>
      have hx : Simulated env x := he
      exact .bind (.quiet _) fun done => .bind (hx _) fun v => .bind (.quiet _) fun more =>
        hes _ _ _ _ _
    | pair k v =>
      obtain ⟨hk, hv⟩ : Simulated env k ∧ Simulated env v := he
      have hgroup : groupSize (pair (lower k) (lower v) :: lowerAll es) =
          groupSize (pair k v :: es) := groupSize_lowerAll (pair k v :: es)
      rw [lowerAll, lower, traceDict, traceDict, evalDict, hgroup]
      exact .bind (hk _) fun key => .bind (hv _) fun value =>
        .ite (.bind (.quiet _) fun done => hes _ _ _ _ _) (hes _ _ _ _ _)
    | _ => exact .quiet _

theorem tracePositional_cons (he : e.isSpread = false) (place : List Nat) (es : List Expr) :
    tracePositional env place (e :: es) = (do
      let v ← trace env (1 :: place) e
      return .given (v :: (← traceItems env place 2 es))) :=
  tracePositional.eq_4 _ _ _ _ (fun x hx => by simp [hx, isSpread] at he)
    fun x hx => by simp [hx, isSpread] at he

theorem tracePositional_simulates (h : ∀ e ∈ es, SimulatedIn env e) (place : List Nat) :
    Simulates (tracePositional env place (lowerAll es)) (tracePositional env place es)
      (evalPositional env place es) := by
  cases es with
  | nil => exact .pure _
  | cons e es =>
    have he := h e (by simp)
    have hes := fun i => traceItems_simulates (fun e he => h e (by simp [he]) : ∀ e ∈ es, _) place i
    cases hs : e.isSpread with
    | true =>
      obtain ⟨x, rfl⟩ := exists_spread hs
      have hx : Simulated env x := he
      cases es with
      | nil => exact .bind (hx _) fun v => .pure _
      | cons f es =>
        rw [lowerAll, lower, tracePositional.eq_3 _ _ _ _ (by simp [lowerAll]),
          tracePositional.eq_3 _ _ _ _ (by simp), evalPositional.eq_3 _ _ _ _ (by simp)]
        exact .bind (hx _) fun v => .bind (.quiet _) fun vs => .bind (hes _) fun ws => .pure _
    | false =>
      rw [lowerAll, tracePositional_cons (by simpa using hs), tracePositional_cons hs,
        evalPositional_cons hs]
      exact .bind (he.simulated _) fun v => .bind (hes _) fun ws => .pure _

theorem traceNamed_simulates (h : ∀ e ∈ es, SimulatedIn env e) (place : List Nat) (i : Nat)
    (done waiting : List (Value × Value)) :
    Simulates (traceNamed env place i done waiting (lowerAll es))
      (traceNamed env place i done waiting es) (evalNamed env place i done waiting es) := by
  induction es generalizing i done waiting with
  | nil => exact .quiet _
  | cons e es ih =>
    have he := h e (by simp)
    have hes := ih fun e he => h e (by simp [he])
    cases e with
    | spreadAll x =>
      have hx : Simulated env x := he
      exact .bind (.quiet _) fun done => .bind (hx _) fun v => .bind (.quiet _) fun more =>
        .bind (.quiet _) fun done => hes _ _ _
    | named n x =>
      have hx : Simulated env x := he
      exact .bind (hx _) fun v => hes _ _ _
    | _ => exact .quiet _

theorem traceParts_simulates (h : ∀ e ∈ es, SimulatedIn env e) (place : List Nat) :
    Simulates (traceParts env place (lowerAll es)) (traceParts env place es)
      (evalParts env place es) := by
  induction es with
  | nil => exact .pure _
  | cons e es ih =>
    have he := (h e (by simp)).simulated
    have hes := ih fun e he => h e (by simp [he])
    exact .bind (he _) fun v => .bind hes fun s => .pure _

/-! ## Expressions -/

/-- The helper, called for a member, takes the course of the member. -/
theorem trace_access (hs : e.isSpread = false) (n : Text) (place : List Nat) :
    trace env place (call (name helperName) [e, text n] []) = trace env place (member e n) := by
  have hname : trace env (0 :: place) (name helperName) = pure .memberHelper := rfl
  have harg : traceItems env place 2 [text n] = pure [⟨.common, .text n⟩] := rfl
  rw [trace.eq_6, hname, tracePositional_cons hs, harg, trace.eq_3]
  simp only [pure_bind, bind_assoc]
  exact congrArg (trace env (1 :: place) e >>= ·) (funext fun v => rfl)

mutual

/-- By the parts of an expression: only a member becomes something else, and it takes the same
course. -/
theorem simulatedIn (env : Env) : ∀ e : Expr, e.isRegular = true → SimulatedIn env e
  | literal l, _ => fun _ => .quiet _
  | construct c, _ => fun _ => .quiet _
  | name n, _ => fun place => by
    rw [lower, trace, eval]
    split_ifs
    · exact .quiet _
    · exact .value _ _
  | member e n, h => fun place => by
    simp only [isRegular, Bool.and_eq_true, Bool.not_eq_true'] at h
    rw [lower, trace_access (by simpa using h.1), trace, trace, eval]
    exact .bind ((simulatedIn env e h.2).simulated _) fun v => .value _ _
  | item e k, h => fun place => by
    rw [isRegular, Bool.and_eq_true] at h
    rw [lower, trace, trace, eval]
    exact .bind ((simulatedIn env e h.1).simulated _) fun v =>
      .bind ((simulatedIn env k h.2).simulated _) fun key => value_finished (item e k) _ _
  | slice l m s, h => fun place => by
    simp only [isRegular, Bool.and_eq_true] at h
    rw [lower, trace, trace, eval]
    exact .bind ((simulatedIn env l h.1.1).simulated _) fun l =>
      .bind ((simulatedIn env m h.1.2).simulated _) fun m =>
        .bind ((simulatedIn env s h.2).simulated _) fun s => .value _ _
  | call fn args byName, h => fun place => by
    simp only [isRegular, Bool.and_eq_true] at h
    rw [lower, trace, trace, eval, length_lowerAll]
    exact .bind ((simulatedIn env fn h.1.1).simulated _) fun f =>
      .bind (tracePositional_simulates (areSimulatedIn env args h.1.2) _) fun given =>
        .bind (traceNamed_simulates (areSimulatedIn env byName h.2) _ _ _ _) fun entries =>
          .bind (.quiet _) fun positional => .bind (.quiet _) fun named => .value _ _
  | unary op e, h => fun place => by
    rw [isRegular] at h
    rw [lower, trace, trace, eval]
    exact .bind ((simulatedIn env e h).simulated _) fun v => value_finished (unary op e) _ _
  | binary op l r, h => fun place => by
    rw [isRegular, Bool.and_eq_true] at h
    rw [lower, trace, trace, eval]
    exact .bind ((simulatedIn env l h.1).simulated _) fun v =>
      .bind ((simulatedIn env r h.2).simulated _) fun w => value_finished (binary op l r) _ _
  | connect .and es, h => fun place => by
    rw [isRegular] at h
    rw [lower, trace, trace, eval]
    exact .finish (traceAnd_simulates (areSimulatedIn env es h) _ _) place
  | connect .or es, h => fun place => by
    rw [isRegular] at h
    rw [lower, trace, trace, eval]
    exact .finish (traceOr_simulates (areSimulatedIn env es h) _ _) place
  | compare e ops es, h => fun place => by
    rw [isRegular, Bool.and_eq_true] at h
    rw [lower, trace, trace, eval]
    exact .bind ((simulatedIn env e h.1).simulated _) fun v =>
      .finish (traceChain_simulates (areSimulatedIn env es h.2) _ _ _ _) place
  | choose t y n, h => fun place => by
    simp only [isRegular, Bool.and_eq_true] at h
    rw [lower, trace, trace, eval]
    exact .bind ((simulatedIn env t h.1.1).simulated _) fun v =>
      .test _ (.finish ((simulatedIn env y h.1.2).simulated _) place)
        (.finish ((simulatedIn env n h.2).simulated _) place)
  | list es, h => fun place => by
    rw [isRegular] at h
    rw [lower, trace, trace, eval]
    exact .bind (traceItems_simulates (areSimulatedIn env es h) _ _) fun vs => .value _ _
  | tuple es, h => fun place => by
    rw [isRegular] at h
    rw [lower, trace, trace, eval]
    exact .bind (traceItems_simulates (areSimulatedIn env es h) _ _) fun vs =>
      value_finished (tuple es) _ _
  | set es, h => fun place => by
    rw [isRegular] at h
    rw [lower, trace, trace, eval, isReadySet_lowerAll, length_lowerAll]
    exact .ite (.bind (.map readyTable (traceItems_simulates (areSimulatedIn env es h) _ _))
      fun t => .value _ _) (.bind (traceSet_simulates (areSimulatedIn env es h) _ _ _ _ _)
        fun t => .value _ _)
  | dict es, h => fun place => by
    rw [isRegular] at h
    rw [lower, trace, trace, eval]
    exact .bind (traceDict_simulates (areSimulatedIn env es h) _ _ _ _ _ _) fun es => .value _ _
  | joined es, h => fun place => by
    rw [isRegular] at h
    rw [lower, trace, trace, eval]
    exact .bind (traceParts_simulates (areSimulatedIn env es h) _) fun s => .value _ _
  | shown e, h => fun place => by
    rw [isRegular] at h
    rw [lower, trace, trace, eval]
    exact .bind ((simulatedIn env e h).simulated _) fun v => .value _ _
  | pair k v, h => by
    rw [isRegular, Bool.and_eq_true] at h
    exact ⟨(simulatedIn env k h.1).simulated, (simulatedIn env v h.2).simulated⟩
  | spread e, h => by
    rw [isRegular] at h
    exact (simulatedIn env e h).simulated
  | spreadAll e, h => by
    rw [isRegular] at h
    exact (simulatedIn env e h).simulated
  | named n e, h => by
    rw [isRegular] at h
    exact (simulatedIn env e h).simulated

theorem areSimulatedIn (env : Env) : ∀ es : List Expr, areRegular es = true →
    ∀ e ∈ es, SimulatedIn env e
  | [], _ => by simp
  | e :: es, h => by
    rw [areRegular_cons, Bool.and_eq_true] at h
    exact List.forall_mem_cons.2 ⟨simulatedIn env e h.1, areSimulatedIn env es h.2⟩

end

/-! ## Members -/

mutual

theorem holdsMember_lower : ∀ e : Expr, (lower e).holdsMember = false
  | literal _ | name _ | construct _ => rfl
  | member e n => by
    rw [lower]
    simp [holdsMember, anyMember, text, holdsMember_lower e]
  | item e k | pair e k | binary _ e k => by
    rw [lower, holdsMember, holdsMember_lower e, holdsMember_lower k]
    rfl
  | slice l m s => by
    rw [lower, holdsMember, holdsMember_lower l, holdsMember_lower m, holdsMember_lower s]
    rfl
  | choose t y n => by
    rw [lower, holdsMember, holdsMember_lower t, holdsMember_lower y, holdsMember_lower n]
    rfl
  | call f args byName => by
    rw [lower, holdsMember, holdsMember_lower f, anyMember_lowerAll args,
      anyMember_lowerAll byName]
    rfl
  | compare e _ es => by
    rw [lower, holdsMember, holdsMember_lower e, anyMember_lowerAll es]
    rfl
  | unary _ e | spread e | spreadAll e | named _ e | shown e => by
    rw [lower, holdsMember, holdsMember_lower e]
  | connect _ es | list es | tuple es | set es | dict es | joined es => by
    rw [lower, holdsMember, anyMember_lowerAll es]

theorem anyMember_lowerAll : ∀ es : List Expr, anyMember (lowerAll es) = false
  | [] => rfl
  | e :: es => by
    rw [lowerAll, anyMember, holdsMember_lower e, anyMember_lowerAll es]
    rfl

end

/-- A lowered expression reads no member but through the helper. It has the value of the expression
that it was made from, or fails as this does, and on the way it takes the same course. All this
holds if no member is read of a spread, as none is in what the parser reads. -/
theorem lower_simulates :
    (∀ s e, Parser.parse? s = some e → e.isRegular = true) ∧
      ∀ e : Expr, e.isRegular = true → (lower e).holdsMember = false ∧
        ∀ env place, (lower e).eval env place = e.eval env place ∧
          (lower e).trace env place = e.trace env place ∧
            (e.trace env place).outcome = e.eval env place := by
  refine ⟨fun s e => Parser.isRegular_of_parse?, fun e he => ⟨holdsMember_lower e, ?_⟩⟩
  intro env place
  obtain ⟨hsame, houtcome⟩ := (simulatedIn env e he).simulated place
  exact ⟨eval_lower he env place, hsame, houtcome⟩

/-- A member called with a member, in a chain of comparisons with members. -/
def chained : Expr :=
  .compare (.call (.member (.member (.name Scoping.scopeName) ['a']) "get".toList)
    [.member (.name Scoping.scopeName) ['k']] []) [.lt, .lt]
    [.member (.name Scoping.scopeName) ['c'], .member (.name Scoping.scopeName) ['d']]

def chainedData : Value :=
  .dict [(.text ['a'], .dict [(.text ['b'], .int 2)]), (.text ['k'], .text ['b']),
    (.text ['c'], .int 1)]

/-- The first comparison does not hold, so the last operand is not evaluated: the data have no value
for it. -/
theorem lower_simulates_chained :
    chained.isRegular = true ∧ (lower chained).holdsMember = false ∧
      ((lower chained).trace ⟨.standard, chainedData⟩ []).events.map Event.place =
        [[1, 1, 0, 0], [1, 0, 0], [0, 0], [1, 1, 0], [1, 0], [0], [1, 1], [1], [1], []] := by
  have hregular : chained.isRegular = true := by decide
  have hplaces : (chained.trace ⟨.standard, chainedData⟩ []).events.map Event.place =
      [[1, 1, 0, 0], [1, 0, 0], [0, 0], [1, 1, 0], [1, 0], [0], [1, 1], [1], [1], []] := by
    decide +kernel
  obtain ⟨hmember, hrun⟩ := lower_simulates.2 chained hregular
  obtain ⟨-, htrace, -⟩ := hrun ⟨.standard, chainedData⟩ []
  exact ⟨hregular, hmember, by rw [htrace, hplaces]⟩

end Expr

end Stencil
