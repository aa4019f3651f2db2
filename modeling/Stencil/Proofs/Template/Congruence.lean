import Mathlib.Data.List.Forall2
import Mathlib.Tactic.SplitIfs
import Stencil.Template.Evaluation

/-! # Values depend on the values of the parts

Two expressions that are put together alike, each evaluated in its own surroundings, have the same
value if their parts do, at every place. The surroundings have the same filters; what else is known
of them the parts say. -/
namespace Stencil

namespace Expr

/-- The two expressions have the same value wherever they stand. -/
def Alike (a b : Env) (e f : Expr) : Prop := ∀ place, e.eval a place = f.eval b place

/-- What stands only among others, in displays and arguments. -/
def isElement : Expr → Bool
  | spread _ | spreadAll _ | named _ _ | pair _ _ => true
  | _ => false

/-- The same for what is evaluated of an element of a list. -/
inductive AlikeIn (a b : Env) : Expr → Expr → Prop
  | alone {e f : Expr} (he : e.isElement = false) (hf : f.isElement = false) (h : Alike a b e f) :
      AlikeIn a b e f
  | spread {e f : Expr} (h : Alike a b e f) : AlikeIn a b (.spread e) (.spread f)
  | spreadAll {e f : Expr} (h : Alike a b e f) : AlikeIn a b (.spreadAll e) (.spreadAll f)
  | named (n : Text) {e f : Expr} (h : Alike a b e f) : AlikeIn a b (.named n e) (.named n f)
  | pair {k l e f : Expr} (hk : Alike a b k l) (h : Alike a b e f) :
      AlikeIn a b (.pair k e) (.pair l f)

variable {a b : Env} {e f k l : Expr} {es fs : List Expr}

theorem AlikeIn.alike (h : AlikeIn a b e f) : Alike a b e f := by
  cases h with
  | alone _ _ h => exact h
  | spread | spreadAll | named | pair => exact fun _ => rfl

theorem isSpread_of_isElement (h : e.isElement = false) : e.isSpread = false := by
  cases e <;> first | rfl | cases h

theorem isPair_of_isElement (h : e.isElement = false) : e.isPair = false := by
  cases e <;> first | rfl | cases h

theorem AlikeIn.isPair_eq (h : AlikeIn a b e f) : e.isPair = f.isPair := by
  cases h with
  | alone he hf => rw [isPair_of_isElement he, isPair_of_isElement hf]
  | spread | spreadAll | named | pair => rfl

/-! ## Lists of expressions -/

theorem evalAnd_cons_cons (env : Env) (place : List Nat) (i : Nat) (e f : Expr)
    (es : List Expr) : evalAnd env place i (e :: f :: es) = (do
      let v ← eval env (i :: place) e
      if v.isTrue then evalAnd env place (i + 1) (f :: es) else return v) :=
  evalAnd.eq_3 _ _ _ _ _ (by simp)

theorem evalAnd_congr (h : List.Forall₂ (AlikeIn a b) es fs) (place : List Nat) (i : Nat) :
    evalAnd a place i es = evalAnd b place i fs := by
  induction h generalizing i with
  | nil => rfl
  | cons he hes ih =>
    cases hes with
    | nil => exact he.alike _
    | cons => rw [evalAnd_cons_cons, evalAnd_cons_cons, he.alike, ih]

theorem evalOr_cons_cons (env : Env) (place : List Nat) (i : Nat) (e f : Expr)
    (es : List Expr) : evalOr env place i (e :: f :: es) = (do
      let v ← eval env (i :: place) e
      if v.isTrue then return v else evalOr env place (i + 1) (f :: es)) :=
  evalOr.eq_3 _ _ _ _ _ (by simp)

theorem evalOr_congr (h : List.Forall₂ (AlikeIn a b) es fs) (place : List Nat) (i : Nat) :
    evalOr a place i es = evalOr b place i fs := by
  induction h generalizing i with
  | nil => rfl
  | cons he hes ih =>
    cases hes with
    | nil => exact he.alike _
    | cons => rw [evalOr_cons_cons, evalOr_cons_cons, he.alike, ih]

theorem evalChain_congr (h : List.Forall₂ (AlikeIn a b) es fs) (place : List Nat) (i : Nat)
    (v : Value) (ops : List Comparison) :
    evalChain a place i v ops es = evalChain b place i v ops fs := by
  induction h generalizing i v ops with
  | nil => cases ops <;> rfl
  | cons he hes ih =>
    cases ops with
    | nil => rfl
    | cons c cs => simp only [evalChain, he.alike _, ih]

theorem evalItems_cons {env : Env} (he : e.isSpread = false) (place : List Nat) (i : Nat)
    (es : List Expr) : evalItems env place i (e :: es) = do
      let v ← eval env (i :: place) e
      return v :: (← evalItems env place (i + 1) es) :=
  evalItems.eq_3 _ _ _ _ _ fun x hx => by simp [hx, isSpread] at he

theorem exists_spread (he : e.isSpread = true) : ∃ x, e = spread x := by
  cases e <;> first | exact ⟨_, rfl⟩ | cases he

/-- An element is spread on both sides, or on neither. -/
theorem AlikeIn.spread_or (h : AlikeIn a b e f) :
    (∃ x y, e = .spread x ∧ f = .spread y ∧ Alike a b x y) ∨
      e.isSpread = false ∧ f.isSpread = false := by
  cases h with
  | alone he hf => exact .inr ⟨isSpread_of_isElement he, isSpread_of_isElement hf⟩
  | spread h => exact .inl ⟨_, _, rfl, rfl, h⟩
  | spreadAll | named | pair => exact .inr ⟨rfl, rfl⟩

theorem evalItems_congr (h : List.Forall₂ (AlikeIn a b) es fs) (place : List Nat) (i : Nat) :
    evalItems a place i es = evalItems b place i fs := by
  induction h generalizing i with
  | nil => rfl
  | cons he hes ih =>
    rcases he.spread_or with ⟨x, y, rfl, rfl, h⟩ | ⟨hx, hy⟩
    · simp only [evalItems, h _, ih]
    · rw [evalItems_cons hx, evalItems_cons hy, he.alike, ih]

theorem evalSet_cons {env : Env} (he : e.isSpread = false) (place : List Nat) (i : Nat)
    (adding : Bool) (t : Table) (waiting : List Value) (es : List Expr) :
    evalSet env place i adding t waiting (e :: es) = (do
      let v ← eval env (i :: place) e
      if adding then evalSet env place (i + 1) true (← addHashable t [v]) [] es
      else evalSet env place (i + 1) false t (waiting ++ [v]) es) :=
  evalSet.eq_3 _ _ _ _ _ _ _ _ fun x hx => by simp [hx, isSpread] at he

theorem evalSet_congr (h : List.Forall₂ (AlikeIn a b) es fs) (place : List Nat) (i : Nat)
    (adding : Bool) (t : Table) (waiting : List Value) :
    evalSet a place i adding t waiting es = evalSet b place i adding t waiting fs := by
  induction h generalizing i adding t waiting with
  | nil => rfl
  | cons he hes ih =>
    rcases he.spread_or with ⟨x, y, rfl, rfl, h⟩ | ⟨hx, hy⟩
    · simp only [evalSet, h _, ih]
    · rw [evalSet_cons hx, evalSet_cons hy, he.alike]
      simp only [ih]

theorem evalPositional_cons {env : Env} (he : e.isSpread = false) (place : List Nat)
    (es : List Expr) : evalPositional env place (e :: es) = do
      let v ← eval env (1 :: place) e
      return .given (v :: (← evalItems env place 2 es)) :=
  evalPositional.eq_4 _ _ _ _ (fun x hx _ => by simp [hx, isSpread] at he)
    fun x hx => by simp [hx, isSpread] at he

theorem evalPositional_congr (h : List.Forall₂ (AlikeIn a b) es fs) (place : List Nat) :
    evalPositional a place es = evalPositional b place fs := by
  cases h with
  | nil => rfl
  | cons he hes =>
    have htail := fun i => evalItems_congr hes place i
    rcases he.spread_or with ⟨x, y, rfl, rfl, h⟩ | ⟨hx, hy⟩
    · cases hes with
      | nil => simp only [evalPositional, h _]
      | cons =>
        rw [evalPositional.eq_3 _ _ _ _ (by simp), evalPositional.eq_3 _ _ _ _ (by simp), h, htail]
    · rw [evalPositional_cons hx, evalPositional_cons hy, he.alike, htail]

theorem groupSize_congr (h : List.Forall₂ (AlikeIn a b) es fs) : groupSize es = groupSize fs := by
  have htake : (es.takeWhile isPair).length = (fs.takeWhile isPair).length := by
    induction h with
    | nil => rfl
    | cons he hes ih =>
      rw [List.takeWhile_cons, List.takeWhile_cons, he.isPair_eq]
      split_ifs
      · simp [ih]
      · rfl
  rw [groupSize, groupSize, htake]

theorem evalDict_of_isElement {env : Env} (he : e.isElement = false) (place : List Nat)
    (i left : Nat) (adding : Bool) (done waiting : List (Value × Value)) (es : List Expr) :
    evalDict env place i left adding done waiting (e :: es) = .error .wrongType := by
  cases e <;> first | rfl | cases he

theorem evalNamed_of_isElement {env : Env} (he : e.isElement = false) (place : List Nat) (i : Nat)
    (done waiting : List (Value × Value)) (es : List Expr) :
    evalNamed env place i done waiting (e :: es) = .error .wrongType := by
  cases e <;> first | rfl | cases he

section

variable (hr : a.registry = b.registry)

include hr

theorem evalDict_congr (h : List.Forall₂ (AlikeIn a b) es fs) (place : List Nat) (i left : Nat)
    (adding : Bool) (done waiting : List (Value × Value)) :
    evalDict a place i left adding done waiting es =
      evalDict b place i left adding done waiting fs := by
  induction h generalizing i left adding done waiting with
  | nil => rfl
  | cons he hes ih =>
    have hgroup := groupSize_congr (.cons he hes)
    cases he with
    | alone he hf => rw [evalDict_of_isElement he, evalDict_of_isElement hf]
    | spreadAll h => simp only [evalDict, h _, hr, ih]
    | pair hk h => simp only [evalDict, hk _, h _, ih, hgroup]
    | spread | named => rfl

theorem evalNamed_congr (h : List.Forall₂ (AlikeIn a b) es fs) (place : List Nat) (i : Nat)
    (done waiting : List (Value × Value)) :
    evalNamed a place i done waiting es = evalNamed b place i done waiting fs := by
  induction h generalizing i done waiting with
  | nil => rfl
  | cons he hes ih =>
    cases he with
    | alone he hf => rw [evalNamed_of_isElement he, evalNamed_of_isElement hf]
    | spreadAll h => simp only [evalNamed, h _, hr, ih]
    | named n h => simp only [evalNamed, h _, ih]
    | spread | pair => rfl

end

theorem evalParts_congr (h : List.Forall₂ (AlikeIn a b) es fs) (place : List Nat) :
    evalParts a place es = evalParts b place fs := by
  induction h with
  | nil => rfl
  | cons he hes ih => simp only [evalParts, he.alike _, ih]

/-! ## Expressions -/

namespace Alike

theorem item (he : Alike a b e f) (hk : Alike a b k l)
    (hc : (item e k).isConstant = (Expr.item f l).isConstant) :
    Alike a b (.item e k) (.item f l) := by
  intro place
  simp only [eval, finished, he _, hk _, hc]

theorem slice {s t : Expr} (he : Alike a b e f) (hk : Alike a b k l) (hs : Alike a b s t) :
    Alike a b (.slice e k s) (.slice f l t) := by
  intro place
  simp only [eval, he _, hk _, hs _]

theorem unary (op : UnaryOp) (he : Alike a b e f)
    (hc : (unary op e).isConstant = (Expr.unary op f).isConstant) :
    Alike a b (.unary op e) (.unary op f) := by
  intro place
  simp only [eval, finished, he _, hc]

theorem binary (op : BinaryOp) (he : Alike a b e f) (hk : Alike a b k l)
    (hc : (binary op e k).isConstant = (Expr.binary op f l).isConstant) :
    Alike a b (.binary op e k) (.binary op f l) := by
  intro place
  simp only [eval, finished, he _, hk _, hc]

theorem connect (c : Connective) (h : List.Forall₂ (AlikeIn a b) es fs) :
    Alike a b (.connect c es) (.connect c fs) := by
  intro place
  cases c with
  | and => exact evalAnd_congr h place 0
  | or => exact evalOr_congr h place 0

theorem compare (ops : List Comparison) (he : Alike a b e f)
    (h : List.Forall₂ (AlikeIn a b) es fs) :
    Alike a b (.compare e ops es) (.compare f ops fs) := by
  intro place
  simp only [eval, he _, evalChain_congr h]

theorem choose {s t : Expr} (he : Alike a b e f) (hk : Alike a b k l) (hs : Alike a b s t) :
    Alike a b (.choose e k s) (.choose f l t) := by
  intro place
  simp only [eval, he _, hk _, hs _]

theorem list (h : List.Forall₂ (AlikeIn a b) es fs) : Alike a b (.list es) (.list fs) := by
  intro place
  simp only [eval, evalItems_congr h]

theorem tuple (h : List.Forall₂ (AlikeIn a b) es fs)
    (hc : (tuple es).isConstant = (Expr.tuple fs).isConstant) :
    Alike a b (.tuple es) (.tuple fs) := by
  intro place
  simp only [eval, finished, evalItems_congr h, hc]

theorem set (h : List.Forall₂ (AlikeIn a b) es fs) (hc : areConstant es = areConstant fs) :
    Alike a b (.set es) (.set fs) := by
  intro place
  have hready : isReadySet es = isReadySet fs := by rw [isReadySet, isReadySet, hc, h.length_eq]
  simp only [eval, hready, evalItems_congr h, evalSet_congr h, h.length_eq]

theorem dict (hr : a.registry = b.registry) (h : List.Forall₂ (AlikeIn a b) es fs) :
    Alike a b (.dict es) (.dict fs) := by
  intro place
  simp only [eval, evalDict_congr hr h]

theorem joined (h : List.Forall₂ (AlikeIn a b) es fs) : Alike a b (.joined es) (.joined fs) := by
  intro place
  simp only [eval, evalParts_congr h]

theorem shown (he : Alike a b e f) : Alike a b (.shown e) (.shown f) := by
  intro place
  simp only [eval, he _]

theorem member (hr : a.registry = b.registry) (he : Alike a b e f) (n : Text) :
    Alike a b (.member e n) (.member f n) := by
  intro place
  simp only [eval, he _, hr]

theorem call (hr : a.registry = b.registry) {gs hs : List Expr} (he : Alike a b e f)
    (ha : List.Forall₂ (AlikeIn a b) es fs) (hn : List.Forall₂ (AlikeIn a b) gs hs) :
    Alike a b (.call e es gs) (.call f fs hs) := by
  intro place
  simp only [eval, he _, evalPositional_congr ha, evalNamed_congr hr hn, ha.length_eq, hr]

end Alike

end Expr

end Stencil
