import Mathlib
import Stencil.Proofs.Expr.Contents
import Stencil.Proofs.Template.Compilation
import Stencil.Proofs.Template.Recombination

/-! # Templates of several pieces

Pieces that keep to their parentheses are the parts of a concatenation, one each and in their order,
and the template gives their texts, one behind the other. -/
namespace Stencil

open Operand

namespace Piece

variable {d : Dialect}

/-- The expression that the piece writes alone; code stands in parentheses. -/
def expr? (d : Dialect) : Piece → Option Expr
  | literal s => some (.text s)
  | interpolation s => (Source.code? d s).bind fun code => Parser.parse? ('(' :: code ++ [')'])

/-- The part that the piece is in a concatenation. -/
def leaf : Piece → Expr → Leaf
  | literal s, _ => .literal s
  | interpolation _, e => .ofExpr e

/-- The text that the piece adds to a concatenation. -/
def shown (env : Env) : Piece → Expr → Outcome Text
  | literal s, _ => .ok s
  | interpolation _, e => do return (← e.eval env []).shown

theorem expr?_eq (p : Piece) : expr? d p = (ofPiece? d p).bind value? := by
  cases p with
  | literal s => rfl
  | interpolation s =>
    rw [expr?, ofPiece?]
    cases Source.code? d s <;> rfl

theorem leaf_of_expr? {p : Piece} {e : Expr} (h : expr? d p = some e) :
    p.leaf e = Leaf.ofExpr e := by
  cases p with
  | literal s =>
    cases h
    rfl
  | interpolation s => rfl

theorem shown_of_expr? {p : Piece} {e : Expr} (h : expr? d p = some e) (env : Env) :
    p.shown env e = e.shownText env := by
  cases p with
  | literal s =>
    cases h
    rfl
  | interpolation s => rfl

variable {ps : List Piece} {es : List Expr}

theorem zip_map_leaf (h : ps.mapM (expr? d) = some es) :
    ((ps.zip es).map fun p => p.1.leaf p.2) = es.map Leaf.ofExpr := by
  rw [mapM_eq_some_iff] at h
  induction h with
  | nil => rfl
  | cons hp _ ih => rw [List.zip_cons_cons, List.map_cons, List.map_cons, ih, leaf_of_expr? hp]

theorem zip_mapM_shown (h : ps.mapM (expr? d) = some es) (env : Env) :
    ((ps.zip es).mapM fun p => p.1.shown env p.2) = es.mapM (Expr.shownText env) := by
  rw [mapM_eq_some_iff] at h
  induction h with
  | nil => rfl
  | cons hp _ ih =>
    rw [List.zip_cons_cons, List.mapM_cons, List.mapM_cons, ih, shown_of_expr? hp]

/-- The operands of pieces and their values. -/
theorem operands_of_mapM (h : ps.mapM (expr? d) = some es) :
    ∃ os, ps.mapM (ofPiece? d) = some os ∧ os.mapM value? = some es := by
  simp only [mapM_eq_some_iff] at h ⊢
  induction h with
  | nil => exact ⟨[], .nil, .nil⟩
  | @cons p e ps es hp _ ih =>
    obtain ⟨os, h₁, h₂⟩ := ih
    rw [expr?_eq] at hp
    obtain ⟨o, ho, he⟩ := Option.bind_eq_some_iff.1 hp
    exact ⟨o :: os, .cons ho h₁, .cons he h₂⟩

theorem code_of_mem {os : List Operand} (h : ps.mapM (ofPiece? d) = some os) {code : Text}
    (hc : Operand.code code ∈ os) :
    ∃ v, interpolation v ∈ ps ∧ Source.code? d v = some code := by
  rw [mapM_eq_some_iff] at h
  induction h with
  | nil => cases hc
  | @cons p o ps os hp _ ih =>
    rcases List.mem_cons.1 hc with rfl | hc
    · cases p with
      | literal s => cases hp
      | interpolation s =>
        obtain ⟨c, hs, he⟩ := Option.map_eq_some_iff.1 hp
        cases he
        exact ⟨s, by simp, hs⟩
    · obtain ⟨v, hv, hs⟩ := ih hc
      exact ⟨v, by simp [hv], hs⟩

end Piece

theorem Expr.isSpread_foldl {e : Expr} (h : e.isSpread = false) (es : List Expr) :
    (es.foldl (.binary .add) e).isSpread = false := by
  induction es generalizing e with
  | nil => exact h
  | cons x es ih => exact ih rfl

theorem Expr.listed_foldl (es : List Expr) :
    Expr.listed [es.foldl (.binary .add) (.text [])] = es.foldl (.binary .add) (.text []) := by
  rw [Expr.listed, if_neg (by simp [Expr.isSpread_foldl (e := .text []) rfl es])]

theorem Operand.isRegular_of_value? {o : Operand} {e : Expr} (h : o.value? = some e) :
    e.isRegular = true := by
  cases o with
  | text s =>
    cases h
    rfl
  | code s => exact Parser.isRegular_of_parse? h

namespace Operand

variable {os : List Operand} {es : List Expr}

theorem ofSource_recombined (h : ∀ s, code s ∈ os → EnclosedWithin room s)
    (hes : os.mapM value? = some es) (hne : es ≠ []) :
    Tree.ofSource (recombined os) = .ok (.concat (es.map Leaf.ofExpr)) :=
  Tree.ofSource_eq_ok_iff.2 ⟨_, by simp, parse?_recombined h hes, by
    rw [Expr.listed_foldl, Expr.tree_ofExpr, Expr.textSum?_foldl hne]⟩

theorem isRegular_of_mapM (hes : os.mapM value? = some es) : ∀ e ∈ es, e.isRegular = true := by
  rw [mapM_eq_some_iff] at hes
  induction hes with
  | nil => nofun
  | cons ho _ ih =>
    intro e he
    rcases List.mem_cons.1 he with rfl | he
    · exact isRegular_of_value? ho
    · exact ih e he

/-- What operands that are put together compile to is their concatenation. -/
theorem compiled_recombined (h : ∀ s, code s ∈ os → EnclosedWithin room s)
    (hes : os.mapM value? = some es) (hne : es ≠ []) {expression : Text} {c : Compiled}
    (hc : Compiled.ofSource (recombined os) expression = .ok c) :
    c.tree = .concat (es.map Leaf.ofExpr) ∧ ∀ r data, c.render r data =
      Value.settled [] (do return .text (← Expr.joinedText ⟨r, data⟩ es)) := by
  obtain ⟨xs, -, hxs, -, rfl⟩ := Compiled.ofSource_eq_ok_iff.1 hc
  cases (parse?_recombined h hes).symm.trans hxs
  rw [Expr.listed_foldl]
  refine ⟨by rw [Expr.tree_ofExpr, Expr.textSum?_foldl hne], fun r data => ?_⟩
  rw [Compiled.render, Expr.emission, Expr.textSum?_foldl hne]
  refine (Expr.eval_joined_emitted (isRegular_of_mapM hes)).trans ?_
  cases Expr.joinedText ⟨r, data⟩ es <;> rfl

/-- Operands that keep to their parentheses and compile together have values alone. -/
theorem values_of_ofSource (h : ∀ s, code s ∈ os → Enclosed s) {expression : Text} {c : Compiled}
    (hc : Compiled.ofSource (recombined os) expression = .ok c) :
    (∀ s, code s ∈ os → EnclosedWithin room s) ∧ ∃ es, os.mapM value? = some es := by
  obtain ⟨xs, -, hxs, -, -⟩ := Compiled.ofSource_eq_ok_iff.1 hc
  exact of_parse?_recombined h hxs

theorem length_of_mapM {α β : Type} {f : α → Option β} {xs : List α} {ys : List β}
    (h : xs.mapM f = some ys) : ys.length = xs.length :=
  (mapM_eq_some_iff.1 h).length_eq.symm

end Operand

/-- A concatenation gives a text, if it gives anything. -/
theorem Compiled.content_of_concat {source expression : Text} {c : Compiled} {parts : List Leaf}
    (hc : Compiled.ofSource source expression = .ok c) (ht : c.tree = .concat parts)
    {r : Registry} {data v : Value} (hv : c.render r data = .ok v) :
    ∃ t, v.content = .text t := by
  obtain ⟨es, -, -, -, rfl⟩ := Compiled.ofSource_eq_ok_iff.1 hc
  simp only [Expr.tree_ofExpr] at ht
  rw [Compiled.render, Expr.emission] at hv
  cases hs : (Expr.listed es).textSum? with
  | none =>
    rw [hs] at ht
    cases ht
  | some ps =>
    rw [hs] at hv
    simp only [Expr.eval] at hv
    cases hp : Expr.evalParts ⟨r, data⟩ [] (ps.map Expr.emitted).flatten with
    | error f =>
      rw [hp] at hv
      cases hv
    | ok t =>
      rw [hp] at hv
      cases hv
      exact ⟨t, Value.content_settle rfl [] []⟩

/-! ## A name as code -/

theorem code?_name : Source.code? .standard ['a'] = some "scope.a".toList := by decide +kernel

theorem enclosedWithin_name : EnclosedWithin room "scope.a".toList :=
  ⟨[.name "scope".toList, .symbol .dot, .name ['a']],
    .token (r := ".a)".toList) rfl (by decide)
      (.token (r := "a)".toList) rfl (by decide) (.token (r := ")".toList) rfl (by decide) .refl)),
    .plain rfl (.plain rfl (.plain rfl .nil))⟩

theorem parse?_name :
    Parser.parse? "(scope.a)".toList = some (.member (.name Scoping.scopeName) ['a']) := by
  rw [Parser.parse?_eq (c := Parser.inParens [.name "scope".toList, .symbol .dot, .name ['a']])
    (by decide +kernel)]
  cbv

theorem pieces_name_text : Piece.ofText .standard (Text.strip "\x7b\x7b a \x7d\x7dx".toList) =
    [.interpolation ['a'], .literal ['x']] := by decide +kernel

theorem enclosedWithin_of_mem_name_text {v code : Text}
    (hv : .interpolation v ∈ [Piece.interpolation ['a'], .literal ['x']])
    (hcode : Source.code? .standard v = some code) : EnclosedWithin room code := by
  obtain rfl : v = ['a'] := by simpa using hv
  cases code?_name.symm.trans hcode
  exact enclosedWithin_name

namespace Template

theorem compile_name_text :
    ∃ c, compile .standard "\x7b\x7b a \x7d\x7dx".toList = .ok (.compiled c) := by
  have henc : ∀ s, .code s ∈ [Operand.code "scope.a".toList, .text ['x']] →
      EnclosedWithin room s := by
    intro s hs
    obtain rfl : s = "scope.a".toList := by simpa using hs
    exact enclosedWithin_name
  have hparse := parse?_recombined henc
    (mapM_eq_some_iff.2 (.cons parse?_name (.cons rfl .nil)))
  exact ⟨_, compile_eq_ok_iff.2 ⟨by decide +kernel, by decide +kernel, _, by decide +kernel,
    Compiled.ofSource_eq_ok_iff.2 ⟨_, by simp, hparse, ⟨rfl, rfl⟩, rfl⟩⟩⟩

variable {d : Dialect} {s : Text}

theorem balanced_replicate (n : Nat) {ts : List Token} (h : Balanced ts) : Balanced
    (List.replicate n (.symbol .parenOpen) ++ ts ++ List.replicate n (.symbol .parenClose)) := by
  induction n with
  | zero => simpa using h
  | succ n ih =>
    obtain ⟨k, hk⟩ := ih
    refine ⟨k + 1, ?_⟩
    rw [List.replicate_succ, List.replicate_succ', List.cons_append, List.cons_append,
      ← List.append_assoc]
    exact .group rfl hk .nil

/-- In parentheses, the code is an expression, and the last parenthesis closes the first one. -/
def IsParenthesized (code : Text) : Prop :=
  ∃ ts e, Lexer.tokens? ('(' :: code ++ [')']) = some (Parser.inParens ts) ∧ Balanced ts ∧
    Parser.parse? ('(' :: code ++ [')']) = some e

theorem isParenthesized_comment : IsParenthesized "scope.a) #".toList := by
  have htok : Lexer.tokens? "(scope.a) #)".toList =
      some (Parser.inParens [.name "scope".toList, .symbol .dot, .name ['a']]) := by decide +kernel
  refine ⟨_, .member (.name Scoping.scopeName) ['a'], htok,
    ⟨0, .plain rfl (.plain rfl (.plain rfl .nil))⟩, ?_⟩
  change Parser.parse? "(scope.a) #)".toList = _
  rw [Parser.parse?_eq htok]
  cbv

/-- So many brackets around a number that with parentheses around them there is room for no more. -/
def deepCode : Text := List.replicate 199 '(' ++ '1' :: List.replicate 199 ')'

set_option maxRecDepth 20000 in
theorem isParenthesized_deepCode : IsParenthesized deepCode := by
  have htok : Lexer.tokens? ('(' :: deepCode ++ [')']) =
      some (Parser.inParens (List.replicate 199 (.symbol .parenOpen) ++ [.number ['1']] ++
        List.replicate 199 (.symbol .parenClose))) := by decide +kernel
  have hparse : (Parser.parse? ('(' :: deepCode ++ [')'])).isSome = true := by decide +kernel
  obtain ⟨e, he⟩ := Option.isSome_iff_exists.1 hparse
  exact ⟨_, e, htok, balanced_replicate 199 ⟨0, .plain rfl .nil⟩, he⟩

/-- A template of several pieces whose codes keep to their parentheses compiles to a concatenation
with one part for each piece, and a template that compiles to a concatenation gives nothing but
texts. -/
theorem text_of_render {c : Compiled} (hn : 2 ≤ (Piece.ofText d (Text.strip s)).length)
    (hc : compile d s = .ok (.compiled c)) :
    ((∀ v, .interpolation v ∈ Piece.ofText d (Text.strip s) → ∀ code,
        Source.code? d v = some code → Enclosed code) →
      ∃ parts, c.tree = .concat parts ∧
        parts.length = (Piece.ofText d (Text.strip s)).length) ∧
    ∀ parts, c.tree = .concat parts → ∀ r data v, c.render r data = .ok v →
      ∃ t, v.content = .text t := by
  obtain ⟨-, -, src, hsrc, hc⟩ := compile_eq_ok_iff.1 hc
  refine ⟨fun henc => ?_, fun parts ht r data v hv => Compiled.content_of_concat hc ht hv⟩
  rw [ofPieces?_eq hn] at hsrc
  obtain ⟨os, hos, rfl⟩ := Option.map_eq_some_iff.1 hsrc
  have henc' : ∀ code, Operand.code code ∈ os → Enclosed code := by
    intro code hcode
    obtain ⟨v, hv, hs⟩ := Piece.code_of_mem hos hcode
    exact henc v hv code hs
  obtain ⟨hroom, es, hes⟩ := values_of_ofSource henc' hc
  have hlen : es.length = (Piece.ofText d (Text.strip s)).length :=
    (length_of_mapM hes).trans (length_of_mapM hos)
  have hne : es ≠ [] := by
    rintro rfl
    simp at hlen
    omega
  exact ⟨_, (compiled_recombined hroom hes hne hc).1, by rw [List.length_map, hlen]⟩

/-- A name with a text behind it is a text. -/
theorem text_of_render_name_text :
    ∃ c, compile .standard "\x7b\x7b a \x7d\x7dx".toList = .ok (.compiled c) ∧
      (∃ parts, c.tree = .concat parts ∧ parts.length = 2) ∧
      ∀ r data v, c.render r data = .ok v → ∃ t, v.content = .text t := by
  obtain ⟨c, hc⟩ := compile_name_text
  have h := text_of_render (pieces_name_text ▸ (by decide)) hc
  rw [pieces_name_text] at h
  obtain ⟨parts, ht, hlen⟩ := h.1 fun v hv code hcode =>
    (enclosedWithin_of_mem_name_text hv hcode).enclosed
  exact ⟨c, hc, ⟨parts, ht, hlen⟩, h.2 parts ht⟩

/-- A code that closes the parenthesis in front of it can make a tuple of the template. -/
theorem not_text_of_render :
    Piece.ofText .standard (Text.strip "\x7b\x7b 'p'), ('q' \x7d\x7dx".toList) =
      [.interpolation "'p'), ('q'".toList, .literal ['x']] ∧
    ∃ c, compile .standard "\x7b\x7b 'p'), ('q' \x7d\x7dx".toList = .ok (.compiled c) ∧
      ∀ r data, ∃ v, c.render r data = .ok v ∧ ∀ t, v.content ≠ .text t := by
  have htok : Lexer.tokens? (bracketed "'' + ('p'), ('q') + 'x'".toList) =
      some (Parser.inSquares (Text.Quoted.token [] :: .symbol .plus ::
        (Parser.inParens [Text.Quoted.token ['p']] ++ .symbol .comma ::
          (Parser.inParens [Text.Quoted.token ['q']] ++
            [.symbol .plus, Text.Quoted.token ['x']])))) := by decide +kernel
  have hparse : Parser.parse? (bracketed "'' + ('p'), ('q') + 'x'".toList) = some (.list
      [.binary .add (.text []) (.text ['p']), .binary .add (.text ['q']) (.text ['x'])]) := by
    rw [Parser.parse?_eq htok]
    cbv
  refine ⟨by decide +kernel, _, compile_eq_ok_iff.2 ⟨by decide +kernel, by decide +kernel,
    "'' + ('p'), ('q') + 'x'".toList, by decide +kernel,
    Compiled.ofSource_eq_ok_iff.2 ⟨_, by simp, hparse, ⟨rfl, rfl⟩, rfl⟩⟩, fun r data =>
    ⟨⟨.common, .tuple [⟨.common, .text ['p']⟩, ⟨.common, .text ['q', 'x']⟩]⟩, rfl,
      fun t ht => by cases ht⟩⟩

end Template

end Stencil
