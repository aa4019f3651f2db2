import Stencil.Proofs.Template.Factorization

/-! # Interpolations that run past a closing mark

An interpolation holds at least one character, so marks with nothing between them make none. The
character that it has to hold may begin a closing mark: an interpolation runs past a closing mark if
that stands right behind its opening mark, and in no other way. -/
namespace Stencil

namespace Piece

open Text (FirstAt)

variable {d : Dialect} {s t l e r : Text}

/-- Marks with nothing between them. -/
def emptyMarker (d : Dialect) : Text := d.opening ++ d.closing

/-- What is between the marks of an interpolation holds a closing mark only if it begins with one. -/
theorem Closes.infix_iff (h : Closes d e) : d.closing <:+: e ↔ d.closing <+: e := by
  constructor
  · rintro ⟨u, v, rfl⟩
    rcases u with _ | ⟨c, u⟩
    · simp
    · -- Behind the first character this would be an earlier end.
      have hpos := List.length_pos_iff.2 d.closing_ne_nil
      refine absurd ⟨v ++ d.closing, ?_⟩
        (h.2.before (u.length + 1) (by omega) (by simp; omega))
      simp
  · exact List.IsPrefix.isInfix

/-- Behind an opening mark stands an interpolation if there is a closing mark behind the first
character. -/
theorem exists_closes_iff (ht : t ≠ []) :
    (∃ e r, t = e ++ d.closing ++ r ∧ Closes d e) ↔ d.closing <:+: t.tail := by
  obtain ⟨c, t, rfl⟩ := List.exists_cons_of_ne_nil ht
  rw [List.tail_cons, ← Text.breakAt?_isSome_iff, Option.isSome_iff_exists]
  constructor
  · rintro ⟨e, r, h, hne, hf⟩
    obtain ⟨x, e, rfl⟩ := List.exists_cons_of_ne_nil hne
    obtain ⟨rfl, rfl⟩ := List.cons.inj h
    exact ⟨(e, r), Text.breakAt?_eq_some_iff.2 ⟨rfl, Text.firstAt_cons_iff.1 hf⟩⟩
  · rintro ⟨⟨e, r⟩, h⟩
    obtain ⟨rfl, hf⟩ := Text.breakAt?_eq_some_iff.1 h
    exact ⟨c :: e, r, rfl, by simp, Text.firstAt_cons_iff.2 hf⟩

/-- The next interpolation opens at the first opening mark, if at all. -/
theorem next?_of_opens (ho : Opens d l) {l' : Text} :
    next? d (l ++ d.opening ++ t) = some (l', e, r) ↔
      l' = l ∧ t = e ++ d.closing ++ r ∧ Closes d e := by
  rw [next?_eq_some_iff]
  constructor
  · rintro ⟨hs, ho', hc⟩
    have hbreak : Text.breakAt? d.opening (l ++ d.opening ++ t) = some (l, t) :=
      Text.breakAt?_eq_some_iff.2 ⟨rfl, ho⟩
    have hbreak' : Text.breakAt? d.opening (l ++ d.opening ++ t) =
        some (l', e ++ d.closing ++ r) :=
      Text.breakAt?_eq_some_iff.2 ⟨by simpa using hs, ho'⟩
    cases hbreak.symm.trans hbreak'
    exact ⟨rfl, rfl, hc⟩
  · rintro ⟨rfl, rfl, hc⟩
    exact ⟨by simp, ho, hc⟩

/-- The pieces of a text are known from what stands behind its first opening mark. -/
theorem ofText_of_opens (ho : Opens d l) (ht : t ≠ []) :
    (d.closing <:+: t.tail ∧ ∃ e r, t = e ++ d.closing ++ r ∧ Closes d e ∧
      ofText d (l ++ d.opening ++ t) =
        ofLiteral l ++ interpolation (Text.strip e) :: ofText d r) ∨
    (¬d.closing <:+: t.tail ∧ ofText d (l ++ d.opening ++ t) = [literal (l ++ d.opening ++ t)]) := by
  by_cases h : d.closing <:+: t.tail
  · obtain ⟨e, r, he, hc⟩ := (exists_closes_iff ht).2 h
    exact .inl ⟨h, e, r, he, hc, ofText_of_some ((next?_of_opens ho).2 ⟨rfl, he, hc⟩)⟩
  · have hnone : next? d (l ++ d.opening ++ t) = none := by
      rw [Option.eq_none_iff_forall_ne_some]
      rintro ⟨l', e, r⟩ hsome
      obtain ⟨-, he, hc⟩ := (next?_of_opens ho).1 hsome
      exact h ((exists_closes_iff ht).1 ⟨e, r, he, hc⟩)
    have hliteral : ofLiteral (l ++ d.opening ++ t) = [literal (l ++ d.opening ++ t)] := by
      simp [ofLiteral, ht]
    exact .inr ⟨h, by rw [ofText_of_none hnone, hliteral]⟩

namespace Factorization

variable {f : Factorization}

/-- The marks of an interpolation stand in the text with what is between them. -/
theorem Divides.infix_of_mem (hf : f.Divides d s) {m : Text × Text} (hm : m ∈ f.slots) :
    d.opening ++ m.2 <:+: s := by
  rw [← hf.text_eq, text]
  obtain ⟨u, v, huv⟩ := List.append_of_mem hm
  rw [huv]
  exact ⟨u.flatMap (fun m => m.1 ++ d.opening ++ m.2 ++ d.closing) ++ m.1, d.closing ++
    (v.flatMap (fun m => m.1 ++ d.opening ++ m.2 ++ d.closing) ++ f.last), by simp⟩

end Factorization

open Factorization in
/-- Of the interpolations of a text those hold a closing mark that begin with one, and without an
empty marker in the text there are none. The first empty marker begins an interpolation if there is
a further closing mark, which may overlap with its own; otherwise it stays literal, as the whole text
does. -/
theorem overruns_at_head (d : Dialect) (s : Text) :
    ∃ f : Factorization, f.Divides d s ∧ ofText d s = f.pieces ∧
      (∀ m ∈ f.slots, d.closing <:+: m.2 ↔ d.closing <+: m.2) ∧
      (¬emptyMarker d <:+: s → ∀ m ∈ f.slots, ¬d.closing <:+: m.2) ∧
      ∀ l r, Opens d l → s = l ++ emptyMarker d ++ r →
        (d.closing <:+: (d.closing ++ r).tail ∧
          ∃ e r', d.closing ++ r = e ++ d.closing ++ r' ∧ Closes d e ∧
            ofText d s = ofLiteral l ++ interpolation (Text.strip e) :: ofText d r') ∨
        (¬d.closing <:+: (d.closing ++ r).tail ∧ ofText d s = [literal s]) := by
  obtain ⟨f, hf⟩ := exists_divides d s
  have hhead : ∀ m ∈ f.slots, d.closing <:+: m.2 ↔ d.closing <+: m.2 :=
    fun m hm => (hf.closes m hm).infix_iff
  refine ⟨f, hf, hf.ofText_eq, hhead, fun hs m hm hclosing => hs ?_, fun l r ho hs => ?_⟩
  · obtain ⟨v, hv⟩ := (hhead m hm).1 hclosing
    refine List.IsInfix.trans ?_ (hf.infix_of_mem hm)
    rw [← hv, emptyMarker, ← List.append_assoc]
    exact (List.prefix_append _ v).isInfix
  · have hmarker : s = l ++ d.opening ++ (d.closing ++ r) := by simp [hs, emptyMarker]
    rw [hmarker]
    exact ofText_of_opens ho (by simp [d.closing_ne_nil])

open Factorization in
/-- An empty marker and an interpolation behind it: the two are one interpolation. -/
theorem not_free_of_closing :
    ofText .standard "\x7b\x7b\x7d\x7d\x7b\x7b a \x7d\x7d".toList =
        [interpolation "\x7d\x7d\x7b\x7b a".toList] ∧
      ¬∀ (d : Dialect) (s : Text) (f : Factorization), f.Divides d s →
        ∀ m ∈ f.slots, ¬d.closing <:+: m.2 := by
  have hnext : next? .standard "\x7b\x7b\x7d\x7d\x7b\x7b a \x7d\x7d".toList =
      some ([], "\x7d\x7d\x7b\x7b a ".toList, []) := by decide
  have hdivides : Divides .standard "\x7b\x7b\x7d\x7d\x7b\x7b a \x7d\x7d".toList
      ⟨[([], "\x7d\x7d\x7b\x7b a ".toList)], []⟩ :=
    divides_cons_iff.2 ⟨[], hnext, divides_nil_iff.2 ⟨rfl, rfl⟩⟩
  refine ⟨hdivides.ofText_eq.trans (by decide), fun h => ?_⟩
  exact h _ _ _ hdivides _ (List.mem_singleton_self _) (List.prefix_append _ _).isInfix

end Piece

end Stencil
