import Stencil.Proofs.Expr.Phrase

/-! # Reading the tokens of a text

The tokens of a text are read step by step up to any rest of it. A text is at least as long as its
tokens are, and joining its lines keeps what nests. -/
namespace Stencil

namespace Quotation

theorem scanLine?_length {q : Char} {s body rest : Text} (h : scanLine? q s = some (body, rest)) :
    body.length + 1 + rest.length = s.length := by
  fun_induction scanLine? q s generalizing body with
  | case1 => cases h
  | case2 => cases h; simp; omega
  | case3 => cases h
  | case4 => cases h
  | case5 _ _ _ _ ih =>
    obtain ⟨p, hp, he⟩ := Option.map_eq_some_iff.1 h
    cases he
    have := ih hp
    simp; omega
  | case6 c s _ _ _ ih =>
    obtain ⟨p, hp, he⟩ := Option.map_eq_some_iff.1 h
    cases he
    have := ih hp
    simp; omega

theorem scanBlock?_length {q : Char} {s body rest : Text} (h : scanBlock? q s = some (body, rest)) :
    body.length + 3 + rest.length = s.length := by
  fun_induction scanBlock? q s generalizing body with
  | case1 => cases h
  | case2 => cases h; simp; omega
  | case3 _ _ _ _ _ _ ih =>
    obtain ⟨p, hp, he⟩ := Option.map_eq_some_iff.1 h
    cases he
    have := ih hp
    simp at this ⊢; omega
  | case4 => cases h
  | case5 _ _ _ ih =>
    obtain ⟨p, hp, he⟩ := Option.map_eq_some_iff.1 h
    cases he
    have := ih hp
    simp at this ⊢; omega
  | case6 _ _ _ _ ih =>
    obtain ⟨p, hp, he⟩ := Option.map_eq_some_iff.1 h
    cases he
    have := ih hp
    simp at this ⊢; omega

end Quotation

theorem Parser.size_filter_le (p : Token → Bool) (ts : List Token) :
    size (ts.filter p) ≤ size ts := by
  induction ts with
  | nil => simp
  | cons t ts ih =>
    rw [List.filter_cons]
    split
    · simpa using ih
    · simp
      omega

namespace Lexer

theorem string?_size {tag s rest : Text} {t : Token} (h : string? tag s = some (t, rest)) :
    t.size + rest.length ≤ s.length := by
  unfold string? at h
  split at h
  · split at h
    · obtain ⟨p, hp, he⟩ := Option.map_eq_some_iff.1 h
      cases he
      have := Quotation.scanBlock?_length hp
      simp [Token.size]; omega
    · obtain ⟨p, hp, he⟩ := Option.map_eq_some_iff.1 h
      cases he
      have := Quotation.scanLine?_length hp
      simp [Token.size] at this ⊢; omega
  · obtain ⟨p, hp, he⟩ := Option.map_eq_some_iff.1 h
    cases he
    have := Quotation.scanLine?_length hp
    simp [Token.size]; omega
  · cases h

theorem word?_size {s rest : Text} {t : Token} (h : word? s = some (t, rest))
    (hr : rest.length < s.length) : t.size + rest.length ≤ s.length := by
  unfold word? at h
  have hd : (s.dropWhile Number.isWordPart).length ≤ s.length :=
    (List.dropWhile_sublist Number.isWordPart).length_le
  simp only at h
  split at h
  · have := string?_size h
    omega
  · split at h
    · cases h
      simp; omega
    · split at h
      · cases h
        simp; omega
      · cases h

theorem step?_size {s rest : Text} {t : Token} (h : step? s = some (.token t rest))
    (hr : rest.length < s.length) : t.size + rest.length ≤ s.length := by
  unfold step? at h
  split at h
  · cases h
  split_ifs at h
  · cases h
  · cases h
    simp [Token.size]; omega
  · cases h
  · split at h <;> cases h
  · obtain ⟨p, hp, he⟩ := Option.map_eq_some_iff.1 h
    cases he
    exact string?_size hp
  · obtain ⟨p, hp, he⟩ := Option.map_eq_some_iff.1 h
    obtain ⟨q, hq, rfl⟩ := Option.map_eq_some_iff.1 hp
    cases he
    simp [Token.size] at hr ⊢; omega
  · obtain ⟨p, hp, he⟩ := Option.map_eq_some_iff.1 h
    cases he
    exact word?_size hp hr
  · obtain ⟨p, hp, he⟩ := Option.map_eq_some_iff.1 h
    obtain ⟨q, hq, rfl⟩ := Option.map_eq_some_iff.1 hp
    cases he
    simp at hr ⊢; omega

/-- The tokens that a step finds: one, or none. -/
def Step.tokens : Step → List Token
  | .token t _ => [t]
  | .skip _ => []

/-- The tokens of a text up to a rest of it. -/
inductive Reads : Text → List Token → Text → Prop
  | refl {s} : Reads s [] s
  | step {s σ ts u} (h : step? s = some σ) (hr : σ.rest.length < s.length)
      (tail : Reads σ.rest ts u) : Reads s (σ.tokens ++ ts) u

theorem Reads.token {s r u : Text} {t : Token} {ts : List Token} (h : step? s = some (.token t r))
    (hr : r.length < s.length) (tail : Reads r ts u) : Reads s (t :: ts) u := .step h hr tail

theorem Reads.skip {s r u : Text} {ts : List Token} (h : step? s = some (.skip r))
    (hr : r.length < s.length) (tail : Reads r ts u) : Reads s ts u := .step h hr tail

theorem Reads.append {s r u : Text} {ts us : List Token} (h : Reads s ts r) (h' : Reads r us u) :
    Reads s (ts ++ us) u := by
  induction h with
  | refl => exact h'
  | step h hr _ ih =>
    rw [List.append_assoc]
    exact .step h hr (ih h')

theorem reads_of_scan? {s : Text} {ts : List Token} (h : scan? s = some ts) : Reads s ts [] := by
  fun_induction scan? s generalizing ts with
  | case1 => cases h; exact .refl
  | case2 => cases h
  | case3 c r t rest hs hr ih =>
    obtain ⟨us, hu, rfl⟩ := Option.map_eq_some_iff.1 h
    exact .token hs (by simp; omega) (ih hu)
  | case4 => cases h
  | case5 c r rest hs hr ih => exact .skip hs (by simp; omega) (ih h)
  | case6 => cases h

theorem Reads.scan? {s u : Text} {ts : List Token} (h : Reads s ts u) :
    Lexer.scan? s = (Lexer.scan? u).map (ts ++ ·) := by
  induction h with
  | refl => simp
  | @step s σ ts u h hr _ ih =>
    cases s with
    | nil => cases h
    | cons c s =>
      have : σ.rest.length ≤ s.length := by simpa [Nat.lt_succ_iff] using hr
      rw [Lexer.scan?, h]
      cases σ with
      | token t r =>
        have ih' : Lexer.scan? r = _ := ih
        simp [show r.length ≤ s.length from this, ih', Step.tokens, Function.comp_def]
      | skip r =>
        have ih' : Lexer.scan? r = _ := ih
        simp [show r.length ≤ s.length from this, ih', Step.tokens]

theorem Reads.size {s u : Text} {ts : List Token} (h : Reads s ts u) :
    Parser.size ts + u.length ≤ s.length := by
  induction h with
  | refl => simp
  | @step s σ ts u h hr _ ih =>
    cases σ with
    | token t r =>
      have := step?_size h hr
      simp [Step.tokens, Step.rest] at ih ⊢
      omega
    | skip r =>
      simp [Step.tokens, Step.rest] at ih hr ⊢
      omega

theorem Reads.length_le {s u : Text} {ts : List Token} (h : Reads s ts u) :
    u.length ≤ s.length := Nat.le_trans (Nat.le_add_left _ _) h.size

/-- Joining lines takes the line ends out and nothing else. -/
theorem eq_filter_of_joinLines? {awaited : List Symbol} {ts us : List Token}
    (h : joinLines? awaited ts = some us) : us = ts.filter (· != .newline) := by
  fun_induction joinLines? awaited ts generalizing us
  case case1 => simp_all
  case case4 ih => simpa using ih h
  case case5 ih | case7 ih | case10 ih =>
    obtain ⟨vs, hv, rfl⟩ := Option.map_eq_some_iff.1 h
    simp [← ih hv]
  case case11 t ts hn _ ih =>
    obtain ⟨vs, hv, rfl⟩ := Option.map_eq_some_iff.1 h
    have : t ≠ .newline := fun ht => hn ht
    simp [← ih hv, this]
  all_goals cases h

theorem unifyLines_length (s : Text) : (unifyLines s).length ≤ s.length := by
  fun_induction unifyLines s <;> simp <;> omega

section Joining

variable {awaited : List Symbol} {ts us : List Token}

theorem joinLines?_plain {t : Token} (ht : t.isBracket = false) (ha : awaited ≠ []) :
    joinLines? awaited (t :: ts) =
      (joinLines? awaited ts).map ([t].filter (· != .newline) ++ ·) := by
  obtain ⟨c, awaited, rfl⟩ := List.exists_cons_of_ne_nil ha
  cases t with
  | symbol m =>
    simp only [Token.isBracket, Bool.or_eq_false_iff, Option.isSome_eq_false_iff,
      Option.isNone_iff_eq_none] at ht
    rw [joinLines?.eq_3]
    simp [ht]
  | newline => simp [joinLines?]
  | _ => simp [joinLines?]

theorem joinLines?_open {s c : Symbol} (hs : closing? s = some c)
    (hd : awaited.length < maxDepth) : joinLines? awaited (.symbol s :: ts) =
      (joinLines? (c :: awaited) ts).map (.symbol s :: ·) := by
  cases awaited <;> simp_all [joinLines?]

theorem joinLines?_close {c : Symbol} (hc : isClosing c = true) :
    joinLines? (c :: awaited) (.symbol c :: ts) =
      (joinLines? awaited ts).map (.symbol c :: ·) := by
  have : closing? c = none := by cases c <;> first | rfl | cases hc
  simp [joinLines?, this, hc]

/-- A nesting stretch keeps its tokens, its line ends apart. -/
theorem joinLines?_append {h : Nat} (n : Nests h ts) (ha : awaited ≠ [])
    (hd : awaited.length + h ≤ maxDepth) (rest : List Token) :
    joinLines? awaited (ts ++ rest) =
      (joinLines? awaited rest).map (ts.filter (· != .newline) ++ ·) := by
  induction n generalizing awaited rest with
  | nil => simp
  | @plain _ t ts ht _ ih =>
    have e : (t :: ts).filter (· != .newline) = [t].filter (· != .newline) ++
        ts.filter (· != .newline) := by rw [← List.filter_append]; rfl
    rw [List.cons_append, joinLines?_plain ht ha, ih ha hd, Option.map_map, e]
    simp only [Function.comp_def, List.append_assoc]
  | @group h s c inner ts hc _ _ ihb iht =>
    have hcl := (isClosing_of_closing? hc).1
    rw [List.cons_append, List.append_assoc, joinLines?_open hc (by omega),
      ihb (by simp) (by simp; omega), List.cons_append, joinLines?_close hcl, iht ha hd]
    simp [Function.comp_def]

/-- What follows an open bracket goes up to the mark that closes it. -/
theorem nests_of_joinLines? {c : Symbol} (h : joinLines? (c :: awaited) ts = some us) :
    ∃ inner rest, ts = inner ++ .symbol c :: rest ∧ Nests (maxDepth - (awaited.length + 1)) inner ∧
      (joinLines? awaited rest).isSome := by
  induction hn : ts.length using Nat.strongRecOn generalizing ts us c awaited with
  | _ n ih =>
  subst hn
  rcases ts with _ | ⟨t, ts⟩
  · simp [joinLines?] at h
  by_cases ht : t.isBracket = false
  · rw [joinLines?_plain ht (by simp)] at h
    obtain ⟨vs, hv, -⟩ := Option.map_eq_some_iff.1 h
    obtain ⟨inner, rest, rfl, hi, hr⟩ := ih _ (by simp) hv rfl
    exact ⟨t :: inner, rest, rfl, .plain ht hi, hr⟩
  obtain ⟨m, rfl⟩ : ∃ m, t = .symbol m := by
    cases t <;> first | exact ⟨_, rfl⟩ | exact absurd rfl ht
  rw [joinLines?.eq_3] at h
  cases hm : closing? m with
  | some d =>
    simp only [hm] at h
    split_ifs at h with hl
    obtain ⟨vs, hv, -⟩ := Option.map_eq_some_iff.1 h
    obtain ⟨a, rest, rfl, ha, hr⟩ := ih _ (by simp) hv rfl
    obtain ⟨ws, hw⟩ := Option.isSome_iff_exists.1 hr
    obtain ⟨b, rest, rfl, hb, hr⟩ := ih _ (by simp; omega) hw rfl
    refine ⟨.symbol m :: (a ++ .symbol d :: b), rest, by simp, ?_, hr⟩
    simp only [List.length_cons] at hl ha
    obtain ⟨k, hk⟩ : ∃ k, maxDepth - (awaited.length + 1) = k + 1 :=
      ⟨maxDepth - (awaited.length + 2), by omega⟩
    rw [hk] at hb ⊢
    exact .group hm (by rwa [show k = maxDepth - (awaited.length + 1 + 1) by omega]) hb
  | none =>
    simp only [hm] at h
    split_ifs at h with hc hcm
    · subst hcm
      obtain ⟨vs, hv, -⟩ := Option.map_eq_some_iff.1 h
      exact ⟨[], ts, rfl, .nil, by simp [hv]⟩
    · simp [Token.isBracket, hm, hc] at ht

end Joining

theorem size_le_of_tokens? {s : Text} {ts : List Token} (h : tokens? s = some ts) :
    Parser.size ts ≤ s.length := by
  unfold tokens? at h
  split_ifs at h
  obtain ⟨us, hu, hj⟩ := Option.bind_eq_some_iff.1 h
  have hr := (reads_of_scan? hu).size
  have hl := unifyLines_length s
  rw [eq_filter_of_joinLines? hj]
  have := Parser.size_filter_le (· != .newline) us
  simp at hr
  omega

end Lexer
end Stencil
