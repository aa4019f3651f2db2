import Stencil.Proofs.Expr.Reading

/-! # The fields of a template literal

They are shorter than the body that holds them, so the depth that the body allows is enough to read
them. -/
namespace Stencil
namespace Field

/-- The room that fields take, with the braces around each. -/
def room (ss : List Text) : Nat := (ss.map fun s => s.length + 2).sum

@[simp] theorem room_nil : room [] = 0 := rfl

@[simp] theorem room_cons (s : Text) (ss : List Text) :
    room (s :: ss) = s.length + 2 + room ss := by simp [room]

@[simp] theorem room_append (ss ts : List Text) : room (ss ++ ts) = room ss + room ts := by
  simp [room]

theorem atBrace_length {nested : Bool} {c : Char} {s lit rest : Text} {k : Ending}
    (h : atBrace nested c s = some (lit, k, rest)) : rest.length ≤ s.length + 1 := by
  unfold atBrace at h
  split_ifs at h <;> cases h <;> simp
  omega

theorem stretch?_cons (raw nested : Bool) (c : Char) (s : Text) : stretch? raw nested (c :: s) =
    if isBrace c then atBrace nested c s
    else if c = '\\' ∧ raw = false then
      match s with
      | [] => some (['\\'], .text, [])
      | b :: s =>
        if isBrace b then (atBrace nested b s).map fun p => (c :: p.1, p.2)
        else if b = 'N' then none
        else (stretch? raw nested s).map fun p => (c :: b :: p.1, p.2)
    else (stretch? raw nested s).map fun p => (c :: p.1, p.2) := by
  cases s <;> rfl

theorem stretch?_length {raw nested : Bool} {s lit rest : Text} {k : Ending}
    (h : stretch? raw nested s = some (lit, k, rest)) : rest.length ≤ s.length := by
  induction hn : s.length using Nat.strongRecOn generalizing s lit with
  | _ n ih =>
  subst hn
  rcases s with _ | ⟨c, s⟩
  · cases h
    simp
  rw [stretch?_cons] at h
  split_ifs at h
  · exact atBrace_length h
  · rcases s with _ | ⟨b, s⟩
    · cases h
      simp
    · simp only at h
      split_ifs at h
      · obtain ⟨⟨a, k', r⟩, hp, he⟩ := Option.map_eq_some_iff.1 h
        cases he
        have := atBrace_length hp
        simp; omega
      · obtain ⟨⟨a, k', r⟩, hp, he⟩ := Option.map_eq_some_iff.1 h
        cases he
        have := ih _ (by simp only [List.length_cons]; omega) hp rfl
        simp; omega
  · obtain ⟨⟨a, k', r⟩, hp, he⟩ := Option.map_eq_some_iff.1 h
    cases he
    have := ih _ (by simp) hp rfl
    simp; omega

theorem extent?_length {awaited : List Char} {inside : Inside} {s e rest : Text}
    (h : extent? awaited inside s = some (e, rest)) : e.length + rest.length ≤ s.length := by
  fun_induction extent? awaited inside s generalizing e
  all_goals first
    | rename_i ih
      obtain ⟨p, hp, he⟩ := Option.map_eq_some_iff.1 h
      cases he
      have := ih hp
      simp at this ⊢
      omega
    | cases h
      exact Nat.le_of_eq (Nat.zero_add _)
    | cases h

theorem afterExpression?_length {s rest : Text} (h : afterExpression? s = some rest) :
    rest.length ≤ s.length := by
  have hd : ∀ r : Text, (r.dropWhile isAsciiSpace).length ≤ r.length := fun r =>
    (List.dropWhile_sublist _).length_le
  unfold afterExpression? at h
  dsimp only at h
  split at h
  next c r hq =>
    have hle : ('!' :: c :: r).length ≤ s.length := by
      rw [← hq]
      split
      · exact Nat.le_succ_of_le (hd _)
      · exact Nat.le_refl _
    split_ifs at h
    cases h
    simp only [List.length_cons] at hle
    omega
  next => cases h
  next =>
    cases h
    split
    · exact Nat.le_succ_of_le (hd _)
    · exact Nat.le_refl _

/-- Fields and what follows them fit into the text that they are read from. -/
theorem room_le (raw : Bool) (fuel : Nat) :
    (∀ level s es rest, pieces? raw fuel level s = some (es, rest) →
      room es + rest.length ≤ s.length) ∧
    (∀ level s es rest, field? raw fuel level s = some (es, rest) →
      room es + rest.length ≤ s.length + 1) := by
  induction fuel with
  | zero => exact ⟨fun _ _ _ _ h => by simp [pieces?] at h, fun _ _ _ _ h => by simp [field?] at h⟩
  | succ fuel ih =>
  obtain ⟨pieces, field⟩ := ih
  constructor
  · intro level s es rest h
    rw [pieces?] at h
    obtain ⟨⟨lit, k, r⟩, h₁, h⟩ := Option.bind_eq_some_iff.1 h
    have hr := stretch?_length h₁
    simp only at h
    split_ifs at h
    split at h
    · have := pieces _ _ _ _ h
      omega
    · obtain ⟨⟨fs, r₁⟩, h₂, h⟩ := Option.bind_eq_some_iff.1 h
      obtain ⟨⟨gs, r₂⟩, h₃, h⟩ := Option.bind_eq_some_iff.1 h
      cases h
      have := field _ _ _ _ h₂
      have := pieces _ _ _ _ h₃
      simp at *
      omega
    · cases h
      simpa using hr
  · intro level s es rest h
    rw [field?] at h
    split_ifs at h
    obtain ⟨⟨e, r⟩, h₁, h⟩ := Option.bind_eq_some_iff.1 h
    have he := extent?_length h₁
    simp only at h
    split_ifs at h
    obtain ⟨r₁, h₂, h⟩ := Option.bind_eq_some_iff.1 h
    have hr := afterExpression?_length h₂
    split at h
    · obtain ⟨⟨fs, r₂⟩, h₃, h⟩ := Option.bind_eq_some_iff.1 h
      have := pieces _ _ _ _ h₃
      simp only at h
      split at h
      · cases h
        simp at *
        omega
      · cases h
    · cases h
      simp at *
      omega
    · cases h

theorem expressions?_room {raw : Bool} {body : Text} {es : List Text}
    (h : expressions? raw body = some es) : room es ≤ body.length := by
  obtain ⟨⟨fs, r⟩, h₁, h⟩ := Option.bind_eq_some_iff.1 h
  have := (room_le _ _).1 _ _ _ _ h₁
  simp only at h
  split_ifs at h
  cases h
  omega

end Field

namespace Parser

variable {n : Nat}

/-- Fields that are read at depth `n` are read at every depth that their room allows. -/
def FieldsHold (n : Nat) : Prop :=
  ∀ ss, allFields n ss = true → ∀ m, 20 * Field.room ss + 1 ≤ m → allFields m ss = true

theorem fieldsHold (hp : Closed paren .parenClose 12 Expr.IsSingle n) (ha : FieldsHold n) :
    FieldsHold (n + 1) := by
  intro ss h m hm
  obtain ⟨m, rfl⟩ : ∃ i, m = i + 1 := ⟨m - 1, by omega⟩
  rcases ss with _ | ⟨s, ss⟩
  · rw [allFields]
  rw [allFields] at h
  split at h
  next ts ht =>
    split at h
    next e hpe =>
      obtain ⟨c, rfl, hc, he, hr⟩ := hp _ _ _ hpe
      have hs := Lexer.size_le_of_tokens? ht
      simp at hs hm
      rw [allFields]
      simp only [ht, hr m [] (by omega)]
      exact ha ss h m (by omega)
    next => cases h
  next => cases h

end Parser
end Stencil
