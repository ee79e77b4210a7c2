import CallLint.Pattern.Search

/-!
# Repeated matches

A repetition matches a stretch of text when the stretch is made of matches of its body, as many as
its bounds allow. Rounds in which nothing is taken can be left out, so no more rounds are needed
than there are characters. Bounds in order, the least number first, are what a pattern is read
with; without them the search and the matches differ.

* `matches_repeated_iff`: a repetition by the number of its rounds.
* `matches_flatten`: the expression that is searched for has the same matches.
-/

namespace CallLint.Pattern

/-- From the first place to the second in the given number of steps of a relation. -/
inductive Rounds (R : Nat → Nat → Prop) : Nat → Nat → Nat → Prop
  | done (i : Nat) : Rounds R 0 i i
  | round {n i j k : Nat} (h₁ : R i j) (h₂ : Rounds R n j k) : Rounds R (n + 1) i k

namespace Rounds

variable {R : Nat → Nat → Prop}

theorem trans {m n i j k : Nat} (h₁ : Rounds R m i j) (h₂ : Rounds R n j k) :
    Rounds R (m + n) i k := by
  induction h₁ with
  | done i => rwa [Nat.zero_add]
  | round h _ ih =>
    rw [Nat.add_right_comm]
    exact .round h (ih h₂)

theorem exists_of_add {m n i k : Nat} (h : Rounds R (m + n) i k) :
    ∃ j, Rounds R m i j ∧ Rounds R n j k := by
  induction m generalizing i with
  | zero =>
    rw [Nat.zero_add] at h
    exact ⟨i, .done i, h⟩
  | succ m ih =>
    rw [Nat.add_right_comm] at h
    cases h with
    | round h₁ h₂ =>
      obtain ⟨j, hm, hn⟩ := ih h₂
      exact ⟨j, .round h₁ hm, hn⟩

@[simp] theorem zero_iff {i k : Nat} : Rounds R 0 i k ↔ i = k := by
  constructor
  · intro h
    cases h
    rfl
  · intro h
    subst h
    exact .done i

@[simp] theorem one_iff {i k : Nat} : Rounds R 1 i k ↔ R i k := by
  constructor
  · intro h
    cases h with
    | round h₁ h₂ => rwa [← zero_iff.1 h₂]
  · intro h
    exact .round h (.done k)

/-- The rounds end where the steps end. -/
theorem le_of_le {last : Nat} (hR : ∀ i k, R i k → k ≤ last) {n i k : Nat} (h : Rounds R n i k)
    (hi : i ≤ last) : k ≤ last := by
  induction h with
  | done => exact hi
  | round hij _ ih => exact ih (hR _ _ hij)

/-- Where the relation never steps back, neither do its rounds, and rounds that stay in place can
be left out. -/
theorem exists_le_sub (hR : ∀ i j, R i j → i ≤ j) {n i k : Nat} (h : Rounds R n i k) :
    i ≤ k ∧ ∃ m ≤ k - i, Rounds R m i k := by
  induction h with
  | done i => exact ⟨Nat.le_refl i, 0, Nat.zero_le _, .done i⟩
  | @round n i j k hij _ ih =>
    obtain ⟨hjk, m, hm, hrounds⟩ := ih
    have hle := hR i j hij
    refine ⟨Nat.le_trans hle hjk, ?_⟩
    by_cases heq : i = j
    · subst heq
      exact ⟨m, hm, hrounds⟩
    · exact ⟨m + 1, by omega, .round hij hrounds⟩

end Rounds

theorem Matches.le {text : List Char} {e : Expr Atom} {i j : Nat} (h : Matches text e i j) :
    i ≤ j := by
  induction h with
  | empty | look | stop => exact Nat.le_refl _
  | one => exact Nat.le_succ _
  | sequence _ _ ih₁ ih₂ | again _ _ _ ih₁ ih₂ => exact Nat.le_trans ih₁ ih₂
  | first _ ih | rest _ ih | group _ ih => exact ih

theorem Matches.le_length {text : List Char} {e : Expr Atom} {i j : Nat}
    (h : Matches text e i j) : j ≤ text.length := by
  induction h with
  | empty i h | look i _ h | stop i h => exact h
  | one i _ _ h => exact (List.getElem?_eq_some_iff.1 h).1
  | sequence _ _ _ ih | again _ _ _ _ ih => exact ih
  | first _ ih | rest _ ih | group _ ih => exact ih

/-- A repetition matches what its body matches in a number of rounds that the bounds allow. -/
theorem matches_repeated_iff {text : List Char} {body : Expr Atom} {least : Nat}
    {most : Option Nat} {i k : Nat} :
    Matches text (.repeated body least most) i k ↔
      i ≤ text.length ∧
        ∃ n, least ≤ n ∧ (∀ m ∈ most, n ≤ m) ∧ Rounds (Matches text body) n i k := by
  constructor
  · intro h
    generalize he : Expr.repeated body least most = e at h
    induction h generalizing least most with
    | stop i hi =>
      injection he with hbody hleast hmost
      exact ⟨hi, 0, Nat.le_of_eq hleast, fun m _ => Nat.zero_le m, .done i⟩
    | @again _ _ _ i j k room h₁ _ _ ih =>
      injection he with hbody hleast hmost
      subst hbody hleast hmost
      obtain ⟨-, n, hn, hbound, hrounds⟩ := ih rfl
      refine ⟨Nat.le_trans h₁.le h₁.le_length, n + 1, by omega, ?_, .round h₁ hrounds⟩
      intro m hm
      have hle : n ≤ m - 1 := hbound (m - 1) (by simp [Option.mem_def.1 hm])
      have hpos : m ≠ 0 := by
        intro hzero
        exact room (hzero ▸ hm)
      omega
    | _ => cases he
  · intro ⟨hi, n, hn, hbound, hrounds⟩
    induction hrounds generalizing least most with
    | done i =>
      obtain rfl : least = 0 := by omega
      exact .stop i hi
    | @round n i j k h₁ _ ih =>
      refine .again ?_ h₁ (ih h₁.le_length (by omega) ?_)
      · intro hmost
        exact absurd (hbound 0 hmost) (by omega)
      · intro m hm
        obtain ⟨m', hm', rfl⟩ := Option.map_eq_some_iff.1 hm
        have hle := hbound m' hm'
        omega

/-- Every counted repetition has its bounds in order. -/
def Expr.Bounded {α : Type} : Expr α → Prop
  | .empty | .atom _ => True
  | .sequence first rest | .choice first rest => first.Bounded ∧ rest.Bounded
  | .repeated body least most => body.Bounded ∧ ∀ m ∈ most, least ≤ m
  | .group body => body.Bounded

/-- A repetition of a repetition, both unbounded, is one repetition. -/
theorem matches_repeated_repeated {text : List Char} {body : Expr Atom} {low least : Nat}
    (hlow : low ≤ 1) (hleast : least ≤ 1) {i k : Nat} :
    Matches text (.repeated (.repeated body low none) least none) i k ↔
      Matches text (.repeated body (low * least) none) i k := by
  have hinner : ∀ {i k : Nat}, Matches text (.repeated body low none) i k ↔
      i ≤ text.length ∧ ∃ n, low ≤ n ∧ Rounds (Matches text body) n i k := by
    intro i k
    simp [matches_repeated_iff]
  rw [matches_repeated_iff, matches_repeated_iff]
  refine and_congr_right fun hi => ?_
  simp only [Option.not_mem_none, false_implies, implies_true, true_and]
  constructor
  · intro ⟨n, hn, hrounds⟩
    -- The rounds of the inner repetitions add up, at least `low` of them for each outer round.
    have hsum : ∃ m, low * n ≤ m ∧ Rounds (Matches text body) m i k := by
      clear hn hi
      induction hrounds with
      | done i => exact ⟨0, by omega, .done i⟩
      | round h _ ih =>
        obtain ⟨-, m₁, hm₁, h₁⟩ := hinner.1 h
        obtain ⟨m₂, hm₂, h₂⟩ := ih
        exact ⟨m₁ + m₂, by rw [Nat.mul_succ]; omega, h₁.trans h₂⟩
    obtain ⟨m, hm, h⟩ := hsum
    exact ⟨m, Nat.le_trans (Nat.mul_le_mul_left low hn) hm, h⟩
  · intro ⟨n, hn, hrounds⟩
    -- All rounds together are one round of the inner repetition, unless there are too few.
    by_cases hfew : n < low
    · obtain rfl : n = 0 := by omega
      obtain rfl : low = 1 := by omega
      obtain rfl : least = 0 := by omega
      exact ⟨0, Nat.le_refl 0, Rounds.zero_iff.2 (Rounds.zero_iff.1 hrounds)⟩
    · exact ⟨1, hleast, Rounds.one_iff.2 (hinner.2 ⟨hi, n, by omega, hrounds⟩)⟩

theorem matches_repeated_congr {text : List Char} {body body' : Expr Atom}
    (h : ∀ i j, Matches text body i j ↔ Matches text body' i j) {least : Nat} {most : Option Nat}
    {i k : Nat} :
    Matches text (.repeated body least most) i k ↔
      Matches text (.repeated body' least most) i k := by
  have heq : Matches text body = Matches text body' := by
    funext i j
    exact propext (h i j)
  rw [matches_repeated_iff, matches_repeated_iff, heq]

theorem matches_group_iff {text : List Char} {body : Expr Atom} {i k : Nat} :
    Matches text (.group body) i k ↔ Matches text body i k := by
  constructor
  · intro h
    cases h with
    | group h => exact h
  · exact .group

theorem matches_sequence_iff {text : List Char} {first rest : Expr Atom} {i k : Nat} :
    Matches text (.sequence first rest) i k ↔
      ∃ j, Matches text first i j ∧ Matches text rest j k := by
  constructor
  · intro h
    cases h with
    | sequence h₁ h₂ => exact ⟨_, h₁, h₂⟩
  · intro ⟨j, h₁, h₂⟩
    exact .sequence h₁ h₂

theorem matches_choice_iff {text : List Char} {first rest : Expr Atom} {i k : Nat} :
    Matches text (.choice first rest) i k ↔ Matches text first i k ∨ Matches text rest i k := by
  constructor
  · intro h
    cases h with
    | first h => exact .inl h
    | rest h => exact .inr h
  · intro h
    cases h with
    | inl h => exact .first h
    | inr h => exact .rest h

/-- The expression that is searched for has the matches of the expression that was read. -/
theorem matches_flatten {text : List Char} (e : Expr Atom) {i k : Nat} :
    Matches text e.flatten i k ↔ Matches text e i k := by
  induction e generalizing i k with
  | empty | atom => rfl
  | sequence first rest ih₁ ih₂ =>
    simp only [Expr.flatten, matches_sequence_iff, ih₁, ih₂]
  | choice first rest ih₁ ih₂ =>
    simp only [Expr.flatten, matches_choice_iff, ih₁, ih₂]
  | group body ih => rw [Expr.flatten, matches_group_iff, ih]
  | repeated body least most ih =>
    have hcongr : ∀ {least : Nat} {most : Option Nat},
        Matches text (.repeated body.flatten least most) i k ↔
          Matches text (.repeated body least most) i k :=
      matches_repeated_congr fun i j => ih
    unfold Expr.flatten
    split
    next inner low heq =>
      rw [← hcongr, heq]
      split
      next hsmall =>
        simp only [Bool.and_eq_true, decide_eq_true_eq] at hsmall
        rw [matches_repeated_repeated hsmall.1 hsmall.2]
      next => rfl
    next => exact hcongr

theorem Expr.Bounded.flatten {α : Type} {e : Expr α} (h : e.Bounded) : e.flatten.Bounded := by
  induction e with
  | empty | atom => exact h
  | sequence first rest ih₁ ih₂ | choice first rest ih₁ ih₂ => exact ⟨ih₁ h.1, ih₂ h.2⟩
  | group body ih => exact ih h
  | repeated body least most ih =>
    have hbody := ih h.1
    unfold Expr.flatten
    split
    next inner low heq =>
      rw [heq] at hbody
      split
      next => exact ⟨hbody.1, by simp⟩
      next => exact ⟨hbody, by simp⟩
    next => exact ⟨hbody, h.2⟩

end CallLint.Pattern
