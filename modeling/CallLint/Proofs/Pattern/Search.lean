import CallLint.Proofs.Pattern.Rounds
import Mathlib.Data.Nat.Bitwise
import Mathlib.Logic.Function.Iterate

/-!
# What a search finds

Every expression takes the union of two sets of places to the union of what it takes them to. So
the rounds of a repetition may leave out the places whose round has been made: they find what
rounds from all the places found would. Place by place, the search then follows the matches.

* `Expr.follows_run`: the search reaches the places where matches end.
* `Expr.occursIn_iff`: an expression occurs in a text when it matches some stretch of it.
-/

namespace CallLint.Pattern

/-! ## Sets of places as numbers -/

/-- Adds the places reached in one round. -/
def widen (f : Nat → Nat) (places : Nat) : Nat := f places ||| places

theorem rounds_eq_iterate (f : Nat → Nat) (n places : Nat) : rounds f n places = f^[n] places := by
  induction n generalizing places with
  | zero => rfl
  | succ n ih =>
    rw [rounds, Function.iterate_succ_apply]
    split
    next hfixed => rw [hfixed, Function.iterate_fixed hfixed]
    next => exact ih _

section Union

variable {f : Nat → Nat} (hf : ∀ p q, f (p ||| q) = f p ||| f q)

include hf

theorem iterate_or (n p q : Nat) : f^[n] (p ||| q) = f^[n] p ||| f^[n] q := by
  induction n generalizing p q with
  | zero => rfl
  | succ n ih => simp only [Function.iterate_succ_apply, hf, ih]

theorem widen_or (p q : Nat) : widen f (p ||| q) = widen f p ||| widen f q := by
  simp only [widen, hf, Nat.or_assoc, Nat.or_left_comm]

/-- Places whose round adds nothing to the places found can be left out. -/
theorem spread_eq_iterate {n fresh found : Nat} (h : f fresh ||| found = widen f found) :
    spread f n fresh found = (widen f)^[n] found := by
  induction n generalizing fresh found with
  | zero => rfl
  | succ n ih =>
    rw [spread, Function.iterate_succ_apply, ← h]
    split
    next hsame => rw [hsame, Function.iterate_fixed (h.symm.trans hsame)]
    next =>
      apply ih
      generalize hreached : f fresh ||| found = reached at h
      have hsplit : reached = (reached ^^^ found) ||| found := by
        rw [h, widen]
        apply Nat.eq_of_testBit_eq
        intro i
        simp only [Nat.testBit_or, Nat.testBit_xor]
        cases (f found).testBit i <;> cases found.testBit i <;> rfl
      have hfound : f found ||| reached = reached := by
        rw [h, widen, ← Nat.or_assoc, Nat.or_self]
      calc f (reached ^^^ found) ||| reached
          = f (reached ^^^ found) ||| (f found ||| reached) := by rw [hfound]
        _ = f ((reached ^^^ found) ||| found) ||| reached := by rw [hf, Nat.or_assoc]
        _ = widen f reached := by rw [← hsplit, widen]

end Union

theorem Move.apply_or (m : Move) (p q : Nat) : m.apply (p ||| q) = m.apply p ||| m.apply q := by
  unfold apply
  dsimp only
  split
  · rw [Nat.and_or_distrib_right]
    simpa only [Nat.shiftLeft_eq, pow_one, Nat.mul_comm] using
      Nat.shiftLeft_or_distrib (a := p &&& m.mask) (b := q &&& m.mask) (i := 1)
  · exact Nat.and_or_distrib_right p q m.mask

/-- The rounds of a repetition, without leaving out any place. -/
theorem Expr.run_repeated {size : Nat} {body : Expr Move}
    (hbody : ∀ p q, body.run size (p ||| q) = body.run size p ||| body.run size q) (least : Nat)
    (most : Option Nat) (places : Nat) :
    (Expr.repeated body least most).run size places =
      (widen (body.run size))^[(most.map (· - least)).getD size]
        ((body.run size)^[least] places) := by
  rw [run, rounds_eq_iterate, spread_eq_iterate hbody rfl]

/-- From the places of two sets together the places reached from each are reached. -/
theorem Expr.run_or (size : Nat) (e : Expr Move) (p q : Nat) :
    e.run size (p ||| q) = e.run size p ||| e.run size q := by
  induction e generalizing p q with
  | empty => rfl
  | atom m => exact m.apply_or p q
  | sequence first rest ihFirst ihRest => rw [run, ihFirst, ihRest]; rfl
  | choice first rest ihFirst ihRest =>
    simp only [run, ihFirst, ihRest, Nat.or_assoc, Nat.or_left_comm]
  | repeated body least most ih =>
    rw [run_repeated ih, run_repeated ih, run_repeated ih, iterate_or ih, iterate_or (widen_or ih)]
  | group body ih => exact ih p q

/-! ## The masks of atoms -/

theorem Move.maskFrom_succ (p : Option Char → Option Char → Bool) (place : Nat)
    (before : Option Char) (text : List Char) :
    maskFrom p (place + 1) before text = 2 * maskFrom p place before text := by
  induction text generalizing place before with
  | nil =>
    simp only [maskFrom, Nat.one_shiftLeft, Nat.pow_succ]
    split <;> omega
  | cons c text ih =>
    simp only [maskFrom, ih, Nat.one_shiftLeft, Nat.pow_succ]
    split <;> omega

/-- A place belongs to the mask when the test holds between the characters around it. -/
theorem Move.testBit_maskFrom (p : Option Char → Option Char → Bool) (before : Option Char)
    (text : List Char) (i : Nat) :
    (maskFrom p 0 before text).testBit i = true ↔
      i ≤ text.length ∧ p (if i = 0 then before else text[i - 1]?) text[i]? = true := by
  induction text generalizing before i with
  | nil =>
    cases i with
    | zero => cases h : p before none <;> simp [maskFrom, h]
    | succ i => cases h : p before none <;> simp [maskFrom, h, Nat.testBit_add_one]
  | cons c text ih =>
    rw [maskFrom, maskFrom_succ]
    cases i with
    | zero => cases h : p before (some c) <;> simp [h]
    | succ i =>
      have hhalf : (2 * maskFrom p 0 (some c) text +
          if p before (some c) = true then 1 <<< 0 else 0) / 2 = maskFrom p 0 (some c) text := by
        split
        · rw [Nat.shiftLeft_zero]
          omega
        · omega
      rw [Nat.testBit_add_one, hhalf, ih]
      cases i with
      | zero => simp
      | succ i => simp

/-! ## The places that are reached -/

/-- All places of the set lie in a text with the given number of characters. -/
def Within (last places : Nat) : Prop := ∀ i, places.testBit i = true → i ≤ last

/-- The function takes the places of a text to those that the relation leads to. -/
def Follows (last : Nat) (f : Nat → Nat) (R : Nat → Nat → Prop) : Prop :=
  ∀ places, Within last places →
    ∀ k, (f places).testBit k = true ↔ ∃ i, places.testBit i = true ∧ R i k

namespace Follows

variable {last : Nat} {f : Nat → Nat} {R : Nat → Nat → Prop}

theorem within (h : Follows last f R) (hR : ∀ i k, i ≤ last → R i k → k ≤ last) {places : Nat}
    (hplaces : Within last places) : Within last (f places) := by
  intro k hk
  obtain ⟨i, hi, hik⟩ := (h places hplaces k).1 hk
  exact hR i k (hplaces i hi) hik

theorem iterate (h : Follows last f R) (hR : ∀ i k, R i k → k ≤ last) (n : Nat) :
    Follows last f^[n] (Rounds R n) := by
  induction n with
  | zero =>
    intro places _ k
    simp
  | succ n ih =>
    intro places hplaces k
    rw [Function.iterate_succ_apply, ih _ (h.within (fun i k _ hik => hR i k hik) hplaces)]
    constructor
    · intro ⟨j, hj, hjk⟩
      obtain ⟨i, hi, hij⟩ := (h places hplaces j).1 hj
      exact ⟨i, hi, .round hij hjk⟩
    · intro ⟨i, hi, hik⟩
      cases hik with
      | @round _ _ j _ hij hjk => exact ⟨j, (h places hplaces j).2 ⟨i, hi, hij⟩, hjk⟩

theorem iterate_widen (h : Follows last f R) (hR : ∀ i k, R i k → k ≤ last) (n : Nat) :
    Follows last (widen f)^[n] (fun i k => ∃ m ≤ n, Rounds R m i k) := by
  induction n with
  | zero =>
    intro places _ k
    simp
  | succ n ih =>
    intro places hplaces k
    have hwiden : ∀ j, (widen f places).testBit j = true ↔
        (∃ i, places.testBit i = true ∧ R i j) ∨ places.testBit j = true := by
      intro j
      rw [widen, Nat.testBit_or, Bool.or_eq_true, h places hplaces]
    have hwithin : Within last (widen f places) := by
      intro j hj
      cases (hwiden j).1 hj with
      | inl hround =>
        obtain ⟨i, -, hij⟩ := hround
        exact hR i j hij
      | inr hj => exact hplaces j hj
    rw [Function.iterate_succ_apply, ih _ hwithin]
    constructor
    · intro ⟨j, hj, m, hm, hjk⟩
      cases (hwiden j).1 hj with
      | inl hround =>
        obtain ⟨i, hi, hij⟩ := hround
        exact ⟨i, hi, m + 1, by omega, .round hij hjk⟩
      | inr hj => exact ⟨j, hj, m, by omega, hjk⟩
    · intro ⟨i, hi, m, hm, hik⟩
      cases hik with
      | done => exact ⟨_, (hwiden _).2 (.inr hi), 0, Nat.zero_le n, .done _⟩
      | @round m _ j _ hij hjk =>
        exact ⟨j, (hwiden j).2 (.inl ⟨i, hi, hij⟩), m, by omega, hjk⟩

end Follows

theorem Move.apply_ofAtom_one (text : List Char) (s : CharSet) (places : Nat) :
    (ofAtom text (.one s)).apply places =
      2 * (places &&& maskFrom (fun _ after => after.any s.contains) 0 none text) := rfl

theorem Move.apply_ofAtom_look (text : List Char) (l : Look) (places : Nat) :
    (ofAtom text (.look l)).apply places = places &&& maskFrom l.holds 0 none text := rfl

theorem matches_one_iff {text : List Char} {s : CharSet} {i k : Nat} :
    Matches text (.atom (.one s)) i k ↔ k = i + 1 ∧ text[i]?.any s.contains = true := by
  rw [Option.any_eq_true]
  constructor
  · intro h
    cases h with
    | one _ _ c h mem => exact ⟨rfl, c, h, mem⟩
  · intro ⟨hk, c, h, mem⟩
    subst hk
    exact .one i s c h mem

theorem matches_look_iff {text : List Char} {l : Look} {i k : Nat} :
    Matches text (.atom (.look l)) i k ↔
      k = i ∧ i ≤ text.length ∧
        l.holds (if i = 0 then none else text[i - 1]?) text[i]? = true := by
  constructor
  · intro h
    cases h with
    | look _ _ h holds => exact ⟨rfl, h, holds⟩
  · intro ⟨hk, h, holds⟩
    subst hk
    exact .look k l h holds

theorem matches_empty_iff {text : List Char} {i k : Nat} :
    Matches text .empty i k ↔ k = i ∧ i ≤ text.length := by
  constructor
  · intro h
    cases h with
    | empty _ h => exact ⟨rfl, h⟩
  · intro ⟨hk, h⟩
    subst hk
    exact .empty k h

/-- An atom takes places to where its matches from there end. -/
theorem follows_ofAtom (text : List Char) (a : Atom) :
    Follows text.length (Move.ofAtom text a).apply (Matches text (.atom a)) := by
  intro places hplaces k
  cases a with
  | one s =>
    simp only [Move.apply_ofAtom_one, matches_one_iff]
    cases k with
    | zero => simp
    | succ k =>
      rw [Nat.testBit_add_one, Nat.mul_div_cancel_left _ (by omega), Nat.testBit_and,
        Bool.and_eq_true, Move.testBit_maskFrom]
      constructor
      · intro ⟨hk, _, hchar⟩
        exact ⟨k, hk, rfl, hchar⟩
      · intro ⟨i, hi, heq, hchar⟩
        obtain rfl : k = i := by omega
        exact ⟨hi, hplaces k hi, hchar⟩
  | look l =>
    simp only [Move.apply_ofAtom_look, matches_look_iff]
    rw [Nat.testBit_and, Bool.and_eq_true, Move.testBit_maskFrom]
    constructor
    · intro ⟨hk, hlook⟩
      exact ⟨k, hk, rfl, hlook⟩
    · intro ⟨i, hi, heq, hlook⟩
      subst heq
      exact ⟨hi, hlook⟩

/-- The rounds of a repetition reach the ends of its matches: without a bound one round for every
place is enough. -/
theorem follows_repeated {text : List Char} {body : Expr Atom}
    (ih : Follows text.length ((body.map (Move.ofAtom text)).run (text.length + 1))
      (Matches text body)) {least : Nat} {most : Option Nat} (hmost : ∀ m ∈ most, least ≤ m) :
    Follows text.length
      (((Expr.repeated body least most).map (Move.ofAtom text)).run (text.length + 1))
      (Matches text (.repeated body least most)) := by
  have hend : ∀ i k, Matches text body i k → k ≤ text.length := fun i k h => h.le_length
  have hleast := ih.iterate hend least
  have hfront : ∀ places, Within text.length places →
      Within text.length
        (((body.map (Move.ofAtom text)).run (text.length + 1))^[least] places) :=
    fun places => hleast.within fun i k hi hik => hik.le_of_le hend hi
  intro places hplaces k
  rw [Expr.map, Expr.run_repeated (Expr.run_or _ _),
    ih.iterate_widen hend _ _ (hfront places hplaces)]
  simp only [hleast places hplaces, matches_repeated_iff]
  constructor
  · intro ⟨j, ⟨i, hi, hij⟩, m, hm, hjk⟩
    refine ⟨i, hi, hplaces i hi, least + m, Nat.le_add_right _ _, ?_, hij.trans hjk⟩
    intro bound hbound
    have hle := hmost bound hbound
    rw [Option.mem_def.1 hbound, Option.map_some, Option.getD_some] at hm
    omega
  · intro ⟨i, hi, _, n, hn, hbound, hik⟩
    obtain ⟨m, rfl⟩ := Nat.exists_eq_add_of_le hn
    obtain ⟨j, hij, hjk⟩ := hik.exists_of_add
    cases most with
    | some bound =>
      have hle := hbound bound rfl
      exact ⟨j, ⟨i, hi, hij⟩, m, by simp only [Option.map_some, Option.getD_some]; omega, hjk⟩
    | none =>
      obtain ⟨-, m', hm', hshort⟩ := hjk.exists_le_sub fun i k h => Matches.le h
      have hk := hik.le_of_le hend (hplaces i hi)
      exact ⟨j, ⟨i, hi, hij⟩, m', by simp only [Option.map_none, Option.getD_none]; omega, hshort⟩

/-- The search reaches the places where matches from the given places end. -/
theorem Expr.follows_run (text : List Char) {e : Expr Atom} (he : e.Bounded) :
    Follows text.length ((e.map (Move.ofAtom text)).run (text.length + 1)) (Matches text e) := by
  induction e with
  | empty =>
    intro places hplaces k
    simp only [map, run, matches_empty_iff]
    constructor
    · intro hk
      exact ⟨k, hk, rfl, hplaces k hk⟩
    · rintro ⟨i, hi, hik, _⟩
      exact hik ▸ hi
  | atom a => exact follows_ofAtom text a
  | sequence first rest ihFirst ihRest =>
    intro places hplaces k
    have hfirst := ihFirst he.1
    rw [map, run, ihRest he.2 _ (hfirst.within (fun i k _ h => h.le_length) hplaces)]
    simp only [hfirst places hplaces, matches_sequence_iff]
    constructor
    · rintro ⟨j, ⟨i, hi, hij⟩, hjk⟩
      exact ⟨i, hi, j, hij, hjk⟩
    · rintro ⟨i, hi, j, hij, hjk⟩
      exact ⟨j, ⟨i, hi, hij⟩, hjk⟩
  | choice first rest ihFirst ihRest =>
    intro places hplaces k
    rw [map, run, Nat.testBit_or, Bool.or_eq_true, ihFirst he.1 places hplaces,
      ihRest he.2 places hplaces, ← exists_or]
    simp only [matches_choice_iff, and_or_left]
  | repeated body least most ih => exact follows_repeated (ih he.1) he.2
  | group body ih =>
    intro places hplaces k
    simp only [map, run, matches_group_iff]
    exact ih he places hplaces k

/-- An expression with its bounds in order occurs in a text when it matches some stretch of it. -/
theorem Expr.occursIn_iff {e : Expr Atom} (he : e.Bounded) (text : List Char) :
    e.occursIn text = true ↔ ∃ i k, Matches text e i k := by
  have hall : ∀ i, (1 <<< (text.length + 1) - 1 : Nat).testBit i = true ↔ i ≤ text.length := by
    intro i
    rw [Nat.one_shiftLeft, Nat.testBit_two_pow_sub_one, decide_eq_true_eq, Nat.lt_succ_iff]
  have hrun := follows_run text he.flatten (1 <<< (text.length + 1) - 1) fun i => (hall i).1
  unfold occursIn
  rw [decide_eq_true_eq]
  constructor
  · intro h
    obtain ⟨k, hk⟩ := Nat.exists_testBit_of_ne_zero h
    obtain ⟨i, -, hik⟩ := (hrun k).1 hk
    exact ⟨i, k, (matches_flatten e).1 hik⟩
  · intro ⟨i, k, hik⟩ hzero
    have hi : i ≤ text.length := Nat.le_trans hik.le hik.le_length
    have hk := (hrun k).2 ⟨i, (hall i).2 hi, (matches_flatten e).2 hik⟩
    rw [hzero, Nat.zero_testBit] at hk
    exact Bool.noConfusion hk

end CallLint.Pattern
