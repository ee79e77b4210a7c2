import CallLint.Problem

/-!
# Matchers

An entry of the list of ignored functions matches function names. An entry `/pattern/flags` is a
pattern, where the last `/` of the entry ends the pattern; any other entry is a name and matches
itself alone.

* `splitAtLastSlash_eq_some_iff`: what is before and after the last `/`.
* `parse_exact`: an entry without two slashes matches itself.
* `isMatch_exact`: a name matches itself alone.
-/

namespace CallLint

/-- What an entry of the ignored functions matches. -/
inductive Matcher where
  | exact (name : Text)
  | pattern (p : Pattern)
  deriving DecidableEq, Repr

namespace Matcher

/-- The parts of a text before and after its last `/`, if there is one. -/
def splitAtLastSlash : Text → Option (Text × Text)
  | [] => none
  | c :: t =>
    match splitAtLastSlash t with
    | some (before, after) => some (c :: before, after)
    | none => if c = '/' then some ([], t) else none

theorem splitAtLastSlash_eq_none_iff {t : Text} : splitAtLastSlash t = none ↔ '/' ∉ t := by
  induction t with
  | nil => simp [splitAtLastSlash]
  | cons c t ih =>
    rw [splitAtLastSlash]
    split
    next before after h =>
      have hmem : ¬ '/' ∉ t := fun hno => by simp [ih.2 hno] at h
      simpa using fun _ => Classical.not_not.1 hmem
    next h =>
      have hno := ih.1 h
      by_cases hc : c = '/'
      · simp [hc]
      · simp [hc, hno, Ne.symm hc]

/-- The last `/` is the one after which no other follows. -/
theorem splitAtLastSlash_eq_some_iff {t before after : Text} :
    splitAtLastSlash t = some (before, after) ↔ t = before ++ '/' :: after ∧ '/' ∉ after := by
  induction t generalizing before after with
  | nil => simp [splitAtLastSlash]
  | cons c t ih =>
    rw [splitAtLastSlash]
    split
    next front back h =>
      obtain ⟨ht, hback⟩ := ih.1 h
      constructor
      · intro heq
        obtain ⟨rfl, rfl⟩ : c :: front = before ∧ back = after := by simpa using heq
        exact ⟨by rw [ht, List.cons_append], hback⟩
      · rintro ⟨heq, hno⟩
        cases before with
        | nil =>
          obtain ⟨-, rfl⟩ := List.cons.inj heq
          simp [splitAtLastSlash_eq_none_iff.2 hno] at h
        | cons d before =>
          obtain ⟨rfl, htail⟩ := List.cons.inj heq
          have hsame := h.symm.trans (ih.2 ⟨htail, hno⟩)
          obtain ⟨rfl, rfl⟩ : front = before ∧ back = after := by simpa using hsame
          rfl
    next h =>
      have hno := splitAtLastSlash_eq_none_iff.1 h
      constructor
      · intro heq
        split at heq
        next hc =>
          obtain ⟨rfl, rfl⟩ : [] = before ∧ t = after := by simpa using heq
          exact ⟨by rw [hc, List.nil_append], hno⟩
        next => simp at heq
      · rintro ⟨heq, -⟩
        cases before with
        | nil =>
          obtain ⟨rfl, rfl⟩ := List.cons.inj heq
          simp
        | cons d before =>
          obtain ⟨-, htail⟩ := List.cons.inj heq
          exact absurd (htail ▸ by simp) hno

/-- The pattern and the flags of an entry that is a pattern. -/
def patternParts : Text → Option (Text × Text)
  | '/' :: t => splitAtLastSlash t
  | _ => none

/-- The flags that an entry may have: those that set an option, the one that keeps the match at the
start of the name, and two without effect. -/
def isFlag (c : Char) : Bool := ['i', 'm', 's', 'y', 'g', 'u'].contains c

/-- The options that flags set. -/
def optionsOf (flags : Text) : PatternOptions :=
  ⟨flags.contains 'i', flags.contains 'm', flags.contains 's'⟩

/-- The source of a pattern that is kept at the start of the name. -/
def anchored (source : Text) : Text := "\\A(?:".toList ++ source ++ [')']

/-- Reads an entry. A flag that is none is found before the pattern is looked at. -/
def parse (entry : Text) : Except Problem Matcher :=
  match patternParts entry with
  | none => .ok (.exact entry)
  | some (source, flags) =>
    match flags.find? (!isFlag ·) with
    | some flag => .error (.patternFlag entry flag)
    | none =>
      let source := if flags.contains 'y' then anchored source else source
      match Pattern.compile (optionsOf flags) source with
      | .ok p => .ok (.pattern p)
      | .error fault => .error (.pattern entry fault)

/-- Whether a name is matched. -/
def isMatch : Matcher → Text → Bool
  | .exact expected, name => expected = name
  | .pattern p, name => p.occursIn name

theorem parse_exact {entry : Text} (h : patternParts entry = none) :
    parse entry = .ok (.exact entry) := by
  unfold parse
  rw [h]

theorem isMatch_exact (expected name : Text) :
    (exact expected).isMatch name = true ↔ expected = name := by
  simp [isMatch]

end Matcher

end CallLint
