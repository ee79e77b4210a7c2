import CallLint.Matcher
import Mathlib.Logic.ExistsUnique
import Mathlib.Tactic.Common

/-!
# Entries with patterns

An entry that begins with a slash and has a second one is a pattern with flags, and its last slash
ends the pattern. The flags are taken in one after the other, up to the first character that is no
flag. What they have set then is whether each of four characters is among them: neither their order
nor their repetitions nor the two flags without effect leave a trace.

* `patternParts_eq_some_iff`: an entry is a pattern with flags in one way at most.
* `foldlM_take_of_isFlag`, `foldlM_take_of_not_isFlag`: what a row of flags sets, or where it ends.
* `parse_entry`: an entry is read flag by flag, and its pattern after them.
* `parse_classifies`: the slashes of an entry and the set of its flags decide what it is.
-/

namespace CallLint

namespace Matcher

/-! ## The last slash -/

/-- An entry with a pattern and flags. -/
def entry (source flags : Text) : Text := '/' :: source ++ '/' :: flags

/-- The flags are what no slash follows, so the parts of an entry are determined. -/
theorem patternParts_eq_some_iff {raw source flags : Text} :
    patternParts raw = some (source, flags) ↔ raw = entry source flags ∧ '/' ∉ flags := by
  unfold patternParts
  split
  next t =>
    rw [splitAtLastSlash_eq_some_iff, entry, List.cons_append, List.cons.injEq]
    simp only [true_and]
  next hslash =>
    refine iff_of_false (fun h => by cases h) ?_
    rintro ⟨rfl, -⟩
    exact hslash _ rfl

theorem patternParts_eq_none_iff {raw : Text} :
    patternParts raw = none ↔ raw.head? ≠ some '/' ∨ raw.count '/' < 2 := by
  unfold patternParts
  split
  next t =>
    rw [splitAtLastSlash_eq_none_iff, List.count_cons_self, ← List.count_eq_zero]
    simp only [List.head?_cons, ne_eq, not_true_eq_false, false_or]
    omega
  next hslash =>
    refine iff_of_true rfl (.inl fun hhead => ?_)
    obtain ⟨t, rfl⟩ := List.head?_eq_some_iff.1 hhead
    exact hslash t rfl

/-! ## Flags one after the other -/

/-- What the flags of an entry have set so far. -/
structure FlagState where
  options : PatternOptions
  /-- Whether the match is kept at the start of the name. -/
  atStart : Bool
  deriving DecidableEq, Repr

namespace FlagState

/-- Before the first flag nothing is set. -/
def start : FlagState := ⟨⟨false, false, false⟩, false⟩

/-- Takes in one more flag. -/
def take (s : FlagState) (flag : Char) : Except Char FlagState :=
  if flag = 'i' then .ok { s with options := { s.options with ignoreCase := true } }
  else if flag = 'm' then .ok { s with options := { s.options with multiLine := true } }
  else if flag = 's' then .ok { s with options := { s.options with dotAll := true } }
  else if flag = 'y' then .ok { s with atStart := true }
  else if flag = 'g' ∨ flag = 'u' then .ok s
  else .error flag

/-- What flags set, told by which of them there are. -/
def of (flags : Text) : FlagState := ⟨optionsOf flags, flags.contains 'y'⟩

theorem of_nil : of [] = start := rfl

/-- Reads a pattern under the flags. -/
def compile (s : FlagState) (source : Text) : Except PatternFault Pattern :=
  Pattern.compile s.options (if s.atStart then anchored source else source)

/-- One more flag sets what it adds to the set of those before it. -/
theorem take_of_isFlag (seen : Text) {flag : Char} (h : isFlag flag = true) :
    (of seen).take flag = .ok (of (seen ++ [flag])) := by
  simp only [isFlag, List.contains_iff_mem, List.mem_cons, List.not_mem_nil, or_false] at h
  obtain rfl | rfl | rfl | rfl | rfl | rfl := h <;> simp [take, of, optionsOf]

theorem take_of_not_isFlag (s : FlagState) {flag : Char} (h : isFlag flag = false) :
    s.take flag = .error flag := by
  have hnone : ∀ c ∈ ['i', 'm', 's', 'y', 'g', 'u'], flag ≠ c := by
    rintro c hc rfl
    simp [isFlag, hc] at h
  simp only [List.forall_mem_cons, List.not_mem_nil, false_implies, implies_true] at hnone
  simp [take, hnone]

/-- A row of flags sets what its members set. -/
theorem foldlM_take_of_isFlag {flags : Text} (h : ∀ c ∈ flags, isFlag c = true) (seen : Text) :
    flags.foldlM take (of seen) = .ok (of (seen ++ flags)) := by
  -- at every moment the state is that of the flags seen so far, of which each step adds one
  induction flags generalizing seen with
  | nil =>
    rw [List.append_nil]
    rfl
  | cons flag flags ih =>
    obtain ⟨hflag, hflags⟩ := List.forall_mem_cons.1 h
    rw [List.foldlM_cons, take_of_isFlag seen hflag]
    change flags.foldlM take (of (seen ++ [flag])) = _
    rw [ih hflags, List.append_assoc, List.singleton_append]

/-- The first character that is no flag ends the row, whatever is behind it. -/
theorem foldlM_take_of_not_isFlag {front : Text} (h : ∀ c ∈ front, isFlag c = true)
    {flag : Char} (hflag : isFlag flag = false) (back seen : Text) :
    (front ++ flag :: back).foldlM take (of seen) = .error flag := by
  rw [List.foldlM_append, foldlM_take_of_isFlag h]
  change (flag :: back).foldlM take (of (seen ++ front)) = _
  rw [List.foldlM_cons, take_of_not_isFlag _ hflag]
  rfl

/-- Flags set the same if they are the same set, but for those without effect. -/
theorem of_congr {flags flags' : Text}
    (h : ∀ c ∈ ['i', 'm', 's', 'y'], c ∈ flags ↔ c ∈ flags') : of flags = of flags' := by
  have hcontains : ∀ c ∈ ['i', 'm', 's', 'y'], flags.contains c = flags'.contains c := by
    intro c hc
    rw [Bool.eq_iff_iff, List.contains_iff_mem, List.contains_iff_mem]
    exact h c hc
  simp only [List.forall_mem_cons, List.not_mem_nil, false_implies, implies_true] at hcontains
  simp only [of, optionsOf, hcontains]

end FlagState

open FlagState

/-! ## Reading an entry -/

/-- A slash that begins an entry and another one make it a pattern with flags, in one way. -/
theorem existsUnique_entry {raw : Text} (hhead : raw.head? = some '/')
    (hcount : 2 ≤ raw.count '/') :
    ∃! parts : Text × Text, raw = entry parts.1 parts.2 ∧ '/' ∉ parts.2 := by
  have hparts : patternParts raw ≠ none := by
    rw [Ne, patternParts_eq_none_iff, not_or, not_not, Nat.not_lt]
    exact ⟨hhead, hcount⟩
  obtain ⟨parts, hparts⟩ := Option.ne_none_iff_exists'.1 hparts
  refine ⟨parts, patternParts_eq_some_iff.1 hparts, fun parts' h => ?_⟩
  exact Option.some.inj ((patternParts_eq_some_iff.2 h).symm.trans hparts)

theorem find?_eq_some_iff {flags : Text} {flag : Char} :
    flags.find? (!isFlag ·) = some flag ↔
      ∃ front back, flags = front ++ flag :: back ∧ (∀ c ∈ front, isFlag c = true) ∧
        isFlag flag = false := by
  rw [List.find?_eq_some_iff_append]
  simp only [Bool.not_eq_true', Bool.not_not]
  constructor
  · rintro ⟨hflag, front, back, hflags, hfront⟩
    exact ⟨front, back, hflags, hfront, hflag⟩
  · rintro ⟨front, back, hflags, hfront, hflag⟩
    exact ⟨hflag, front, back, hflags, hfront⟩

/-- An entry is read flag by flag, and its pattern after them. -/
theorem parse_entry {source flags : Text} (h : '/' ∉ flags) :
    parse (entry source flags) =
      ((flags.foldlM take start).mapError (.patternFlag (entry source flags))).bind fun s =>
        ((s.compile source).mapError (.pattern (entry source flags))).map .pattern := by
  unfold parse
  rw [patternParts_eq_some_iff.2 ⟨rfl, h⟩, ← of_nil]
  dsimp only
  cases hfind : flags.find? (!isFlag ·) with
  | some flag =>
    obtain ⟨front, back, rfl, hfront, hflag⟩ := find?_eq_some_iff.1 hfind
    rw [foldlM_take_of_not_isFlag hfront hflag]
    rfl
  | none =>
    have hknown : ∀ c ∈ flags, isFlag c = true := by simpa using hfind
    rw [foldlM_take_of_isFlag hknown]
    change _ = (((of flags).compile source).mapError _).map _
    dsimp only [FlagState.compile, of]
    cases Pattern.compile (optionsOf flags)
      (if flags.contains 'y' then anchored source else source) <;> rfl

/-- The first character that is no flag is told, whatever the pattern is. -/
theorem parse_entry_of_not_isFlag {source flags : Text} (hslash : '/' ∉ flags)
    (h : ∃ c ∈ flags, isFlag c = false) :
    ∃ front flag back, flags = front ++ flag :: back ∧ (∀ c ∈ front, isFlag c = true) ∧
      isFlag flag = false ∧
        parse (entry source flags) = .error (.patternFlag (entry source flags) flag) := by
  obtain ⟨c, hc, hnone⟩ := h
  have hfound : (flags.find? (!isFlag ·)).isSome := List.find?_isSome.2 ⟨c, hc, by simpa⟩
  obtain ⟨flag, hfind⟩ := Option.isSome_iff_exists.1 hfound
  obtain ⟨front, back, rfl, hfront, hflag⟩ := find?_eq_some_iff.1 hfind
  refine ⟨front, flag, back, rfl, hfront, hflag, ?_⟩
  rw [parse_entry hslash, ← of_nil, foldlM_take_of_not_isFlag hfront hflag]
  rfl

/-- Behind known flags the pattern is read under what they set. -/
theorem parse_entry_of_isFlag {source flags : Text} (h : ∀ c ∈ flags, isFlag c = true) :
    parse (entry source flags) =
      (((of flags).compile source).mapError (.pattern (entry source flags))).map .pattern := by
  have hslash : '/' ∉ flags := fun hmem => absurd (h '/' hmem) (by decide)
  rw [parse_entry hslash, ← of_nil, foldlM_take_of_isFlag h]
  rfl

/-- An entry whose flags are known is accepted when its pattern is. -/
theorem parse_entry_eq_ok_iff {source flags : Text} (h : ∀ c ∈ flags, isFlag c = true)
    {m : Matcher} :
    parse (entry source flags) = .ok m ↔
      ∃ p, m = .pattern p ∧ Pattern.compile (optionsOf flags)
        (if flags.contains 'y' then anchored source else source) = .ok p := by
  rw [parse_entry_of_isFlag h]
  dsimp only [FlagState.compile, of]
  generalize Pattern.compile _ _ = compiled
  cases compiled with
  | error fault =>
    refine iff_of_false (fun hm => by cases hm) ?_
    rintro ⟨p, -, hp⟩
    cases hp
  | ok q =>
    constructor
    · intro hm
      obtain rfl := Except.ok.inj hm
      exact ⟨q, rfl, rfl⟩
    · rintro ⟨p, rfl, hp⟩
      obtain rfl := Except.ok.inj hp
      rfl

/-- Two rows of known flags that set the same are the same flags to every pattern. -/
theorem parse_entry_congr {source flags flags' : Text} (h : ∀ c ∈ flags, isFlag c = true)
    (h' : ∀ c ∈ flags', isFlag c = true)
    (hsame : ∀ c ∈ ['i', 'm', 's', 'y'], c ∈ flags ↔ c ∈ flags') :
    (∃ fault, (of flags).compile source = .error fault ∧
      parse (entry source flags) = .error (.pattern (entry source flags) fault) ∧
      parse (entry source flags') = .error (.pattern (entry source flags') fault)) ∨
    ∃ p, (of flags).compile source = .ok p ∧
      parse (entry source flags) = .ok (.pattern p) ∧
      parse (entry source flags') = .ok (.pattern p) ∧
        p.source = if 'y' ∈ flags then anchored source else source := by
  rw [parse_entry_of_isFlag h, parse_entry_of_isFlag h', ← of_congr hsame]
  cases hp : (of flags).compile source with
  | error fault => exact .inl ⟨fault, rfl, rfl, rfl⟩
  | ok p =>
    refine .inr ⟨p, rfl, rfl, rfl, (Pattern.compile_source hp).trans ?_⟩
    simp only [of, List.contains_iff_mem]

/-- An entry that does not begin with a slash, or has no second one, is a name and matches itself
alone. Every other entry is a pattern with flags in one way. The first character behind the pattern
that is no flag is told before the pattern is looked at. Else the pattern decides, read under what
the flags set. Rows of flags with the same members, but for the two without effect, have it refused
for the same fault, or make the same matcher of it. -/
theorem parse_classifies (raw : Text) :
    (raw.head? ≠ some '/' ∨ raw.count '/' < 2 →
      parse raw = .ok (.exact raw) ∧ ∀ name, (exact raw).isMatch name = true ↔ name = raw) ∧
    (raw.head? = some '/' → 2 ≤ raw.count '/' →
      ∃! parts : Text × Text, raw = entry parts.1 parts.2 ∧ '/' ∉ parts.2) ∧
    ∀ source flags, raw = entry source flags → '/' ∉ flags →
      ((∃ c ∈ flags, isFlag c = false) →
        ∃ front flag back, flags = front ++ flag :: back ∧ (∀ c ∈ front, isFlag c = true) ∧
          isFlag flag = false ∧ parse raw = .error (.patternFlag raw flag)) ∧
      ∀ flags', (∀ c ∈ flags ++ flags', isFlag c = true) →
        (∀ c ∈ ['i', 'm', 's', 'y'], c ∈ flags ↔ c ∈ flags') →
          (∃ fault, (of flags).compile source = .error fault ∧
            parse raw = .error (.pattern raw fault) ∧
            parse (entry source flags') = .error (.pattern (entry source flags') fault)) ∨
          ∃ p, (of flags).compile source = .ok p ∧ parse raw = .ok (.pattern p) ∧
            parse (entry source flags') = .ok (.pattern p) ∧
            p.source = if 'y' ∈ flags then anchored source else source := by
  refine ⟨fun h => ⟨parse_exact (patternParts_eq_none_iff.2 h), fun name => ?_⟩,
    existsUnique_entry, ?_⟩
  · rw [isMatch_exact, eq_comm]
  · rintro source flags rfl hslash
    refine ⟨parse_entry_of_not_isFlag hslash, fun flags' hknown hsame => ?_⟩
    obtain ⟨h, h'⟩ := List.forall_mem_append.1 hknown
    exact parse_entry_congr h h' hsame

/-- A name with slashes, a malformed pattern in front of a flag that there is not, and a pattern
with a slash of its own under flags in two orders, one of them repeated. -/
theorem parse_classifies_of_slashes :
    let name : Text := "a//i".toList
    let unknown : Text := "/(/iqy".toList
    let sticky : Text := "/a/b/ysy".toList
    (name.head? ≠ some '/' ∧ parse name = .ok (.exact name)) ∧
      ((∃ c ∈ ['i', 'q', 'y'], isFlag c = false) ∧
        parse unknown = .error (.patternFlag unknown 'q')) ∧
      (2 ≤ sticky.count '/' ∧
        ∃! parts : Text × Text, sticky = entry parts.1 parts.2 ∧ '/' ∉ parts.2) ∧
      ∃ p, parse sticky = .ok (.pattern p) ∧
        parse (entry "a/b".toList ['s', 'g', 'y']) = .ok (.pattern p) ∧
          p.source = "\\A(?:a/b)".toList := by
  intro name unknown sticky
  have hhead : name.head? ≠ some '/' := by decide
  have hcount : 2 ≤ sticky.count '/' := by decide
  have hbad : ∃ c ∈ ['i', 'q', 'y'], isFlag c = false := ⟨'q', by simp, rfl⟩
  obtain ⟨-, -, hunknown⟩ := parse_classifies unknown
  obtain ⟨front, flag, back, hflags, -, hflag, hrefused⟩ :=
    (hunknown ['('] ['i', 'q', 'y'] rfl (by simp)).1 hbad
  have hmem : flag ∈ ['i', 'q', 'y'] := by simp [hflags]
  obtain rfl : flag = 'q' := by
    simp only [List.mem_cons, List.not_mem_nil, or_false] at hmem
    obtain rfl | rfl | rfl := hmem
    · cases hflag
    · rfl
    · cases hflag
  obtain ⟨-, hunique, hsticky⟩ := parse_classifies sticky
  refine ⟨⟨hhead, ((parse_classifies name).1 (.inl hhead)).1⟩, ⟨hbad, hrefused⟩,
    ⟨hcount, hunique rfl hcount⟩, ?_⟩
  have hok : (parse sticky).isOk = true := by decide +kernel
  obtain ⟨fault, -, hfault, -⟩ | ⟨p, -, hp, hp', hsource⟩ :=
    (hsticky "a/b".toList ['y', 's', 'y'] rfl (by simp)).2 ['s', 'g', 'y']
      (by simp [isFlag]) (by simp)
  · rw [hfault] at hok
    cases hok
  · exact ⟨p, hp, hp', hsource⟩

end Matcher

end CallLint
