import CallLint.Proofs.Config.Loading

/-!
# What options are refused for

A configuration is built from the expectation, from what to ignore and from the functions to ignore,
in this order. Whether one of these texts can be read does not depend on the others, so options are
refused for the first of them that cannot be read, and what is behind it goes unseen.

* `failure?_ofOptions`: the first problem of the texts is the problem of the options.
* `ofOptions_ne_json`: options are never refused for how they were written.
* `ofOptions_checks`: when options make a configuration, which one, and what they are refused for.
-/

namespace CallLint

/-! ## Readers one after the other -/

section Failures

variable {α β γ ε : Type}

/-- What a reader fails with, if it does. -/
def failure? : Except ε α → Option ε
  | .ok _ => none
  | .error problem => some problem

theorem failure?_eq_none_iff {x : Except ε α} : failure? x = none ↔ ∃ a, x = .ok a := by
  cases x <;> simp [failure?]

theorem failure?_eq_some_iff {x : Except ε α} {problem : ε} :
    failure? x = some problem ↔ x = .error problem := by
  cases x <;> simp [failure?]

/-- Where a second reader fails in the same way whatever the first has read, the first failure of
both counts. -/
theorem failure?_bind {x : Except ε α} {f : α → Except ε β} {second : Option ε}
    (h : ∀ a, failure? (f a) = second) : failure? (x >>= f) = (failure? x).or second := by
  cases x with
  | error problem => rfl
  | ok a => exact h a

/-- Taking in what each entry stands for fails with the first entry that cannot be read. -/
theorem failure?_foldlM (read : α → Except ε β) (add : γ → β → γ) (l : List α) (c : γ) :
    failure? (l.foldlM (fun c raw => return add c (← read raw)) c) =
      l.findSome? fun raw => failure? (read raw) := by
  induction l generalizing c with
  | nil => rfl
  | cons raw l ih =>
    have hfirst : failure? (do return add c (← read raw)) = failure? (read raw) := by
      cases read raw <;> rfl
    rw [List.foldlM_cons, failure?_bind ih, hfirst, List.findSome?_cons]
    cases failure? (read raw) <;> rfl

end Failures

/-- The text that a problem is with, if it is with one entry of the options. -/
def Problem.text? : Problem → Option Text
  | .expectation raw | .ignore raw => some raw
  | .patternFlag entry _ | .pattern entry _ => some entry
  | .json _ => none

/-! ## The problems of one text -/

theorem Expectation.problem_of_parse {raw : Text} {problem : Problem}
    (h : Expectation.parse raw = .error problem) : problem = .expectation raw := by
  unfold Expectation.parse at h
  split at h
  · cases h
  split at h
  · cases h
  · exact (Except.error.inj h).symm

theorem IgnoreOption.problem_of_parse {raw : Text} {problem : Problem}
    (h : IgnoreOption.parse raw = .error problem) : problem = .ignore raw := by
  unfold IgnoreOption.parse at h
  split at h
  · cases h
  · exact (Except.error.inj h).symm

theorem Matcher.problem_of_parse {raw : Text} {problem : Problem}
    (h : Matcher.parse raw = .error problem) :
    (∃ flag, problem = .patternFlag raw flag) ∨ ∃ fault, problem = .pattern raw fault := by
  unfold Matcher.parse at h
  split at h
  · cases h
  split at h
  next flag hflag => exact .inl ⟨flag, (Except.error.inj h).symm⟩
  next =>
    dsimp only at h
    split at h
    · cases h
    next fault hfault => exact .inr ⟨fault, (Except.error.inj h).symm⟩

namespace Config

/-- A text that configurations are built from, with what it is read as. -/
inductive Item where
  | expectation (raw : Text)
  | ignore (raw : Text)
  | ignoreFunction (raw : Text)
  deriving DecidableEq, Repr

namespace Item

/-- The text of an item. -/
def raw : Item → Text
  | expectation raw | ignore raw | ignoreFunction raw => raw

/-- What is wrong with an item by itself. -/
def problem? : Item → Option Problem
  | expectation raw => failure? (Expectation.parse raw)
  | ignore raw => failure? (IgnoreOption.parse raw)
  | ignoreFunction raw => failure? (Matcher.parse raw)

/-- A problem tells the text of the item that has it. -/
theorem text?_of_problem? {item : Item} {problem : Problem} (h : item.problem? = some problem) :
    problem.text? = some item.raw := by
  cases item with
  | expectation raw =>
    obtain rfl := Expectation.problem_of_parse (failure?_eq_some_iff.1 h)
    rfl
  | ignore raw =>
    obtain rfl := IgnoreOption.problem_of_parse (failure?_eq_some_iff.1 h)
    rfl
  | ignoreFunction raw =>
    obtain ⟨flag, rfl⟩ | ⟨fault, rfl⟩ := Matcher.problem_of_parse (failure?_eq_some_iff.1 h)
    · rfl
    · rfl

end Item

/-! ## The problem of options -/

/-- All that a configuration is built from, in the order in which it is read. -/
def items (raw : Text) (options : Options) : List Item :=
  .expectation raw :: (options.ignore.map .ignore ++ options.ignoreFunctions.map .ignoreFunction)

/-- The first problem of the items is the problem of the options. -/
theorem failure?_ofOptions (raw : Text) (options : Options) :
    failure? (ofOptions raw options) = (items raw options).findSome? Item.problem? := by
  have hread : failure? (ofOptions raw options) =
      (Item.expectation raw).problem?.or
        ((options.ignore.findSome? fun entry => (Item.ignore entry).problem?).or
          (options.ignoreFunctions.findSome? fun f => (Item.ignoreFunction f).problem?)) := by
    refine failure?_bind fun e => ?_
    rw [failure?_bind (failure?_foldlM _ _ _), failure?_foldlM]
    rfl
  rw [hread, items, List.findSome?_cons, List.findSome?_append, List.findSome?_map,
    List.findSome?_map]
  cases (Item.expectation raw).problem? <;> rfl

/-- Options are refused for what one of their entries says, never for how they were written. -/
theorem ofOptions_ne_json (raw : Text) (options : Options) (problem : Json.Problem) :
    ofOptions raw options ≠ .error (.json problem) := by
  intro h
  rw [← failure?_eq_some_iff, failure?_ofOptions] at h
  obtain ⟨item, -, hitem⟩ := List.exists_of_findSome?_eq_some h
  cases Item.text?_of_problem? hitem

/-! ## What is checked -/

/-- Options make a configuration if and only if everything that it is built from can be read. -/
theorem exists_ofOptions_iff {raw : Text} {options : Options} :
    (∃ c, ofOptions raw options = .ok c) ↔
      (∃ e, Expectation.parse raw = .ok e) ∧
        (∀ entry ∈ options.ignore, ∃ o, IgnoreOption.parse entry = .ok o) ∧
        ∀ entry ∈ options.ignoreFunctions, ∃ m, Matcher.parse entry = .ok m := by
  rw [← failure?_eq_none_iff, failure?_ofOptions, List.findSome?_eq_none_iff]
  simp only [items, List.forall_mem_cons, List.forall_mem_append, List.forall_mem_map,
    Item.problem?, failure?_eq_none_iff]

/-- The problem of options is the one of the first item that has one. -/
theorem ofOptions_eq_error_iff {raw : Text} {options : Options} {problem : Problem} :
    ofOptions raw options = .error problem ↔
      ∃ front item back, items raw options = front ++ item :: back ∧
        (∀ i ∈ front, i.problem? = none) ∧ item.problem? = some problem := by
  rw [← failure?_eq_some_iff, failure?_ofOptions, List.findSome?_eq_some_iff]
  constructor
  · rintro ⟨front, item, back, hitems, hitem, hfront⟩
    exact ⟨front, item, back, hitems, hfront, hitem⟩
  · rintro ⟨front, item, back, hitems, hfront, hitem⟩
    exact ⟨front, item, back, hitems, hitem, hfront⟩

/-- There is one thing that can be ignored, so it is ignored if there is any entry for it. -/
theorem ignores_foldl_withIgnore {entries : List Text} {ignored : List IgnoreOption}
    (h : List.Forall₂ (fun entry o => IgnoreOption.parse entry = .ok o) entries ignored)
    (e : Expectation) (o : IgnoreOption) :
    (ignored.foldl withIgnore (new e)).ignores o = true ↔ entries ≠ [] := by
  have hmem : (ignored.foldl withIgnore (new e)).ignores o = true ↔ o ∈ ignored := by
    rw [ignores, List.contains_iff_mem, (foldl_withIgnore ignored (new e)).2.2]
    simp [new]
  rw [hmem, Ne, ← List.length_eq_zero_iff, h.length_eq, List.length_eq_zero_iff]
  cases ignored with
  | nil => simp
  | cons first ignored =>
    cases o
    cases first
    simp

/-- Options make a configuration if the expectation and every entry can be read by itself. Else they
are refused for the first of these that cannot be read, the expectation before what to ignore and
that before the functions to ignore, and the problem is with the text of this one. What they make is
what one change of the configuration after the other makes: it ignores nothing twice, the one thing
that can be ignored if there is an entry for it, and has a matcher for each function to ignore. -/
theorem ofOptions_checks (raw : Text) (options : Options) :
    ((∃ c, ofOptions raw options = .ok c) ↔
      (∃ e, Expectation.parse raw = .ok e) ∧
        (∀ entry ∈ options.ignore, ∃ o, IgnoreOption.parse entry = .ok o) ∧
        ∀ entry ∈ options.ignoreFunctions, ∃ m, Matcher.parse entry = .ok m) ∧
    (∀ problem, ofOptions raw options = .error problem ↔
      ∃ front item back, items raw options = front ++ item :: back ∧
        (∀ i ∈ front, i.problem? = none) ∧ item.problem? = some problem ∧
          problem.text? = some item.raw) ∧
    ∀ c, ofOptions raw options = .ok c →
      ∃ e ignored functions, Expectation.parse raw = .ok e ∧
        List.Forall₂ (fun entry o => IgnoreOption.parse entry = .ok o) options.ignore ignored ∧
        List.Forall₂ (fun entry m => Matcher.parse entry = .ok m) options.ignoreFunctions
          functions ∧
        c = functions.foldl withIgnoredFunction (ignored.foldl withIgnore (new e)) ∧
        c.expectation = e ∧ c.ignore.Nodup ∧
        (c.ignores .singleArgument = true ↔ options.ignore ≠ []) ∧
        c.ignoreFunctions = functions := by
  refine ⟨exists_ofOptions_iff, fun problem => ?_, fun c hc => ?_⟩
  · rw [ofOptions_eq_error_iff]
    constructor
    · rintro ⟨front, item, back, hitems, hfront, hitem⟩
      exact ⟨front, item, back, hitems, hfront, hitem, Item.text?_of_problem? hitem⟩
    · rintro ⟨front, item, back, hitems, hfront, hitem, -⟩
      exact ⟨front, item, back, hitems, hfront, hitem⟩
  · have hnodup := nodup_of_ofOptions hc
    obtain ⟨e, ignored, functions, he, hignored, hfunctions, rfl⟩ := ofOptions_eq_ok_iff.1 hc
    obtain ⟨hexpectation, hkept, -⟩ := foldl_withIgnore ignored (new e)
    refine ⟨e, ignored, functions, he, hignored, hfunctions, rfl, ?_, hnodup, ?_, ?_⟩
    · rw [foldl_withIgnoredFunction]
      exact hexpectation
    · rw [foldl_withIgnoredFunction]
      exact ignores_foldl_withIgnore hignored e .singleArgument
    · rw [foldl_withIgnoredFunction]
      exact congrArg (· ++ functions) hkept

/-- Entries that are repeated, and three faulty ones in both lists. -/
theorem ofOptions_checks_of_faults :
    let single : Text := "single-argument".toList
    let repeated : Options := ⟨[single, single], [['g'], ['f'], ['g']]⟩
    let c : Config := ⟨.never, [.singleArgument], [.exact ['g'], .exact ['f'], .exact ['g']]⟩
    let faulty : Options := ⟨[single, "all".toList, "none".toList], ["/(/".toList]⟩
    (ofOptions "never".toList repeated = .ok c ∧ c.ignore.Nodup ∧
      c.ignores .singleArgument = true ∧
      List.Forall₂ (fun entry m => Matcher.parse entry = .ok m) [['g'], ['f'], ['g']]
        c.ignoreFunctions) ∧
    ofOptions "always".toList faulty = .error (.ignore "all".toList) := by
  intro single repeated c faulty
  have hc : ofOptions "never".toList repeated = .ok c := by decide +kernel
  obtain ⟨e, ignored, functions, -, -, hfunctions, -, -, hnodup, hsingle, hkept⟩ :=
    (ofOptions_checks "never".toList repeated).2.2 c hc
  refine ⟨⟨hc, hnodup, hsingle.2 (List.cons_ne_nil _ _), hkept ▸ hfunctions⟩, ?_⟩
  refine ((ofOptions_checks "always".toList faulty).2.1 (.ignore "all".toList)).2
    ⟨[.expectation "always".toList, .ignore single], .ignore "all".toList,
      [.ignore "none".toList, .ignoreFunction "/(/".toList], rfl, ?_, rfl, rfl⟩
  rintro i hi
  obtain rfl | rfl : i = .expectation "always".toList ∨ i = .ignore single := by simpa using hi
  · rfl
  · rfl

end Config

end CallLint
