import CallLint.Proofs.Lint.Calls

/-!
# The two expectations

What counts in a value does not depend on what is expected: the arguments of the calls that are
judged. Each expectation reports those that do not meet it.

* `judge_eq`: an argument meets exactly one of the two expectations.
* `lint_eq_counted`: what is found are the arguments that count and do not meet the expectation.
* `lint_complementary`: the two results divide the arguments that count between them.
-/

namespace CallLint

open Text

/-- A key that is a variable is a key. -/
theorem Argument.isNamed_of_hasVariableKey {a : Argument} (h : a.hasVariableKey = true) :
    a.isNamed = true := by
  unfold hasVariableKey at h
  split at h
  next key hkey => simp [isNamed, hkey]
  next => cases h

namespace Expectation

/-- The kind of what does not meet the expectation. -/
def kind : Expectation → ViolationKind
  | .always => .expected
  | .never => .rejected

/-- Whether an argument does not meet the expectation. -/
def refuses (e : Expectation) (a : Argument) : Bool :=
  match e with
  | .always => !a.isNamed
  | .never => a.isNamed

/-- Only whether an argument has a key decides what is wrong with it. -/
theorem judge_eq (e : Expectation) (a : Argument) :
    e.judge a = if e.refuses a then some e.kind else none := by
  cases e with
  | never => rfl
  | always =>
    by_cases hnamed : a.isNamed = true
    · simp [judge, refuses, hnamed]
    · have hvariable : ¬ a.hasVariableKey = true :=
        fun h => hnamed (Argument.isNamed_of_hasVariableKey h)
      simp [judge, refuses, kind, hnamed, hvariable]

end Expectation

/-- What is reported of an argument of the named function. -/
def Violation.ofArgument (kind : ViolationKind) (property : Text) (p : Text × Argument) :
    Violation :=
  ⟨kind, property, p.1, trim p.2.raw⟩

namespace Config

/-- The arguments that count in a value, each with the name of its call: those of all calls that are
neither exempt nor ignored, blank ones apart. Calls come in the order in which they begin, and the
arguments of a call from left to right. -/
def counted (c : Config) (value : Text) : List (Text × Argument) :=
  (Forest.parse value).layout.callsByStart.flatMap fun e =>
    if e.node.isExempt || c.leavesAlone e.node then []
    else e.node.present.map fun a => (e.node.name, a)

/-- What is found are the arguments that count and do not meet the expectation. -/
theorem lint_eq_counted (c : Config) (property value : Text) :
    c.lint property value =
      ((c.counted value).filter fun p => c.expectation.refuses p.2).map
        (Violation.ofArgument c.expectation.kind property) := by
  rw [lint_eq_callsByStart, counted, List.filter_flatMap, List.map_flatMap]
  refine List.flatMap_congr fun e _ => ?_
  rw [violations_judge]
  split
  · rfl
  · induction e.node.present with
    | nil => rfl
    | cons a as ih =>
      rw [List.filterMap_cons, violation?, Expectation.judge_eq, List.map_cons, List.filter_cons]
      by_cases hrefuses : c.expectation.refuses a = true
      · simp only [hrefuses, if_true, Option.map_some, List.map_cons, ih]
        rfl
      · simp only [hrefuses, ih]
        rfl

/-- The two results divide the arguments that count between them, in their order, in which no two
calls begin at one place: `never` reports those with a key, and `always` reports those without one.
Keys that are variables are no exception. -/
theorem lint_complementary (c : Config) (property value : Text) :
    ((Forest.parse value).layout.callsByStart.Pairwise fun d e => d.source.start < e.source.start) ∧
    ({ c with expectation := .never } : Config).lint property value =
      ((c.counted value).filter fun p => p.2.isNamed).map
        (Violation.ofArgument .rejected property) ∧
    ({ c with expectation := .always } : Config).lint property value =
      ((c.counted value).filter fun p => !p.2.isNamed).map
        (Violation.ofArgument .expected property) ∧
    (({ c with expectation := .always } : Config).lint property value).length +
      (({ c with expectation := .never } : Config).lint property value).length =
        (c.counted value).length ∧
    ∀ a : Argument, Expectation.always.judge a = if a.isNamed then none else some .expected := by
  have hnever := ({ c with expectation := .never } : Config).lint_eq_counted property value
  have halways := ({ c with expectation := .always } : Config).lint_eq_counted property value
  refine ⟨Layout.pairwise_callsByStart _, hnever, halways, ?_, fun a => ?_⟩
  · rw [hnever, halways, List.length_map, List.length_map]
    have hdivide := List.length_eq_length_filter_add (l := c.counted value) fun p => p.2.isNamed
    rw [Nat.add_comm]
    exact hdivide.symm
  · rw [Expectation.judge_eq]
    by_cases hnamed : a.isNamed = true
    · simp [Expectation.refuses, hnamed]
    · simp [Expectation.refuses, Expectation.kind, hnamed]

/-- In a native call, in one that is ignored by its name and beside one with a single argument: the
arguments of an outer call come before those of the calls inside it. -/
theorem lint_complementary_of_nested :
    let c : Config := ⟨.always, [.singleArgument], [.exact ['g']]⟩
    let value : Text := "calc(g(f($b: 2, m(3, $c: 4), /**/), k($d: 5)))".toList
    (c.counted value).map (fun p => (p.1, p.2.isNamed, trim p.2.raw)) =
        [(['f'], true, "$b: 2".toList), (['f'], false, "m(3, $c: 4)".toList),
          (['m'], false, ['3']), (['m'], true, "$c: 4".toList)] ∧
      ({ c with expectation := .never } : Config).lint [] value =
        [⟨.rejected, [], ['f'], "$b: 2".toList⟩, ⟨.rejected, [], ['m'], "$c: 4".toList⟩] ∧
      ({ c with expectation := .always } : Config).lint [] value =
        [⟨.expected, [], ['f'], "m(3, $c: 4)".toList⟩, ⟨.expected, [], ['m'], ['3']⟩] := by
  intro c value
  obtain ⟨-, hnever, halways, -, -⟩ := lint_complementary c [] value
  -- the walk computes, a sort does not
  rw [counted, ← Layout.calls_eq_callsByStart] at hnever halways ⊢
  exact ⟨by decide +kernel, hnever.trans (by decide +kernel), halways.trans (by decide +kernel)⟩

end Config

end CallLint
