import CallLint.Proofs.Config.Loading
import CallLint.Proofs.Lint.Calls

/-!
# What is ignored

To ignore more is to report less, and nothing else: each call is left alone or judged by its own
name and its own arguments, whatever becomes of the calls around it and within it.

* `call_of_mem_findings`: what is found in a call tells of the name and the arguments of that
  call.
* `findings_eq_filter`: what is found is what would be found if nothing was ignored, without what is
  found in the calls that are left alone.
* `lint_ignoring`: the same for the violations alone, and what follows for one matcher more and for
  entries in another order.
-/

namespace CallLint

open Text

namespace Config

variable {c : Config} {property value : Text}

/-- What is found in a value, each violation with the entry of its call. -/
def findings (c : Config) (property value : Text) : List (Entry × Violation) :=
  (Forest.parse value).layout.calls.flatMap fun e =>
    (c.judge property e.node).violations.map fun v => (e, v)

theorem map_snd_findings (c : Config) (property value : Text) :
    (c.findings property value).map Prod.snd = c.lint property value := by
  rw [lint_eq_callsByStart, ← Layout.calls_eq_callsByStart, findings, List.map_flatMap]
  simp only [List.map_map, Function.comp_def, List.map_id']

/-- What is found in a call is one of the arguments of that call, under its name. -/
theorem call_of_mem_findings {p : Entry × Violation} (h : p ∈ c.findings property value) :
    p.1 ∈ (Forest.parse value).layout.calls ∧ p.2.function = p.1.node.name ∧
      ∃ a ∈ p.1.node.present, p.2.argument = trim a.raw := by
  obtain ⟨e, he, hmem⟩ := List.mem_flatMap.1 h
  obtain ⟨v, hv, rfl⟩ := List.mem_map.1 hmem
  rw [violations_judge] at hv
  split at hv
  · cases hv
  · obtain ⟨a, ha, hviolation⟩ := List.mem_filterMap.1 hv
    obtain ⟨kind, -, rfl⟩ := Option.map_eq_some_iff.1 hviolation
    exact ⟨he, rfl, a, ha, rfl⟩

theorem leavesAlone_new (e : Expectation) (n : Node) : (new e).leavesAlone n = false := rfl

/-- What is ignored decides which calls are judged, and not how. -/
theorem violations_judge_new (c : Config) (property : Text) (n : Node) :
    (c.judge property n).violations =
      if c.leavesAlone n then [] else ((new c.expectation).judge property n).violations := by
  rw [violations_judge, violations_judge, leavesAlone_new, Bool.or_false]
  by_cases hexempt : n.isExempt = true
  · simp [hexempt]
  · simp only [hexempt, Bool.false_or]
    rfl

/-- What is found is what would be found if nothing was ignored, without what is found in the calls
that are left alone. -/
theorem findings_eq_filter (c : Config) (property value : Text) :
    c.findings property value =
      ((new c.expectation).findings property value).filter fun p => !c.leavesAlone p.1.node := by
  rw [findings, findings, List.filter_flatMap]
  refine List.flatMap_congr fun e _ => ?_
  rw [violations_judge_new, List.filter_map]
  by_cases halone : c.leavesAlone e.node = true
  · simp [halone, Function.comp_def]
  · simp [halone, Function.comp_def]

theorem leavesAlone_withIgnoredFunction (c : Config) (m : Matcher) (n : Node) :
    (c.withIgnoredFunction m).leavesAlone n = (m.isMatch n.name || c.leavesAlone n) := by
  unfold leavesAlone withIgnoredFunction
  rw [List.any_append, List.any_cons, List.any_nil, Bool.or_false,
    Bool.or_comm (c.ignoreFunctions.any _), Bool.or_assoc]

/-- One matcher more takes away what is found in the calls that it matches. -/
theorem lint_withIgnoredFunction (c : Config) (m : Matcher) (property value : Text) :
    (c.withIgnoredFunction m).lint property value =
      (c.lint property value).filter fun v => !m.isMatch v.function := by
  rw [← map_snd_findings, ← map_snd_findings, findings_eq_filter, findings_eq_filter c,
    List.filter_map, List.filter_filter]
  refine congrArg (List.map Prod.snd) (List.filter_congr fun p hp => ?_)
  rw [leavesAlone_withIgnoredFunction, Bool.not_or, Function.comp_apply,
    (call_of_mem_findings hp).2.1]

theorem leavesAlone_congr {c d : Config} (h : c.SameEntries d) (n : Node) :
    c.leavesAlone n = d.leavesAlone n := by
  have hfunctions : c.ignoresFunction n.name = d.ignoresFunction n.name := by
    rw [Bool.eq_iff_iff, ignoresFunction, ignoresFunction, List.any_eq_true, List.any_eq_true]
    simp only [h.ignoreFunctions]
  have hsingle : c.ignores .singleArgument = d.ignores .singleArgument := by
    rw [Bool.eq_iff_iff, ignores, ignores, List.contains_iff_mem, List.contains_iff_mem, h.ignore]
  rw [leavesAlone_eq, leavesAlone_eq, hfunctions, hsingle]

/-- Neither the order of the entries nor their repetition makes a difference. -/
theorem lint_congr {c d : Config} (h : c.SameEntries d) (property value : Text) :
    c.lint property value = d.lint property value := by
  rw [← map_snd_findings, ← map_snd_findings, findings_eq_filter, findings_eq_filter d,
    h.expectation]
  simp only [leavesAlone_congr h]

/-- What is ignored takes violations away and does nothing else: those of the calls that are left
alone, each by its own name or by the number of its own arguments. One matcher more takes away what
is found under the names that it matches, and entries in another order, or repeated, make no
difference. -/
theorem lint_ignoring (c : Config) (property value : Text) :
    ((new c.expectation).findings property value).map Prod.snd =
      (new c.expectation).lint property value ∧
    (∀ p ∈ (new c.expectation).findings property value,
      p.1 ∈ (Forest.parse value).layout.calls ∧ p.2.function = p.1.node.name ∧
        ∃ a ∈ p.1.node.present, p.2.argument = trim a.raw) ∧
    c.lint property value =
      (((new c.expectation).findings property value).filter fun p =>
        !(c.ignoreFunctions.any (·.isMatch p.1.node.name) ||
          (c.ignore.contains .singleArgument && p.1.node.present.length = 1))).map Prod.snd ∧
    (∀ m : Matcher, (c.withIgnoredFunction m).lint property value =
      (c.lint property value).filter fun v => !m.isMatch v.function) ∧
    (∀ d : Config, d.SameEntries c → d.lint property value = c.lint property value) ∧
    ∀ (raw : Text) (options options' : Options), ofOptions raw options = .ok c →
      options'.SameEntries options →
      ∃ d, ofOptions raw options' = .ok d ∧ d.lint property value = c.lint property value := by
  refine ⟨map_snd_findings _ _ _, fun p hp => call_of_mem_findings hp, ?_,
    fun m => lint_withIgnoredFunction c m _ _, fun d hd => lint_congr hd _ _,
    fun raw options options' hc hsame => ?_⟩
  · rw [← map_snd_findings, findings_eq_filter]
    rfl
  · obtain ⟨d, hd, hentries⟩ := exists_ofOptions_of_sameEntries hsame hc
    exact ⟨d, hd, lint_congr hentries _ _⟩

/-- A call within a call that is ignored is judged all the same, and so is a call around one. -/
theorem lint_ignoring_of_nested :
    let c : Config := ⟨.never, [.singleArgument], [.exact ['f']]⟩
    let value : Text := "f($a: 1, g($b: 2, h($c: 3)))".toList
    (c.lint [] value).map Violation.function = [['g']] ∧
      ((new .never).lint [] value).map Violation.function = [['f'], ['g'], ['h']] ∧
      (∃ p ∈ (new .never).findings [] value, p.2.function = p.1.node.name) ∧
      (⟨.never, [.singleArgument], [.exact ['f'], .exact ['f']]⟩ : Config).lint [] value =
        c.lint [] value ∧
      ∃ d, ofOptions "never".toList
          ⟨["single-argument".toList, "single-argument".toList], [['f'], ['f']]⟩ = .ok d ∧
        d.lint [] value = c.lint [] value := by
  intro c value
  obtain ⟨-, hown, -, -, hsame, hoptions⟩ := lint_ignoring c [] value
  have hfound : (new .never).findings [] value ≠ [] := by decide +kernel
  obtain ⟨p, hp⟩ := List.exists_mem_of_ne_nil _ hfound
  refine ⟨by decide +kernel, by decide +kernel, ⟨p, hp, (hown p hp).2.1⟩,
    hsame _ ⟨rfl, fun o => Iff.rfl, fun m => by simp [c]⟩, ?_⟩
  exact hoptions "never".toList ⟨["single-argument".toList], [['f']]⟩ _ rfl
    ⟨fun raw => by simp, fun raw => by simp⟩

end Config

end CallLint
