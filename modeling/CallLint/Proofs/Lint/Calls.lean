import CallLint.Proofs.Layout.Order

/-!
# What is found in a call

A configuration either judges a call or leaves it alone, and what it finds in a value is what it
finds in the calls of the value. Which calls are judged, and which of their arguments, is said of
the calls and of the entries of the configuration, without the steps of the linter.

* `violations_judge`: the order in which a call is looked at makes no difference.
* `lint_eq_callsByStart`: what is found in a value is told call by call, in the order in which the
  calls begin.
-/

namespace CallLint

open Text

/-- No configuration judges a call without a name or of a native function. -/
def Node.isExempt (n : Node) : Bool := n.name.isEmpty || isNative n.name

/-- The arguments of a call that are not blank. -/
def Node.present (n : Node) : List Argument := (Argument.split n.inner).filter (!·.isBlank)

namespace Config

/-- Whether the configuration ignores a call, by its name or by the number of its arguments. -/
def leavesAlone (c : Config) (n : Node) : Bool :=
  c.ignoreFunctions.any (·.isMatch n.name) ||
    (c.ignore.contains .singleArgument && n.present.length = 1)

theorem arguments_eq_present (n : Node) : arguments n = n.present := rfl

theorem leavesAlone_eq (c : Config) (n : Node) :
    c.leavesAlone n =
      (c.ignoresFunction n.name || (c.ignores .singleArgument && n.present.length = 1)) := rfl

theorem violations_judge (c : Config) (property : Text) (n : Node) :
    (c.judge property n).violations =
      if n.isExempt || c.leavesAlone n then []
      else n.present.filterMap (c.violation? property n.name) := by
  rw [judge, arguments_eq_present, leavesAlone_eq, Node.isExempt]
  by_cases hexempt : (n.name.isEmpty || isNative n.name) = true
  · simp [hexempt, Outcome.violations]
  · by_cases hfunction : c.ignoresFunction n.name = true
    · simp [hexempt, hfunction, Outcome.violations]
    · by_cases hsingle : n.present.length = 1 ∧ c.ignores .singleArgument = true
      · simp [hexempt, hfunction, hsingle, Outcome.violations]
      · have hcounted : ¬ (c.ignores .singleArgument = true ∧ n.present.length = 1) :=
          fun h => hsingle h.symm
        simp [hexempt, hfunction, hsingle, hcounted, Outcome.violations]

/-- What is found in a value is what is found in its calls, in the order in which they begin. -/
theorem lint_eq_callsByStart (c : Config) (property value : Text) :
    c.lint property value =
      (Forest.parse value).layout.callsByStart.flatMap
        fun e => (c.judge property e.node).violations := by
  rw [lint_eq_calls, ← Layout.calls_eq_callsByStart, Layout.calls_layout,
    ← Forest.map_node_callEntries (Forest.parse value) 0 0, List.flatMap_map]

end Config

end CallLint
