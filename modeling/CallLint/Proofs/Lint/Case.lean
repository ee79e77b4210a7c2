import CallLint.Proofs.Argument.Case
import CallLint.Proofs.Layout.Case
import CallLint.Proofs.Lint.Calls

/-!
# ASCII case and linting

Linting does not tell the two cases of an ASCII letter apart, as long as no functions are ignored:
patterns may well do so.

* `violations_lower`: what is found in a call in lower case.
* `lint_lowerAscii`: what is found in a value in lower case.
* `lint_of_lowerAscii_eq`: values that are equal in lower case have layouts of the same shape, and
  the same is found in them.
-/

namespace CallLint

open Text

/-- The violation with the text of the call in lower case. -/
def Violation.lower (v : Violation) : Violation :=
  { v with function := lowerAscii v.function, argument := lowerAscii v.argument }

namespace Config

theorem present_lower (n : Node) : n.lower.present = n.present.map Argument.lower := by
  rw [Node.present, Node.present, Node.inner_lower, Argument.split_lowerAscii, List.filter_map]
  congr 2
  exact funext fun a => by rw [Function.comp_apply, Argument.isBlank_lower]

theorem judge_lower (e : Expectation) (a : Argument) : e.judge a.lower = e.judge a := by
  cases e with
  | always => simp only [Expectation.judge, Argument.isNamed_lower, Argument.hasVariableKey_lower]
  | never => simp only [Expectation.judge, Argument.isNamed_lower]

theorem violation?_lower (c : Config) (property function : Text) (a : Argument) :
    c.violation? property (lowerAscii function) a.lower =
      (c.violation? property function a).map Violation.lower := by
  have hraw : trim a.lower.raw = lowerAscii (trim a.raw) := trim_lowerAscii a.raw
  rw [violation?, violation?, judge_lower, hraw, Option.map_map]
  rfl

theorem isExempt_lower (n : Node) : n.lower.isExempt = n.isExempt := by
  have hempty : (lowerAscii n.name).isEmpty = n.name.isEmpty := List.isEmpty_map
  rw [Node.isExempt, Node.isExempt, Node.name_lower, hempty,
    isNative_congr (lowerAscii_lowerAscii n.name)]

theorem leavesAlone_lower {c : Config} (hc : c.ignoreFunctions = []) (n : Node) :
    c.leavesAlone n.lower = c.leavesAlone n := by
  rw [leavesAlone, leavesAlone, hc, List.any_nil, List.any_nil, present_lower, List.length_map]

theorem violations_lower {c : Config} (hc : c.ignoreFunctions = []) (property : Text) (n : Node) :
    (c.judge property n.lower).violations =
      (c.judge property n).violations.map Violation.lower := by
  rw [violations_judge, violations_judge, isExempt_lower, leavesAlone_lower hc]
  by_cases halone : (n.isExempt || c.leavesAlone n) = true
  · rw [if_pos halone, if_pos halone]
    rfl
  · rw [if_neg halone, if_neg halone, present_lower, Node.name_lower, List.filterMap_map,
      List.map_filterMap]
    exact List.filterMap_congr fun a _ => c.violation?_lower property n.name a

theorem lint_lowerAscii {c : Config} (hc : c.ignoreFunctions = []) (property value : Text) :
    c.lint property (lowerAscii value) = (c.lint property value).map Violation.lower := by
  rw [lint, lint, outcomes, outcomes, Forest.parse_lowerAscii, Forest.calls_lower, List.map_map,
    List.flatMap_map, List.flatMap_map, List.map_flatMap]
  exact List.flatMap_congr fun n _ => violations_lower hc property n

/-- Two violations are of one kind, and their texts are equal in lower case. -/
structure SameFinding (v w : Violation) : Prop where
  kind : v.kind = w.kind
  property : v.property = w.property
  function : lowerAscii v.function = lowerAscii w.function
  argument : lowerAscii v.argument = lowerAscii w.argument

theorem sameFinding_of_lower_eq {v w : Violation} (h : v.lower = w.lower) : SameFinding v w := by
  rw [Violation.lower, Violation.lower, Violation.mk.injEq] at h
  obtain ⟨hkind, hproperty, hfunction, hargument⟩ := h
  exact ⟨hkind, hproperty, hfunction, hargument⟩

/-- Values that are equal in lower case have layouts of the same shape, and the same is found in
them if no functions are ignored. -/
theorem lint_of_lowerAscii_eq {v v' : Text} (h : lowerAscii v = lowerAscii v') :
    (Forest.parse v).layout.roots = (Forest.parse v').layout.roots ∧
      List.Forall₂ Layout.SameShape (Forest.parse v).layout.entries.toList
        (Forest.parse v').layout.entries.toList ∧
      ∀ (c : Config) (property : Text), c.ignoreFunctions = [] →
        List.Forall₂ SameFinding (c.lint property v) (c.lint property v') := by
  obtain ⟨hroots, hentries⟩ := Layout.sameShape_parse h
  refine ⟨hroots, hentries, fun c property hc => ?_⟩
  refine forall₂_of_map_eq ?_ fun _ _ => sameFinding_of_lower_eq
  rw [← lint_lowerAscii hc, ← lint_lowerAscii hc, h]

/-- The name of an address, a native name, a variable and a key with an escape, in both cases. -/
theorem lint_of_lowerAscii_eq_of_mixed :
    let v : Text := "Foo(URL(A), RGB($X: 1), $Y: 2, \\4A : 3)".toList
    let v' : Text := "fOO(url(a), rgb($x: 1), $y: 2, \\4a : 3)".toList
    let c : Config := ⟨.never, [.singleArgument], []⟩
    lowerAscii v = lowerAscii v' ∧
      (Forest.parse v).layout.roots = (Forest.parse v').layout.roots ∧
      List.Forall₂ Layout.SameShape (Forest.parse v).layout.entries.toList
        (Forest.parse v').layout.entries.toList ∧
      c.lint [] v = [⟨.rejected, [], "Foo".toList, "$Y: 2".toList⟩,
        ⟨.rejected, [], "Foo".toList, "\\4A : 3".toList⟩] ∧
      List.Forall₂ SameFinding (c.lint [] v) (c.lint [] v') := by
  intro v v' c
  have hcase : lowerAscii v = lowerAscii v' := by decide +kernel
  obtain ⟨hroots, hentries, hlint⟩ := lint_of_lowerAscii_eq hcase
  exact ⟨hcase, hroots, hentries, by decide +kernel, hlint c [] rfl⟩

end Config

end CallLint
