import CallLint.Proofs.Argument.Alone
import CallLint.Proofs.Lint.Expectation

/-!
# Reported arguments

What is reported of an argument is its piece of text without the white space around it. This text
by itself is split into one argument again, which has the same key and the same value. So a report
can be checked without the value that it comes from.

* `exists_argument_of_mem_lint`: every report is about an argument that counts.
* `lint_reported`: an argument is found again in its piece, and what this says of reports.
-/

namespace CallLint

open Text Argument

/-- Every report is about an argument that counts and does not meet the expectation. -/
theorem Config.exists_argument_of_mem_lint {c : Config} {property value : Text} {v : Violation}
    (hv : v ∈ c.lint property value) :
    ∃ (inner : Text) (a : Argument), a ∈ split inner ∧ a.isBlank = false ∧
      c.expectation.refuses a = true ∧ v.kind = c.expectation.kind ∧ v.argument = trim a.raw := by
  rw [lint_eq_counted] at hv
  obtain ⟨⟨name, a⟩, ha, rfl⟩ := List.mem_map.1 hv
  obtain ⟨hcounted, hrefuses⟩ := List.mem_filter.1 ha
  obtain ⟨e, -, he⟩ := List.mem_flatMap.1 hcounted
  split at he
  · cases he
  · obtain ⟨a', ha', hpair⟩ := List.mem_map.1 he
    obtain ⟨-, rfl⟩ := Prod.mk.inj hpair
    obtain ⟨hsplit, hshown⟩ := List.mem_filter.1 ha'
    exact ⟨e.node.inner, a', hsplit, by simpa using hshown, hrefuses, rfl, rfl⟩

/-- An argument is refused for the kind that tells whether it is named. -/
theorem Expectation.isNamed_of_refuses {e : Expectation} {a : Argument}
    (h : e.refuses a = true) : a.isNamed = true ↔ e.kind = .rejected := by
  cases e with
  | always => simpa [kind, refuses] using h
  | never => simpa [kind, refuses] using h

/-- An argument whose piece is not white space alone is found again when its piece is split, with
white space around it or without. So the text of a report, which is trimmed and not empty, is one
argument, which is not blank, and which is named if and only if it was not to be. -/
theorem lint_reported :
    (∀ (t : Text), ∀ a ∈ split t, (¬ ∀ c ∈ a.raw, Text.isBlank c = true) →
      split a.raw = [{ a with separator := none }] ∧
      split (trim a.raw) = [{ a with raw := trim a.raw, separator := none }]) ∧
    ∀ (c : Config) (d : Declaration), ∀ v ∈ c.lint d.property d.value,
      v.argument ≠ [] ∧ trim v.argument = v.argument ∧
      ∃ a, split v.argument = [a] ∧ a.isBlank = false ∧
        (a.isNamed = true ↔ v.kind = .rejected) := by
  constructor
  · intro t a ha hblank
    exact ⟨split_raw ha hblank, split_trim ha hblank⟩
  · intro c d v hv
    obtain ⟨inner, a, ha, hshown, hrefuses, hkind, hargument⟩ := c.exists_argument_of_mem_lint hv
    have hblank := not_blank_raw ha hshown
    rw [hargument, hkind]
    refine ⟨mt trim_eq_nil_iff.1 hblank, trim_trim a.raw, _, split_trim ha hblank, hshown, ?_⟩
    exact Expectation.isNamed_of_refuses hrefuses

/-- The piece ends in an escape whose white space is trimmed, and a comment in it holds a separator
and a `:`. -/
theorem lint_reported_of_escape :
    let a : Argument :=
      ⟨some "$a".toList, "(b; c\\".toList, " /*:,*/ $a : (b; c\\ ".toList, none⟩
    let v : Violation := ⟨.rejected, [], "f".toList, "$x: 1".toList⟩
    split a.raw = [a] ∧ split (trim a.raw) = [{ a with raw := trim a.raw }] ∧
      v ∈ (Config.new .never).lint [] "f(2, $x: 1 )".toList ∧
      ∃ a, split v.argument = [a] ∧ a.isBlank = false ∧ a.isNamed = true := by
  intro a v
  have ha : a ∈ split "x, /*:,*/ $a : (b; c\\ ".toList := by decide +kernel
  have hv : v ∈ (Config.new .never).lint [] "f(2, $x: 1 )".toList := by decide +kernel
  have hblank : ¬ ∀ c ∈ a.raw, Text.isBlank c = true :=
    fun hblank => absurd (hblank '/' (by decide)) (by decide)
  obtain ⟨hraw, htrim⟩ := lint_reported.1 _ a ha hblank
  obtain ⟨-, -, b, hb, hshown, hnamed⟩ := lint_reported.2 (.new .never) ⟨[], _⟩ v hv
  exact ⟨hraw, htrim, hv, b, hb, hshown, hnamed.2 rfl⟩

end CallLint
