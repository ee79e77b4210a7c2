import CallLint.Proofs.Argument.Address
import CallLint.Proofs.Lint.Expectation

/-!
# What the body of an address changes

The reader of a value takes the body of an address as one word. What is found in the calls around
the address may still depend on it, since their arguments are cut without regard to addresses.

* `lint_replace_address`: an inert body may be replaced by another without a difference.
* `lint_replace_address_ne`: a body that begins a comment hides an argument behind the address.
-/

namespace CallLint

open Text

/-- The violations are the same but for the body of one address in the text of the argument. -/
structure Violation.Exchanged (name body body' : Text) (v v' : Violation) : Prop where
  kind : v'.kind = v.kind
  property : v'.property = v.property
  function : v'.function = v.function
  argument : v'.argument = v.argument ∨ Text.Exchanged name body body' v.argument v'.argument

/-- A function of this name is native. -/
theorem isNative_of_isAddressName {name : Text} (h : Token.isAddressName name = true) :
    isNative name = true := by
  have hname : lowerAscii name = lowerAscii ['u', 'r', 'l'] := of_decide_eq_true h
  rw [isNative_congr hname]
  decide

namespace Config

variable {name body body' t t' : Text} {n n' : Node}

theorem violation?_exchanged {a a' : Argument} (h : Argument.Exchanged name body body' a a')
    (c : Config) (property function : Text) :
    Option.Rel (Violation.Exchanged name body body') (c.violation? property function a)
      (c.violation? property function a') := by
  have hrefuses : c.expectation.refuses a' = c.expectation.refuses a := by
    cases hexpectation : c.expectation with
    | always => exact congrArg not h.isNamed
    | never => exact h.isNamed
  rw [violation?, violation?, Expectation.judge_eq, Expectation.judge_eq, hrefuses]
  split
  · exact .some ⟨rfl, rfl, rfl, h.trim⟩
  · exact .none

section

variable (hname : Token.isAddressName name = true) (hbody : body.Inert) (hbody' : body'.Inert)
include hname hbody hbody'

theorem present_exchanged
    (h : n'.inner = n.inner ∨ Text.Exchanged name body body' n.inner n'.inner) :
    List.Forall₂ (Argument.Exchanged name body body') n.present n'.present := by
  have hsplit : List.Forall₂ (Argument.Exchanged name body body') (Argument.split n.inner)
      (Argument.split n'.inner) := by
    rcases h with heq | h
    · rw [heq]
      exact List.forall₂_same.2 fun _ _ => ⟨rfl, rfl, .inl rfl⟩
    · exact Argument.split_exchanged hname hbody hbody' h
  exact List.rel_filter (fun a a' ha => by simp [ha.isBlank]) hsplit

theorem violations_exchanged (h : Node.Exchanged name body body' n n') (c : Config)
    (property : Text) :
    List.Forall₂ (Violation.Exchanged name body body') (c.judge property n).violations
      (c.judge property n').violations := by
  obtain ⟨hcall, hself | hinner⟩ := h
  -- the address itself is a call of a native function
  · have hexempt : n.isExempt = true := by
      simp [Node.isExempt, hself, isNative_of_isAddressName hname]
    have hexempt' : n'.isExempt = true := by rwa [Node.isExempt, hcall]
    rw [violations_judge, violations_judge, hexempt, hexempt']
    exact .nil
  · have hpresent := present_exchanged hname hbody hbody' hinner
    have halone : c.leavesAlone n' = c.leavesAlone n := by
      rw [leavesAlone, leavesAlone, hcall, hpresent.length_eq]
    rw [violations_judge, violations_judge, halone, Node.isExempt, Node.isExempt, hcall]
    split
    · exact .nil
    · have hfound : ∀ ⦃a a'⦄, Argument.Exchanged name body body' a a' →
          Option.Rel (Violation.Exchanged name body body') (c.violation? property n.name a)
            (c.violation? property n.name a') :=
        fun _ _ ha => violation?_exchanged ha c property n.name
      exact List.rel_filterMap hfound hpresent

/-- What is found in both values, one by one. -/
theorem lint_exchanged
    (h : Forest.Exchanged name body body' (Forest.parse t) (Forest.parse t')) (c : Config)
    (property : Text) :
    List.Forall₂ (Violation.Exchanged name body body') (c.lint property t)
      (c.lint property t') := by
  rw [lint_eq_calls, lint_eq_calls]
  exact List.rel_flatMap h.calls fun n n' hn =>
    violations_exchanged hname hbody hbody' hn c property

end

/-- An inert body of an address may be replaced by another: what is found has the same kinds and the
same functions, and differs at most by the body in the texts of the arguments. -/
theorem lint_replace_address {t : Text} {n : Nat} {e : Entry}
    (he : (Forest.parse t).layout.entries[n]? = some e) (ha : e.IsAddress t)
    (hclosed : e.node.closed = true) (hbody : (e.inner.cut t).Inert) {body : Text}
    (hbody' : body.Inert) (c : Config) (property : Text) :
    List.Forall₂ (Violation.Exchanged (e.value.cut t) (e.inner.cut t) body) (c.lint property t)
      (c.lint property (e.inner.replace t body)) := by
  obtain ⟨before, first, name, inside, closed, rest, after, h, -, rfl⟩ :=
    Forest.exists_address he ha
  obtain rfl : closed = true := hclosed
  obtain ⟨-, -, nested, hstands⟩ := Forest.within_parse h
  have ht := Forest.text_eq_of_address h
  have hname : ((Leaf.address name inside true).entry first (byteLength before)).value.cut t =
      name := (covers_append ht).cut
  have hinner : ((Leaf.address name inside true).entry first (byteLength before)).inner.cut t =
      inside := (covers_innerSpan ht).cut
  have hreplace : ((Leaf.address name inside true).entry first (byteLength before)).inner.replace t
      body = before ++ (address name body ++ (rest.text ++ after)) :=
    (replace_innerSpan ht body).trans (by simp [address])
  rw [hinner] at hbody ⊢
  rw [hname, hreplace]
  exact lint_exchanged hstands.address.1 hbody hbody' (Forest.exchanged_parse h hbody'.isBody) c
    property

/-- A semicolon is no separator within an address. -/
theorem lint_replace_address_of_semicolon :
    let t : Text := "f(url(a), $b: 1)".toList
    let e : Entry := (Leaf.address "url".toList ['a'] true).entry 0 2
    (Forest.parse t).layout.entries[1]? = some e ∧
      e.inner.replace t ['c', ';', 'd'] = "f(url(c;d), $b: 1)".toList ∧
      ((new .never).lint [] t).map Violation.argument = ["$b: 1".toList] ∧
      List.Forall₂ (Violation.Exchanged "url".toList ['a'] ['c', ';', 'd']) ((new .never).lint [] t)
        ((new .never).lint [] "f(url(c;d), $b: 1)".toList) := by
  intro t e
  have he : (Forest.parse t).layout.entries[1]? = some e := by decide +kernel
  have ha : e.IsAddress t := by decide +kernel
  have hbody : (e.inner.cut t).Inert := by
    have hcut : e.inner.cut t = ['a'] := by decide +kernel
    rw [hcut]
    exact ⟨⟨units_of_forall (by simp), by decide +kernel⟩, by decide +kernel, by decide +kernel⟩
  have hbody' : Text.Inert ['c', ';', 'd'] :=
    ⟨⟨units_of_forall (by simp), by decide +kernel⟩, by decide +kernel, by decide +kernel⟩
  exact ⟨he, by decide +kernel, by decide +kernel,
    lint_replace_address he ha rfl hbody hbody' (new .never) []⟩

/-- A body that begins a comment hides the argument behind the address. -/
theorem lint_replace_address_ne :
    let t : Text := "f(url(a), $b: 1)".toList
    let e : Entry := (Leaf.address "url".toList ['a'] true).entry 0 2
    (Forest.parse t).layout.entries[1]? = some e ∧ e.IsAddress t ∧ e.node.closed = true ∧
      (∃ m d, (Forest.parse t).layout.entries[m]? = some d ∧ d.node.isCall = true ∧
        (Forest.parse t).layout.Inside m 1) ∧
      IsAddressBody ['a', '/', '*', 'b'] ∧
      ((new .never).lint [] t).length = 1 ∧
      ((new .never).lint [] (e.inner.replace t ['a', '/', '*', 'b'])).length = 0 := by
  intro t e
  have hcall : (Forest.parse t).layout.entries[8]? =
      some (Forest.callEntry 0 0 ['f'] (Forest.parse "url(a), $b: 1".toList) true) := by
    decide +kernel
  refine ⟨by decide +kernel, by decide +kernel, rfl, ⟨8, _, hcall, rfl, .single ?_⟩,
    ⟨units_of_forall (by simp), by decide +kernel⟩, by decide +kernel, by decide +kernel⟩
  rw [Layout.child_iff hcall]
  decide +kernel

end Config

end CallLint
