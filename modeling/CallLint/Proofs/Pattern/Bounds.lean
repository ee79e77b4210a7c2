import CallLint.Proofs.Pattern.Enclosing
import CallLint.Proofs.Pattern.Rounds

/-!
# Bounds in order

Every repetition that is read has its bounds in order, since bounds the other way around are
malformed. So what is read is searched for as it should be.

* `Reading.bounded_rest?`: the pattern that is read has its bounds in order.
* `Syntax.bounded_expr?`: so has the expression that it means.
-/

namespace CallLint.Pattern

open Text

/-- Every counted repetition has its bounds in order. -/
def Syntax.Bounded : Syntax → Prop
  | .repeated body least most => body.Bounded ∧ ∀ m ∈ most, least ≤ m
  | .group _ _ body => body.Bounded
  | .sequence first rest | .choice first rest => first.Bounded ∧ rest.Bounded
  | _ => True

theorem Syntax.bounded_ofParts {parts : List Syntax} (h : ∀ part ∈ parts, part.Bounded) :
    (ofParts parts).Bounded := by
  cases parts with
  | nil => trivial
  | cons last parts =>
    rw [List.forall_mem_cons] at h
    obtain ⟨hlast, hparts⟩ := h
    rw [ofParts]
    induction parts generalizing last with
    | nil => exact hlast
    | cons part parts ih =>
      rw [List.forall_mem_cons] at hparts
      have hsequence : (Syntax.sequence part last).Bounded := ⟨hparts.1, hlast⟩
      exact ih (.sequence part last) hsequence hparts.2

theorem Syntax.bounded_ofAlternatives {last : Syntax} {others : List Syntax} (hlast : last.Bounded)
    (h : ∀ other ∈ others, other.Bounded) : (ofAlternatives last others).Bounded := by
  rw [ofAlternatives]
  induction others generalizing last with
  | nil => exact hlast
  | cons other others ih =>
    rw [List.forall_mem_cons] at h
    have hchoice : (Syntax.choice other last).Bounded := ⟨h.1, hlast⟩
    exact ih hchoice h.2

/-- All parts of a level have their bounds in order. -/
structure Level.Bounded (l : Level) : Prop where
  alternatives : ∀ s ∈ l.alternatives, s.Bounded
  parts : ∀ s ∈ l.parts, s.Bounded

theorem Level.bounded_nil : Level.Bounded ⟨[], []⟩ :=
  ⟨fun _ h => absurd h List.not_mem_nil, fun _ h => absurd h List.not_mem_nil⟩

theorem Level.Bounded.finish {l : Level} (h : l.Bounded) : l.finish.Bounded :=
  Syntax.bounded_ofAlternatives (Syntax.bounded_ofParts h.parts) h.alternatives

namespace Reading

/-- All that has been read has its bounds in order. -/
structure Bounded (r : Reading) : Prop where
  level : r.level.Bounded
  opened : ∀ group ∈ r.opened, group.outer.Bounded

variable {r r' : Reading}

theorem Bounded.add (h : r.Bounded) {part : Syntax} (hpart : part.Bounded) : (r.add part).Bounded :=
  ⟨⟨h.level.alternatives, List.forall_mem_cons.2 ⟨hpart, h.level.parts⟩⟩, h.opened⟩

theorem Bounded.openGroup (h : r.Bounded) (captured : Bool) (changes : FlagChanges) :
    (r.openGroup captured changes).Bounded :=
  ⟨Level.bounded_nil, List.forall_mem_cons.2 ⟨h.level, h.opened⟩⟩

theorem Bounded.alternate (h : r.Bounded) : r.alternate.Bounded :=
  ⟨⟨List.forall_mem_cons.2 ⟨Syntax.bounded_ofParts h.level.parts, h.level.alternatives⟩,
    Level.bounded_nil.parts⟩, h.opened⟩

theorem Bounded.setFlags (h : r.Bounded) (changes : FlagChanges) :
    (r.setFlags changes).Bounded := by
  have hverbose : Bounded { r with verbose := (settingOf .verbose changes).getD r.verbose } :=
    ⟨h.level, h.opened⟩
  exact hverbose.add trivial

theorem Bounded.closeGroup? (h : r.Bounded) (hclose : r.closeGroup? = some r') : r'.Bounded := by
  unfold Reading.closeGroup? at hclose
  split at hclose
  next => cases hclose
  next group opened heq =>
    cases hclose
    have hopened := h.opened
    rw [heq, List.forall_mem_cons] at hopened
    exact Bounded.add ⟨hopened.1, hopened.2⟩ h.level.finish

theorem Bounded.repeat? (h : r.Bounded) {least : Nat} {most : Option Nat}
    (hmost : ∀ m ∈ most, least ≤ m) (hrepeat : r.repeat? least most = some r') : r'.Bounded := by
  have hparts := h.level.parts
  unfold Reading.repeat? at hrepeat
  split at hrepeat
  next => cases hrepeat
  next => cases hrepeat
  next part parts _ heq =>
    cases hrepeat
    rw [heq, List.forall_mem_cons] at hparts
    exact ⟨⟨h.level.alternatives, List.forall_mem_cons.2 ⟨⟨hparts.1, hmost⟩, hparts.2⟩⟩, h.opened⟩

theorem Bounded.openNamed? (h : r.Bounded) {t u : Text} (hread : r.openNamed? t = some (r', u)) :
    r'.Bounded := by
  unfold Reading.openNamed? at hread
  split at hread
  next => cases hread
  next name _ _ =>
    split at hread
    · cases hread
    · cases hread
      have hnamed : Bounded { r with names := name :: r.names } := ⟨h.level, h.opened⟩
      exact hnamed.openGroup true []

theorem Bounded.takeFlags? (h : r.Bounded) {t u : Text} (hread : r.takeFlags? t = some (r', u)) :
    r'.Bounded := by
  unfold Reading.takeFlags? at hread
  split at hread
  next => cases hread
  next =>
    cases hread
    exact h.setFlags _
  next =>
    cases hread
    exact h.openGroup false _
  next => cases hread

theorem Bounded.readGroup (h : r.Bounded) {t u : Text} (hread : readGroup r t = some (r', u)) :
    r'.Bounded := by
  rw [readGroup_eq] at hread
  split at hread
  next => cases hread
  next => cases hread
  next => cases hread
  next => cases hread
  next => exact h.openNamed? hread
  next => exact h.openNamed? hread
  next => exact h.takeFlags? hread
  next =>
    cases hread
    exact h.openGroup true []

/-- One step keeps the bounds in order. -/
theorem Bounded.next (h : r.Bounded) {c : Char} {t u : Text} (hnext : r.next c t = some (r', u)) :
    r'.Bounded := by
  have hrepeat : ∀ {least : Nat} {most : Option Nat} {v : Text}, (∀ m ∈ most, least ≤ m) →
      (r.repeat? least most).map (fun repeated => (repeated, v)) = some (r', u) → r'.Bounded := by
    intro least most v hmost hread
    obtain ⟨repeated, hrepeated, heq⟩ := Option.map_eq_some_iff.1 hread
    cases heq
    exact h.repeat? hmost hrepeated
  unfold Reading.next at hnext
  split at hnext
  next => exact h.readGroup hnext
  next =>
    obtain ⟨closed, hclose, heq⟩ := Option.map_eq_some_iff.1 hnext
    cases heq
    exact h.closeGroup? hclose
  next =>
    cases hnext
    exact h.alternate
  next =>
    obtain ⟨⟨part, v⟩, hpart, heq⟩ := Option.map_eq_some_iff.1 hnext
    obtain ⟨read, -, hbracket⟩ := Option.map_eq_some_iff.1 hpart
    cases heq
    cases hbracket
    exact h.add trivial
  next => exact hrepeat (by simp) hnext
  next => exact hrepeat (by simp) hnext
  next => exact hrepeat (by simp) hnext
  next =>
    change r.next '{' t = some (r', u) at hnext
    rw [next_brace, Option.bind_eq_some_iff] at hnext
    obtain ⟨bounds, hbounds, hread⟩ := hnext
    exact hrepeat (leaves_readBounds hbounds).2 hread
  next =>
    obtain ⟨⟨piece, v⟩, -, heq⟩ := Option.map_eq_some_iff.1 hnext
    cases heq
    exact h.add (by cases piece <;> trivial)
  all_goals
    cases hnext
    exact h.add trivial

/-- The pattern that is read has its bounds in order. -/
theorem bounded_rest? (h : r.Bounded) {t : Text} {s : Syntax} (hread : r.rest? t = some s) :
    s.Bounded := by
  generalize hlength : t.length = n
  induction n using Nat.strongRecOn generalizing r t with
  | ind n ih =>
    have hignore := ignore_length_le r.verbose t
    rw [rest?_eq] at hread
    split at hread
    next =>
      split at hread
      · cases hread
        exact h.level.finish
      · cases hread
    next c u heq =>
      rw [heq, List.length_cons] at hignore
      obtain ⟨⟨next, v⟩, hnext, hrest⟩ := Option.bind_eq_some_iff.1 hread
      have hleft : v.length ≤ u.length := leaves_next r c u _ _ hnext
      exact ih v.length (by omega) (h.next hnext) hrest rfl

end Reading

/-- The expression that a pattern means has its bounds in order. -/
theorem Syntax.bounded_expr? {s : Syntax} (h : s.Bounded) {f f' : Flags} {e : Expr Atom}
    (hexpr : s.expr? f = some (e, f')) : e.Bounded := by
  induction s generalizing f f' e with
  | empty =>
    cases hexpr
    trivial
  | flags changes =>
    cases hexpr
    trivial
  | literal c short =>
    rw [expr?] at hexpr
    split at hexpr
    · cases hexpr
    · cases hexpr
      trivial
  | dot =>
    rw [expr?] at hexpr
    split at hexpr
    · cases hexpr
      trivial
    · cases hexpr
  | anchor a =>
    cases hexpr
    trivial
  | property query negated =>
    obtain ⟨s, -, heq⟩ := Option.map_eq_some_iff.1 hexpr
    cases heq
    trivial
  | shorthand kind negated =>
    obtain ⟨s, -, heq⟩ := Option.map_eq_some_iff.1 hexpr
    cases heq
    trivial
  | bracket negated body =>
    obtain ⟨s, -, hexpr⟩ := Option.bind_eq_some_iff.1 hexpr
    obtain ⟨s, -, heq⟩ := Option.bind_eq_some_iff.1 hexpr
    cases heq
    trivial
  | repeated body least most ih =>
    obtain ⟨⟨inner, g⟩, hbody, heq⟩ := Option.bind_eq_some_iff.1 hexpr
    cases heq
    exact ⟨ih h.1 hbody, h.2⟩
  | group captured changes body ih =>
    obtain ⟨⟨inner, g⟩, hbody, heq⟩ := Option.bind_eq_some_iff.1 hexpr
    have hinner : inner.Bounded := ih h hbody
    cases captured
    · cases heq
      exact hinner
    · cases heq
      exact hinner
  | sequence first rest ihFirst ihRest =>
    obtain ⟨⟨e₁, f₁⟩, hfirst, hexpr⟩ := Option.bind_eq_some_iff.1 hexpr
    obtain ⟨⟨e₂, f₂⟩, hrest, heq⟩ := Option.bind_eq_some_iff.1 hexpr
    cases heq
    exact ⟨ihFirst h.1 hfirst, ihRest h.2 hrest⟩
  | choice first rest ihFirst ihRest =>
    obtain ⟨⟨e₁, f₁⟩, hfirst, hexpr⟩ := Option.bind_eq_some_iff.1 hexpr
    obtain ⟨⟨e₂, f₂⟩, hrest, heq⟩ := Option.bind_eq_some_iff.1 hexpr
    cases heq
    exact ⟨ihFirst h.1 hfirst, ihRest h.2 hrest⟩

end CallLint.Pattern
