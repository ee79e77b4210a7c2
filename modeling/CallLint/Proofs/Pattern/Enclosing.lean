import CallLint.Proofs.Pattern.Behind.Step

/-!
# A group around a pattern

A pattern that stands within a group, with a closing parenthesis behind it, is read as it is read
by itself, step by step, as long as every closing parenthesis of it closes a group of its own. At
the end the parenthesis behind it closes the group around it, unless a comment at the end of the
pattern takes it in.

* `Reading.rest?_within`: what is read within a group, by what is read without it.
-/

namespace CallLint.Pattern

open Text

/-- The pattern that a group makes of what is read in it, with what stands before the group. -/
def OpenGroup.close (group : OpenGroup) (body : Syntax) : Syntax :=
  Level.finish { group.outer with
    parts := .group group.captured group.changes body :: group.outer.parts }

namespace Reading

/-- The reading with one more group open, around all others. -/
def within (r : Reading) (group : OpenGroup) : Reading :=
  { r with opened := r.opened ++ [group] }

variable {group : OpenGroup}

@[simp] theorem within_verbose (r : Reading) : (r.within group).verbose = r.verbose := rfl

@[simp] theorem within_names (r : Reading) : (r.within group).names = r.names := rfl

theorem within_repeat? (r : Reading) (least : Nat) (most : Option Nat) :
    (r.within group).repeat? least most = (r.repeat? least most).map (·.within group) := by
  unfold repeat? within
  dsimp only
  split <;> rfl

theorem within_closeGroup? {r : Reading} (h : r.opened ≠ []) :
    (r.within group).closeGroup? = r.closeGroup?.map (·.within group) := by
  unfold closeGroup? within
  cases hopened : r.opened with
  | nil => exact absurd hopened h
  | cons inner opened => rfl

theorem within_openNamed? (r : Reading) (t : Text) :
    (r.within group).openNamed? t =
      (r.openNamed? t).map fun read => (read.1.within group, read.2) := by
  unfold openNamed?
  cases readName t with
  | none => rfl
  | some read =>
    dsimp only
    rw [within_names]
    by_cases hused : r.names.contains read.1 = true
    · rw [if_pos hused, if_pos hused]
      rfl
    · rw [if_neg hused, if_neg hused]
      rfl

theorem within_takeFlags? (r : Reading) (t : Text) :
    (r.within group).takeFlags? t =
      (r.takeFlags? t).map fun read => (read.1.within group, read.2) := by
  unfold takeFlags?
  split <;> rfl

theorem within_readGroup (r : Reading) (t : Text) :
    readGroup (r.within group) t =
      (readGroup r t).map fun read => (read.1.within group, read.2) := by
  rw [readGroup_eq, readGroup_eq, within_verbose]
  split
  any_goals rfl
  · exact within_openNamed? r _
  · exact within_openNamed? r _
  · exact within_takeFlags? r _

/-- A step within a group, unless it closes that group. -/
theorem within_next {r : Reading} {c : Char} (h : c = ')' → r.opened ≠ []) (t : Text) :
    (r.within group).next c t =
      (r.next c t).map fun read => (read.1.within group, read.2) := by
  unfold next
  rw [within_verbose]
  split
  any_goals rfl
  · exact within_readGroup r t
  · rw [within_closeGroup? (h rfl)]
    cases r.closeGroup? <;> rfl
  · cases readBracket r.verbose t <;> rfl
  · rw [within_repeat?]
    cases r.repeat? 0 (some 1) <;> rfl
  · rw [within_repeat?]
    cases r.repeat? 0 none <;> rfl
  · rw [within_repeat?]
    cases r.repeat? 1 none <;> rfl
  · change (r.within group).next '{' t = (r.next '{' t).map _
    rw [next_brace, next_brace, within_verbose]
    cases readBounds r.verbose t with
    | none => rfl
    | some read =>
      dsimp only [Option.bind_some]
      rw [within_repeat?]
      cases r.repeat? read.1.1 read.1.2 <;> rfl
  · cases readEscape r.verbose t <;> rfl

/-- What is read from the text, up to its end. -/
def rest? (r : Reading) (t : Text) : Option Syntax := readRest (t.length + 1) r t

theorem rest?_eq (r : Reading) (t : Text) :
    r.rest? t =
      match ignore r.verbose t with
      | [] => if r.opened.isEmpty then some r.level.finish else none
      | c :: t => (r.next c t).bind fun read => read.1.rest? read.2 := by
  have hignore := ignore_length_le r.verbose t
  rw [rest?, readRest_succ]
  cases heq : ignore r.verbose t with
  | nil => rfl
  | cons c u =>
    rw [heq, List.length_cons] at hignore
    dsimp only
    cases hnext : r.next c u with
    | none => rfl
    | some read =>
      have hlength : read.2.length ≤ u.length := leaves_next r c u _ _ hnext
      exact readRest_of_lt (by omega) (Nat.lt_succ_self _)

/-- The reading meets a closing parenthesis where no group is open. -/
inductive Strays : Reading → Text → Prop
  | here {r : Reading} {t u : Text} (h : ignore r.verbose t = ')' :: u) (closed : r.opened = []) :
    Strays r t
  | later {r r' : Reading} {c : Char} {t u v : Text} (h : ignore r.verbose t = c :: u)
    (step : r.next c u = some (r', v)) (later : Strays r' v) : Strays r t

theorem Strays.rest?_eq_none {r : Reading} {t : Text} (h : r.Strays t) : r.rest? t = none := by
  induction h with
  | @here r t u h closed =>
    have hnext : r.next ')' u = none := by
      change r.closeGroup?.map (fun r => (r, u)) = none
      unfold closeGroup?
      rw [closed]
      rfl
    rw [rest?_eq, h]
    dsimp only
    rw [hnext]
    rfl
  | later h step _ ih =>
    rw [rest?_eq, h]
    dsimp only
    rw [step]
    exact ih

/-- The text alone never closes a group that stands around it. -/
theorem rest?_within_eq_none {r : Reading} {t : Text} (h : ¬ r.Strays t) :
    (r.within group).rest? t = none := by
  generalize hlength : t.length = n
  induction n using Nat.strongRecOn generalizing r t with
  | ind n ih =>
    rw [rest?_eq, within_verbose]
    cases hx : ignore r.verbose t with
    | nil =>
      dsimp only
      rw [if_neg (by simp [within])]
    | cons c u =>
      have hopen : c = ')' → r.opened ≠ [] := by
        intro hc hopened
        subst hc
        exact h (.here hx hopened)
      have hignore := ignore_length_le r.verbose t
      rw [hx, List.length_cons] at hignore
      dsimp only
      rw [within_next hopen]
      cases hnext : r.next c u with
      | none => rfl
      | some read =>
        have hleft : read.2.length ≤ u.length := leaves_next r c u _ _ hnext
        exact ih read.2.length (by omega) (fun hstrays => h (.later hx hnext hstrays)) rfl

/-- A text of which a comment takes in the parenthesis behind it is read as it is read alone. -/
theorem rest?_congr {r : Reading} {t u : Text} (h : ignore r.verbose t = ignore r.verbose u) :
    r.rest? t = r.rest? u := by
  rw [rest?_eq, rest?_eq, h]

/-- What a parenthesis completes at the end of the text does not close the group around it. -/
theorem rest?_within_late {r : Reading} {u : Text} (h : LateNext r u) :
    (r.within group).rest? u = none := by
  obtain rfl | ⟨w, rfl, hw⟩ := h
  · rw [rest?_eq, within_verbose, ignore_nil]
    dsimp only
    rw [if_neg (by simp [within])]
  · have hbounds : readBounds r.verbose w = none := by
      unfold readBounds
      rw [hw]
      cases r.verbose <;> rfl
    rw [rest?_eq, within_verbose, ignore_brace]
    dsimp only
    rw [next_brace, within_verbose, hbounds]
    rfl

/-- The parenthesis behind a pattern closes the group around the pattern. -/
theorem rest?_within_paren (r : Reading) :
    (r.within group).rest? [')'] =
      if r.opened.isEmpty then some (group.close r.level.finish) else none := by
  rw [rest?_eq, ignore_paren]
  dsimp only
  cases hopened : r.opened with
  | nil =>
    have hclose : (r.within group).next ')' [] =
        some (⟨group.verbose, r.names,
          { group.outer with
            parts := .group group.captured group.changes r.level.finish :: group.outer.parts },
          []⟩, []) := by
      change (r.within group).closeGroup?.map _ = _
      unfold closeGroup? within
      rw [hopened]
      rfl
    rw [hclose, Option.bind_some, rest?_eq, ignore_nil]
    rfl
  | cons inner opened =>
    have hopen : r.opened ≠ [] := by
      rw [hopened]
      exact List.cons_ne_nil _ _
    rw [within_next fun _ => hopen]
    cases hnext : r.next ')' [] with
    | none => rfl
    | some read =>
      have hleft : read.2 = [] := by
        have hlength : read.2.length ≤ 0 := leaves_next r ')' [] _ _ hnext
        exact List.length_eq_zero_iff.1 (Nat.le_zero.1 hlength)
      rw [Option.map_some, Option.bind_some]
      exact rest?_within_late (.inl hleft)

/-- A pattern within a group, with a parenthesis behind it, is read as it is read alone, unless a
comment takes in the parenthesis; then the parenthesis makes no difference to the pattern alone
either, and the group stays open. -/
theorem rest?_within {r : Reading} {t : Text} (h : ¬ r.Strays t) :
    (r.within group).rest? (t ++ [')']) =
      if (r.rest? (t ++ [')'])).isSome then none else (r.rest? t).map group.close := by
  generalize hlength : t.length = n
  induction n using Nat.strongRecOn generalizing r t with
  | ind n ih =>
    obtain hsame | hbehind := (Followed.behind t).ignore r.verbose
    -- A comment takes in the parenthesis.
    · rw [rest?_congr hsame, rest?_congr (r := r.within group) hsame, rest?_within_eq_none h]
      cases r.rest? t <;> rfl
    cases hx : ignore r.verbose t with
    | nil =>
      -- The pattern ends here, and the parenthesis closes the innermost group that is open.
      rw [hx, List.nil_append] at hbehind
      have hparen : ignore r.verbose (t ++ [')']) = ignore r.verbose [')'] := by
        rw [hbehind, ignore_paren]
      have halone : r.rest? t = if r.opened.isEmpty then some r.level.finish else none := by
        rw [rest?_eq, hx]
      rw [rest?_congr (r := r.within group) hparen, rest?_within_paren, halone]
      cases hopened : r.opened with
      | nil =>
        rw [(Strays.here hbehind hopened).rest?_eq_none]
        rfl
      | cons inner opened => cases r.rest? (t ++ [')']) <;> rfl
    | cons c x =>
      have hopen : c = ')' → r.opened ≠ [] := by
        intro hc hopened
        subst hc
        exact h (.here hx hopened)
      have hx' := ignore_length_le r.verbose t
      rw [hx, List.length_cons] at hx'
      rw [hx, List.cons_append] at hbehind
      have halone : r.rest? t = (r.next c x).bind fun read => read.1.rest? read.2 := by
        rw [rest?_eq, hx]
      have hparen : r.rest? (t ++ [')']) =
          (r.next c (x ++ [')'])).bind fun read => read.1.rest? read.2 := by
        rw [rest?_eq, hbehind]
      have hwithin : (r.within group).rest? (t ++ [')']) =
          (r.next c (x ++ [')'])).bind fun read => (read.1.within group).rest? read.2 := by
        rw [rest?_eq, within_verbose, hbehind]
        dsimp only
        rw [within_next hopen, Option.bind_map]
        rfl
      rw [halone, hparen, hwithin]
      have hnext := behind_next r c (Followed.behind x)
      generalize hstep : r.next c x = step at hnext ⊢
      generalize r.next c (x ++ [')']) = step' at hnext ⊢
      cases hnext with
      | @read r' t' u' hfollowed =>
        have hleft : t'.length ≤ x.length := leaves_next r c x _ _ hstep
        have hstrays : ¬ r'.Strays t' := fun hlater => h (.later hx hstep hlater)
        -- A comment within the step takes in the parenthesis, or it stands behind what is left.
        obtain rfl | rfl := hfollowed
        · change (r'.within group).rest? u' =
            if (r'.rest? u').isSome then none else (r'.rest? u').map group.close
          rw [rest?_within_eq_none hstrays]
          cases r'.rest? u' <;> rfl
        · exact ih t'.length (by omega) hstrays rfl
      | failed => rfl
      | @late r' u' hlate =>
        -- The parenthesis belongs to the last step, and closes nothing.
        change (r'.within group).rest? u' = if (r'.rest? u').isSome then none else none
        rw [rest?_within_late hlate, ite_self]

end Reading

end CallLint.Pattern
