import CallLint.Proofs.Pattern.Behind.Class

/-!
# A parenthesis behind a step

What one step of the reader of patterns makes of a text with a closing parenthesis behind it.

* `behind_next`: one step, with the parenthesis behind what it leaves.
-/

namespace CallLint.Pattern

open Text

theorem behind_readName {t u : Text} (h : Followed t u) :
    Behind never (readName t) (readName u) := by
  generalize hread : readName u = read
  unfold readName at hread ⊢
  rw [List.span_eq_takeWhile_dropWhile] at hread ⊢
  obtain ⟨hend, hend'⟩ | ⟨hname, hrest⟩ := span_followed (d := '>') (by decide) h
  · rw [hend'] at hread
    rw [hend]
    generalize t.takeWhile (· ≠ '>') = name
    generalize u.takeWhile (· ≠ '>') = name' at hread
    cases name <;> cases name' <;> exact hread ▸ .failed
  · rw [hname] at hread
    generalize t.takeWhile (· ≠ '>') = name at hread ⊢
    generalize t.dropWhile (· ≠ '>') = x at hrest ⊢
    generalize u.dropWhile (· ≠ '>') = y at hrest hread
    obtain rfl | rfl := hrest
    · exact hread ▸ .refl _
    split
    next heq =>
      cases heq
      exact hread ▸ .failed
    next c name t₁ heq =>
      cases heq
      simp only [List.cons_append] at hread
      exact hread ▸ .ite (.read (.behind _)) .failed
    next hempty hclose =>
      split at hread
      next => exact hread ▸ .failed
      next c name' t₁ heq =>
        have hne : ∀ t, x = '>' :: t → False := by
          intro t ht
          exact hclose c name' t (by rw [ht, (Prod.mk.inj heq).1])
        exact (ne_cons_of_append (by decide) hne _ (Prod.mk.inj heq).2).elim
      next => exact hread ▸ .failed

theorem behind_openNamed? (r : Reading) {t u : Text} (h : Followed t u) :
    Behind never (r.openNamed? t) (r.openNamed? u) := by
  have hname := behind_readName h
  unfold Reading.openNamed?
  generalize readName t = read at hname ⊢
  generalize readName u = read' at hname ⊢
  cases hname with
  | read h => exact .ite .failed (.read h)
  | failed => exact .failed
  | late h => exact h.elim

theorem behind_takeFlags? (r : Reading) {t u : Text} (h : Followed t u) :
    Behind atEnd (r.takeFlags? t) (r.takeFlags? u) := by
  have hflags := behind_readFlags false [] h
  have hmark : ∀ changes v, readFlags false [] t = some (changes, v) →
      ∃ c w, v = c :: w ∧ (c = ':' ∨ c = ')') := fun _ _ heq => (leaves_readFlags heq).2
  unfold Reading.takeFlags?
  generalize readFlags false [] t = read at hflags hmark ⊢
  generalize readFlags false [] u = read' at hflags ⊢
  cases hflags with
  | @read changes t u h =>
    obtain ⟨c, v, rfl, hc⟩ := hmark changes t rfl
    obtain rfl | rfl := h
    · exact .refl _
    rw [List.cons_append]
    obtain rfl | rfl := hc
    · cases changes <;> exact .read (.behind _)
    · cases changes with
      | nil => exact .failed
      | cons change changes => exact .read (.behind _)
  | failed => exact .failed
  | @late changes u h =>
    subst h
    cases changes with
    | nil => exact .failed
    | cons change changes => exact .late rfl

theorem behind_readGroup (r : Reading) {t u : Text} (h : Followed t u) :
    Behind atEnd (readGroup r t) (readGroup r u) := by
  have hignore := h.ignore r.verbose
  generalize hread : readGroup r u = read
  rw [readGroup_eq] at hread ⊢
  generalize ignore r.verbose t = x at hignore ⊢
  generalize ignore r.verbose u = y at hignore hread
  obtain rfl | rfl := hignore
  · exact hread ▸ .refl _
  split
  next => exact hread ▸ .failed
  next => exact hread ▸ .failed
  next => exact hread ▸ .failed
  next => exact hread ▸ .failed
  next u =>
    simp only [List.cons_append] at hread
    exact hread ▸ (behind_openNamed? r (.behind _)).mono fun _ _ => False.elim
  next t₁ hequals hmark =>
    have hequals' := ne_cons_of_append (by decide) hequals
    have hmark' := ne_cons_of_append (by decide) hmark
    split at hread
    next heq => cases heq
    next heq => cases heq
    next heq => exact (hequals' _ (List.cons.inj (List.cons.inj heq).2).2).elim
    next heq => exact (hmark' _ (List.cons.inj (List.cons.inj heq).2).2).elim
    next heq => cases heq
    next heq =>
      cases heq
      exact hread ▸ (behind_openNamed? r (.behind _)).mono fun _ _ => False.elim
    next hangle heq =>
      cases heq
      exact (hangle _ rfl).elim
    next hgroup => exact (hgroup _ rfl).elim
  next t₁ hequals hmark _ _ hlatin hangle =>
    have hangle' := ne_cons_of_append (by decide) hangle
    split at hread
    next heq => exact (ne_cons_of_append (by decide) hequals _ (List.cons.inj heq).2).elim
    next heq => exact (ne_cons_of_append (by decide) hmark _ (List.cons.inj heq).2).elim
    next heq => exact (hangle' _ (List.cons.inj heq).2).elim
    next heq => exact (hangle' _ (List.cons.inj heq).2).elim
    next heq =>
      have hne : ∀ t, t₁ = 'P' :: t → False := by
        intro t ht
        subst ht
        have hangle : ∀ t', t = '<' :: t' → False := fun t' ht => hlatin t' (by rw [ht])
        exact ne_cons_of_append (by decide) hangle _ (List.cons.inj (List.cons.inj heq).2).2
      exact (ne_cons_of_append (by decide) hne _ (List.cons.inj heq).2).elim
    next heq => exact (hangle' _ (List.cons.inj heq).2).elim
    next heq =>
      cases heq
      exact hread ▸ behind_takeFlags? r (.behind _)
    next hgroup => exact (hgroup _ rfl).elim
  next hgroup =>
    have hgroup' := ne_cons_of_append (by decide) hgroup
    split at hread
    any_goals exact (hgroup' _ (by assumption)).elim
    exact hread ▸ .read (.behind _)

/-- A step that the parenthesis completes leaves nothing, or braces that no number follows. -/
def LateNext (r : Reading) (u : Text) : Prop := u = [] ∨ CutEdge r.verbose u

theorem behind_next (r : Reading) (c : Char) {t u : Text} (h : Followed t u) :
    Behind LateNext (r.next c t) (r.next c u) := by
  have hrepeat : ∀ (repeated : Option Reading) {t u : Text}, Followed t u →
      Behind LateNext (repeated.map fun r => (r, dropMark '?' t))
        (repeated.map fun r => (r, dropMark '?' u)) := by
    intro repeated t u h
    cases repeated with
    | none => exact .failed
    | some r => exact .read h.dropMark
  generalize hread : r.next c u = read
  unfold Reading.next at hread ⊢
  split
  next => exact hread ▸ (behind_readGroup r h).mono fun _ _ => .inl
  next =>
    subst hread
    dsimp only
    cases r.closeGroup? with
    | none => exact .failed
    | some r => exact .read h
  next => exact hread ▸ .read h
  next => exact hread ▸ (behind_readBracket r.verbose h).map (f := r.add) fun _ _ => False.elim
  next => exact hread ▸ hrepeat _ h
  next => exact hread ▸ hrepeat _ h
  next => exact hread ▸ hrepeat _ h
  next =>
    change r.next '{' u = read at hread
    change Behind LateNext (r.next '{' t) read
    rw [Reading.next_brace] at hread ⊢
    subst hread
    refine Behind.bind (behind_readBounds r.verbose h) ?_ fun _ _ => False.elim
    intro bounds t u h
    exact hrepeat _ (h.ignore r.verbose)
  next =>
    refine hread ▸ (behind_readEscape r.verbose h).map (f := fun piece => r.add piece.toSyntax) ?_
    intro piece u hlate
    cases hlate with
    | inl hend => exact .inl hend
    | inr hedge => exact .inr hedge.2
  next => exact hread ▸ .read h
  next => exact hread ▸ .read h
  next => exact hread ▸ .read h
  next =>
    split at hread
    any_goals contradiction
    exact hread ▸ .read h

end CallLint.Pattern
