import CallLint.Proofs.Pattern.Behind

/-!
# A parenthesis behind a class

A class ends at a closing bracket. So a class that the end of the text cuts off is cut off by a
parenthesis at the end of the text too: inside a class the parenthesis is an item like any other.

* `behind_readBracket`: the reader of classes with a parenthesis behind the text.
-/

namespace CallLint.Pattern

open Text

theorem takeCaret_followed {t u : Text} (h : Followed t u) :
    (takeCaret u).1 = (takeCaret t).1 ∧ Followed (takeCaret t).2 (takeCaret u).2 := by
  obtain rfl | rfl := h
  · exact ⟨rfl, .inl rfl⟩
  generalize htake : takeCaret (t ++ [')']) = y
  unfold takeCaret at htake ⊢
  split
  next => exact htake ▸ ⟨rfl, .behind _⟩
  next hcaret =>
    split at htake
    next heq => exact (ne_cons_of_append (by decide) hcaret _ heq).elim
    next => exact htake ▸ ⟨rfl, .behind _⟩

/-- The front part up to a character other than the parenthesis. -/
theorem span_followed {d : Char} (hd : d ≠ ')') {t u : Text} (h : Followed t u) :
    (t.dropWhile (· ≠ d) = [] ∧ u.dropWhile (· ≠ d) = []) ∨
      u.takeWhile (· ≠ d) = t.takeWhile (· ≠ d) ∧
        Followed (t.dropWhile (· ≠ d)) (u.dropWhile (· ≠ d)) := by
  obtain rfl | rfl := h
  · exact .inr ⟨rfl, .inl rfl⟩
  induction t with
  | nil => exact .inl ⟨rfl, by simp [Ne.symm hd]⟩
  | cons c t ih =>
    rw [List.cons_append, List.takeWhile_cons, List.takeWhile_cons, List.dropWhile_cons,
      List.dropWhile_cons]
    split
    next =>
      obtain hend | ⟨htake, hdrop⟩ := ih
      · exact .inl hend
      · exact .inr ⟨congrArg (c :: ·) htake, hdrop⟩
    next => exact .inr ⟨rfl, .behind _⟩

theorem behind_readPosix {t u : Text} (h : Followed t u) :
    Behind never (readPosix t) (readPosix u) := by
  obtain rfl | rfl := h
  · exact .refl _
  cases t with
  | nil => exact .failed
  | cons c t =>
    by_cases hc : c = ':'
    · subst hc
      obtain ⟨hsign, hrest⟩ := takeCaret_followed (Followed.behind t)
      generalize hread : readPosix (':' :: t ++ [')']) = read
      rw [List.cons_append, readPosix_colon, List.span_eq_takeWhile_dropWhile, hsign] at hread
      rw [readPosix_colon, List.span_eq_takeWhile_dropWhile]
      obtain ⟨hend, hend'⟩ | ⟨hname, hrest⟩ := span_followed (d := ':') (by decide) hrest
      · rw [hend'] at hread
        rw [hend]
        exact hread ▸ .failed
      · rw [hname] at hread
        generalize (takeCaret t).2.takeWhile (· ≠ ':') = name at hread ⊢
        generalize (takeCaret t).2.dropWhile (· ≠ ':') = x at hrest ⊢
        generalize (takeCaret (t ++ [')'])).2.dropWhile (· ≠ ':') = y at hrest hread
        obtain rfl | rfl := hrest
        · exact hread ▸ .refl _
        split
        next t₁ heq =>
          cases heq
          simp only [List.cons_append] at hread
          subst hread
          cases posixNames.find? fun entry => entry.1.toList = name with
          | none => exact .failed
          | some entry => exact .read (.behind _)
        next hclose =>
          split at hread
          next heq =>
            have hne : ∀ t, x = ':' :: t → False := by
              intro t₁ ht
              subst ht
              have hbracket : ∀ t, t₁ = ']' :: t → False := fun t ht => hclose name t (by rw [ht])
              have htail := (List.cons.inj (Prod.mk.inj heq).2).2
              exact ne_cons_of_append (by decide) hbracket _ htail
            exact (ne_cons_of_append (by decide) hne _ (Prod.mk.inj heq).2).elim
          next => exact hread ▸ .failed
    · have hnone : ∀ t, readPosix (c :: t) = none := by
        intro t
        unfold readPosix
        split
        next heq => exact absurd (List.cons.inj heq).1 hc
        next => rfl
      rw [List.cons_append, hnone, hnone]
      exact .failed

theorem readSetOpening_followed (verbose : Bool) {t u : Text} (h : Followed t u) :
    ∃ negated items t' u', readSetOpening verbose t = (negated, items, t') ∧
      readSetOpening verbose u = (negated, items, u') ∧ Followed t' u' := by
  obtain ⟨hsign, hrest⟩ := takeCaret_followed (h.ignore verbose)
  generalize hread : readSetOpening verbose u = read
  rw [readSetOpening_eq] at hread ⊢
  generalize takeCaret (ignore verbose t) = sign at hsign hrest ⊢
  generalize takeCaret (ignore verbose u) = sign' at hsign hrest hread
  have hinner : Followed (if sign.1 then ignore verbose sign.2 else sign.2)
      (if sign'.1 then ignore verbose sign'.2 else sign'.2) := by
    rw [hsign]
    split
    · exact hrest.ignore verbose
    · exact hrest
  obtain ⟨dashes, x, y, hx, hy, hafter⟩ :=
    takeAll_followed_of_not (p := (· = '-')) (by decide) verbose hinner
  dsimp only at hread ⊢
  rw [hy, hsign] at hread
  rw [hx]
  obtain rfl | rfl := hafter
  · exact ⟨_, _, _, _, rfl, hread.symm, .inl rfl⟩
  split
  next t₁ heq =>
    cases heq
    simp only [List.cons_append] at hread
    exact ⟨_, _, _, _, rfl, hread.symm, (Followed.behind _).ignore verbose⟩
  next hbracket heq =>
    cases heq
    split at hread
    next heq =>
      have hne : ∀ t, x = ']' :: t → False := fun t ht => hbracket t (Prod.mk.inj heq).1 ht
      exact (ne_cons_of_append (by decide) hne _ (Prod.mk.inj heq).2).elim
    next heq =>
      cases heq
      exact ⟨_, _, _, _, rfl, hread.symm, .behind _⟩

theorem behind_readSetPiece (verbose : Bool) {t u : Text} (h : Followed t u) :
    Behind (LatePiece verbose) (readSetPiece verbose t) (readSetPiece verbose u) := by
  obtain rfl | rfl := h
  · exact .refl _
  cases t with
  | nil => exact .late (.inl rfl)
  | cons c t =>
    generalize hread : readSetPiece verbose (c :: t ++ [')']) = read
    unfold readSetPiece at hread ⊢
    split
    next heq => cases heq
    next heq =>
      cases heq
      simp only [List.cons_append] at hread
      exact hread ▸ behind_readEscape verbose (.behind _)
    next hslash heq =>
      cases heq
      simp only [List.cons_append] at hread
      exact hread ▸ .read (.behind _)

/-- What a hyphen sees ahead in verbose mode. -/
def seenAhead (t : Text) : Text :=
  match trimStart t with
  | '#' :: t => trimStart t
  | t => t

theorem charAfter_true (t : Text) :
    charAfter true t =
      if (seenAhead t).isEmpty then t.head? else (seenAhead t).head? := rfl

theorem seenAhead_followed {t u : Text} (h : Followed t u) :
    Followed (seenAhead t) (seenAhead u) := by
  have htrim := h.trimStart
  generalize hseen : seenAhead u = seen
  unfold seenAhead at hseen ⊢
  generalize trimStart t = x at htrim ⊢
  generalize trimStart u = y at htrim hseen
  obtain rfl | rfl := htrim
  · exact .inl hseen.symm
  split
  next =>
    simp only [List.cons_append] at hseen
    exact hseen ▸ (Followed.behind _).trimStart
  next hhash =>
    split at hseen
    next heq => exact (ne_cons_of_append (by decide) hhash _ heq).elim
    next => exact .inr hseen.symm

/-- What a hyphen looks ahead for, a `]` or another hyphen, is not the parenthesis, and neither
white space nor `#` hides it. -/
theorem charAfter_followed (verbose : Bool) {d : Char} (hd : d = ']' ∨ d = '-') {t u : Text}
    (h : Followed t u) : charAfter verbose u = some d ↔ charAfter verbose t = some d := by
  have hparen : d ≠ ')' := by
    obtain rfl | rfl := hd
    · decide
    · decide
  have hhead : ∀ {t u : Text}, Followed t u → (u.head? = some d ↔ t.head? = some d) := by
    intro t u h
    obtain rfl | rfl := h
    · rfl
    · cases t with
      | nil => simp [Ne.symm hparen]
      | cons c t => rfl
  cases verbose with
  | false => exact hhead h
  | true =>
    rw [charAfter_true, charAfter_true]
    have hseen := seenAhead_followed h
    have hempty : seenAhead t = [] → t.head? ≠ some d := by
      intro hnil hhead
      obtain ⟨t', rfl⟩ := List.head?_eq_some_iff.1 hhead
      obtain rfl | rfl := hd
      · cases hnil
      · cases hnil
    cases hx : seenAhead t with
    | nil =>
      rw [hx] at hseen
      obtain hy | hy := hseen
      · rw [hy]
        exact hhead h
      · rw [hy]
        exact iff_of_false (by simp [Ne.symm hparen]) (hempty hx)
    | cons c x =>
      rw [hx] at hseen
      obtain hy | hy := hseen
      · rw [hy]
        rfl
      · rw [hy]
        rfl

/-- An item that the parenthesis completes leaves nothing, or the parenthesis alone. -/
abbrev atLast {α : Type} (_ : α) (u : Text) : Prop := u = [] ∨ u = [')']

theorem behind_readSetItem (verbose : Bool) {t u : Text} (h : Followed t u) :
    Behind atLast (readSetItem verbose t) (readSetItem verbose u) := by
  unfold readSetItem
  refine Behind.bind (behind_readSetPiece verbose h) ?_ ?_
  · intro first t u h
    have hset : ∀ {t u : Text}, Followed t u →
        Behind atLast (first.toSet?.bind fun set => some (set, t))
          (first.toSet?.bind fun set => some (set, u)) := by
      intro t u h
      cases first.toSet? with
      | none => exact .failed
      | some set => exact .read h
    have hignore := h.ignore verbose
    dsimp only
    generalize ignore verbose t = x at hignore ⊢
    generalize ignore verbose u = y at hignore ⊢
    obtain rfl | rfl := hignore
    · exact .refl _
    cases x with
    | nil =>
      -- The text ends with the item. The parenthesis shows that no hyphen follows it.
      change Behind atLast none (first.toSet?.bind fun set => some (set, [')']))
      cases first.toSet? with
      | none => exact .failed
      | some set => exact .late (.inr rfl)
    | cons c x =>
      have hx := Followed.behind x
      rw [List.cons_append]
      by_cases hc : c = '-'
      · subst hc
        -- Whether the hyphen makes a range does not depend on the parenthesis.
        have hahead : ∀ d, d = ']' ∨ d = '-' →
            decide (charAfter verbose (x ++ [')']) = some d) =
              decide (charAfter verbose x = some d) :=
          fun d hd => decide_eq_decide.2 (charAfter_followed verbose hd hx)
        simp only [hahead ']' (.inl rfl), hahead '-' (.inr rfl)]
        have hlast := behind_readSetPiece verbose (hx.ignore verbose)
        refine .ite (hset (.behind _)) (Behind.bind hlast ?_ ?_)
        · intro last t u h
          dsimp only
          split
          next => exact .ite (.read h) .failed
          next => exact .failed
        · intro last u hlate
          dsimp only
          split
          next =>
            obtain rfl | ⟨hedge, -⟩ := hlate
            · split
              · exact .late (.inl rfl)
              · exact .failed
            · cases hedge
          next => exact .failed
      · simp only [List.cons.injEq, hc, false_and, imp_false, not_false_eq_true, implies_true]
        exact hset (.behind _)
  · intro first u hlate
    dsimp only
    obtain rfl | ⟨rfl, w, rfl, hw⟩ := hlate
    · rw [ignore_nil]
      exact .failed
    · rw [ignore_brace]
      exact .failed

theorem operatorOf?_followed (c : Char) (t : Text) :
    operatorOf? c (t ++ [')']).head? = operatorOf? c t.head? := by
  cases t with
  | nil =>
    rw [List.nil_append, List.head?_nil, List.head?_cons]
    unfold operatorOf?
    rw [if_pos (by simp : (none : Option Char) ≠ some c)]
    split
    next => rfl
    next hsame =>
      obtain rfl : ')' = c := Option.some.inj (Classical.not_not.1 hsame)
      rfl
  | cons d t => rfl

/-- The parenthesis never completes a class. -/
def LateStep {α β : Type} (next : α ⊕ β) (u : Text) : Prop := next.isRight ∧ atLast next u

theorem behind_setStep (verbose : Bool) (opened : List OpenSet) (items : List SetSyntax)
    {t u : Text} (h : Followed t u) :
    Behind LateStep (setStep verbose opened items t) (setStep verbose opened items u) := by
  have hignore := h.ignore verbose
  unfold setStep
  generalize ignore verbose t = x at hignore ⊢
  generalize ignore verbose u = y at hignore ⊢
  obtain rfl | rfl := hignore
  · exact .refl _
  cases x with
  | nil => cases verbose <;> exact .failed
  | cons c x =>
    have hx := Followed.behind x
    rw [List.cons_append]
    refine .ite ?_ (.ite ?_ ?_)
    · have hposix := behind_readPosix hx
      generalize readPosix x = read at hposix ⊢
      generalize readPosix (x ++ [')']) = read' at hposix ⊢
      cases hposix with
      | read h => exact .read h
      | failed =>
        obtain ⟨negated, first, t', u', ht, hu, hrest⟩ := readSetOpening_followed verbose hx
        rw [ht, hu]
        exact .read hrest
      | late h => exact h.elim
    · cases closeSet? opened items with
      | none => exact .failed
      | some next => exact .read hx
    · rw [operatorOf?_followed]
      cases hkind : operatorOf? c x.head? with
      | none =>
        exact (behind_readSetItem verbose (.behind _)).map
          (f := fun item => Sum.inr (opened, item :: items)) fun _ _ hlate => ⟨rfl, hlate⟩
      | some kind =>
        cases x with
        | nil => cases hkind
        | cons d x => exact .read (.behind _)

theorem setStep_last {verbose : Bool} {opened : List OpenSet} {items : List SetSyntax} {u : Text}
    (h : u = [] ∨ u = [')']) : setStep verbose opened items u = none := by
  obtain rfl | rfl := h
  · cases verbose <;> rfl
  · cases verbose <;> rfl

/-- A class that the end of the text cuts off is cut off by the parenthesis too. -/
theorem behind_readSet (verbose : Bool) (bound : Nat) (opened : List OpenSet)
    (items : List SetSyntax) {t u : Text} (h : Followed t u) :
    Behind never
      ((readSet verbose bound opened items t).map fun read => ((read.1, read.2.1), read.2.2))
      ((readSet verbose bound opened items u).map fun read => ((read.1, read.2.1), read.2.2)) := by
  induction bound generalizing opened items t u with
  | zero => exact .failed
  | succ bound ih =>
    rw [readSet_succ, readSet_succ, Option.map_bind, Option.map_bind]
    refine Behind.bind (behind_setStep verbose opened items h) ?_ ?_
    · intro next t u h
      cases next with
      | inl whole => exact .read h
      | inr next => exact ih next.1 next.2 h
    · intro next u hlate
      -- At most the parenthesis is left, and the class is still open.
      obtain ⟨hnext, hu⟩ := hlate
      cases next with
      | inl whole => cases hnext
      | inr next =>
        have hnone : readSet verbose bound next.1 next.2 u = none := by
          cases bound with
          | zero => rfl
          | succ bound =>
            rw [readSet_succ, setStep_last hu]
            rfl
        change Behind never none ((readSet verbose bound next.1 next.2 u).map _)
        rw [hnone]
        exact .failed

theorem behind_readBracket (verbose : Bool) {t u : Text} (h : Followed t u) :
    Behind never (readBracket verbose t) (readBracket verbose u) := by
  obtain rfl | rfl := h
  · exact .refl _
  obtain ⟨negated, first, t', u', ht, hu, hrest⟩ :=
    readSetOpening_followed verbose (Followed.behind t)
  have hlength : t'.length < t.length + 1 := by
    have hle := readSetOpening_length_le verbose t
    rw [ht] at hle
    exact Nat.lt_succ_of_le hle
  have hset := behind_readSet verbose ((t ++ [')']).length + 1) [.bracket [] negated] first hrest
  unfold readBracket
  rw [ht, hu]
  dsimp only
  have hbracket : Behind never _ _ :=
    hset.map (f := fun read => Syntax.bracket read.1 read.2) fun _ _ h => h
  rw [Option.map_map, Option.map_map] at hbracket
  have hbound : t'.length < (t ++ [')']).length + 1 := by
    rw [List.length_append]
    omega
  rw [readSet_of_lt hlength hbound]
  exact hbracket

end CallLint.Pattern
