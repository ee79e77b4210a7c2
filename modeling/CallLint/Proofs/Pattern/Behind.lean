import CallLint.Proofs.Pattern.Leftover

/-!
# A parenthesis behind

What readers make of a text with a closing parenthesis behind it. A parenthesis behind a piece that
is read whole stays behind the rest of the text, unless a comment takes it in. A piece that is cut
off by the end of the text stays cut off, except where the parenthesis itself completes it; then it
was the last character.

* `Behind`: the relation between what is read from the two texts.
* `behind_readEscape`: escapes, the only pieces that a parenthesis may complete.
-/

namespace CallLint.Pattern

open Text

/-- The second text is the first, or the first with a closing parenthesis behind it. -/
def Followed (t u : Text) : Prop := u = t ∨ u = t ++ [')']

/-- What a reader reads from a text, and from a text that may have a parenthesis behind it: the
same, where the parenthesis may stand behind what is left; or nothing from the first text, and from
the second something that is `late`, if anything. -/
inductive Behind {α : Type} (late : α → Text → Prop) :
    Option (α × Text) → Option (α × Text) → Prop
  | read {a : α} {t u : Text} (h : Followed t u) : Behind late (some (a, t)) (some (a, u))
  | failed : Behind late none none
  | late {a : α} {u : Text} (h : late a u) : Behind late none (some (a, u))

/-- Nothing is late. -/
abbrev never {α : Type} (_ : α) (_ : Text) : Prop := False

/-- What the parenthesis completes ends the text. -/
abbrev atEnd {α : Type} (_ : α) (u : Text) : Prop := u = []

theorem Followed.behind (t : Text) : Followed t (t ++ [')']) := .inr rfl

namespace Behind

variable {α β : Type} {late : α → Text → Prop} {late' : β → Text → Prop}
variable {x y x' y' : Option (α × Text)}

theorem refl (x : Option (α × Text)) : Behind late x x := by
  cases x with
  | none => exact .failed
  | some r => exact .read (.inl rfl)

theorem mono {late' : α → Text → Prop} (h : Behind late x y)
    (hlate : ∀ a u, late a u → late' a u) : Behind late' x y := by
  cases h with
  | read h => exact .read h
  | failed => exact .failed
  | late h => exact .late (hlate _ _ h)

theorem ite {c : Prop} [Decidable c] (h₁ : Behind late x y) (h₂ : Behind late x' y') :
    Behind late (if c then x else x') (if c then y else y') := by
  split
  · exact h₁
  · exact h₂

theorem map {f : α → β} (h : Behind late x y) (hlate : ∀ a u, late a u → late' (f a) u) :
    Behind late' (x.map fun r => (f r.1, r.2)) (y.map fun r => (f r.1, r.2)) := by
  cases h with
  | read h => exact .read h
  | failed => exact .failed
  | late h => exact .late (hlate _ _ h)

theorem bind {f g : α × Text → Option (β × Text)} (h : Behind late x y)
    (hread : ∀ a t u, Followed t u → Behind late' (f (a, t)) (g (a, u)))
    (hlate : ∀ a u, late a u → Behind late' none (g (a, u))) :
    Behind late' (x.bind f) (y.bind g) := by
  cases h with
  | read h => exact hread _ _ _ h
  | failed => exact .failed
  | late h => exact hlate _ _ h

end Behind

/-- A first character other than the parenthesis stands in the text itself. -/
theorem ne_cons_of_append {x : Text} {d : Char} (hd : d ≠ ')') (h : ∀ t, x = d :: t → False)
    (t : Text) : x ++ [')'] = d :: t → False := by
  intro heq
  cases x with
  | nil => exact hd (List.cons.inj heq).1.symm
  | cons c x =>
    obtain ⟨rfl, -⟩ := List.cons.inj heq
    exact h x rfl

theorem ne_pair_of_append {α : Type} {a : α} {x : Text} {d : Char} (hd : d ≠ ')')
    (h : ∀ b t, (a, x) = (b, d :: t) → False) (b : α) (t : Text) :
    (a, x ++ [')']) = (b, d :: t) → False := by
  intro heq
  have hx : ∀ t, x = d :: t → False := fun t ht => h a t (by rw [ht])
  exact ne_cons_of_append hd hx t (Prod.mk.inj heq).2

/-! ## Pieces -/

theorem dropIgnored_followed (inside : Bool) (t : Text) :
    Followed (dropIgnored inside t) (dropIgnored inside (t ++ [')'])) := by
  induction t generalizing inside with
  | nil =>
    cases inside
    · exact .behind _
    · exact .inl rfl
  | cons c t ih =>
    rw [List.cons_append, dropIgnored, dropIgnored]
    split
    · exact ih _
    · split
      · exact ih _
      · split
        · exact ih _
        · exact .behind _

namespace Followed

theorem ignore {t u : Text} (h : Followed t u) (verbose : Bool) :
    Followed (ignore verbose t) (ignore verbose u) := by
  obtain rfl | rfl := h
  · exact .inl rfl
  · unfold Pattern.ignore
    split
    · exact dropIgnored_followed false t
    · exact .behind _

theorem trimStart {t u : Text} (h : Followed t u) : Followed (trimStart t) (trimStart u) := by
  obtain rfl | rfl := h
  · exact .inl rfl
  · induction t with
    | nil => exact .behind _
    | cons c t ih =>
      unfold Text.trimStart at ih ⊢
      rw [List.cons_append, List.dropWhile_cons, List.dropWhile_cons]
      split
      · exact ih
      · exact .behind _

theorem dropMark {t u : Text} (h : Followed t u) :
    Followed (dropMark '?' t) (dropMark '?' u) := by
  obtain rfl | rfl := h
  · exact .inl rfl
  · cases t with
    | nil => exact .behind _
    | cons c t =>
      rw [List.cons_append, Pattern.dropMark, Pattern.dropMark]
      split
      · exact .behind _
      · exact .behind _

end Followed

/-- Characters that are read one by one end before the parenthesis, unless it is one of them. -/
theorem takeEach_followed (verbose : Bool) (p : Char → Bool) (bound : Nat) {t u : Text}
    (h : Followed t u) :
    (takeEach verbose p bound u).1 = (takeEach verbose p bound t).1 ∧
        Followed (takeEach verbose p bound t).2 (takeEach verbose p bound u).2 ∨
      p ')' = true ∧ (takeEach verbose p bound t).2 = [] ∧
        (takeEach verbose p bound u).2 = [] := by
  obtain rfl | rfl := h
  · exact .inl ⟨rfl, .inl rfl⟩
  induction bound generalizing t with
  | zero => exact .inl ⟨by simp [takeEach], by simp [takeEach, Followed]⟩
  | succ bound ih =>
    cases t with
    | nil =>
      rw [List.nil_append, takeEach_nil, takeEach_cons]
      split
      next hp =>
        exact .inr ⟨hp, rfl, by rw [ignore_nil, takeEach_nil]⟩
      next => exact .inl ⟨rfl, .behind _⟩
    | cons c t =>
      rw [List.cons_append, takeEach_cons, takeEach_cons]
      split
      next =>
        obtain heq | heq := (Followed.behind t).ignore verbose
        · rw [heq]
          exact .inl ⟨rfl, .inl rfl⟩
        · rw [heq]
          obtain ⟨hread, hrest⟩ | hend := ih (t := ignore verbose t)
          · exact .inl ⟨congrArg (c :: ·) hread, hrest⟩
          · exact .inr hend
      next => exact .inl ⟨rfl, .behind _⟩

theorem takeEach_of_length_le (verbose : Bool) (p : Char → Bool) {bound bound' : Nat} {t : Text}
    (h : t.length ≤ bound) (h' : t.length ≤ bound') :
    takeEach verbose p bound t = takeEach verbose p bound' t := by
  induction bound generalizing bound' t with
  | zero =>
    obtain rfl := List.length_eq_zero_iff.1 (Nat.le_zero.1 h)
    rw [takeEach_nil, takeEach_nil]
  | succ bound ih =>
    cases t with
    | nil => rw [takeEach_nil, takeEach_nil]
    | cons c t =>
      obtain ⟨bound', rfl⟩ := Nat.exists_eq_add_one_of_ne_zero (Nat.ne_zero_of_lt h')
      have hignore := ignore_length_le verbose t
      have hrest : takeEach verbose p bound (ignore verbose t) =
          takeEach verbose p bound' (ignore verbose t) :=
        ih (Nat.le_trans hignore (Nat.le_of_succ_le_succ h))
          (Nat.le_trans hignore (Nat.le_of_succ_le_succ h'))
      rw [takeEach_cons, takeEach_cons, hrest]

theorem takeAll_followed (verbose : Bool) (p : Char → Bool) {t u : Text} (h : Followed t u) :
    (takeAll verbose p u).1 = (takeAll verbose p t).1 ∧
        Followed (takeAll verbose p t).2 (takeAll verbose p u).2 ∨
      p ')' = true ∧ (takeAll verbose p t).2 = [] ∧ (takeAll verbose p u).2 = [] := by
  have hlength : t.length ≤ u.length := by
    obtain rfl | rfl := h
    · exact Nat.le_refl _
    · rw [List.length_append]
      omega
  have heq : takeAll verbose p t = takeEach verbose p u.length t :=
    takeEach_of_length_le verbose p (Nat.le_refl _) hlength
  rw [heq]
  exact takeEach_followed verbose p u.length h

/-- Characters of which the parenthesis is none end before it. -/
theorem takeAll_followed_of_not {p : Char → Bool} (hp : p ')' = false) (verbose : Bool) {t u : Text}
    (h : Followed t u) :
    ∃ a t' u', takeAll verbose p t = (a, t') ∧ takeAll verbose p u = (a, u') ∧ Followed t' u' := by
  obtain ⟨hread, hrest⟩ | ⟨hparen, -⟩ := takeAll_followed verbose p h
  · exact ⟨_, _, (takeAll verbose p u).2, rfl, Prod.ext hread rfl, hrest⟩
  · rw [hp] at hparen
    cases hparen

theorem readDecimal_followed (verbose : Bool) {t u : Text} (h : Followed t u) :
    ∃ n t' u', readDecimal verbose t = (n, t') ∧ readDecimal verbose u = (n, u') ∧
      Followed t' u' := by
  obtain ⟨digits, t', u', ht, hu, hrest⟩ :=
    takeAll_followed_of_not (p := Char.isDigit) (by decide) verbose h.trimStart
  unfold readDecimal
  rw [ht, hu]
  exact ⟨_, _, _, rfl, rfl, hrest.trimStart⟩

theorem behind_readBounds (verbose : Bool) {t u : Text} (h : Followed t u) :
    Behind never (readBounds verbose t) (readBounds verbose u) := by
  obtain ⟨low, x, y, hx, hy, hrest⟩ := readDecimal_followed verbose (h.ignore verbose)
  generalize hread : readBounds verbose u = read
  unfold readBounds at hread ⊢
  rw [hy] at hread
  rw [hx]
  -- A comment may have taken in the parenthesis; then nothing differs from here on.
  obtain rfl | rfl := hrest
  · exact hread ▸ .refl _
  -- Else every comma or brace that is met stands in the text itself.
  split
  next t₁ heq =>
    cases heq
    simp only [List.cons_append] at hread
    have hignore := (Followed.behind t₁).ignore verbose
    generalize ignore verbose t₁ = x at hignore ⊢
    generalize ignore verbose (t₁ ++ [')']) = y at hignore hread
    obtain rfl | rfl := hignore
    · exact hread ▸ .refl _
    split
    next t₂ =>
      simp only [List.cons_append] at hread
      subst hread
      cases low with
      | none => exact .failed
      | some low => exact .read (.behind _)
    next hbrace =>
      split at hread
      next t₂ heq => exact (ne_cons_of_append (by decide) hbrace t₂ heq).elim
      obtain ⟨high, x', y', hx', hy', hrest⟩ :=
        readDecimal_followed verbose (Followed.behind x)
      rw [hy'] at hread
      rw [hx']
      obtain rfl | rfl := hrest
      · exact hread ▸ .refl _
      split
      next t₂ heq =>
        cases heq
        simp only [List.cons_append] at hread
        subst hread
        cases low with
        | none => exact .failed
        | some low =>
          cases high with
          | none => exact .failed
          | some high => exact .ite (.read (.behind _)) .failed
      next hbrace' =>
        split at hread
        next heq => exact (ne_pair_of_append (by decide) hbrace' _ _ heq).elim
        next => exact hread ▸ .failed
  next t₁ heq =>
    cases heq
    simp only [List.cons_append] at hread
    subst hread
    cases low with
    | none => exact .failed
    | some low => exact .read (.behind _)
  next hcomma hbrace =>
    split at hread
    next heq => exact (ne_pair_of_append (by decide) hcomma _ _ heq).elim
    next heq => exact (ne_pair_of_append (by decide) hbrace _ _ heq).elim
    next => exact hread ▸ .failed

theorem behind_readHex (verbose : Bool) (count : Nat) {t u : Text} (h : Followed t u) :
    Behind never (readHex verbose count t) (readHex verbose count u) := by
  have hignore := h.ignore verbose
  generalize hread : readHex verbose count u = read
  unfold readHex at hread ⊢
  generalize ignore verbose t = x at hignore ⊢
  generalize ignore verbose u = y at hignore hread
  obtain rfl | rfl := hignore
  · exact hread ▸ .refl _
  split
  next t₁ =>
    simp only [List.cons_append] at hread
    obtain ⟨digits, x, y, hx, hy, hrest⟩ :=
      takeAll_followed_of_not (p := isHexDigit) (by decide) verbose
        ((Followed.behind t₁).ignore verbose)
    rw [hy] at hread
    rw [hx]
    obtain rfl | rfl := hrest
    · exact hread ▸ .refl _
    split
    next heq =>
      cases heq
      exact hread ▸ .failed
    next digits' t₂ hdigits heq =>
      cases heq
      cases digits with
      | nil => exact (hdigits rfl).elim
      | cons d digits =>
        simp only [List.cons_append] at hread
        subst hread
        cases scalar? (digitsValue 16 (d :: digits)) with
        | none => exact .failed
        | some c => exact .read (.behind _)
    next hdigits hbrace =>
      split at hread
      next => exact hread ▸ .failed
      next heq => exact (ne_pair_of_append (by decide) hbrace _ _ heq).elim
      next => exact hread ▸ .failed
  next hbrace =>
    split at hread
    next t₁ heq => exact (ne_cons_of_append (by decide) hbrace t₁ heq).elim
    obtain ⟨htake, hrest⟩ | ⟨hparen, -⟩ :=
      takeEach_followed verbose isHexDigit count (Followed.behind x)
    · dsimp only at hread ⊢
      rw [htake] at hread
      subst hread
      refine .ite .failed ?_
      cases scalar? (digitsValue 16 (takeEach verbose isHexDigit count x).1) with
      | none => exact .failed
      | some c => exact .read hrest
    · exact absurd hparen (by decide)

theorem behind_readProperty (verbose negated : Bool) {t u : Text} (h : Followed t u) :
    Behind atEnd (readProperty verbose negated t) (readProperty verbose negated u) := by
  have hignore := h.ignore verbose
  generalize hread : readProperty verbose negated u = read
  unfold readProperty at hread ⊢
  generalize ignore verbose t = x at hignore ⊢
  generalize ignore verbose u = y at hignore hread
  obtain rfl | rfl := hignore
  · exact hread ▸ .refl _
  split
  next => exact hread ▸ .late rfl
  next t₁ =>
    simp only [List.cons_append] at hread
    obtain ⟨htake, hrest⟩ | ⟨-, hend, hend'⟩ := takeAll_followed verbose (· ≠ '}')
      ((Followed.behind t₁).ignore verbose)
    · generalize takeAll verbose (· ≠ '}') (ignore verbose t₁) = x at htake hrest ⊢
      generalize takeAll verbose (· ≠ '}') (ignore verbose (t₁ ++ [')'])) = y at htake hrest hread
      obtain ⟨name, x⟩ := x
      obtain ⟨_, y⟩ := y
      obtain rfl : _ = name := htake
      obtain rfl | rfl : Followed x y := hrest
      · exact hread ▸ .refl _
      · cases x with
        | nil => exact hread ▸ .late rfl
        | cons d x => exact hread ▸ .read (.behind _)
    · generalize takeAll verbose (· ≠ '}') (ignore verbose t₁) = x at hend ⊢
      generalize takeAll verbose (· ≠ '}') (ignore verbose (t₁ ++ [')'])) = y at hend' hread
      obtain ⟨name, x⟩ := x
      obtain ⟨name', y⟩ := y
      obtain rfl : x = [] := hend
      obtain rfl : y = [] := hend'
      exact hread ▸ .failed
  next =>
    simp only [List.cons_append] at hread
    exact hread ▸ .failed
  next c t₁ hbrace hslash =>
    simp only [List.cons_append] at hread
    exact hread ▸ .read (.behind _)

/-- What is left of a word boundary whose name is cut off: braces with nothing in them, which are
no counted repetition either. -/
def CutEdge (verbose : Bool) (u : Text) : Prop := ∃ w, u = '{' :: w ∧ ignore verbose w = [')']

/-- A piece that the parenthesis completes ends the text, or is a word boundary whose name is cut
off. -/
def LatePiece (verbose : Bool) (piece : Piece) (u : Text) : Prop :=
  u = [] ∨ piece = .anchor (.word .boundary) ∧ CutEdge verbose u

theorem behind_readWordEdge (verbose : Bool) {t u : Text} (h : Followed t u) :
    Behind (LatePiece verbose) (readWordEdge verbose t) (readWordEdge verbose u) := by
  obtain rfl | rfl := h
  · exact .refl _
  generalize hread : readWordEdge verbose (t ++ [')']) = read
  unfold readWordEdge at hread ⊢
  split
  next inside =>
    simp only [List.cons_append] at hread
    have hignore := (Followed.behind inside).ignore verbose
    generalize ignore verbose inside = x at hignore ⊢
    generalize hy : ignore verbose (inside ++ [')']) = y at hignore hread
    cases x with
    | nil =>
      -- The braces are cut off. With the parenthesis in them they do not belong to the boundary.
      obtain rfl | rfl := hignore
      · exact hread ▸ .failed
      · exact hread ▸ .late (.inr ⟨rfl, _, rfl, hy⟩)
    | cons c name =>
      obtain ⟨edge, x, y', hx, hy', hrest⟩ :=
        takeAll_followed_of_not (p := isEdgeChar) (by decide) verbose hignore
      obtain ⟨name', rfl⟩ : ∃ name', y = c :: name' := by
        obtain rfl | rfl := hignore
        · exact ⟨_, rfl⟩
        · exact ⟨_, List.cons_append⟩
      dsimp only at hread ⊢
      split
      next hchar =>
        rw [if_pos hchar, hy'] at hread
        rw [hx]
        obtain rfl | rfl := hrest
        · exact hread ▸ .refl _
        split
        next t₁ heq =>
          cases heq
          simp only [List.cons_append] at hread
          subst hread
          cases wordEdges.find? fun named => named.1.toList = edge with
          | none => exact .failed
          | some named => exact .read (.behind _)
        next hbrace =>
          split at hread
          next heq => exact (ne_pair_of_append (by decide) hbrace _ _ heq).elim
          next => exact hread ▸ .failed
      next hchar =>
        rw [if_neg hchar] at hread
        exact hread ▸ .read (.behind _)
  next hbrace =>
    split at hread
    next t₁ heq => exact (ne_cons_of_append (by decide) hbrace _ heq).elim
    next => exact hread ▸ .read (.behind _)

theorem behind_readEscape (verbose : Bool) {t u : Text} (h : Followed t u) :
    Behind (LatePiece verbose) (readEscape verbose t) (readEscape verbose u) := by
  obtain rfl | rfl := h
  · exact .refl _
  cases t with
  | nil => exact .late (.inl rfl)
  | cons c t =>
    have hfollowed := Followed.behind t
    rw [List.cons_append]
    unfold readEscape
    repeat' apply Behind.ite
    any_goals exact .read hfollowed
    · exact (behind_readHex verbose 2 hfollowed).mono fun _ _ => False.elim
    · exact (behind_readHex verbose 4 hfollowed).mono fun _ _ => False.elim
    · exact (behind_readHex verbose 8 hfollowed).mono fun _ _ => False.elim
    · exact (behind_readProperty verbose _ hfollowed).mono fun _ _ => .inl
    · exact behind_readWordEdge verbose hfollowed
    · cases controlEscapes.find? fun e => e.1 = c with
      | none => exact .failed
      | some e => exact .read hfollowed

/-- A parenthesis that ends flags is all that is left. -/
abbrev atParen {α : Type} (_ : α) (u : Text) : Prop := u = [')']

theorem behind_readFlags (clearing : Bool) (seen : FlagChanges) {t u : Text} (h : Followed t u) :
    Behind atParen (readFlags clearing seen t) (readFlags clearing seen u) := by
  obtain rfl | rfl := h
  · exact .refl _
  induction t generalizing clearing seen with
  | nil => exact .late rfl
  | cons c t ih =>
    rw [List.cons_append]
    unfold readFlags
    refine .ite (.read (.behind _)) (.ite ?_ ?_)
    · cases t with
      | nil =>
        have hparen : (clearing || decide (')' = ':') || decide (')' = ')')) = true := by simp
        rw [List.nil_append]
        dsimp only
        rw [if_pos hparen]
        exact .failed
      | cons d t => exact .ite .failed (ih _ _)
    · cases flagLetters.find? fun f => f.1 = c with
      | none => exact .failed
      | some f => exact .ite .failed (ih _ _)

end CallLint.Pattern
