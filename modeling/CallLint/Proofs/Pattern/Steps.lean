import CallLint.Pattern

/-!
# The readers of patterns, step by step

The readers of classes and of patterns take one step after another up to a bound. This module names
their steps and gives one equation for each reader, so that what a step does can be told without
opening the loop around it.

* `readSet_succ`: the reader of classes by its steps.
* `readRest_succ`: the reader of patterns by its steps.
-/

namespace CallLint.Pattern

open Text

@[simp] theorem ignore_nil (verbose : Bool) : ignore verbose [] = [] := by
  cases verbose <;> rfl

theorem ignore_paren (verbose : Bool) : ignore verbose [')'] = [')'] := by
  cases verbose <;> rfl

theorem ignore_brace (verbose : Bool) (t : Text) : ignore verbose ('{' :: t) = '{' :: t := by
  cases verbose <;> rfl

@[simp] theorem takeEach_nil (verbose : Bool) (p : Char → Bool) (bound : Nat) :
    takeEach verbose p bound [] = ([], []) := by
  cases bound <;> rfl

theorem takeEach_cons (verbose : Bool) (p : Char → Bool) (bound : Nat) (c : Char) (t : Text) :
    takeEach verbose p (bound + 1) (c :: t) =
      if p c then
        (c :: (takeEach verbose p bound (ignore verbose t)).1,
          (takeEach verbose p bound (ignore verbose t)).2)
      else ([], c :: t) := rfl

/-! ## Classes -/

/-- Whether the text begins with a `^`, and the text after it. -/
def takeCaret : Text → Bool × Text
  | '^' :: t => (true, t)
  | t => (false, t)

theorem readPosix_colon (t : Text) :
    readPosix (':' :: t) =
      match (takeCaret t).2.span (· ≠ ':') with
      | (name, ':' :: ']' :: t') =>
        (posixNames.find? fun entry => entry.1.toList = name).map fun entry =>
          (.posix entry.2 (takeCaret t).1, t')
      | _ => none := rfl

/-- What may stand only at the start of a class. -/
theorem readSetOpening_eq (verbose : Bool) (t : Text) :
    readSetOpening verbose t =
      let sign := takeCaret (ignore verbose t)
      let rest := if sign.1 then ignore verbose sign.2 else sign.2
      match takeAll verbose (· = '-') rest with
      | ([], ']' :: t) => (sign.1, [.char ']'], ignore verbose t)
      | (dashes, t) => (sign.1, dashes.map .char, t) := by
  unfold readSetOpening
  split
  next negated rest heq =>
    split at heq
    next u hcaret =>
      cases heq
      rw [hcaret]
      rfl
    next hcaret =>
      cases heq
      have hplain : takeCaret (ignore verbose t) = (false, ignore verbose t) := by
        unfold takeCaret
        split
        next u heq => exact absurd heq (hcaret u)
        next => rfl
      rw [hplain]
      rfl

/-- The operator that a character makes together with the next one. -/
def operatorOf? (c : Char) (ahead : Option Char) : Option SetOperator :=
  if ahead ≠ some c then none
  else if c = '&' then some .intersection
  else if c = '-' then some .difference
  else if c = '~' then some .symmetricDifference
  else none

/-- What a closing bracket makes of the items: the whole class, or what is open and the items
around it. -/
def closeSet? (opened : List OpenSet) (items : List SetSyntax) :
    Option ((Bool × SetSyntax) ⊕ (List OpenSet × List SetSyntax)) :=
  match applyOperations (.ofItems items) opened with
  | (body, [.bracket _ negated]) => some (.inl (negated, body))
  | (body, .bracket outer negated :: opened) => some (.inr (opened, .bracket negated body :: outer))
  | _ => none

/-- One step of reading a class: the whole class, or what is open and the items from then on. -/
def setStep (verbose : Bool) (opened : List OpenSet) (items : List SetSyntax) (t : Text) :
    Option (((Bool × SetSyntax) ⊕ (List OpenSet × List SetSyntax)) × Text) :=
  match ignore verbose t with
  | [] => none
  | c :: t =>
    if c = '[' then
      match readPosix t with
      | some (item, t) => some (.inr (opened, item :: items), t)
      | none =>
        let inner := readSetOpening verbose t
        some (.inr (.bracket items inner.1 :: opened, inner.2.1), inner.2.2)
    else if c = ']' then (closeSet? opened items).map fun next => (next, t)
    else
      match operatorOf? c t.head? with
      | some kind =>
        let outer := applyOperations (.ofItems items) opened
        some (.inr (.operation kind outer.1 :: outer.2, []), t.tail)
      | none =>
        (readSetItem verbose (c :: t)).map fun read => (.inr (opened, read.1 :: items), read.2)

theorem readSet_succ (verbose : Bool) (bound : Nat) (opened : List OpenSet)
    (items : List SetSyntax) (t : Text) :
    readSet verbose (bound + 1) opened items t =
      (setStep verbose opened items t).bind fun read =>
        match read.1 with
        | .inl whole => some (whole.1, whole.2, read.2)
        | .inr (opened, items) => readSet verbose bound opened items read.2 := by
  rw [readSet, setStep]
  generalize ignore verbose t = x
  split
  next => rfl
  next t =>
    dsimp only
    rw [if_pos rfl]
    cases readPosix t <;> rfl
  next t =>
    dsimp only
    rw [if_neg (by decide), if_pos rfl, closeSet?]
    generalize applyOperations (.ofItems items) opened = closed
    split <;> simp_all
  next => rfl
  next => rfl
  next => rfl
  next hempty hopen hclose hand hminus htilde =>
    cases x with
    | nil => exact absurd rfl hempty
    | cons c t =>
      have hoperator : operatorOf? c t.head? = none := by
        unfold operatorOf?
        split
        next => rfl
        next hsame =>
          obtain ⟨u, rfl⟩ := List.head?_eq_some_iff.1 (Classical.not_not.1 hsame)
          rw [if_neg fun hc => hand u (by rw [hc]), if_neg fun hc => hminus u (by rw [hc]),
            if_neg fun hc => htilde u (by rw [hc])]
      dsimp only
      rw [if_neg fun hc => hopen t (by rw [hc]), if_neg fun hc => hclose t (by rw [hc]), hoperator]
      cases readSetItem verbose (c :: t) <;> rfl

/-! ## Groups -/

/-- Opens a group with a name, which follows. -/
def Reading.openNamed? (r : Reading) (t : Text) : Option (Reading × Text) :=
  match readName t with
  | none => none
  | some (name, t) =>
    if r.names.contains name then none
    else some ({ r with names := name :: r.names }.openGroup true [], t)

/-- Reads flags, either for the rest of the group or for a group of their own. -/
def Reading.takeFlags? (r : Reading) (t : Text) : Option (Reading × Text) :=
  match readFlags false [] t with
  | some ([], ')' :: _) => none
  | some (changes, ')' :: t) => some (r.setFlags changes, t)
  | some (changes, ':' :: t) => some (r.openGroup false changes, t)
  | _ => none

theorem readGroup_eq (r : Reading) (t : Text) :
    readGroup r t =
      match ignore r.verbose t with
      | '?' :: '=' :: _ => none
      | '?' :: '!' :: _ => none
      | '?' :: '<' :: '=' :: _ => none
      | '?' :: '<' :: '!' :: _ => none
      | '?' :: 'P' :: '<' :: t => r.openNamed? t
      | '?' :: '<' :: t => r.openNamed? t
      | '?' :: t => r.takeFlags? t
      | t => some (r.openGroup true [], t) := rfl

/-! ## Patterns -/

/-- A counted repetition. -/
theorem Reading.next_brace (r : Reading) (t : Text) :
    r.next '{' t =
      (readBounds r.verbose t).bind fun read =>
        (r.repeat? read.1.1 read.1.2).map fun repeated =>
          (repeated, dropMark '?' (ignore r.verbose read.2)) := by
  change ((readBounds r.verbose t).bind fun read =>
    (r.repeat? read.1.1 read.1.2).bind fun repeated =>
      some (repeated, dropMark '?' (ignore r.verbose read.2))) = _
  simp only [Option.map_eq_bind]
  rfl

theorem readRest_succ (bound : Nat) (r : Reading) (t : Text) :
    readRest (bound + 1) r t =
      match ignore r.verbose t with
      | [] => if r.opened.isEmpty then some r.level.finish else none
      | c :: t => (r.next c t).bind fun read => readRest bound read.1 read.2 := by
  rw [readRest]
  cases ignore r.verbose t with
  | nil => rfl
  | cons c t =>
    dsimp only
    cases r.next c t <;> rfl

end CallLint.Pattern
