import CallLint.Json.Value
import CallLint.Proofs.Json.Literal
import Mathlib.Data.List.TakeWhile

/-!
# Lists and objects

The texts of lists and objects, said without reading them: brackets around items, with commas
between the items and white space around every token.

* `Items`, `Bracketed`: the text of items up to the closing bracket, and with both brackets.
* `Member`: the text of one member of an object.
* `Reads`: a reader takes a value from certain texts and from no other ones.
* `Reads.item_iff`, `Reads.member_iff`: one round of a reader over the items of a list, and over
  the members of an object.
* `Loop.eq_ok_iff`: all rounds together read the text of the items.
-/

namespace CallLint.Json

open Text

/-- White space between tokens. -/
def Spaces (w : Text) : Prop := ∀ c ∈ w, isSpace c = true

/-- What stands in front of an item: a comma unless it is the first, and white space. -/
inductive Lead : Bool → Text → Prop
  | first {w : Text} (hw : Spaces w) : Lead true w
  | comma {w v : Text} (hw : Spaces w) (hv : Spaces v) : Lead false (w ++ ',' :: v)

/-- The text of items, one for each predicate, up to the closing bracket. -/
def Items (closing : Char) : Bool → List (Text → Prop) → Text → Prop
  | _, [], t => ∃ w, Spaces w ∧ t = w ++ [closing]
  | first, P :: Ps, t =>
    ∃ w u v, Lead first w ∧ P u ∧ Items closing false Ps v ∧ t = w ++ (u ++ v)

/-- The text of items between brackets. -/
def Bracketed (opening closing : Char) (Ps : List (Text → Prop)) (t : Text) : Prop :=
  ∃ u, Items closing true Ps u ∧ t = opening :: u

/-- The text of a member of an object. -/
def Member (key : Text) (P : Text → Prop) (t : Text) : Prop :=
  ∃ q w v u, Literal key q ∧ Spaces w ∧ Spaces v ∧ P u ∧ t = q ++ (w ++ ':' :: (v ++ u))

/-- What stands at the start of the text, after white space. -/
def Starts (P : Text → Prop) (t rest : Text) : Prop :=
  ∃ w u, Spaces w ∧ P u ∧ t = w ++ (u ++ rest)

/-- From texts that are not too long, the value is read if one of its texts is at their start. -/
def Reads {α : Type} (read : Text → Except Problem (α × Text)) (a : α) (P : Text → Prop)
    (n : Nat) : Prop :=
  ∀ t rest, t.length ≤ n → (read t = .ok (a, rest) ↔ Starts P t rest)

/-- The text begins neither with white space nor with the end of a list. -/
def Opens (t : Text) : Prop := ∃ c u, t = c :: u ∧ isSpace c = false ∧ c ≠ ']'

variable {first : Bool} {n : Nat} {t t₁ rest u v w : Text} {c : Char}

/-! ## White space -/

theorem Spaces.append (hw : Spaces w) (hv : Spaces v) : Spaces (w ++ v) := by
  intro c hc
  rcases List.mem_append.1 hc with h | h
  · exact hw c h
  · exact hv c h

theorem Lead.append (hw : Lead first w) (hv : Spaces v) : Lead first (w ++ v) := by
  cases hw with
  | first hw => exact .first (hw.append hv)
  | comma hw hu =>
    rw [List.append_assoc, List.cons_append]
    exact .comma hw (hu.append hv)

theorem skipSpace_append (hw : Spaces w) (t : Text) : skipSpace (w ++ t) = skipSpace t :=
  List.dropWhile_append_of_pos hw

theorem skipSpace_cons (hc : isSpace c = false) (t : Text) : skipSpace (c :: t) = c :: t :=
  List.dropWhile_cons_of_neg (by simp [hc])

theorem skipSpace_eq_nil_iff : skipSpace t = [] ↔ Spaces t :=
  List.dropWhile_eq_nil_iff

/-- The white space in front of a text can be told apart from it. -/
theorem skipSpace_eq_cons_iff :
    skipSpace t = c :: u ↔ isSpace c = false ∧ ∃ w, Spaces w ∧ t = w ++ c :: u := by
  constructor
  · intro h
    have hhead := List.head?_dropWhile_not isSpace t
    rw [skipSpace] at h
    refine ⟨by simpa [h] using hhead, t.takeWhile isSpace, fun _ => List.mem_takeWhile_imp, ?_⟩
    rw [← h, List.takeWhile_append_dropWhile]
  · rintro ⟨hc, w, hw, rfl⟩
    rw [skipSpace_append hw, skipSpace_cons hc]

theorem spaces_nil : Spaces [] := fun _ hc => absurd hc List.not_mem_nil

theorem spaces_reverse (hw : Spaces w) : Spaces w.reverse :=
  fun c hc => hw c (List.mem_reverse.1 hc)

/-- White space does not begin with anything else. -/
theorem Spaces.eq_nil_of_cons (hw : Spaces w) (hc : isSpace c = false) (h : c :: t = w ++ u) :
    w = [] := by
  cases w with
  | nil => rfl
  | cons d w =>
    obtain ⟨rfl, -⟩ := List.cons.inj h
    rw [hw c List.mem_cons_self] at hc
    cases hc

/-- White space does not end with anything else. -/
theorem Spaces.eq_nil_of_concat (hw : Spaces w) (hc : isSpace c = false) (h : t ++ [c] = u ++ w) :
    w = [] := by
  have hreverse := congrArg List.reverse h
  rw [List.reverse_append, List.reverse_append, List.reverse_singleton] at hreverse
  exact List.reverse_eq_nil_iff.1 ((spaces_reverse hw).eq_nil_of_cons hc hreverse)

theorem Opens.ne_nil (hu : Opens u) : u ≠ [] := by
  obtain ⟨c, u, rfl, -, -⟩ := hu
  exact List.cons_ne_nil c u

theorem Literal.opens {s : Text} (h : Literal s u) : Opens u := by
  obtain ⟨b, rfl⟩ := h.exists_cons
  exact ⟨'"', b, rfl, by decide, by decide⟩

theorem Bracketed.opens {opening closing : Char} {Ps : List (Text → Prop)}
    (h : Bracketed opening closing Ps u) (hspace : isSpace opening = false) (hend : opening ≠ ']') :
    Opens u := by
  obtain ⟨u, -, rfl⟩ := h
  exact ⟨opening, u, rfl, hspace, hend⟩

theorem Member.ne_nil {key : Text} {P : Text → Prop} (h : Member key P u) : u ≠ [] := by
  obtain ⟨q, w, v, u, hq, -, -, -, rfl⟩ := h
  exact List.append_ne_nil_of_left_ne_nil hq.opens.ne_nil _

/-! ## The items of a list -/

theorem nextItem_eq_end_iff :
    nextItem first t = .ok (false, rest) ↔ ∃ w, Spaces w ∧ t = w ++ ']' :: rest := by
  constructor
  · intro h
    unfold nextItem at h
    split at h
    · cases h
    next u hu =>
      obtain rfl : u = rest := by simpa using h
      exact (skipSpace_eq_cons_iff.1 hu).2
    · split at h
      · cases h
      split at h
      · split at h <;> cases h
      · cases h
  · rintro ⟨w, hw, rfl⟩
    rw [nextItem, skipSpace_append hw, skipSpace_cons rfl]
    rfl

theorem exists_lead_of_nextItem (h : nextItem first t = .ok (true, t₁)) :
    ∃ w, Lead first w ∧ t = w ++ t₁ := by
  unfold nextItem at h
  split at h
  · cases h
  · cases h
  next c u _ hu =>
    obtain ⟨-, w, hw, rfl⟩ := skipSpace_eq_cons_iff.1 hu
    split at h
    next hfirst =>
      obtain rfl : c :: u = t₁ := by simpa using h
      exact ⟨w, hfirst ▸ .first hw, rfl⟩
    next hfirst =>
    split at h
    next hcomma =>
      split at h
      · cases h
      · cases h
      · obtain rfl : skipSpace u = t₁ := by simpa using h
        have hfalse : first = false := by simpa using hfirst
        refine ⟨w ++ ',' :: u.takeWhile isSpace, ?_, ?_⟩
        · rw [hfalse]
          exact .comma hw fun _ => List.mem_takeWhile_imp
        · rw [hcomma, List.append_assoc, List.cons_append, skipSpace,
            List.takeWhile_append_dropWhile]
    · cases h

theorem nextItem_of_lead (hw : Lead first w) (hu : Opens u) :
    nextItem first (w ++ (u ++ rest)) = .ok (true, u ++ rest) := by
  obtain ⟨c, u, rfl, hc, hend⟩ := hu
  cases hw with
  | first hw =>
    rw [nextItem, skipSpace_append hw, List.cons_append, skipSpace_cons hc]
    simp
  | comma hw hv =>
    rw [nextItem, List.append_assoc, skipSpace_append hw, List.cons_append,
      skipSpace_cons rfl]
    simp [skipSpace_append hv, skipSpace_cons hc, hend]

/-- One round over the items of a list. -/
theorem Reads.item_iff {α : Type} {read : Text → Except Problem (α × Text)} {a : α}
    {P : Text → Prop} (hread : Reads read a P n) (hP : ∀ u, P u → Opens u) (ht : t.length ≤ n) :
    (∃ t₁, nextItem first t = .ok (true, t₁) ∧ read t₁ = .ok (a, rest)) ↔
      ∃ w u, Lead first w ∧ P u ∧ t = w ++ (u ++ rest) := by
  constructor
  · rintro ⟨t₁, hnext, ha⟩
    obtain ⟨w, hw, rfl⟩ := exists_lead_of_nextItem hnext
    rw [List.length_append] at ht
    obtain ⟨v, u, hv, hu, rfl⟩ := (hread t₁ rest (by omega)).1 ha
    exact ⟨w ++ v, u, hw.append hv, hu, (List.append_assoc ..).symm⟩
  · rintro ⟨w, u, hw, hu, rfl⟩
    rw [List.length_append] at ht
    refine ⟨u ++ rest, nextItem_of_lead hw (hP u hu), (hread _ rest (by omega)).2 ?_⟩
    exact ⟨[], u, spaces_nil, hu, rfl⟩

/-! ## The members of an object -/

theorem nextKey_eq_end_iff :
    nextKey first t = .ok (false, rest) ↔ ∃ w, Spaces w ∧ t = w ++ '}' :: rest := by
  constructor
  · intro h
    unfold nextKey at h
    split at h
    · cases h
    next u hu =>
      obtain rfl : u = rest := by simpa using h
      exact (skipSpace_eq_cons_iff.1 hu).2
    · split at h
      · split at h <;> cases h
      split at h
      · split at h <;> cases h
      · cases h
  · rintro ⟨w, hw, rfl⟩
    rw [nextKey, skipSpace_append hw, skipSpace_cons rfl]
    rfl

theorem nextKey_eq_more_iff :
    nextKey first t = .ok (true, t₁) ↔ ∃ w, Lead first w ∧ t = w ++ '"' :: t₁ := by
  constructor
  · intro h
    unfold nextKey at h
    split at h
    · cases h
    · cases h
    next c u _ hu =>
      obtain ⟨-, w, hw, rfl⟩ := skipSpace_eq_cons_iff.1 hu
      split at h
      next hfirst =>
        split at h
        next hquote =>
          obtain rfl : u = t₁ := by simpa using h
          exact ⟨w, hfirst ▸ .first hw, by rw [hquote]⟩
        · cases h
      next hfirst =>
      split at h
      next hcomma =>
        split at h
        · cases h
        next s hs =>
          obtain rfl : s = t₁ := by simpa using h
          obtain ⟨-, v, hv, rfl⟩ := skipSpace_eq_cons_iff.1 hs
          have hfalse : first = false := by simpa using hfirst
          refine ⟨w ++ ',' :: v, hfalse ▸ .comma hw hv, ?_⟩
          rw [hcomma, List.append_assoc, List.cons_append]
        · cases h
        · cases h
      · cases h
  · rintro ⟨w, hw, rfl⟩
    cases hw with
    | first hw =>
      rw [nextKey, skipSpace_append hw, skipSpace_cons rfl]
      simp
    | comma hw hv =>
      rw [nextKey, List.append_assoc, skipSpace_append hw, List.cons_append,
        skipSpace_cons rfl]
      simp [skipSpace_append hv, skipSpace_cons (show isSpace '"' = false by decide)]

theorem readColon_eq_ok_iff : readColon t = .ok rest ↔ ∃ w, Spaces w ∧ t = w ++ ':' :: rest := by
  constructor
  · intro h
    unfold readColon at h
    split at h
    · cases h
    next u hu =>
      obtain rfl := Except.ok.inj h
      exact (skipSpace_eq_cons_iff.1 hu).2
    · cases h
  · rintro ⟨w, hw, rfl⟩
    rw [readColon, skipSpace_append hw, skipSpace_cons rfl]
    rfl

/-- One round over the members of an object. -/
theorem Reads.member_iff {α : Type} {read : Text → Except Problem (α × Text)} {key : Text} {a : α}
    {P : Text → Prop} (hread : Reads read a P n) (ht : t.length ≤ n) :
    (∃ t₁, nextKey first t = .ok (true, t₁) ∧ ∃ t₂ t₃, readString t₁ = .ok (key, t₂) ∧
        readColon t₂ = .ok t₃ ∧ read t₃ = .ok (a, rest)) ↔
      ∃ w u, Lead first w ∧ Member key P u ∧ t = w ++ (u ++ rest) := by
  constructor
  · rintro ⟨t₁, hnext, t₂, t₃, hkey, hcolon, ha⟩
    obtain ⟨w, hw, rfl⟩ := nextKey_eq_more_iff.1 hnext
    obtain ⟨q, hq, heq⟩ := readString_eq_ok_iff.1 hkey
    obtain ⟨v, hv, rfl⟩ := readColon_eq_ok_iff.1 hcolon
    rw [heq] at ht ⊢
    simp only [List.length_append, List.length_cons] at ht
    obtain ⟨v', u, hv', hu, rfl⟩ := (hread t₃ rest (by omega)).1 ha
    exact ⟨w, _, hw, ⟨q, v, v', u, hq, hv, hv', hu, rfl⟩, by simp⟩
  · rintro ⟨w, u, hw, ⟨q, v, v', u, hq, hv, hv', hu, rfl⟩, rfl⟩
    obtain ⟨b, rfl⟩ := hq.exists_cons
    simp only [List.length_append, List.length_cons] at ht
    refine ⟨b ++ (v ++ ':' :: (v' ++ (u ++ rest))), nextKey_eq_more_iff.2 ⟨w, hw, by simp⟩,
      v ++ ':' :: (v' ++ (u ++ rest)), v' ++ (u ++ rest), readString_eq_ok_iff.2 ⟨_, hq, rfl⟩,
      readColon_eq_ok_iff.2 ⟨v, hv, rfl⟩, (hread _ rest ?_).2 ⟨v', u, hv', hu, rfl⟩⟩
    simp only [List.length_append]
    omega

/-! ## Rounds -/

/-- One round over items: either they are at their end, or there is an item, and others after it. -/
def readRound {α : Type} (next : Text → Except Problem (Bool × Text))
    (read : Text → Except Problem (α × Text)) (readRest : Text → Except Problem (List α × Text))
    (t : Text) : Except Problem (List α × Text) := do
  let (more, t) ← next t
  if more then
    let (a, t) ← read t
    let (as, t) ← readRest t
    return (a :: as, t)
  else return ([], t)

section

variable {α : Type} {next : Text → Except Problem (Bool × Text)}
  {read : Text → Except Problem (α × Text)} {readRest : Text → Except Problem (List α × Text)}

theorem readRound_eq_nil_iff :
    readRound next read readRest t = .ok ([], rest) ↔ next t = .ok (false, rest) := by
  rw [readRound, bind_eq_ok_iff]
  constructor
  · rintro ⟨⟨more, t₁⟩, hnext, h⟩
    cases more with
    | false =>
      obtain rfl : t₁ = rest := by simpa [pure, Except.pure] using h
      exact hnext
    | true =>
      obtain ⟨a, -, h⟩ := bind_eq_ok_iff.1 h
      obtain ⟨as, -, h⟩ := bind_eq_ok_iff.1 h
      cases h
  · intro hnext
    exact ⟨_, hnext, rfl⟩

theorem readRound_eq_cons_iff {a : α} {as : List α} :
    readRound next read readRest t = .ok (a :: as, rest) ↔
      ∃ t₁, (∃ t₀, next t = .ok (true, t₀) ∧ read t₀ = .ok (a, t₁)) ∧
        readRest t₁ = .ok (as, rest) := by
  rw [readRound, bind_eq_ok_iff]
  constructor
  · rintro ⟨⟨more, t₀⟩, hnext, h⟩
    cases more with
    | false => cases h
    | true =>
      obtain ⟨⟨b, t₁⟩, hb, h⟩ := bind_eq_ok_iff.1 h
      obtain ⟨⟨bs, t₂⟩, hbs, h⟩ := bind_eq_ok_iff.1 h
      obtain ⟨⟨rfl, rfl⟩, rfl⟩ : (b = a ∧ bs = as) ∧ t₂ = rest := by
        simpa [pure, Except.pure] using h
      exact ⟨t₁, ⟨t₀, hnext, hb⟩, hbs⟩
  · rintro ⟨t₁, ⟨t₀, hnext, ha⟩, has⟩
    exact ⟨_, hnext, bind_eq_ok_iff.2 ⟨_, ha, bind_eq_ok_iff.2 ⟨_, has, rfl⟩⟩⟩

end

theorem items_nil_iff {closing : Char} :
    (∃ u, Items closing first [] u ∧ t = u ++ rest) ↔ ∃ w, Spaces w ∧ t = w ++ closing :: rest := by
  constructor
  · rintro ⟨u, ⟨w, hw, rfl⟩, rfl⟩
    exact ⟨w, hw, by simp⟩
  · rintro ⟨w, hw, rfl⟩
    exact ⟨_, ⟨w, hw, rfl⟩, by simp⟩

theorem items_cons_iff {closing : Char} {P : Text → Prop} {Ps : List (Text → Prop)} :
    (∃ u, Items closing first (P :: Ps) u ∧ t = u ++ rest) ↔
      ∃ t₁, (∃ w u, Lead first w ∧ P u ∧ t = w ++ (u ++ t₁)) ∧
        ∃ u, Items closing false Ps u ∧ t₁ = u ++ rest := by
  constructor
  · rintro ⟨_, ⟨w, u, v, hw, hu, hv, rfl⟩, rfl⟩
    exact ⟨v ++ rest, ⟨w, u, hw, hu, by simp⟩, v, hv, rfl⟩
  · rintro ⟨_, ⟨w, u, hw, hu, rfl⟩, v, hv, rfl⟩
    exact ⟨_, ⟨w, u, v, hw, hu, hv, rfl⟩, by simp⟩

/-- After an item less text is left. -/
theorem length_lt_of_item {P : Text → Prop} (hP : ∀ u, P u → u ≠ [])
    (h : ∃ w u, Lead first w ∧ P u ∧ t = w ++ (u ++ rest)) : rest.length < t.length := by
  obtain ⟨w, u, -, hu, rfl⟩ := h
  have hpos := List.length_pos_iff.2 (hP u hu)
  simp only [List.length_append]
  omega

/-- A loop that takes an item in each round, or comes to the end. The steps that it may take are
bounded, and a longer text needs more of them. -/
structure Loop {α : Type} (closing : Char) (need : Nat → Nat)
    (next : Bool → Text → Except Problem (Bool × Text))
    (read : Nat → Text → Except Problem (α × Text))
    (loop : Nat → Bool → Text → Except Problem (List α × Text)) : Prop where
  need_lt : ∀ {m n : Nat}, m < n → need m < need n
  succ : ∀ bound first t,
    loop (bound + 1) first t = readRound (next first) (read bound) (loop bound false) t
  ends : ∀ first t rest,
    next first t = .ok (false, rest) ↔ ∃ w, Spaces w ∧ t = w ++ closing :: rest

/-- A loop reads items if each of its rounds reads an item. -/
theorem Loop.eq_ok_iff {α : Type} {closing : Char} {need : Nat → Nat}
    {next : Bool → Text → Except Problem (Bool × Text)}
    {read : Nat → Text → Except Problem (α × Text)}
    {loop : Nat → Bool → Text → Except Problem (List α × Text)} {P : α → Text → Prop} {as : List α}
    {bound : Nat} (h : Loop closing need next read loop)
    (hround : ∀ a ∈ as, ∀ bound first t rest, need t.length ≤ bound →
      ((∃ t₁, next first t = .ok (true, t₁) ∧ read bound t₁ = .ok (a, rest)) ↔
        ∃ w u, Lead first w ∧ P a u ∧ t = w ++ (u ++ rest)))
    (hP : ∀ a ∈ as, ∀ u, P a u → u ≠ []) (hbound : need t.length < bound) :
    loop bound first t = .ok (as, rest) ↔
      ∃ u, Items closing first (as.map P) u ∧ t = u ++ rest := by
  induction as generalizing bound first t with
  | nil =>
    obtain ⟨bound, rfl⟩ : ∃ b, bound = b + 1 := ⟨bound - 1, by omega⟩
    rw [h.succ, readRound_eq_nil_iff, h.ends, List.map_nil, items_nil_iff]
  | cons a as ih =>
    obtain ⟨bound, rfl⟩ : ∃ b, bound = b + 1 := ⟨bound - 1, by omega⟩
    rw [List.forall_mem_cons] at hround hP
    rw [h.succ, readRound_eq_cons_iff, List.map_cons, items_cons_iff]
    apply exists_congr
    intro t₁
    rw [hround.1 bound first t t₁ (by omega)]
    apply and_congr_right
    intro hitem
    have hlt := h.need_lt (length_lt_of_item hP.1 hitem)
    exact ih hround.2 hP.2 (by omega)

/-! ## Where a string or a bracket begins -/

theorem starts_literal_iff {s : Text} :
    Starts (Literal s) t rest ↔ ∃ t₁, skipSpace t = '"' :: t₁ ∧ readString t₁ = .ok (s, rest) := by
  constructor
  · rintro ⟨w, u, hw, hu, rfl⟩
    obtain ⟨b, rfl⟩ := hu.exists_cons
    exact ⟨b ++ rest, skipSpace_eq_cons_iff.2 ⟨by decide, w, hw, rfl⟩,
      readString_eq_ok_iff.2 ⟨_, hu, rfl⟩⟩
  · rintro ⟨t₁, hskip, hread⟩
    obtain ⟨-, w, hw, rfl⟩ := skipSpace_eq_cons_iff.1 hskip
    obtain ⟨u, hu, heq⟩ := readString_eq_ok_iff.1 hread
    exact ⟨w, u, hw, hu, by rw [heq]⟩

theorem starts_bracketed_iff {opening closing : Char} (hspace : isSpace opening = false)
    {Ps : List (Text → Prop)} :
    Starts (Bracketed opening closing Ps) t rest ↔
      ∃ t₁, skipSpace t = opening :: t₁ ∧ ∃ u, Items closing true Ps u ∧ t₁ = u ++ rest := by
  constructor
  · rintro ⟨w, _, hw, ⟨u, hu, rfl⟩, rfl⟩
    exact ⟨u ++ rest, skipSpace_eq_cons_iff.2 ⟨hspace, w, hw, rfl⟩, u, hu, rfl⟩
  · rintro ⟨_, hskip, u, hu, rfl⟩
    obtain ⟨-, w, hw, rfl⟩ := skipSpace_eq_cons_iff.1 hskip
    exact ⟨w, _, hw, ⟨u, hu, rfl⟩, rfl⟩

/-- A pair has two items and a comma between them. -/
theorem bracketed_pair_iff {opening closing : Char} {P Q : Text → Prop} :
    Bracketed opening closing [P, Q] t ↔
      ∃ w p x v q y, Spaces w ∧ P p ∧ Spaces x ∧ Spaces v ∧ Q q ∧ Spaces y ∧
        t = opening :: (w ++ (p ++ (x ++ ',' :: (v ++ (q ++ (y ++ [closing])))))) := by
  constructor
  · rintro ⟨_, ⟨w, p, _, hw, hp, ⟨w', q, _, hw', hq, ⟨y, hy, rfl⟩, rfl⟩, rfl⟩, rfl⟩
    cases hw with
    | first hw =>
      cases hw' with
      | @comma x v hx hv => exact ⟨w, p, x, v, q, y, hw, hp, hx, hv, hq, hy, by simp⟩
  · rintro ⟨w, p, x, v, q, y, hw, hp, hx, hv, hq, hy, rfl⟩
    exact ⟨_, ⟨w, p, _, .first hw, hp, ⟨_, q, _, .comma hx hv, hq, ⟨y, hy, rfl⟩, rfl⟩, rfl⟩,
      by simp⟩

end CallLint.Json
