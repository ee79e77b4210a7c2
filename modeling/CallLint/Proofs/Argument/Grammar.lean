import CallLint.Proofs.Argument.Rejoining

/-!
# The grammar of keys

What a key is can be said without reading: an identifier with a sigil in front of it if it has one,
then white space, and one sign. A text may be divided in this way in several places, since an
identifier may end before the white space that belongs to its last escape, and since white space
outside ASCII may belong to an identifier. The sign is the same in all of them, and the key of an
argument is the longest of them.

* `Key.Identifier`, `Key.Parts`: the grammar.
* `Key.Place.follow_identifier`, `Key.Place.reads_of_follow`: what may be read is an identifier.
* `Key.read?_of_parts`: every way to divide a text leads to the same sign.
* `Argument.uncovers_iff`: the comments in front of an argument.
* `Argument.key_longest`: the key and the value of an argument.
-/

namespace CallLint

open Text

namespace Key

/-! ## The grammar -/

/-- An escape of an identifier: the code of a character, with a white space character after it if
there is one, or a character itself. -/
inductive Escape : Text → Prop
  | code {digits gap : Text} (hdigits : ∀ c ∈ digits, isHexDigit c = true)
      (hlength : 1 ≤ digits.length ∧ digits.length ≤ 6)
      (hgap : gap = [] ∨ ∃ c, gap = [c] ∧ isBlank c = true) : Escape ('\\' :: (digits ++ gap))
  | char {c : Char} (hhex : isHexDigit c = false) (hreturn : c ≠ '\r') (hline : c ≠ '\n') :
      Escape ['\\', c]

/-- A character that an identifier may begin with. -/
def StartsName (c : Char) : Prop := c.isAlpha = true ∨ c = '_' ∨ c = '-' ∨ 0x80 ≤ c.toNat

/-- A unit of an identifier, by whether it is the first. -/
inductive NameUnit : Bool → Text → Prop
  | char {first : Bool} {c : Char} (h : StartsName c) : NameUnit first [c]
  | digit {c : Char} (h : c.isDigit = true) : NameUnit false [c]
  | escape {first : Bool} {t : Text} (h : Escape t) : NameUnit first t

/-- The units of an identifier behind the first. -/
inductive Later : Text → Prop
  | nil : Later []
  | cons {u t : Text} (hu : NameUnit false u) (ht : Later t) : Later (u ++ t)

/-- An identifier. -/
def Identifier (t : Text) : Prop := ∃ u v, NameUnit true u ∧ Later v ∧ t = u ++ v

/-- One way to divide a text into a key, white space, a sign and what is behind it. -/
structure Parts (t key gap : Text) (mark : Char) (value : Text) : Prop where
  text : t = key ++ (gap ++ mark :: value)
  name : ∃ front name, key = front ++ name ∧ (front = [] ∨ front = ['$'] ∨ front = ['@']) ∧
    Identifier name
  blank : ∀ c ∈ gap, isBlank c = true
  sign : mark = ':' ∨ mark = '='
  single : ¬ (mark = '=' ∧ value.head? = some '=')

/-! ## Characters -/

theorem isHexDigit_iff {c : Char} : isHexDigit c = true ↔
    (48 ≤ c.toNat ∧ c.toNat ≤ 57) ∨ (97 ≤ c.toNat ∧ c.toNat ≤ 102) ∨
      (65 ≤ c.toNat ∧ c.toNat ≤ 70) := by
  simp only [isHexDigit, Char.isDigit, Bool.or_eq_true, Bool.and_eq_true, decide_eq_true_eq,
    Char.le_def, UInt32.le_iff_toNat_le, ge_iff_le, or_assoc]
  exact Iff.rfl

theorem isHexDigit_of_isBlank {c : Char} (h : isBlank c = true) : isHexDigit c = false := by
  refine Bool.eq_false_iff.2 fun hhex => ?_
  rw [isHexDigit_iff] at hhex
  simp only [isBlank, blankRanges, List.any_cons, List.any_nil, Bool.or_false, Bool.or_eq_true,
    Bool.and_eq_true, decide_eq_true_eq] at h
  omega

theorem isNameChar_iff {c : Char} : isNameChar c = true ↔ StartsName c ∨ c.isDigit = true := by
  simp only [isNameChar, StartsName, Char.isAlphanum, Bool.or_eq_true, decide_eq_true_eq]
  grind

theorem isDigit_of_startsName {c : Char} (h : StartsName c) : c.isDigit = false := by
  refine Bool.eq_false_iff.2 fun hdigit => ?_
  have hrange : 48 ≤ c.toNat ∧ c.toNat ≤ 57 := by
    simp only [Char.isDigit, Bool.and_eq_true, decide_eq_true_eq, UInt32.le_iff_toNat_le,
      ge_iff_le] at hdigit
    exact hdigit
  rcases h with halpha | rfl | rfl | hwide
  · rw [Token.isAlpha_iff, Token.isUpper_iff, Token.isLower_iff] at halpha
    omega
  · exact absurd hrange (by decide)
  · exact absurd hrange (by decide)
  · omega

theorem ne_backslash_of_isNameChar {c : Char} (h : isNameChar c = true) : c ≠ '\\' := by
  rintro rfl
  exact absurd h (by decide)

/-! ## Reading along a text -/

namespace Place

/-- Where the reading is behind a text, if all of it belongs to the identifier. -/
def follow (p : Place) : Text → Option Place
  | [] => some p
  | c :: t => (p.next c).bind fun q => q.follow t

theorem follow_append (p : Place) (s t : Text) :
    p.follow (s ++ t) = (p.follow s).bind fun q => q.follow t := by
  induction s generalizing p with
  | nil => rfl
  | cons c s ih =>
    rw [List.cons_append, follow, follow, Option.bind_assoc]
    exact congrArg _ (funext fun q => ih q)

theorem begin_isNameChar {c : Char} (h : isNameChar c = true) : begin c = some .unit := by
  rw [begin, if_neg (ne_backslash_of_isNameChar h), if_pos h]

/-- Where an identifier may end, it may go on with any character of a name. -/
theorem next_isNameChar {p : Place} (hp : p.final = true) {c : Char} (h : isNameChar c = true) :
    ∃ q, p.next c = some q ∧ q.final = true := by
  cases p with
  | start => cases hp
  | escaped => cases hp
  | unit => exact ⟨.unit, begin_isNameChar h, rfl⟩
  | digits room =>
    rw [next]
    split
    · exact ⟨_, rfl, rfl⟩
    split
    · exact ⟨.unit, rfl, rfl⟩
    · exact ⟨.unit, begin_isNameChar h, rfl⟩

/-- Where an identifier may end, white space ends it or belongs to it. -/
theorem next_isBlank {p q : Place} (hp : p.final = true) {c : Char} (h : isBlank c = true)
    (hq : p.next c = some q) : q.final = true := by
  cases p with
  | start => cases hp
  | escaped => cases hp
  | unit =>
    rw [next, begin] at hq
    split at hq
    next hslash =>
      subst hslash
      exact absurd h (by decide)
    split at hq
    · obtain rfl := Option.some.inj hq
      rfl
    · cases hq
  | digits room =>
    rw [next, isHexDigit_of_isBlank h, if_pos h] at hq
    obtain rfl : Place.unit = q := by simpa using hq
    rfl

theorem next_backslash {p : Place} (hp : p ≠ .escaped) : p.next '\\' = some .escaped := by
  cases p with
  | escaped => exact absurd rfl hp
  | _ => rfl

theorem next_mark {p : Place} (hp : p ≠ .escaped) {c : Char} (hc : c = ':' ∨ c = '=') :
    p.next c = none := by
  rcases hc with rfl | rfl
  · cases p with
    | escaped => exact absurd rfl hp
    | _ => rfl
  · cases p with
    | escaped => exact absurd rfl hp
    | _ => rfl

theorem follow_digits {digits : Text} {room : Nat} (h : ∀ c ∈ digits, isHexDigit c = true)
    (hlength : digits.length ≤ room) :
    (Place.digits room).follow digits = some (.digits (room - digits.length)) := by
  induction digits generalizing room with
  | nil => rfl
  | cons c digits ih =>
    have hroom : 0 < room := by
      rw [List.length_cons] at hlength
      omega
    have hnext : (Place.digits room).next c = some (.digits (room - 1)) := by
      simp [next, h c List.mem_cons_self, hroom]
    rw [follow, hnext, Option.bind_some, ih fun d hd => h d (List.mem_cons_of_mem _ hd)]
    · rw [List.length_cons, Nat.sub_sub, Nat.add_comm]
    · rw [List.length_cons] at hlength
      omega

/-- An escape may be read wherever it may begin. -/
theorem follow_escape {p : Place} (hp : p ≠ .escaped) {t : Text} (h : Escape t) :
    ∃ q, p.follow t = some q ∧ q.final = true := by
  cases h with
  | char hhex hreturn hline =>
    refine ⟨.unit, ?_, rfl⟩
    rw [follow, next_backslash hp]
    simp [follow, next, hhex, hreturn, hline]
  | @code digits gap hdigits hlength hgap =>
    obtain ⟨c, digits, rfl⟩ := List.exists_cons_of_length_pos hlength.1
    have hfirst : Place.escaped.next c = some (.digits 5) := by
      simp [next, hdigits c List.mem_cons_self]
    have hrest : (Place.digits 5).follow digits = some (.digits (5 - digits.length)) :=
      follow_digits (fun d hd => hdigits d (List.mem_cons_of_mem _ hd))
        (Nat.le_of_succ_le_succ hlength.2)
    have hcode : p.follow ('\\' :: (c :: digits ++ gap)) =
        (Place.digits (5 - digits.length)).follow gap := by
      rw [follow, next_backslash hp, Option.bind_some, List.cons_append, follow, hfirst,
        Option.bind_some, follow_append, hrest, Option.bind_some]
    rw [hcode]
    rcases hgap with rfl | ⟨d, rfl, hd⟩
    · exact ⟨_, rfl, rfl⟩
    · refine ⟨.unit, ?_, rfl⟩
      simp [follow, next, isHexDigit_of_isBlank hd, hd]

theorem follow_later {p : Place} (hp : p.final = true) {t : Text} (h : Later t) :
    ∃ q, p.follow t = some q ∧ q.final = true := by
  induction h generalizing p with
  | nil => exact ⟨p, rfl, hp⟩
  | @cons u t hu _ ih =>
    obtain ⟨q, hq, hfinal⟩ : ∃ q, p.follow u = some q ∧ q.final = true := by
      cases hu with
      | char hc =>
        obtain ⟨q, hq, hfinal⟩ := next_isNameChar hp (isNameChar_iff.2 (.inl hc))
        exact ⟨q, by simp [follow, hq], hfinal⟩
      | digit hc =>
        obtain ⟨q, hq, hfinal⟩ := next_isNameChar hp (isNameChar_iff.2 (.inr hc))
        exact ⟨q, by simp [follow, hq], hfinal⟩
      | escape hu =>
        refine follow_escape ?_ hu
        rintro rfl
        cases hp
    obtain ⟨q', hq', hfinal'⟩ := ih hfinal
    exact ⟨q', by rw [follow_append, hq, Option.bind_some, hq'], hfinal'⟩

/-- What may be read from the start is an identifier. -/
theorem follow_identifier {t : Text} (h : Identifier t) :
    ∃ q, Place.start.follow t = some q ∧ q.final = true := by
  obtain ⟨u, v, hu, hv, rfl⟩ := h
  obtain ⟨q, hq, hfinal⟩ : ∃ q, Place.start.follow u = some q ∧ q.final = true := by
    cases hu with
    | @char _ c hc =>
      have hnext : Place.start.next c = some .unit := by
        rw [next, isDigit_of_startsName hc, begin_isNameChar (isNameChar_iff.2 (.inl hc))]
        rfl
      exact ⟨.unit, by rw [follow, hnext]; rfl, rfl⟩
    | escape hu => exact follow_escape (by simp) hu
  obtain ⟨q', hq', hfinal'⟩ := follow_later hfinal hv
  exact ⟨q', by rw [follow_append, hq, Option.bind_some, hq'], hfinal'⟩

/-- What is left of an identifier, by the place that the reading of it has come to. -/
def Reads : Place → Text → Prop
  | .start, t => Identifier t
  | .unit, t => Later t
  | .escaped, t => ∃ u v, Escape ('\\' :: u) ∧ Later v ∧ t = u ++ v
  | .digits room, t => ∀ digits : Text, digits ≠ [] → digits.length + room = 6 →
      (∀ c ∈ digits, isHexDigit c = true) →
      ∃ u v, Escape ('\\' :: (digits ++ u)) ∧ Later v ∧ t = u ++ v

theorem later_of_begin {c : Char} {q : Place} {t : Text} (hq : begin c = some q)
    (h : q.Reads t) : Later (c :: t) := by
  rw [begin] at hq
  split at hq
  next hslash =>
    subst hslash
    obtain rfl := Option.some.inj hq
    obtain ⟨u, v, hu, hv, rfl⟩ := h
    exact .cons (.escape hu) hv
  next hslash =>
    split at hq
    next hname =>
      obtain rfl := Option.some.inj hq
      rcases isNameChar_iff.1 hname with hc | hc
      · exact .cons (.char hc) h
      · exact .cons (.digit hc) h
    next => cases hq

theorem identifier_of_begin {c : Char} {q : Place} {t : Text} (hdigit : c.isDigit = false)
    (hq : begin c = some q) (h : q.Reads t) : Identifier (c :: t) := by
  rw [begin] at hq
  split at hq
  next hslash =>
    subst hslash
    obtain rfl := Option.some.inj hq
    obtain ⟨u, v, hu, hv, rfl⟩ := h
    exact ⟨_, v, .escape hu, hv, rfl⟩
  next hslash =>
    split at hq
    next hname =>
      obtain rfl := Option.some.inj hq
      have hc := (isNameChar_iff.1 hname).resolve_right (by simp [hdigit])
      exact ⟨[c], t, .char hc, h, rfl⟩
    next => cases hq

/-- A text that the reading goes along, up to where an identifier may end. -/
theorem reads_of_follow {p q : Place} {t : Text} (h : p.follow t = some q)
    (hq : q.final = true) : p.Reads t := by
  induction t generalizing p with
  | nil =>
    obtain rfl := Option.some.inj h
    cases p with
    | start => cases hq
    | escaped => cases hq
    | unit => exact .nil
    | digits room =>
      intro digits hne hlength hdigits
      have hpos := List.length_pos_iff.2 hne
      refine ⟨[], [], ?_, .nil, rfl⟩
      exact .code hdigits ⟨hpos, by omega⟩ (.inl rfl)
  | cons c t ih =>
    rw [follow] at h
    obtain ⟨p', hp', hrest⟩ := Option.bind_eq_some_iff.1 h
    have hreads := ih hrest
    cases p with
    | start =>
      rw [next] at hp'
      split at hp'
      · cases hp'
      next hdigit => exact identifier_of_begin (by simpa using hdigit) hp' hreads
    | unit => exact later_of_begin hp' hreads
    | escaped =>
      rw [next] at hp'
      split at hp'
      next hhex =>
        obtain rfl := Option.some.inj hp'
        obtain ⟨u, v, hu, hv, rfl⟩ := hreads [c] (by simp) rfl (by simpa using hhex)
        exact ⟨c :: u, v, hu, hv, rfl⟩
      next hhex =>
        split at hp'
        · cases hp'
        next hline =>
          obtain rfl := Option.some.inj hp'
          simp only [Bool.or_eq_true, decide_eq_true_eq, not_or] at hline
          exact ⟨[c], t, .char (by simpa using hhex) hline.1 hline.2, hreads, rfl⟩
    | digits room =>
      intro digits hne hlength hdigits
      have hpos := List.length_pos_iff.2 hne
      rw [next] at hp'
      split at hp'
      next hhex =>
        obtain ⟨hhex, hroom⟩ : isHexDigit c = true ∧ 0 < room := by simpa using hhex
        obtain rfl := Option.some.inj hp'
        obtain ⟨u, v, hu, hv, rfl⟩ := hreads (digits ++ [c]) (by simp)
          (by rw [List.length_append, List.length_singleton]; omega)
          (by simpa [or_imp, forall_and] using ⟨hdigits, hhex⟩)
        exact ⟨c :: u, v, by simpa using hu, hv, rfl⟩
      next =>
        split at hp'
        next hblank =>
          obtain rfl := Option.some.inj hp'
          refine ⟨[c], t, ?_, hreads, rfl⟩
          exact .code hdigits ⟨hpos, by omega⟩ (.inr ⟨c, rfl, hblank⟩)
        next =>
          refine ⟨[], c :: t, ?_, later_of_begin hp' hreads, rfl⟩
          exact .code hdigits ⟨hpos, by omega⟩ (.inl rfl)

/-! ## The longest identifier -/

theorem follow_run (p : Place) (t : Text) : p.follow (p.run t).1 = some (p.run t).2.1 := by
  induction t generalizing p with
  | nil => rfl
  | cons c t ih =>
    rw [run]
    cases hq : p.next c with
    | none => rfl
    | some q =>
      dsimp only
      rw [follow, hq, Option.bind_some]
      exact ih q

theorem run_append_follow {p q : Place} {s : Text} (h : p.follow s = some q) (t : Text) :
    p.run (s ++ t) = (s ++ (q.run t).1, (q.run t).2) := by
  induction s generalizing p with
  | nil =>
    obtain rfl := Option.some.inj h
    rfl
  | cons c s ih =>
    rw [follow] at h
    obtain ⟨p', hp', hrest⟩ := Option.bind_eq_some_iff.1 h
    rw [List.cons_append, run, hp']
    dsimp only
    rw [ih hrest]
    rfl

/-- Behind an identifier, the reading may go on over some of the white space, but never over the
sign. -/
theorem run_gap {p : Place} (hp : p.final = true) {gap : Text}
    (hgap : ∀ c ∈ gap, isBlank c = true) {mark : Char} (hmark : mark = ':' ∨ mark = '=')
    (value : Text) :
    ∃ taken left q, gap = taken ++ left ∧ q.final = true ∧
      p.run (gap ++ mark :: value) = (taken, q, left ++ mark :: value) := by
  have hwaits : ∀ {q : Place}, q.final = true → q ≠ .escaped := by
    rintro q hq rfl
    cases hq
  induction gap generalizing p with
  | nil =>
    refine ⟨[], [], p, rfl, hp, ?_⟩
    rw [List.nil_append, run, next_mark (hwaits hp) hmark]
  | cons c gap ih =>
    cases hq : p.next c with
    | none =>
      refine ⟨[], c :: gap, p, rfl, hp, ?_⟩
      rw [List.cons_append, run, hq]
    | some q =>
      have hfinal := next_isBlank hp (hgap c List.mem_cons_self) hq
      obtain ⟨taken, left, q', rfl, hq', hrun⟩ :=
        ih hfinal (fun d hd => hgap d (List.mem_cons_of_mem _ hd))
      refine ⟨c :: taken, left, q', rfl, hq', ?_⟩
      rw [List.cons_append, run, hq]
      dsimp only
      rw [hrun]

end Place

/-! ## Keys -/

/-- An identifier does not begin with a sigil. -/
theorem sigil_identifier {name : Text} (h : Identifier name) (t : Text) :
    sigil (name ++ t) = ([], name ++ t) := by
  obtain ⟨c, rest, rfl, hdollar, hat⟩ : ∃ c rest, name = c :: rest ∧ c ≠ '$' ∧ c ≠ '@' := by
    obtain ⟨u, v, hu, -, rfl⟩ := h
    cases hu with
    | @char _ c hc =>
      refine ⟨c, v, rfl, ?_, ?_⟩
      · rintro rfl
        exact absurd hc (by unfold StartsName; decide)
      · rintro rfl
        exact absurd hc (by unfold StartsName; decide)
    | escape hu =>
      cases hu with
      | code _ _ _ => exact ⟨'\\', _, rfl, by decide, by decide⟩
      | char _ _ _ => exact ⟨'\\', _, rfl, by decide, by decide⟩
  simp [sigil, hdollar, hat]

/-- Every way to divide a text leads to the key that is read, which may take in some of the white
space, and to what is behind the sign. -/
theorem read?_of_parts {t key gap value : Text} {mark : Char} (h : Parts t key gap mark value) :
    ∃ taken left, gap = taken ++ left ∧ Parts t (key ++ taken) left mark value ∧
      read? t = some (key ++ taken, value) := by
  obtain ⟨front, name, rfl, hfront, hname⟩ := h.name
  obtain ⟨q, hq, hfinal⟩ := Place.follow_identifier hname
  obtain ⟨taken, left, q', rfl, hfinal', hrun⟩ := Place.run_gap hfinal h.blank h.sign value
  have htaken : Place.start.follow (name ++ taken) = some q' := by
    have hfollow := Place.follow_run q (taken ++ left ++ mark :: value)
    rw [hrun] at hfollow
    rw [Place.follow_append, hq, Option.bind_some]
    exact hfollow
  have hleft : ∀ c ∈ left, isBlank c = true := fun c hc => h.blank c (List.mem_append_right _ hc)
  have hsigil : sigil t = (front, name ++ (taken ++ left ++ mark :: value)) := by
    rw [h.text, List.append_assoc]
    rcases hfront with rfl | rfl | rfl
    · exact sigil_identifier hname _
    · rfl
    · rfl
  have hidentifier : identifier? (name ++ (taken ++ left ++ mark :: value)) =
      some (name ++ taken, left ++ mark :: value) := by
    rw [identifier?, Place.run_append_follow hq, hrun]
    dsimp only
    rw [if_pos hfinal']
  have hvalue : value? (left ++ mark :: value) = some value :=
    value?_eq_some_iff.2 ⟨left, mark, rfl, hleft, h.sign, h.single⟩
  refine ⟨taken, left, rfl, ⟨?_, ?_, hleft, h.sign, h.single⟩, ?_⟩
  · rw [h.text]
    simp
  · exact ⟨front, name ++ taken, by rw [List.append_assoc], hfront,
      Place.reads_of_follow htaken hfinal'⟩
  · refine read?_eq_some_iff.2 ⟨name ++ taken, _, ?_, hvalue, ?_⟩
    · rw [hsigil, hidentifier]
    · rw [hsigil, List.append_assoc]

theorem sigil_cases (t : Text) :
    (sigil t).1 = [] ∨ (sigil t).1 = ['$'] ∨ (sigil t).1 = ['@'] := by
  unfold sigil
  split
  · exact .inr (.inl rfl)
  · exact .inr (.inr rfl)
  · exact .inl rfl

/-- What is read is one of the ways to divide the text. -/
theorem parts_of_read? {t key value : Text} (h : read? t = some (key, value)) :
    ∃ gap mark, Parts t key gap mark value := by
  obtain ⟨name, rest, hname, hvalue, rfl⟩ := read?_eq_some_iff.1 h
  obtain ⟨gap, mark, rfl, hgap, hmark, hsingle⟩ := value?_eq_some_iff.1 hvalue
  have hidentifier : Identifier name := by
    have hfollow := Place.follow_run .start (sigil t).2
    unfold identifier? at hname
    split at hname
    next word place rest hrun =>
      split at hname
      next hfinal =>
        obtain ⟨rfl, rfl⟩ : word = name ∧ rest = gap ++ mark :: value := by simpa using hname
        rw [hrun] at hfollow
        exact Place.reads_of_follow hfollow hfinal
      next => cases hname
  refine ⟨gap, mark, ⟨?_, ⟨_, name, rfl, sigil_cases t, hidentifier⟩, hgap, hmark, hsingle⟩⟩
  rw [List.append_assoc, identifier?_append hname, sigil_append]

end Key

/-! ## Comments in front of an argument -/

namespace Argument

/-- The first text is comments, each with the white space after it, and then the second. A comment
without an end takes all the rest. -/
inductive Uncovers : Text → Text → Prop
  | bare {t : Text} (h : ¬ ['/', '*'] <+: t) : Uncovers t t
  | closed {comment gap t body : Text} (hcomment : ¬ ['*', '/'] <:+: comment)
      (hgap : ∀ c ∈ gap, Text.isBlank c = true) (hhead : ∀ c ∈ t.head?, Text.isBlank c = false)
      (h : Uncovers t body) : Uncovers ('/' :: '*' :: (comment ++ '*' :: '/' :: (gap ++ t))) body
  | opened {comment : Text} (hcomment : ¬ ['*', '/'] <:+: comment) :
      Uncovers ('/' :: '*' :: comment) []

/-- What stands behind the comments is what is left when they are dropped. -/
theorem Uncovers.eq_dropComments {t body : Text} (h : Uncovers t body)
    (hhead : ∀ c ∈ t.head?, Text.isBlank c = false) : body = dropComments false t := by
  induction h with
  | @bare t h =>
    cases t with
    | nil => rfl
    | cons c t =>
      rw [dropComments_cons (hhead c rfl)]
      rintro rfl hstar
      obtain ⟨u, rfl⟩ := List.head?_eq_some_iff.1 hstar
      exact h ⟨u, rfl⟩
  | closed hcomment hgap hrest _ ih =>
    rw [dropComments, if_neg (by simp), dropComments_closed hcomment, dropComments_blanks hgap]
    exact ih hrest
  | opened hcomment =>
    rw [dropComments, if_neg (by simp), dropComments_open hcomment]

/-- Behind the comments something stands in every text, if only nothing. -/
theorem exists_uncovers (t : Text) : ∃ body, Uncovers t body := by
  -- a comment reaches up to its first end, and what is behind it is shorter
  induction hlength : t.length using Nat.strongRecOn generalizing t with
  | ind length ih =>
    by_cases h : ['/', '*'] <+: t
    · obtain ⟨u, rfl⟩ := h
      have hcomment := Token.not_infix_readCommentBody u
      have happend := Token.readCommentBody_append u
      cases hrest : (Token.readCommentBody u).2 with
      | none =>
        rw [hrest, List.append_nil] at happend
        rw [happend] at hcomment
        exact ⟨[], .opened hcomment⟩
      | some rest =>
        rw [hrest] at happend
        obtain ⟨gap, hgap, hblank⟩ := exists_trimStart rest
        obtain ⟨body, hbody⟩ := ih (trimStart rest).length (by
          have hlong := congrArg List.length happend
          have hshort := congrArg List.length hgap
          simp only [List.length_append, List.length_cons] at hlong hshort
          simp only [List.length_append, List.length_cons, List.length_nil] at hlength
          omega) (trimStart rest) rfl
        refine ⟨body, ?_⟩
        rw [← happend]
        dsimp only
        rw [hgap]
        exact .closed hcomment hblank (isBlank_head_trimStart rest) hbody
    · exact ⟨t, .bare h⟩

theorem uncovers_iff {t body : Text} (hhead : ∀ c ∈ t.head?, Text.isBlank c = false) :
    Uncovers t body ↔ body = dropComments false t := by
  constructor
  · intro h
    exact h.eq_dropComments hhead
  · rintro rfl
    obtain ⟨body, hbody⟩ := exists_uncovers t
    rwa [← hbody.eq_dropComments hhead]

/-- The key and the value of an argument are read from what its piece holds behind the comments. -/
theorem ofPiece_cases (raw : Text) (separator : Option Separator) :
    (∃ key value, Key.read? (dropComments false (trim raw)) = some (key, value) ∧
      (ofPiece raw separator).key = some key ∧ (ofPiece raw separator).value = trim value) ∨
    (Key.read? (dropComments false (trim raw)) = none ∧
      (ofPiece raw separator).key = none ∧
      (ofPiece raw separator).value = dropComments false (trim raw)) := by
  simp only [ofPiece]
  cases Key.read? (dropComments false (trim raw)) with
  | none => exact .inr ⟨rfl, rfl, rfl⟩
  | some found => exact .inl ⟨found.1, found.2, rfl, rfl, rfl⟩

end Argument

namespace Key

/-- The sign is the same in all ways to divide a text. -/
theorem Parts.same_sign {t key gap value key' gap' value' : Text} {mark mark' : Char}
    (h : Parts t key gap mark value) (h' : Parts t key' gap' mark' value') :
    key ++ gap = key' ++ gap' ∧ mark = mark' ∧ value = value' := by
  obtain ⟨taken, left, -, -, hread⟩ := read?_of_parts h
  obtain ⟨taken', left', -, -, hread'⟩ := read?_of_parts h'
  obtain ⟨-, rfl⟩ := Prod.mk.inj (Option.some.inj (hread.symm.trans hread'))
  have htext : key ++ gap ++ mark :: value = key' ++ gap' ++ mark' :: value := by
    rw [List.append_assoc, List.append_assoc, ← h.text, ← h'.text]
  obtain ⟨hfront, hback⟩ := List.append_inj' htext rfl
  exact ⟨hfront, (List.cons.inj hback).1, rfl⟩

/-- The key that is read is the longest. -/
theorem read?_eq_iff_longest (t key : Text) :
    (∃ value, read? t = some (key, value)) ↔ (∃ gap mark value, Parts t key gap mark value) ∧
      ∀ key' gap mark value, Parts t key' gap mark value → key'.length ≤ key.length := by
  constructor
  · rintro ⟨value, hread⟩
    obtain ⟨gap, mark, hparts⟩ := parts_of_read? hread
    refine ⟨⟨gap, mark, value, hparts⟩, fun key' gap' mark' value' hparts' => ?_⟩
    obtain ⟨taken, left, -, -, hread'⟩ := read?_of_parts hparts'
    obtain ⟨rfl, -⟩ := Prod.mk.inj (Option.some.inj (hread.symm.trans hread'))
    exact (List.prefix_append key' taken).length_le
  · rintro ⟨⟨gap, mark, value, hparts⟩, hlongest⟩
    obtain ⟨taken, left, -, hlonger, hread⟩ := read?_of_parts hparts
    have hle := hlongest _ _ _ _ hlonger
    obtain rfl : taken = [] := by
      rw [← List.length_eq_zero_iff]
      rw [List.length_append] at hle
      omega
    exact ⟨value, by rw [hread, List.append_nil]⟩

end Key

open Argument Key

/-- The key of an argument is the longest key in the ways to divide what its piece holds behind the
comments in front, and its value is what is behind the sign. The sign is the same in all of these.
Where there is no such way, there is no key and all the rest is the value. -/
theorem key_longest (raw : Text) (separator : Option Separator) :
    let a := ofPiece raw separator
    ∃ body, (∀ t, Uncovers (trim raw) t ↔ t = body) ∧
      (∀ key, a.key = some key ↔ (∃ gap mark value, Parts body key gap mark value) ∧
        ∀ key' gap mark value, Parts body key' gap mark value → key'.length ≤ key.length) ∧
      (∀ key gap mark value, a.key = some key → Parts body key gap mark value →
        a.value = trim value) ∧
      ((¬ ∃ key gap mark value, Parts body key gap mark value) →
        a.key = none ∧ a.value = body) ∧
      ∀ key gap mark value key' gap' mark' value', Parts body key gap mark value →
        Parts body key' gap' mark' value' →
        key ++ gap = key' ++ gap' ∧ mark = mark' ∧ value = value' := by
  refine ⟨dropComments false (trim raw), fun t => uncovers_iff (isBlank_head_trim raw), ?_, ?_, ?_,
    fun _ _ _ _ _ _ _ _ h h' => h.same_sign h'⟩
  · intro key
    rw [← read?_eq_iff_longest]
    rcases ofPiece_cases raw separator with ⟨key', value, hread, hkey, -⟩ | ⟨hread, hkey, -⟩
    · rw [hkey, hread]
      simp
    · rw [hkey, hread]
      simp
  · intro key gap mark value hkey hparts
    rcases ofPiece_cases raw separator with ⟨key', value', hread, -, hvalue⟩ | ⟨-, hnone, -⟩
    · obtain ⟨taken, left, -, -, hread'⟩ := read?_of_parts hparts
      obtain ⟨-, rfl⟩ := Prod.mk.inj (Option.some.inj (hread.symm.trans hread'))
      exact hvalue
    · rw [hnone] at hkey
      cases hkey
  · intro hno
    rcases ofPiece_cases raw separator with ⟨key, value, hread, -, -⟩ | ⟨-, hkey, hvalue⟩
    · obtain ⟨gap, mark, hparts⟩ := parts_of_read? hread
      exact absurd ⟨key, gap, mark, value, hparts⟩ hno
    · exact ⟨hkey, hvalue⟩

/-- An escape has no more than six digits. The white space behind them belongs to the key, and so
does white space outside ASCII. The `*` that begins a comment does not end it. -/
example : (ofPiece "/*/:*/ $a\\1234567 b\u00A0 : x".toList none).key = none ∧
    (ofPiece "/*/:*/ $a\\123456 b\u00A0 : x".toList none).key =
      some "$a\\123456 b\u00A0".toList := by decide

end CallLint
