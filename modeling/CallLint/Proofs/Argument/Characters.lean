import CallLint.Argument
import CallLint.Proofs.Text.Bytes
import CallLint.Proofs.Token.Standing

/-!
# Cutting by characters

The cuts of a text are found byte by byte. `Reading` is the same scan over characters, where a
backslash takes the whole character behind it along. `segments` are the parts between the cuts.

* `scan_utf8`: both scans cut at the same places, and end in the same state.
* `finish_of_mem_cuts`: in front of a cut, the scan is outside everything.
* `pieces_cuts`: the pieces of a text are its segments.
-/

namespace CallLint

open Text

namespace Separator

theorem char_ne_star (s : Separator) : s.char ≠ '*' := by
  cases s <;> decide

theorem char_ne_slash (s : Separator) : s.char ≠ '/' := by
  cases s <;> decide

theorem utf8Size_char (s : Separator) : s.char.utf8Size = 1 := by
  cases s <;> rfl

end Separator

namespace Cut

/-! ## The scan over characters -/

/-- What a character stands in. -/
inductive Context where
  /-- Neither a string nor a comment. -/
  | plain
  /-- A string, with its quote. -/
  | quoted (mark : Char)
  | comment
  deriving DecidableEq, Repr

/-- Where the scan over characters is. -/
structure Reading where
  context : Context
  /-- The number of open parentheses. -/
  depth : Nat
  /-- Whether the next character is taken along by the character before it. -/
  taken : Bool
  deriving DecidableEq, Repr

namespace Reading

/-- Outside strings and comments, within so many open parentheses. -/
def plain (depth : Nat) : Reading := ⟨.plain, depth, false⟩

/-- One character of the scan: the place after it, and the separator if the character is one.
`ahead` is the character after it. -/
def step (r : Reading) (c : Char) (ahead : Option Char) : Reading × Option Separator :=
  if r.taken then (⟨r.context, r.depth, false⟩, none)
  else match r.context with
    | .comment =>
      if c = '*' && ahead = some '/' then (⟨.plain, r.depth, true⟩, none) else (r, none)
    | .quoted mark =>
      if c = '\\' then (⟨r.context, r.depth, true⟩, none)
      else if c = mark then (⟨.plain, r.depth, r.taken⟩, none)
      else (r, none)
    | .plain =>
      if c = '\\' then (⟨r.context, r.depth, true⟩, none)
      else if c = '/' && ahead = some '*' then (⟨.comment, r.depth, true⟩, none)
      else if isQuote c then (⟨.quoted c, r.depth, r.taken⟩, none)
      else if c = '(' then (⟨r.context, r.depth + 1, r.taken⟩, none)
      else if c = ')' then (⟨r.context, r.depth - 1, r.taken⟩, none)
      else if c = ',' && r.depth = 0 then (r, some .comma)
      else if c = ';' && r.depth = 0 then (r, some .semicolon)
      else (r, none)

/-- The cuts of a text that begins at the given byte. -/
def cuts (r : Reading) (offset : Nat) : Text → List Cut
  | [] => []
  | c :: t =>
    let stepped := r.step c t.head?
    let rest := stepped.1.cuts (offset + c.utf8Size) t
    match stepped.2 with
    | none => rest
    | some separator => ⟨offset, separator⟩ :: rest

/-- The parts of a text between its cuts, each with the separator after it. -/
def segments (r : Reading) : Text → List (Text × Option Separator)
  | [] => [([], none)]
  | c :: t =>
    let stepped := r.step c t.head?
    let rest := stepped.1.segments t
    match stepped.2 with
    | none => rest.modifyHead fun segment => (c :: segment.1, segment.2)
    | some separator => ([], some separator) :: rest

/-- Where the scan is at the end of a text. -/
def finish (r : Reading) : Text → Reading
  | [] => r
  | c :: t => (r.step c t.head?).1.finish t

/-- Only a comma or semicolon outside everything else is a separator. -/
theorem eq_of_step_eq_some {r : Reading} {c : Char} {ahead : Option Char} {separator : Separator}
    (h : (r.step c ahead).2 = some separator) :
    r = plain 0 ∧ c = separator.char ∧ (r.step c ahead).1 = r := by
  obtain ⟨context, depth, taken⟩ := r
  unfold step at h ⊢
  cases taken with
  | true => cases h
  | false =>
    cases context with
    | comment =>
      simp only [Bool.false_eq_true, if_false] at h
      split at h <;> cases h
    | quoted mark =>
      simp only [Bool.false_eq_true, if_false] at h
      split at h
      · cases h
      · split at h <;> cases h
    | plain =>
      simp only [Bool.false_eq_true, if_false] at h ⊢
      split at h
      · cases h
      split at h
      · cases h
      split at h
      · cases h
      split at h
      · cases h
      split at h
      · cases h
      split at h
      next hc =>
        obtain ⟨rfl, rfl⟩ : c = ',' ∧ depth = 0 := by simpa using hc
        obtain rfl := Option.some.inj h
        exact ⟨rfl, rfl, rfl⟩
      split at h
      next hc =>
        obtain ⟨rfl, rfl⟩ : c = ';' ∧ depth = 0 := by simpa using hc
        obtain rfl := Option.some.inj h
        exact ⟨rfl, rfl, rfl⟩
      · cases h

/-- Only the marks of comments look at the character behind them. -/
theorem step_ahead {ahead : Option Char} (hstar : ahead ≠ some '*') (hslash : ahead ≠ some '/')
    (r : Reading) (c : Char) : r.step c ahead = r.step c none := by
  simp [step, hstar, hslash]

/-- In front of a cut, the scan is outside strings, comments and parentheses. -/
theorem finish_of_mem_cuts (r : Reading) (offset : Nat) (t : Text) :
    ∀ cut ∈ r.cuts offset t, ∃ before after, t = before ++ cut.separator.char :: after ∧
      offset + byteLength before = cut.offset ∧ r.finish before = plain 0 := by
  induction t generalizing r offset with
  | nil => simp [cuts]
  | cons c t ih =>
    have hrest : ∀ cut ∈ (r.step c t.head?).1.cuts (offset + c.utf8Size) t, ∃ before after,
        c :: t = before ++ cut.separator.char :: after ∧
          offset + byteLength before = cut.offset ∧ r.finish before = plain 0 := by
      intro cut hcut
      obtain ⟨before, after, rfl, hoffset, hfinish⟩ := ih _ _ cut hcut
      refine ⟨c :: before, after, rfl, by rw [← hoffset, byteLength_cons, Nat.add_assoc], ?_⟩
      rw [finish]
      cases before with
      | nil =>
        have hstep : r.step c (some cut.separator.char) = r.step c none :=
          step_ahead (by simp [Separator.char_ne_star]) (by simp [Separator.char_ne_slash]) r c
        rwa [List.nil_append, List.head?_cons, hstep] at hfinish
      | cons d before => exact hfinish
    rw [cuts]
    cases hsep : (r.step c t.head?).2 with
    | none => exact hrest
    | some separator =>
      intro cut hcut
      rcases List.mem_cons.1 hcut with rfl | hcut
      · obtain ⟨hr, rfl, -⟩ := eq_of_step_eq_some hsep
        exact ⟨[], t, rfl, rfl, hr⟩
      · exact hrest cut hcut

/-! ## Both scans agree -/

/-- The mode of the scan over bytes. -/
def mode : Context → Mode
  | .plain => .plain
  | .quoted mark => .quoted mark.toUInt8
  | .comment => .comment

/-- Where the scan over bytes is. -/
def state (r : Reading) : State := ⟨mode r.context, r.depth, r.taken⟩

/-- Only a quote opens a string. -/
def Sound (r : Reading) : Prop := ∀ mark, r.context = .quoted mark → isQuote mark = true

theorem lt_of_isQuote {c : Char} (h : isQuote c = true) : c.toNat < 128 := by
  rcases Token.isQuote_iff.1 h with rfl | rfl
  all_goals decide

theorem sound_plain (depth : Nat) : (plain depth).Sound := by
  rintro mark hm
  cases hm

theorem sound_step {r : Reading} (hr : r.Sound) (c : Char) (ahead : Option Char) :
    (r.step c ahead).1.Sound := by
  obtain ⟨context, depth, taken⟩ := r
  unfold step
  split
  · exact hr
  split
  · split
    · rintro mark hm
      cases hm
    · exact hr
  · split
    · exact hr
    split
    · rintro mark hm
      cases hm
    · exact hr
  · split
    · exact hr
    split
    · rintro mark hm
      cases hm
    split
    next hq =>
      rintro mark hm
      cases hm
      exact hq
    all_goals
      repeat' split
      all_goals exact hr

/-- An ASCII character makes both scans take the same step. -/
theorem step_state {r : Reading} (hr : r.Sound) {c : Char} (hc : c.toNat < 128) (t : Text) :
    r.state.step c.toUInt8 (utf8 t).head? =
      ((r.step c t.head?).1.state, (r.step c t.head?).2) := by
  have hbyte : ∀ d : Char, d.toNat < 128 → ((c.toUInt8 = d.toUInt8) = (c = d)) :=
    fun d hd => propext (toUInt8_eq_iff hc hd)
  have hahead : ∀ d : Char, d.toNat < 128 →
      (((utf8 t).head? = some d.toUInt8) = (t.head? = some d)) :=
    fun d hd => propext (head?_utf8_eq_iff hd t)
  obtain ⟨context, depth, taken⟩ := r
  unfold step State.step
  cases taken with
  | true => rfl
  | false =>
    cases context with
    | comment =>
      simp only [state, mode, hbyte '*' (by decide), hahead '/' (by decide), Bool.false_eq_true,
        if_false]
      split <;> rfl
    | quoted mark =>
      have hm := lt_of_isQuote (hr mark rfl)
      simp only [state, mode, hbyte '\\' (by decide), hbyte mark hm, Bool.false_eq_true, if_false]
      split
      · rfl
      · split <;> rfl
    | plain =>
      simp only [state, mode, isQuote, hbyte '\\' (by decide), hbyte '/' (by decide),
        hahead '*' (by decide), hbyte '\'' (by decide), hbyte '"' (by decide),
        hbyte '(' (by decide), hbyte ')' (by decide), hbyte ',' (by decide),
        hbyte ';' (by decide), Bool.false_eq_true, if_false]
      split
      · rfl
      split
      · rfl
      split
      · rfl
      split
      · rfl
      split
      · rfl
      by_cases hd : depth = 0
      · simp only [hd, decide_true, Bool.and_true]
        split
        · rfl
        · split <;> rfl
      · simp only [hd, decide_false, Bool.and_false, Bool.false_eq_true, if_false]

/-- Every other character only ends an escape. -/
theorem step_of_not_lt {r : Reading} (hr : r.Sound) {c : Char} (hc : ¬ c.toNat < 128)
    (ahead : Option Char) : r.step c ahead = (⟨r.context, r.depth, false⟩, none) := by
  have hne : ∀ d : Char, d.toNat < 128 → c ≠ d := by
    rintro d hd rfl
    exact hc hd
  obtain ⟨context, depth, taken⟩ := r
  unfold step
  cases taken with
  | true => rfl
  | false =>
    cases context with
    | comment => simp [hne '*' (by decide)]
    | quoted mark => simp [hne '\\' (by decide), hne mark (lt_of_isQuote (hr mark rfl))]
    | plain =>
      simp [isQuote, hne '\\' (by decide), hne '/' (by decide), hne '\'' (by decide),
        hne '"' (by decide), hne '(' (by decide), hne ')' (by decide), hne ',' (by decide),
        hne ';' (by decide)]

/-- So does every byte of such a character. -/
theorem state_step_of_le {r : Reading} (hr : r.Sound) {b : UInt8} (hb : 128 ≤ b.toNat)
    (ahead : Option UInt8) :
    r.state.step b ahead = ((⟨r.context, r.depth, false⟩ : Reading).state, none) := by
  have hne : ∀ d : Char, d.toNat < 128 → b ≠ d.toUInt8 := fun d hd => ne_toUInt8 hb hd
  obtain ⟨context, depth, taken⟩ := r
  unfold State.step
  cases taken with
  | true => rfl
  | false =>
    cases context with
    | comment =>
      simp only [state, mode, hne '*' (by decide), decide_false, Bool.false_and,
        Bool.false_eq_true, if_false]
    | quoted mark =>
      have hm := hne mark (lt_of_isQuote (hr mark rfl))
      simp only [state, mode, hne '\\' (by decide), hm, Bool.false_eq_true, if_false]
    | plain =>
      simp only [state, mode, hne '\\' (by decide), hne '/' (by decide), hne '\'' (by decide),
        hne '"' (by decide), hne '(' (by decide), hne ')' (by decide), hne ',' (by decide),
        hne ';' (by decide), decide_false, Bool.false_and, Bool.or_false, Bool.false_eq_true,
        if_false]

theorem scan_of_le {r : Reading} (hr : r.Sound) {bytes : List UInt8} (hne : bytes ≠ [])
    (hb : ∀ b ∈ bytes, 128 ≤ b.toNat) (offset : Nat) (rest : List UInt8) :
    scan r.state offset (bytes ++ rest) =
      scan (⟨r.context, r.depth, false⟩ : Reading).state (offset + bytes.length) rest := by
  induction bytes generalizing r offset with
  | nil => exact absurd rfl hne
  | cons b bytes ih =>
    have hstep := state_step_of_le hr (hb b List.mem_cons_self) (bytes ++ rest).head?
    rw [List.cons_append, scan, hstep]
    cases bytes with
    | nil => rfl
    | cons b' bytes =>
      have hrest : (⟨r.context, r.depth, false⟩ : Reading).Sound := hr
      have htail := ih hrest (by simp) (fun b hb' => hb b (List.mem_cons_of_mem _ hb')) (offset + 1)
      rw [htail, Nat.add_right_comm]
      rfl

/-- Both scans cut at the same places, and end in the same state. -/
theorem scan_utf8 {r : Reading} (hr : r.Sound) (offset : Nat) (t : Text) :
    scan r.state offset (utf8 t) = (r.cuts offset t, (r.finish t).state) := by
  -- one step for each character: it is one step of the bytes too, or runs over all its bytes
  induction t generalizing r offset with
  | nil => rfl
  | cons c t ih =>
    rw [utf8_cons, cuts, finish]
    by_cases hc : c.toNat < 128
    · rw [utf8EncodeChar_of_lt hc, List.singleton_append, scan, step_state hr hc,
        utf8Size_eq_one_iff.2 hc]
      have hrest := ih (sound_step hr c t.head?) (offset + 1)
      cases hsep : (r.step c t.head?).2 with
      | none => simpa [hsep] using hrest
      | some separator => simp [hrest]
    · have hrest : (⟨r.context, r.depth, false⟩ : Reading).Sound := hr
      have hpos : String.utf8EncodeChar c ≠ [] := by
        rw [← List.length_pos_iff, String.length_utf8EncodeChar]
        exact c.utf8Size_pos
      rw [scan_of_le hr hpos (le_of_mem_utf8EncodeChar hc), step_of_not_lt hr hc, ih hrest,
        String.length_utf8EncodeChar]

end Reading

theorem cuts_eq (t : Text) : cuts t = (Reading.plain 0).cuts 0 t :=
  congrArg Prod.fst (Reading.scan_utf8 (Reading.sound_plain 0) 0 t)

/-! ## Pieces -/

namespace Reading

theorem le_offset {r : Reading} {offset : Nat} {t : Text} :
    ∀ cut ∈ r.cuts offset t, offset ≤ cut.offset := by
  induction t generalizing r offset with
  | nil => simp [cuts]
  | cons c t ih =>
    have hrest : ∀ cut ∈ (r.step c t.head?).1.cuts (offset + c.utf8Size) t,
        offset ≤ cut.offset := fun cut hcut => Nat.le_of_add_right_le (ih cut hcut)
    rw [cuts]
    cases (r.step c t.head?).2 with
    | none => exact hrest
    | some separator =>
      rintro cut (_ | ⟨_, hcut⟩)
      · exact Nat.le_refl offset
      · exact hrest cut hcut

/-- The first segment is the front of the text. -/
theorem exists_segments (r : Reading) (t : Text) :
    ∃ front separator segments back,
      r.segments t = (front, separator) :: segments ∧ t = front ++ back := by
  induction t generalizing r with
  | nil => exact ⟨[], none, [], [], rfl, rfl⟩
  | cons c t ih =>
    rw [segments]
    cases (r.step c t.head?).2 with
    | none =>
      obtain ⟨front, separator, segments, back, hsegments, ht⟩ := ih (r.step c t.head?).1
      exact ⟨c :: front, separator, segments, back, by simp [hsegments], by simp [ht]⟩
    | some separator => exact ⟨[], some separator, _, c :: t, rfl, rfl⟩

end Reading

end Cut

open Cut

/-- A character in front of all cuts belongs to the first piece. -/
theorem Argument.pieces_cons {offset : Nat} {c : Char} {t : Text} {cuts : List Cut}
    (h : ∀ cut ∈ cuts, offset + c.utf8Size ≤ cut.offset) :
    pieces offset (c :: t) cuts =
      (pieces (offset + c.utf8Size) t cuts).modifyHead fun piece => (c :: piece.1, piece.2) := by
  cases cuts with
  | nil => rfl
  | cons cut cuts =>
    have hle := h cut List.mem_cons_self
    have hc := c.utf8Size_pos
    obtain ⟨n, hn⟩ : ∃ n, cut.offset - offset = n + 1 := ⟨cut.offset - offset - 1, by omega⟩
    have hrest : n + 1 - c.utf8Size = cut.offset - (offset + c.utf8Size) := by omega
    rw [pieces, pieces, hn, splitBytes, hrest]
    rfl

/-- The pieces of a text are its segments. -/
theorem Argument.pieces_cuts (r : Reading) (offset : Nat) (t : Text) :
    pieces offset t (r.cuts offset t) = r.segments t := by
  induction t generalizing r offset with
  | nil => rfl
  | cons c t ih =>
    rw [Reading.cuts, Reading.segments]
    cases hsep : (r.step c t.head?).2 with
    | none =>
      rw [pieces_cons Reading.le_offset, ih]
    | some separator =>
      obtain ⟨-, hc, -⟩ := Reading.eq_of_step_eq_some hsep
      have hsize : c.utf8Size = 1 := by rw [hc, separator.utf8Size_char]
      simp only [pieces, Nat.sub_self, splitBytes_zero, List.drop_one, List.tail_cons]
      rw [hsize, ih]

end CallLint
