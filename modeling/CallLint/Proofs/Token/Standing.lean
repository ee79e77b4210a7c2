import CallLint.Token
import CallLint.Proofs.Text.Units
import Mathlib.Data.List.TakeWhile

/-!
# Where a token stands

`Token.Stands token after` says, without any scanning, that `token` can be followed by the text
`after`: its own characters have the right form, and nothing of `after` belongs to it. So a word
ends where something begins that ends words, and a string, comment or address lacks its end only
where the whole text ends.

* `next_eq_iff`: the first token of a text is the one that stands in front of the rest.
* `Leaf.Stands.front`: a leaf that stands before a text, stands before every front part of it.
-/

namespace CallLint

open Text

/-- The text between two marks: whole units, or everything up to the end of the text. -/
def Enclosed (stop : Char → Bool) (body : Text) (closed : Bool) (after : Text) : Prop :=
  if closed then Units stop body else after = [] ∧ (Units stop body ∨ Breaks stop body)

/-- The leaf has the right form, and the text behind it may follow. -/
def Leaf.Stands : Leaf → Text → Prop
  | .space t, after => t ≠ [] ∧ (∀ c ∈ t, isBlank c = true) ∧ ∀ c ∈ after.head?, isBlank c = false
  | .word t, after => t ≠ [] ∧ Runs endsWord t after ∧ after.head? ≠ some '('
  | .quoted mark body closed, after =>
    isQuote mark = true ∧ Enclosed (· = mark) body closed after
  | .comment body closed, after => ¬ ['*', '/'] <:+: body ∧ (closed = false → after = [])
  | .divider mark, after => isDivider mark = true ∧ (mark = '/' → after.head? ≠ some '*')
  | .address name body closed, after =>
    Token.isAddressName name = true ∧ Token.startsAddress body = true ∧
      Enclosed (· = ')') body closed after

namespace Token

/-- The token has the right form, and the text behind it may follow. -/
def Stands : Token → Text → Prop
  | .leaf part, after => part.Stands after
  | .opening name, after =>
    Units endsWord name ∧ (isAddressName name = true → startsAddress after = false)
  | .closing, _ => True

/-! ## Classes of characters -/

/-- A character of a class is none of those outside the class. -/
theorem ne_of_class {p : Char → Bool} {c d : Char} (hc : p c = true) (hd : p d = false) :
    c ≠ d := by
  rintro rfl
  simp [hd] at hc

theorem endsWord_eq_false_iff {c : Char} :
    endsWord c = false ↔
      isBlank c = false ∧ isQuote c = false ∧ isDivider c = false ∧ c ≠ '(' ∧ c ≠ ')' := by
  simp [endsWord, and_assoc]

theorem isQuote_iff {c : Char} : isQuote c = true ↔ c = '\'' ∨ c = '"' := by
  simp [isQuote]

theorem isDivider_iff {c : Char} :
    isDivider c = true ↔ c = ',' ∨ c = '/' ∨ c = ':' ∨ c = ';' := by
  simp [isDivider, or_assoc]

theorem isBlank_of_isQuote {c : Char} (h : isQuote c = true) : isBlank c = false := by
  rcases isQuote_iff.1 h with rfl | rfl
  all_goals decide

theorem isBlank_of_isDivider {c : Char} (h : isDivider c = true) : isBlank c = false := by
  rcases isDivider_iff.1 h with rfl | rfl | rfl | rfl
  all_goals decide

theorem isQuote_of_isDivider {c : Char} (h : isDivider c = true) : isQuote c = false := by
  rcases isDivider_iff.1 h with rfl | rfl | rfl | rfl
  all_goals decide

theorem endsWord_backslash : endsWord '\\' = false := by decide

theorem isUpper_iff {c : Char} : c.isUpper = true ↔ 65 ≤ c.toNat ∧ c.toNat ≤ 90 := by
  show decide (65 ≤ c.val ∧ c.val ≤ 90) = true ↔ _
  rw [decide_eq_true_iff, UInt32.le_iff_toNat_le, UInt32.le_iff_toNat_le]
  rfl

theorem isLower_iff {c : Char} : c.isLower = true ↔ 97 ≤ c.toNat ∧ c.toNat ≤ 122 := by
  show (decide (97 ≤ c.val) && decide (c.val ≤ 122)) = true ↔ _
  rw [Bool.and_eq_true, decide_eq_true_iff, decide_eq_true_iff, UInt32.le_iff_toNat_le,
    UInt32.le_iff_toNat_le]
  rfl

theorem isAlpha_iff {c : Char} : c.isAlpha = true ↔ c.isUpper = true ∨ c.isLower = true :=
  Bool.or_eq_true_iff

theorem isBlank_of_isAlpha {c : Char} (h : c.isAlpha = true) : isBlank c = false := by
  rw [isAlpha_iff, isUpper_iff, isLower_iff] at h
  simp only [isBlank, blankRanges, List.any_cons, List.any_nil, Bool.or_false, Bool.or_eq_false_iff,
    Bool.and_eq_false_iff, decide_eq_false_iff_not]
  omega

theorem endsWord_of_isAlpha {c : Char} (h : c.isAlpha = true) : endsWord c = false := by
  refine endsWord_eq_false_iff.2 ⟨isBlank_of_isAlpha h, ?_, ?_, ?_, ?_⟩
  · refine Bool.eq_false_iff.2 fun hq => ?_
    rcases isQuote_iff.1 hq with rfl | rfl
    all_goals exact absurd h (by decide)
  · refine Bool.eq_false_iff.2 fun hd => ?_
    rcases isDivider_iff.1 hd with rfl | rfl | rfl | rfl
    all_goals exact absurd h (by decide)
  · rintro rfl
    exact absurd h (by decide)
  · rintro rfl
    exact absurd h (by decide)

theorem isAlpha_of_toLower {c : Char} (h : c.toLower.isAlpha = true) : c.isAlpha = true := by
  by_cases hu : c.isUpper = true
  · exact isAlpha_iff.2 (.inl hu)
  · have hrange : ¬ (65 ≤ c.val ∧ c.val ≤ 90) := by
      rwa [isUpper_iff] at hu
    have hl : c.toLower = c := dif_neg hrange
    rwa [hl] at h

/-- The name of an address is made of letters. -/
theorem isAlpha_of_isAddressName {name : Text} (h : isAddressName name = true) :
    ∀ c ∈ name, c.isAlpha = true := by
  intro c hc
  have hl : lowerAscii name = ['u', 'r', 'l'] := by simpa [isAddressName] using h
  have hm : c.toLower ∈ lowerAscii name := List.mem_map_of_mem hc
  rw [hl] at hm
  apply isAlpha_of_toLower
  rcases (by simpa using hm : c.toLower = 'u' ∨ c.toLower = 'r' ∨ c.toLower = 'l') with
    h' | h' | h'
  all_goals
    rw [h']
    decide

theorem units_of_isAddressName {name : Text} (h : isAddressName name = true) :
    Units endsWord name := by
  refine units_of_forall fun c hc => ⟨?_, endsWord_of_isAlpha (isAlpha_of_isAddressName h c hc)⟩
  rintro rfl
  exact absurd (isAlpha_of_isAddressName h _ hc) (by decide)

/-! ## Bare addresses -/

theorem startsAddress_cons_blank {c : Char} (hc : isBlank c = true) (t : Text) :
    startsAddress (c :: t) = startsAddress t := by
  simp [startsAddress, trimStart, hc]

theorem startsAddress_cons {c : Char} (hc : isBlank c = false) (t : Text) :
    startsAddress (c :: t) = (!isQuote c && c ≠ ')') := by
  simp [startsAddress, trimStart, hc]

/-- Whether an address begins is settled in front of the first `)`. -/
theorem startsAddress_append_closing (s t : Text) :
    startsAddress (s ++ ')' :: t) = startsAddress s := by
  induction s with
  | nil =>
    have hb : isBlank ')' = false := by decide
    rw [List.nil_append, startsAddress_cons hb]
    decide
  | cons c s ih =>
    by_cases hc : isBlank c = true
    · rw [List.cons_append, startsAddress_cons_blank hc, startsAddress_cons_blank hc, ih]
    · rw [List.cons_append, startsAddress_cons (by simpa using hc),
        startsAddress_cons (by simpa using hc)]

/-! ## What is scanned stands -/

theorem enclosed_of_runs {stop : Char → Bool} {body : Text} (h : Runs stop body []) :
    Enclosed stop body false [] :=
  ⟨rfl, h.imp And.left And.left⟩

theorem units_of_runs {stop : Char → Bool} {body : Text} {c : Char} {rest : Text}
    (h : Runs stop body (c :: rest)) : Units stop body := by
  rcases h with ⟨hu, -⟩ | ⟨-, hn⟩
  · exact hu
  · cases hn

theorem stands_readQuoted {mark : Char} (hm : isQuote mark = true) (t : Text) :
    (readQuoted mark t).1.Stands (readQuoted mark t).2 := by
  have h := runs_readUntil (· = mark) t
  unfold readQuoted
  split
  next body hr =>
    rw [hr] at h
    exact ⟨hm, enclosed_of_runs h⟩
  next body c rest hr =>
    rw [hr] at h
    exact ⟨hm, units_of_runs h⟩

theorem not_infix_readCommentBody (t : Text) : ¬ ['*', '/'] <:+: (readCommentBody t).1 := by
  fun_induction readCommentBody t with
  | case1 => simp
  | case2 t => simp
  | case3 c t hne rest ih =>
    rw [List.infix_cons_iff]
    rintro (hp | hi)
    · obtain ⟨rfl, u, hu⟩ := List.cons_prefix_cons.1 hp
      have ht := readCommentBody_append t
      rw [show (readCommentBody t).1 = ['/'] ++ u from hu.symm] at ht
      exact hne _ rfl ht.symm
    · exact ih hi

theorem stands_readComment (t : Text) : (readComment t).1.Stands (readComment t).2 := by
  have h := not_infix_readCommentBody t
  unfold readComment
  split
  next body hr =>
    rw [hr] at h
    exact ⟨h, fun _ => rfl⟩
  next body rest hr =>
    rw [hr] at h
    exact ⟨h, by simp⟩

theorem stands_readOpening {name : Text} (hn : Units endsWord name) (t : Text) :
    (readOpening name t).1.Stands (readOpening name t).2 := by
  have h := runs_readUntil (· = ')') t
  have ht := readUntil_append (· = ')') t
  have hstop := readUntil_stop (· = ')') t
  unfold readOpening
  split
  next hboth =>
    obtain ⟨ha, hs⟩ : isAddressName name = true ∧ startsAddress t = true := by simpa using hboth
    clear hboth
    split
    next body hr =>
      rw [hr] at h ht
      obtain rfl : body = t := by simpa using ht
      exact ⟨ha, hs, enclosed_of_runs h⟩
    next body c rest hr =>
      rw [hr] at h ht hstop
      obtain rfl : c = ')' := by simpa using hstop c rest rfl
      rw [← ht, startsAddress_append_closing] at hs
      exact ⟨ha, hs, units_of_runs h⟩
  next ha =>
    refine ⟨hn, fun hname => ?_⟩
    simpa [hname] using ha

theorem stands_readWord {c : Char} {t : Text} (hc : endsWord c = false) :
    (readWord (c :: t)).1.Stands (readWord (c :: t)).2 := by
  have h := runs_readUntil endsWord (c :: t)
  have ht := readUntil_append endsWord (c :: t)
  have hstop := readUntil_stop endsWord (c :: t)
  unfold readWord
  split
  next name rest hr =>
    rw [hr] at h
    exact stands_readOpening (units_of_runs h) rest
  next name rest hne hr =>
    rw [hr] at h ht hstop
    refine ⟨?_, h, ?_⟩
    · rintro rfl
      exact absurd (hstop c t ht) (by simp [hc])
    · intro hh
      obtain ⟨r, rfl⟩ := List.head?_eq_some_iff.1 hh
      exact hne r rfl

/-- The first token of a text stands in front of the rest. -/
theorem stands_next (c : Char) (t : Text) : (next c t).1.Stands (next c t).2 := by
  unfold next
  split
  next hb =>
    refine ⟨by simp, ?_, ?_⟩
    · intro d hd
      rcases List.mem_cons.1 hd with rfl | hd
      · exact hb
      · exact List.mem_takeWhile_imp hd
    · intro d hd
      have hh := List.head?_dropWhile_not isBlank t
      rw [Option.mem_def.1 hd] at hh
      exact hh
  next hb =>
  split
  next hq => exact stands_readQuoted hq t
  next hq =>
  split
  next h => exact stands_readComment t.tail
  next h =>
  split
  next hd =>
    refine ⟨hd, ?_⟩
    rintro rfl
    simpa using h
  next hd =>
  split
  next ho => exact stands_readOpening .nil t
  next ho =>
  split
  next hc => trivial
  next hc =>
    exact stands_readWord (endsWord_eq_false_iff.2
      ⟨Bool.eq_false_iff.2 hb, Bool.eq_false_iff.2 hq, Bool.eq_false_iff.2 hd, ho, hc⟩)

/-! ## What stands is scanned -/

theorem takeWhile_append_of_blank {t after : Text} (ht : ∀ c ∈ t, isBlank c = true)
    (ha : ∀ c ∈ after.head?, isBlank c = false) :
    (t ++ after).takeWhile isBlank = t ∧ (t ++ after).dropWhile isBlank = after := by
  rw [List.takeWhile_append_of_pos ht, List.dropWhile_append_of_pos ht]
  cases after with
  | nil => simp
  | cons c after => simp [ha c rfl]

theorem readUntil_of_closed (stop : Char → Bool) (mark : Char) {body : Text}
    (hmark : stop mark = true) (hslash : stop '\\' = false) (h : Units stop body)
    (after : Text) : readUntil stop (body ++ mark :: after) = (body, mark :: after) := by
  refine readUntil_of_runs hslash (.inl ⟨h, fun c hc => ?_⟩)
  obtain rfl : mark = c := by simpa using hc
  exact hmark

theorem readUntil_of_open (stop : Char → Bool) {body : Text}
    (hslash : stop '\\' = false) (h : Units stop body ∨ Breaks stop body) :
    readUntil stop body = (body, []) := by
  have hruns : Runs stop body [] := h.imp (fun hu => ⟨hu, by simp⟩) (fun hb => ⟨hb, rfl⟩)
  have hr := readUntil_of_runs hslash hruns
  rwa [List.append_nil] at hr

theorem readQuoted_of_enclosed {mark : Char} {body after : Text} {closed : Bool}
    (hm : isQuote mark = true) (h : Enclosed (· = mark) body closed after) :
    readQuoted mark (body ++ ((if closed then [mark] else []) ++ after)) =
      (.leaf (.quoted mark body closed), after) := by
  have hslash : decide ('\\' = mark) = false := by
    refine decide_eq_false ?_
    rintro rfl
    exact absurd hm (by decide)
  cases closed with
  | true =>
    have hr := readUntil_of_closed (· = mark) mark (by simp) hslash h after
    simp [readQuoted, hr]
  | false =>
    obtain ⟨rfl, h⟩ := h
    have hr := readUntil_of_open (· = mark) hslash h
    simp [readQuoted, hr]

theorem readCommentBody_of_closed {body : Text} (h : ¬ ['*', '/'] <:+: body) (after : Text) :
    readCommentBody (body ++ '*' :: '/' :: after) = (body, some after) := by
  induction body with
  | nil => rfl
  | cons c body ih =>
    rw [List.infix_cons_iff, not_or] at h
    rw [List.cons_append, readCommentBody.eq_3]
    · rw [ih h.2]
    · rintro u rfl hu
      cases body with
      | nil => cases hu
      | cons d body =>
        obtain ⟨rfl, -⟩ := List.cons.inj hu
        exact h.1 ⟨body, rfl⟩

theorem readCommentBody_of_open {body : Text} (h : ¬ ['*', '/'] <:+: body) :
    readCommentBody body = (body, none) := by
  induction body with
  | nil => rfl
  | cons c body ih =>
    rw [List.infix_cons_iff, not_or] at h
    rw [readCommentBody.eq_3]
    · rw [ih h.2]
    · rintro u rfl rfl
      exact h.1 ⟨u, rfl⟩

theorem readComment_of_stands {body after : Text} {closed : Bool}
    (h : ¬ ['*', '/'] <:+: body) (hclosed : closed = false → after = []) :
    readComment (body ++ ((if closed then ['*', '/'] else []) ++ after)) =
      (.leaf (.comment body closed), after) := by
  cases closed with
  | true => simp [readComment, readCommentBody_of_closed h]
  | false =>
    obtain rfl := hclosed rfl
    simp [readComment, readCommentBody_of_open h]

theorem readOpening_of_address {name body after : Text} {closed : Bool}
    (hn : isAddressName name = true) (hs : startsAddress body = true)
    (h : Enclosed (· = ')') body closed after) :
    readOpening name (body ++ ((if closed then [')'] else []) ++ after)) =
      (.leaf (.address name body closed), after) := by
  cases closed with
  | true =>
    have hr := readUntil_of_closed (· = ')') ')' (by simp) (by decide) h after
    simp [readOpening, hn, startsAddress_append_closing, hs, hr]
  | false =>
    obtain ⟨rfl, h⟩ := h
    have hr := readUntil_of_open (· = ')') (by decide) h
    simp [readOpening, hn, hs, hr]

theorem readOpening_of_opening {name after : Text}
    (h : isAddressName name = true → startsAddress after = false) :
    readOpening name after = (.opening name, after) := by
  rw [readOpening, if_neg]
  intro hb
  obtain ⟨hn, hs⟩ : isAddressName name = true ∧ startsAddress after = true := by simpa using hb
  simp [h hn] at hs

theorem readWord_of_units {name : Text} (h : Units endsWord name) (after : Text) :
    readWord (name ++ '(' :: after) = readOpening name after := by
  have hr := readUntil_of_closed endsWord '(' (by decide) endsWord_backslash h after
  simp [readWord, hr]

theorem readWord_of_runs {t after : Text} (h : Runs endsWord t after)
    (hne : after.head? ≠ some '(') : readWord (t ++ after) = (.leaf (.word t), after) := by
  have hr := readUntil_of_runs endsWord_backslash h
  unfold readWord
  rw [hr]
  split
  next hp =>
    obtain ⟨-, rfl⟩ := Prod.mk.inj hp
    simp at hne
  next hp =>
    obtain ⟨rfl, rfl⟩ := Prod.mk.inj hp
    rfl

/-- A text that begins neither with white space nor with a mark of its own is read as a word. -/
theorem next_eq_readWord {c : Char} (hc : endsWord c = false) (t : Text) :
    next c t = readWord (c :: t) := by
  obtain ⟨hb, hq, hd, ho, hcl⟩ := endsWord_eq_false_iff.1 hc
  have hs : c ≠ '/' := by
    rintro rfl
    exact absurd hd (by decide)
  simp [next, hb, hq, hd, ho, hcl, hs]

theorem next_opening (t : Text) : next '(' t = readOpening [] t := by
  rw [next, if_neg (by decide), if_neg (by decide), if_neg (by simp), if_neg (by decide),
    if_pos rfl]

/-- After a name and its `(`, the text goes on as a call or as an address. -/
theorem next_name {name after : Text} (h : Units endsWord name) {c : Char} {t : Text}
    (ht : name ++ '(' :: after = c :: t) : next c t = readOpening name after := by
  cases name with
  | nil =>
    obtain ⟨rfl, rfl⟩ := List.cons.inj ht
    exact next_opening after
  | cons d name =>
    rw [← readWord_of_units h, ht]
    obtain ⟨rfl, -⟩ := List.cons.inj ht
    exact next_eq_readWord (h.head endsWord_backslash) t

theorem next_leaf {part : Leaf} {after : Text} (h : part.Stands after) {c : Char} {t : Text}
    (ht : part.text ++ after = c :: t) : next c t = (.leaf part, after) := by
  cases part with
  | space s =>
    obtain ⟨hne, hs, ha⟩ := h
    cases s with
    | nil => exact absurd rfl hne
    | cons d s =>
      obtain ⟨rfl, rfl⟩ := List.cons.inj ht
      obtain ⟨ht, hd⟩ := takeWhile_append_of_blank
        (fun c hc => hs c (List.mem_cons_of_mem _ hc)) ha
      rw [next, if_pos (hs d List.mem_cons_self), List.append_eq, ht, hd]
  | word s =>
    obtain ⟨hne, hr, ha⟩ := h
    cases s with
    | nil => exact absurd rfl hne
    | cons d s =>
      obtain ⟨rfl, rfl⟩ := List.cons.inj ht
      rw [next_eq_readWord (hr.head endsWord_backslash)]
      exact readWord_of_runs hr ha
  | quoted mark body closed =>
    obtain ⟨hm, he⟩ := h
    obtain ⟨rfl, rfl⟩ : mark = c ∧ body ++ ((if closed then [mark] else []) ++ after) = t := by
      simpa [Leaf.text] using ht
    rw [next, if_neg (by simp [isBlank_of_isQuote hm]), if_pos hm]
    exact readQuoted_of_enclosed hm he
  | comment body closed =>
    obtain ⟨hbody, hclosed⟩ := h
    obtain ⟨rfl, rfl⟩ :
        '/' = c ∧ '*' :: (body ++ ((if closed then ['*', '/'] else []) ++ after)) = t := by
      simpa [Leaf.text] using ht
    rw [next, if_neg (by decide), if_neg (by decide), if_pos (by simp)]
    exact readComment_of_stands hbody hclosed
  | divider mark =>
    obtain ⟨hd, ha⟩ := h
    obtain ⟨rfl, rfl⟩ : mark = c ∧ after = t := by simpa [Leaf.text] using ht
    rw [next, if_neg (by simp [isBlank_of_isDivider hd]),
      if_neg (by simp [isQuote_of_isDivider hd]), if_neg ?_, if_pos hd]
    simpa using ha
  | address name body closed =>
    obtain ⟨hn, hs, he⟩ := h
    have ht' : name ++ '(' :: (body ++ ((if closed then [')'] else []) ++ after)) = c :: t := by
      simpa [Leaf.text] using ht
    rw [next_name (units_of_isAddressName hn) ht']
    exact readOpening_of_address hn hs he

/-- The first token of a text is the one that stands in front of the rest. -/
theorem next_eq_iff {token : Token} {after : Text} {c : Char} {t : Text}
    (ht : token.text ++ after = c :: t) :
    next c t = (token, after) ↔ token.Stands after := by
  constructor
  · intro h
    have hs := stands_next c t
    rwa [h] at hs
  · intro h
    cases token with
    | leaf part => exact next_leaf h ht
    | opening name =>
      obtain ⟨hn, ha⟩ := h
      have ht' : name ++ '(' :: after = c :: t := by simpa [text] using ht
      rw [next_name hn ht', readOpening_of_opening ha]
    | closing =>
      obtain ⟨rfl, rfl⟩ : ')' = c ∧ after = t := by simpa [text] using ht
      rw [next, if_neg (by decide), if_neg (by decide), if_neg (by simp), if_neg (by decide),
        if_neg (by decide), if_pos rfl]

end Token

open Token

theorem Leaf.Stands.text_ne_nil {part : Leaf} {after : Text} (h : part.Stands after) :
    part.text ≠ [] := by
  cases part with
  | space t => exact h.1
  | word t => exact h.1
  | quoted mark body closed => simp [Leaf.text]
  | comment body closed => simp [Leaf.text]
  | divider mark => simp [Leaf.text]
  | address name body closed => simp [Leaf.text]

/-- Behind a leaf without its end, the text is at its end. -/
theorem Leaf.Stands.eq_nil_of_open {part : Leaf} {after : Text} (h : part.Stands after)
    (hopen : part.closed = false) : after = [] := by
  cases part with
  | quoted mark body closed =>
    obtain rfl : closed = false := hopen
    exact h.2.1
  | comment body closed => exact h.2 hopen
  | address name body closed =>
    obtain rfl : closed = false := hopen
    exact h.2.2.1
  | _ => cases hopen

/-- In front of another character a leaf has its end. -/
theorem Leaf.Stands.closed_of_append_cons {part : Leaf} {s t : Text} {c : Char}
    (h : part.Stands (s ++ c :: t)) : part.closed = true := by
  by_contra hopen
  have hnil := h.eq_nil_of_open (Bool.eq_false_iff.2 hopen)
  simp at hnil

/-- A token that stands in front of a text is scanned off it. -/
theorem Token.scan_of_stands (token : Token) {after : Text} (h : token.Stands after) :
    scan (token.text ++ after) = token :: scan after := by
  have hne : token.text ≠ [] := by
    cases token with
    | leaf part => exact Leaf.Stands.text_ne_nil h
    | opening name => simp [text]
    | closing => simp [text]
  obtain ⟨c, t, ht⟩ := List.exists_cons_of_ne_nil (List.append_ne_nil_of_left_ne_nil hne after)
  rw [ht, scan_cons, (next_eq_iff ht).2 h]

theorem Token.scan_leaf {part : Leaf} {after : Text} (h : part.Stands after) :
    Token.scan (part.text ++ after) = .leaf part :: Token.scan after :=
  Token.scan_of_stands (.leaf part) h

theorem Token.scan_closing (after : Text) :
    Token.scan (')' :: after) = .closing :: Token.scan after :=
  Token.scan_of_stands .closing trivial

/-! ## Standing before a front part -/

theorem Enclosed.front {stop : Char → Bool} {body s t : Text} {closed : Bool}
    (h : Enclosed stop body closed (s ++ t)) : Enclosed stop body closed s := by
  cases closed with
  | true => exact h
  | false =>
    obtain ⟨hnil, hbody⟩ := h
    exact ⟨(List.append_eq_nil_iff.1 hnil).1, hbody⟩

theorem head?_append_of_mem {s : Text} {c : Char} (h : c ∈ s.head?) (t : Text) :
    c ∈ (s ++ t).head? := by
  cases s with
  | nil => cases h
  | cons d s => exact h

/-- No leaf looks beyond the end of a text that it stands before. -/
theorem Leaf.Stands.front {part : Leaf} {s t : Text} (h : part.Stands (s ++ t)) :
    part.Stands s := by
  cases part with
  | space u =>
    obtain ⟨hne, hu, ha⟩ := h
    exact ⟨hne, hu, fun c hc => ha c (head?_append_of_mem hc t)⟩
  | word u =>
    obtain ⟨hne, hruns, hp⟩ := h
    refine ⟨hne, ?_, fun hs => hp (head?_append_of_mem hs t)⟩
    rcases hruns with ⟨hu, ha⟩ | ⟨hb, hnil⟩
    · exact .inl ⟨hu, fun c hc => ha c (head?_append_of_mem hc t)⟩
    · exact .inr ⟨hb, (List.append_eq_nil_iff.1 hnil).1⟩
  | quoted mark body closed =>
    obtain ⟨hm, he⟩ := h
    exact ⟨hm, he.front⟩
  | comment body closed =>
    obtain ⟨hbody, hclosed⟩ := h
    exact ⟨hbody, fun hc => (List.append_eq_nil_iff.1 (hclosed hc)).1⟩
  | divider mark =>
    obtain ⟨hd, ha⟩ := h
    exact ⟨hd, fun hm hs => ha hm (head?_append_of_mem hs t)⟩
  | address name body closed =>
    obtain ⟨hn, hs, he⟩ := h
    exact ⟨hn, hs, he.front⟩

end CallLint
