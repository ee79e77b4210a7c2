import CallLint.Proofs.Token.Standing

/-!
# ASCII case and tokens

Nothing that has a meaning for reading a value tells the two cases of an ASCII letter apart: not
the classes of characters, not the number of bytes, and not the name `url`. So a leaf still stands
where it stood when the whole text is written in lower case.

* `caseBlind_of_capitals`: a function of characters is blind to case if it is so on 26 letters.
* `toLower_eq_iff`: only a letter can become another character.
* `trim_lowerAscii`: trimming and lower case can be exchanged.
* `Leaf.Stands.lower`: a leaf in lower case stands where the leaf stands.
-/

namespace CallLint

/-- The function gives the same for the two cases of a letter. -/
def CaseBlind {α : Type} (f : Char → α) : Prop := ∀ c, f c.toLower = f c

theorem toLower_of_not_isUpper {c : Char} (h : ¬ c.isUpper = true) : c.toLower = c := by
  have hrange : ¬ (65 ≤ c.val ∧ c.val ≤ 90) := by
    rwa [Token.isUpper_iff] at h
  exact dif_neg hrange

/-- It is enough to look at the capital letters. -/
theorem caseBlind_of_capitals {α : Type} {f : Char → α}
    (h : ∀ n < 26, f (Char.ofNat (65 + n)).toLower = f (Char.ofNat (65 + n))) : CaseBlind f := by
  intro c
  by_cases hc : c.isUpper = true
  · obtain ⟨hlow, hhigh⟩ := Token.isUpper_iff.1 hc
    have hn := h (c.toNat - 65) (by omega)
    rwa [Nat.add_sub_cancel' hlow, Char.ofNat_toNat] at hn
  · rw [toLower_of_not_isUpper hc]

theorem caseBlind_utf8Size : CaseBlind Char.utf8Size := caseBlind_of_capitals (by decide)

theorem caseBlind_toLower : CaseBlind Char.toLower := caseBlind_of_capitals (by decide)

theorem caseBlind_isAlpha : CaseBlind Char.isAlpha := caseBlind_of_capitals (by decide)

theorem caseBlind_isBlank : CaseBlind Text.isBlank := caseBlind_of_capitals (by decide)

theorem caseBlind_isQuote : CaseBlind isQuote := caseBlind_of_capitals (by decide)

theorem caseBlind_isDivider : CaseBlind isDivider := caseBlind_of_capitals (by decide)

theorem caseBlind_endsWord : CaseBlind endsWord := caseBlind_of_capitals (by decide)

theorem toLower_of_not_isAlpha {c : Char} (h : c.isAlpha = false) : c.toLower = c := by
  refine toLower_of_not_isUpper fun hc => ?_
  rw [Token.isAlpha_iff.2 (.inl hc)] at h
  cases h

/-- Only a letter can become another character. -/
theorem toLower_eq_iff (c d : Char) (hd : d.isAlpha = false) : c.toLower = d ↔ c = d := by
  constructor
  · rintro rfl
    rw [caseBlind_isAlpha] at hd
    exact (toLower_of_not_isAlpha hd).symm
  · rintro rfl
    exact toLower_of_not_isAlpha hd

theorem toLower_ne {c d : Char} (hd : d.isAlpha = false) (h : c ≠ d) : c.toLower ≠ d :=
  mt (toLower_eq_iff c d hd).1 h

theorem caseBlind_eq {d : Char} (hd : d.isAlpha = false) : CaseBlind fun c => decide (c = d) :=
  fun c => decide_eq_decide.2 (toLower_eq_iff c d hd)

theorem isAlpha_of_isQuote {c : Char} (h : isQuote c = true) : c.isAlpha = false := by
  rcases Token.isQuote_iff.1 h with rfl | rfl
  all_goals decide

namespace Text

@[simp] theorem lowerAscii_nil : lowerAscii [] = [] := rfl

@[simp] theorem lowerAscii_cons (c : Char) (t : Text) :
    lowerAscii (c :: t) = c.toLower :: lowerAscii t := rfl

@[simp] theorem lowerAscii_append (s t : Text) :
    lowerAscii (s ++ t) = lowerAscii s ++ lowerAscii t :=
  List.map_append

@[simp] theorem lowerAscii_eq_nil_iff {t : Text} : lowerAscii t = [] ↔ t = [] :=
  List.map_eq_nil_iff

theorem lowerAscii_lowerAscii (t : Text) : lowerAscii (lowerAscii t) = lowerAscii t := by
  rw [lowerAscii, lowerAscii, List.map_map]
  exact List.map_congr_left fun c _ => caseBlind_toLower c

theorem byteLength_lowerAscii (t : Text) : byteLength (lowerAscii t) = byteLength t := by
  induction t with
  | nil => rfl
  | cons c t ih => rw [lowerAscii_cons, byteLength_cons, byteLength_cons, ih, caseBlind_utf8Size]

theorem forall_mem_lowerAscii {p : Char → Bool} (hp : CaseBlind p) {b : Bool} {t : Text} :
    (∀ c ∈ lowerAscii t, p c = b) ↔ ∀ c ∈ t, p c = b := by
  rw [lowerAscii, List.forall_mem_map]
  simp only [hp _]

theorem forall_head?_lowerAscii {p : Char → Bool} (hp : CaseBlind p) {b : Bool} {t : Text} :
    (∀ c ∈ (lowerAscii t).head?, p c = b) ↔ ∀ c ∈ t.head?, p c = b := by
  cases t with
  | nil => simp
  | cons c t => simp [hp c]

theorem head?_lowerAscii_eq_iff (t : Text) (d : Char) (hd : d.isAlpha = false) :
    (lowerAscii t).head? = some d ↔ t.head? = some d := by
  cases t with
  | nil => simp
  | cons c t => simp [toLower_eq_iff c d hd]

theorem trimStart_lowerAscii (t : Text) : trimStart (lowerAscii t) = lowerAscii (trimStart t) := by
  rw [trimStart, lowerAscii, List.dropWhile_map, trimStart, lowerAscii]
  congr 2
  exact funext caseBlind_isBlank

theorem trimEnd_lowerAscii (t : Text) : trimEnd (lowerAscii t) = lowerAscii (trimEnd t) := by
  have h := trimStart_lowerAscii t.reverse
  simp only [trimStart, lowerAscii] at h
  rw [trimEnd, trimEnd, lowerAscii, ← List.map_reverse, h, lowerAscii, List.map_reverse]

theorem trim_lowerAscii (t : Text) : trim (lowerAscii t) = lowerAscii (trim t) := by
  rw [trim, trim, trimStart_lowerAscii, trimEnd_lowerAscii]

/-! ## Units -/

variable {stop : Char → Bool}

theorem Units.lower (hstop : CaseBlind stop) {t : Text} (h : Units stop t) :
    Units stop (lowerAscii t) := by
  induction h with
  | nil => exact .nil
  | escape c _ ih => exact .escape c.toLower ih
  | @plain c _ hc hs _ ih =>
    exact .plain (toLower_ne (by decide) hc) ((hstop c).trans hs) ih

theorem Breaks.lower (hstop : CaseBlind stop) {t : Text} (h : Breaks stop t) :
    Breaks stop (lowerAscii t) := by
  obtain ⟨u, hu, rfl⟩ := h
  exact ⟨lowerAscii u, hu.lower hstop, lowerAscii_append u ['\\']⟩

theorem Runs.lower (hstop : CaseBlind stop) {t after : Text} (h : Runs stop t after) :
    Runs stop (lowerAscii t) (lowerAscii after) := by
  rcases h with ⟨hu, hafter⟩ | ⟨hb, rfl⟩
  · exact .inl ⟨hu.lower hstop, (forall_head?_lowerAscii hstop).2 hafter⟩
  · exact .inr ⟨hb.lower hstop, rfl⟩

end Text

open Text

theorem Enclosed.lower {stop : Char → Bool} (hstop : CaseBlind stop) {body after : Text}
    {closed : Bool} (h : Enclosed stop body closed after) :
    Enclosed stop (lowerAscii body) closed (lowerAscii after) := by
  cases closed with
  | true => exact Units.lower hstop h
  | false =>
    obtain ⟨rfl, hu | hb⟩ := h
    · exact ⟨rfl, .inl (hu.lower hstop)⟩
    · exact ⟨rfl, .inr (hb.lower hstop)⟩

namespace Token

theorem isAddressName_lowerAscii (name : Text) :
    isAddressName (lowerAscii name) = isAddressName name := by
  rw [isAddressName, isAddressName, lowerAscii_lowerAscii]

theorem startsAddress_lowerAscii (t : Text) : startsAddress (lowerAscii t) = startsAddress t := by
  rw [startsAddress, startsAddress, trimStart_lowerAscii]
  cases trimStart t with
  | nil => rfl
  | cons c t => simp [caseBlind_isQuote c, toLower_eq_iff c ')' (by decide)]

end Token

/-- Writing a text in lower case makes no end of a comment. -/
theorem infix_of_infix_lowerAscii {t : Text} (h : ['*', '/'] <:+: lowerAscii t) :
    ['*', '/'] <:+: t := by
  induction t with
  | nil => exact h
  | cons c t ih =>
    rw [lowerAscii_cons, List.infix_cons_iff] at h
    rcases h with hprefix | hinfix
    -- neither mark is a letter, so both characters were there before
    · obtain ⟨hstar, rest, hrest⟩ := List.cons_prefix_cons.1 hprefix
      obtain rfl : c = '*' := (toLower_eq_iff c '*' (by decide)).1 hstar.symm
      have hslash : (lowerAscii t).head? = some '/' := by
        rw [← hrest]
        rfl
      obtain ⟨u, rfl⟩ :=
        List.head?_eq_some_iff.1 ((head?_lowerAscii_eq_iff t '/' (by decide)).1 hslash)
      exact ⟨[], u, rfl⟩
    · exact List.infix_cons (ih hinfix)

namespace Leaf

/-- The leaf with all its text in lower case. -/
def lower : Leaf → Leaf
  | .space t => .space (lowerAscii t)
  | .word t => .word (lowerAscii t)
  | .quoted mark body closed => .quoted mark.toLower (lowerAscii body) closed
  | .comment body closed => .comment (lowerAscii body) closed
  | .divider mark => .divider mark.toLower
  | .address name body closed => .address (lowerAscii name) (lowerAscii body) closed

@[simp] theorem text_lower (part : Leaf) : part.lower.text = lowerAscii part.text := by
  cases part with
  | quoted mark body closed => cases closed <;> simp [lower, text]
  | comment body closed => cases closed <;> simp [lower, text]
  | address name body closed => cases closed <;> simp [lower, text]
  | _ => rfl

/-- A leaf in lower case stands where the leaf stands. -/
theorem Stands.lower {part : Leaf} {after : Text} (h : part.Stands after) :
    part.lower.Stands (lowerAscii after) := by
  cases part with
  | space t =>
    obtain ⟨hne, hblank, hafter⟩ := h
    exact ⟨mt lowerAscii_eq_nil_iff.1 hne, (forall_mem_lowerAscii caseBlind_isBlank).2 hblank,
      (forall_head?_lowerAscii caseBlind_isBlank).2 hafter⟩
  | word t =>
    obtain ⟨hne, hruns, hafter⟩ := h
    exact ⟨mt lowerAscii_eq_nil_iff.1 hne, hruns.lower caseBlind_endsWord,
      mt (head?_lowerAscii_eq_iff after '(' (by decide)).1 hafter⟩
  | quoted mark body closed =>
    obtain ⟨hmark, hbody⟩ := h
    have hletter := isAlpha_of_isQuote hmark
    rw [Leaf.lower, toLower_of_not_isAlpha hletter]
    exact ⟨hmark, hbody.lower (caseBlind_eq hletter)⟩
  | comment body closed =>
    obtain ⟨hbody, hafter⟩ := h
    exact ⟨mt infix_of_infix_lowerAscii hbody, fun hc => lowerAscii_eq_nil_iff.2 (hafter hc)⟩
  | divider mark =>
    obtain ⟨hmark, hafter⟩ := h
    refine ⟨(caseBlind_isDivider mark).trans hmark, fun hslash => ?_⟩
    rw [toLower_eq_iff mark '/' (by decide)] at hslash
    exact mt (head?_lowerAscii_eq_iff after '*' (by decide)).1 (hafter hslash)
  | address name body closed =>
    obtain ⟨hname, hstarts, hbody⟩ := h
    exact ⟨(Token.isAddressName_lowerAscii name).trans hname,
      (Token.startsAddress_lowerAscii body).trans hstarts,
      hbody.lower (caseBlind_eq (by decide))⟩

end Leaf

theorem Token.stands_opening_lower {name after : Text} (h : (Token.opening name).Stands after) :
    (Token.opening (lowerAscii name)).Stands (lowerAscii after) := by
  obtain ⟨hname, haddress⟩ := h
  refine ⟨hname.lower caseBlind_endsWord, fun hurl => ?_⟩
  rw [isAddressName_lowerAscii] at hurl
  rw [startsAddress_lowerAscii]
  exact haddress hurl

end CallLint
