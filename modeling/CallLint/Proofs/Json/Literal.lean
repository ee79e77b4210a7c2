import CallLint.Json.Lexer
import Mathlib.Tactic.Common

/-!
# String literals

What a string of JSON is can be said without reading it: a quote, one spelling for each character
of the text, and a quote again.

* `Spells`: the ways to spell a character. There is none for half of a character, and a control
  character has to be escaped.
* `readString_eq_ok_iff`: what is read is a literal, and every literal is read.
* `Literal.unique`: no literal is the beginning of another one, and each stands for one text.
-/

namespace CallLint.Json

open Text

/-- The number that hexadecimal digits stand for. -/
def hexNumber (ds : Text) : Nat := ds.foldl (fun n d => n * 16 + hexValue d) 0

/-- Four hexadecimal digits that stand for a number. -/
structure FourDigits (ds : Text) (n : Nat) : Prop where
  length : ds.length = 4
  digits : ∀ d ∈ ds, isHexDigit d = true
  value : hexNumber ds = n

/-- The characters that spell one character of a string. -/
inductive Spells : Text → Char → Prop
  | plain {c : Char} (hquote : c ≠ '"') (hslash : c ≠ '\\') (hcontrol : 0x20 ≤ c.toNat) :
    Spells [c] c
  | quote : Spells ['\\', '"'] '"'
  | backslash : Spells ['\\', '\\'] '\\'
  | slash : Spells ['\\', '/'] '/'
  | backspace : Spells ['\\', 'b'] '\x08'
  | formFeed : Spells ['\\', 'f'] '\x0C'
  | lineFeed : Spells ['\\', 'n'] '\n'
  | carriageReturn : Spells ['\\', 'r'] '\r'
  | tab : Spells ['\\', 't'] '\t'
  /-- A character by its code point. -/
  | codePoint {ds : Text} {c : Char} (h : FourDigits ds c.toNat) : Spells ('\\' :: 'u' :: ds) c
  /-- A character beyond the first 2 ^ 16 by its two halves. -/
  | halves {ds es : Text} {high low : Nat} {c : Char} (hds : FourDigits ds high)
    (hes : FourDigits es low) (hhigh : 0xD800 ≤ high ∧ high ≤ 0xDBFF)
    (hlow : 0xDC00 ≤ low ∧ low ≤ 0xDFFF)
    (hc : c.toNat = (high - 0xD800) * 0x400 + (low - 0xDC00) + 0x10000) :
    Spells ('\\' :: 'u' :: (ds ++ '\\' :: 'u' :: es)) c

/-- The characters that spell a text. -/
inductive SpellsText : Text → Text → Prop
  | nil : SpellsText [] []
  | cons {u b : Text} {c : Char} {s : Text} (hu : Spells u c) (hb : SpellsText b s) :
    SpellsText (u ++ b) (c :: s)

/-- The literal stands for the text. -/
def Literal (s q : Text) : Prop := ∃ b, SpellsText b s ∧ q = '"' :: (b ++ ['"'])

/-! ## Digits -/

theorem hexValue_lt (c : Char) : hexValue c < 16 := by
  have hle : ∀ d : Char, (c ≤ d) = (c.toNat ≤ d.toNat) := fun d => rfl
  unfold hexValue
  split
  next h =>
    have h' : c.toNat ≤ '9'.toNat := by
      simp only [Char.isDigit, Bool.and_eq_true, decide_eq_true_eq] at h
      exact h.2
    have h9 : '9'.toNat = 57 := rfl
    have h0 : '0'.toNat = 48 := rfl
    omega
  split
  next h =>
    simp only [hle, Bool.and_eq_true, decide_eq_true_eq] at h
    have hf : 'f'.toNat = 102 := rfl
    have ha : 'a'.toNat = 97 := rfl
    omega
  split
  next h =>
    simp only [hle, Bool.and_eq_true, decide_eq_true_eq] at h
    have hF : 'F'.toNat = 70 := rfl
    have hA : 'A'.toNat = 65 := rfl
    omega
  · omega

theorem FourDigits.exists_eq {ds : Text} {n : Nat} (h : FourDigits ds n) :
    ∃ a b c d, ds = [a, b, c, d] := by
  match ds, h.length with
  | [a, b, c, d], _ => exact ⟨a, b, c, d, rfl⟩

theorem FourDigits.lt {ds : Text} {n : Nat} (h : FourDigits ds n) : n < 0x10000 := by
  obtain ⟨a, b, c, d, rfl⟩ := h.exists_eq
  have ha := hexValue_lt a
  have hb := hexValue_lt b
  have hc := hexValue_lt c
  have hd := hexValue_lt d
  rw [← h.value]
  simp only [hexNumber, List.foldl_cons, List.foldl_nil]
  omega

theorem readHex_eq_ok_iff {t rest : Text} {n : Nat} :
    readHex t = .ok (n, rest) ↔ ∃ ds, FourDigits ds n ∧ t = ds ++ rest := by
  constructor
  · intro h
    unfold readHex at h
    split at h
    next a b c d rest' =>
      split at h
      next hall =>
        obtain ⟨rfl, rfl⟩ := Prod.mk.inj (Except.ok.inj h)
        exact ⟨[a, b, c, d], ⟨rfl, by simpa using hall, rfl⟩, rfl⟩
      · cases h
    · split at h
      · cases h
      · cases h
  · rintro ⟨ds, h, rfl⟩
    obtain ⟨a, b, c, d, rfl⟩ := h.exists_eq
    have hall : [a, b, c, d].all isHexDigit = true := List.all_eq_true.2 h.digits
    rw [← h.value]
    exact if_pos hall

/-! ## Characters -/

theorem toNat_ofNat_of_lt {n : Nat} (hlow : n < 0xD800 ∨ 0xDFFF < n) (hlt : n < 0x110000) :
    (Char.ofNat n).toNat = n := by
  have hvalid : n.isValidChar := by
    rcases hlow with h | h
    · exact .inl h
    · exact .inr ⟨h, hlt⟩
  rw [Char.ofNat, dif_pos hvalid]
  rfl

/-- No character stands in the place of a half. -/
theorem toNat_not_half (c : Char) : c.toNat < 0xD800 ∨ 0xDFFF < c.toNat := by
  rcases c.valid with h | h
  · exact .inl h
  · exact .inr h.1

theorem readCodePoint_eq_ok_iff {t rest : Text} {c : Char} :
    readCodePoint t = .ok (c, rest) ↔ ∃ u, Spells ('\\' :: 'u' :: u) c ∧ t = u ++ rest := by
  constructor
  · intro h
    obtain ⟨⟨n, t₁⟩, hn, hfirst⟩ := bind_eq_ok_iff.1 h
    obtain ⟨ds, hds, rfl⟩ := readHex_eq_ok_iff.1 hn
    dsimp only at hfirst
    split at hfirst
    · cases hfirst
    next htrailing =>
    split at hfirst
    next hleading =>
      split at hfirst
      · cases hfirst
      · split at hfirst
        · cases hfirst
        next t₂ =>
          obtain ⟨⟨m, t₃⟩, hm, hsecond⟩ := bind_eq_ok_iff.1 hfirst
          obtain ⟨es, hes, rfl⟩ := readHex_eq_ok_iff.1 hm
          dsimp only at hsecond
          split at hsecond
          next hm' =>
            obtain ⟨rfl, rfl⟩ := Prod.mk.inj (Except.ok.inj hsecond)
            simp only [isLeading, isTrailing, Bool.and_eq_true, decide_eq_true_eq] at hleading hm'
            refine ⟨ds ++ '\\' :: 'u' :: es, .halves hds hes hleading hm' ?_, by simp⟩
            exact toNat_ofNat_of_lt (by omega) (by omega)
          · cases hsecond
        · cases hfirst
      · cases hfirst
    next hleading =>
      obtain ⟨rfl, rfl⟩ := Prod.mk.inj (Except.ok.inj hfirst)
      have hlt := hds.lt
      simp only [isLeading, isTrailing, Bool.and_eq_true, decide_eq_true_eq] at hleading htrailing
      have hnat : (Char.ofNat n).toNat = n := toNat_ofNat_of_lt (by omega) (by omega)
      exact ⟨ds, .codePoint (by rwa [hnat]), rfl⟩
  · rintro ⟨u, hu, rfl⟩
    cases hu with
    | codePoint h =>
      have hhalf := toNat_not_half c
      have htrailing : isTrailing c.toNat = false := by
        simp only [isTrailing, Bool.and_eq_false_iff, decide_eq_false_iff_not]
        omega
      have hleading : isLeading c.toNat = false := by
        simp only [isLeading, Bool.and_eq_false_iff, decide_eq_false_iff_not]
        omega
      refine bind_eq_ok_iff.2 ⟨_, readHex_eq_ok_iff.2 ⟨u, h, rfl⟩, ?_⟩
      simp [htrailing, hleading, pure, Except.pure]
    | @halves ds es high low _ hds hes hhigh hlow hc =>
      have htrailing : isTrailing high = false := by
        simp only [isTrailing, Bool.and_eq_false_iff, decide_eq_false_iff_not]
        omega
      have hleading : isLeading high = true := by simpa [isLeading] using hhigh
      have hlow' : isTrailing low = true := by simpa [isTrailing] using hlow
      have hchar : Char.ofNat ((high - 0xD800) * 0x400 + (low - 0xDC00) + 0x10000) = c := by
        rw [← hc, Char.ofNat_toNat]
      rw [List.append_assoc]
      refine bind_eq_ok_iff.2 ⟨_, readHex_eq_ok_iff.2 ⟨ds, hds, rfl⟩, ?_⟩
      simp only [htrailing, hleading, List.cons_append, Bool.false_eq_true, if_false, if_true]
      refine bind_eq_ok_iff.2 ⟨_, readHex_eq_ok_iff.2 ⟨es, hes, rfl⟩, ?_⟩
      simp [hlow', hchar, pure, Except.pure]

theorem spells_of_mem {e : Char × Char} (h : e ∈ letterEscapes) : Spells ['\\', e.1] e.2 := by
  simp only [letterEscapes, List.mem_cons, List.not_mem_nil, or_false] at h
  rcases h with rfl | rfl | rfl | rfl | rfl | rfl | rfl | rfl
  · exact .quote
  · exact .backslash
  · exact .slash
  · exact .backspace
  · exact .formFeed
  · exact .lineFeed
  · exact .carriageReturn
  · exact .tab

theorem readEscape_eq_ok_iff {t rest : Text} {c : Char} :
    readEscape t = .ok (c, rest) ↔ ∃ u, Spells ('\\' :: u) c ∧ t = u ++ rest := by
  constructor
  · intro h
    unfold readEscape at h
    split at h
    · cases h
    next t =>
      obtain ⟨u, hu, rfl⟩ := readCodePoint_eq_ok_iff.1 h
      exact ⟨'u' :: u, hu, rfl⟩
    next e t _ =>
      split at h
      next found d hfind =>
        obtain ⟨rfl, rfl⟩ := Prod.mk.inj (Except.ok.inj h)
        have hletter : found = e := by simpa using List.find?_some hfind
        have hmem := List.mem_of_find?_eq_some hfind
        rw [hletter] at hmem
        exact ⟨[e], spells_of_mem hmem, rfl⟩
      · cases h
  · rintro ⟨u, hu, rfl⟩
    cases hu with
    | plain _ hslash _ => exact absurd rfl hslash
    | codePoint h => exact readCodePoint_eq_ok_iff.2 ⟨_, .codePoint h, rfl⟩
    | halves hds hes hhigh hlow hc =>
      exact readCodePoint_eq_ok_iff.2 ⟨_, .halves hds hes hhigh hlow hc, rfl⟩
    | _ => rfl

/-- A spelling is a character that needs no escape, or it is an escape. -/
theorem Spells.cases {u : Text} {c : Char} (h : Spells u c) :
    (u = [c] ∧ c ≠ '"' ∧ c ≠ '\\' ∧ ¬ c.toNat < 0x20) ∨ ∃ v, u = '\\' :: v := by
  cases h with
  | plain hquote hslash hcontrol => exact .inl ⟨rfl, hquote, hslash, by omega⟩
  | _ => exact .inr ⟨_, rfl⟩

/-! ## Strings -/

theorem readStringRest_eq_ok_iff {bound : Nat} {t s rest : Text} (hbound : t.length < bound) :
    readStringRest bound t = .ok (s, rest) ↔ ∃ b, SpellsText b s ∧ t = b ++ '"' :: rest := by
  induction bound generalizing t s with
  | zero => omega
  | succ bound ih =>
    constructor
    · intro h
      cases t with
      | nil => cases h
      | cons c t =>
        rw [List.length_cons] at hbound
        rw [readStringRest] at h
        split at h
        next hc =>
          obtain ⟨rfl, rfl⟩ := Prod.mk.inj (Except.ok.inj h)
          exact ⟨[], .nil, by rw [hc]; rfl⟩
        next hquote =>
        split at h
        next hc =>
          obtain ⟨⟨d, t₁⟩, hd, hrest⟩ := bind_eq_ok_iff.1 h
          obtain ⟨⟨s', t₂⟩, hs, hpair⟩ := bind_eq_ok_iff.1 hrest
          obtain ⟨rfl, rfl⟩ := Prod.mk.inj (Except.ok.inj hpair)
          obtain ⟨u, hu, rfl⟩ := readEscape_eq_ok_iff.1 hd
          rw [List.length_append] at hbound
          obtain ⟨b, hb, rfl⟩ := (ih (by omega)).1 hs
          exact ⟨('\\' :: u) ++ b, .cons hu hb, by simp [hc]⟩
        next hslash =>
        split at h
        · cases h
        next hcontrol =>
          obtain ⟨⟨s', t₂⟩, hs, hpair⟩ := bind_eq_ok_iff.1 h
          obtain ⟨rfl, rfl⟩ := Prod.mk.inj (Except.ok.inj hpair)
          obtain ⟨b, hb, rfl⟩ := (ih (by omega)).1 hs
          exact ⟨[c] ++ b, .cons (.plain hquote hslash (by omega)) hb, rfl⟩
    · rintro ⟨b, hb, rfl⟩
      cases hb with
      | nil => rfl
      | @cons u b c s hu hb =>
        rw [List.length_append, List.length_append] at hbound
        have hpos : 0 < u.length := by
          rcases hu.cases with ⟨rfl, -⟩ | ⟨v, rfl⟩
          · exact Nat.succ_pos _
          · exact Nat.succ_pos _
        have hrest : readStringRest bound (b ++ '"' :: rest) = .ok (s, rest) :=
          (ih (by rw [List.length_append]; omega)).2 ⟨b, hb, rfl⟩
        rcases hu.cases with ⟨rfl, hquote, hslash, hcontrol⟩ | ⟨v, rfl⟩
        · simp only [List.cons_append, List.nil_append, readStringRest, hquote, hslash, hcontrol,
            if_false]
          exact bind_eq_ok_iff.2 ⟨_, hrest, rfl⟩
        · have hescape : readEscape (v ++ (b ++ '"' :: rest)) = .ok (c, b ++ '"' :: rest) :=
            readEscape_eq_ok_iff.2 ⟨v, hu, rfl⟩
          rw [List.append_assoc, List.cons_append, readStringRest, if_neg (by decide), if_pos rfl]
          exact bind_eq_ok_iff.2 ⟨_, hescape, bind_eq_ok_iff.2 ⟨_, hrest, rfl⟩⟩

/-- After its opening quote, a string is read if and only if it is a literal. -/
theorem readString_eq_ok_iff {t s rest : Text} :
    readString t = .ok (s, rest) ↔ ∃ q, Literal s q ∧ '"' :: t = q ++ rest := by
  rw [readString, readStringRest_eq_ok_iff (Nat.lt_succ_self _)]
  constructor
  · rintro ⟨b, hb, rfl⟩
    exact ⟨_, ⟨b, hb, rfl⟩, by simp⟩
  · rintro ⟨q, ⟨b, hb, rfl⟩, ht⟩
    exact ⟨b, hb, by simpa using ht⟩

/-- One character from its two halves. -/
example : readString "\\uD83D\\uDE00\"]".toList = .ok (['😀'], [']']) := by decide

theorem Literal.exists_cons {s q : Text} (h : Literal s q) : ∃ b, q = '"' :: b := by
  obtain ⟨b, -, rfl⟩ := h
  exact ⟨_, rfl⟩

/-- No literal is the beginning of another one, and each stands for one text. -/
theorem Literal.unique {s s' q q' t t' : Text} (h : Literal s q) (h' : Literal s' q')
    (heq : q ++ t = q' ++ t') : s = s' ∧ q = q' ∧ t = t' := by
  obtain ⟨b, rfl⟩ := h.exists_cons
  have hread : readString (b ++ t) = .ok (s, t) := readString_eq_ok_iff.2 ⟨_, h, rfl⟩
  have hread' : readString (b ++ t) = .ok (s', t') := readString_eq_ok_iff.2 ⟨_, h', heq⟩
  obtain ⟨rfl, rfl⟩ := Prod.mk.inj (Except.ok.inj (hread.symm.trans hread'))
  exact ⟨rfl, List.append_cancel_right heq, rfl⟩

end CallLint.Json
