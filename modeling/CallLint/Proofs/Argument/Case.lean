import CallLint.Proofs.Argument.Blank
import CallLint.Proofs.Argument.Characters
import CallLint.Proofs.Token.Case

/-!
# ASCII case and arguments

Splitting the text of a call into arguments and writing it in lower case can be exchanged: nothing
that separates arguments, begins a comment or makes a key tells the two cases of a letter apart.

* `step_toLower`, `segments_lowerAscii`: one step of the scan for separators, and the whole scan.
* `next_toLower`, `run_lowerAscii`: one step of the reading of a key, and the whole reading.
* `split_lowerAscii`: the arguments of a text in lower case.
-/

namespace CallLint

open Text

/-! ## Segments -/

namespace Cut.Reading

/-- The scan takes the same step on a letter of either case. -/
theorem step_toLower {r : Reading} (hr : r.Sound) (c : Char) (ahead : Option Char) :
    r.step c.toLower (ahead.map Char.toLower) = r.step c ahead := by
  have hahead : ∀ d : Char, d.isAlpha = false →
      ((ahead.map Char.toLower = some d) = (ahead = some d)) := by
    intro d hd
    cases ahead with
    | none => simp
    | some e => simp [toLower_eq_iff e d hd]
  obtain ⟨context, depth, taken⟩ := r
  unfold step
  cases taken with
  | true => rfl
  | false =>
    cases context with
    | comment => simp only [toLower_eq_iff c '*' (by decide), hahead '/' (by decide)]
    | quoted mark =>
      have hmark := isAlpha_of_isQuote (hr mark rfl)
      simp only [toLower_eq_iff c '\\' (by decide), toLower_eq_iff c mark hmark]
    | plain =>
      -- a quote is remembered as the end of its string, and is no letter
      by_cases hquote : isQuote c = true
      · rw [toLower_of_not_isAlpha (isAlpha_of_isQuote hquote)]
        simp only [hahead '*' (by decide)]
      · simp only [toLower_eq_iff c '\\' (by decide), toLower_eq_iff c '/' (by decide),
          hahead '*' (by decide), caseBlind_isQuote c, hquote, toLower_eq_iff c '(' (by decide),
          toLower_eq_iff c ')' (by decide), toLower_eq_iff c ',' (by decide),
          toLower_eq_iff c ';' (by decide), Bool.false_eq_true, if_false]

theorem segments_lowerAscii {r : Reading} (hr : r.Sound) (t : Text) :
    r.segments (lowerAscii t) = (r.segments t).map fun s => (lowerAscii s.1, s.2) := by
  induction t generalizing r with
  | nil => rfl
  | cons c t ih =>
    have hrest := ih (sound_step hr c t.head?)
    have hhead : (lowerAscii t).head? = t.head?.map Char.toLower := List.head?_map
    rw [lowerAscii_cons, segments, segments, hhead, step_toLower hr]
    cases (r.step c t.head?).2 with
    | none =>
      obtain ⟨front, separator, segments, back, hsegments, -⟩ :=
        exists_segments (r.step c t.head?).1 t
      simp [hrest, hsegments]
    | some separator => simp [hrest]

end Cut.Reading

/-! ## Keys -/

namespace Key

theorem caseBlind_isDigit : CaseBlind Char.isDigit := caseBlind_of_capitals (by decide)

theorem caseBlind_isHexDigit : CaseBlind isHexDigit := caseBlind_of_capitals (by decide)

theorem caseBlind_isNameChar : CaseBlind isNameChar := caseBlind_of_capitals (by decide)

namespace Place

theorem next_toLower (c : Char) (p : Place) : p.next c.toLower = p.next c := by
  have hbegin : begin c.toLower = begin c := by
    simp only [begin, toLower_eq_iff c '\\' (by decide), caseBlind_isNameChar c]
  cases p with
  | start => simp only [next, hbegin, caseBlind_isDigit c]
  | unit => exact hbegin
  | escaped =>
    simp only [next, caseBlind_isHexDigit c, toLower_eq_iff c '\r' (by decide),
      toLower_eq_iff c '\n' (by decide)]
  | digits room => simp only [next, caseBlind_isHexDigit c, caseBlind_isBlank c, hbegin]

theorem run_lowerAscii (p : Place) (t : Text) :
    p.run (lowerAscii t) = (lowerAscii (p.run t).1, (p.run t).2.1, lowerAscii (p.run t).2.2) := by
  induction t generalizing p with
  | nil => rfl
  | cons c t ih =>
    rw [lowerAscii_cons, run, run, next_toLower]
    cases p.next c with
    | none => rfl
    | some q => simp [ih q]

end Place

theorem identifier?_lowerAscii (t : Text) :
    identifier? (lowerAscii t) =
      (identifier? t).map fun read => (lowerAscii read.1, lowerAscii read.2) := by
  simp only [identifier?, Place.run_lowerAscii]
  split <;> rfl

theorem value?_lowerAscii (t : Text) : value? (lowerAscii t) = (value? t).map lowerAscii := by
  rw [value?, value?, trimStart_lowerAscii]
  rcases trimStart t with _ | ⟨c, u⟩
  · rfl
  · by_cases hcolon : c = ':'
    · subst hcolon
      rfl
    · have hcolon' := toLower_ne (by decide) hcolon
      by_cases hequals : c = '='
      · subst hequals
        rcases u with _ | ⟨e, u⟩
        · rfl
        · by_cases hdouble : e = '='
          · subst hdouble
            rfl
          · have hdouble' := toLower_ne (by decide) hdouble
            simp [hdouble, hdouble']
      · have hequals' := toLower_ne (by decide) hequals
        simp [hcolon, hcolon', hequals, hequals']

theorem sigil_lowerAscii (t : Text) :
    sigil (lowerAscii t) = (lowerAscii (sigil t).1, lowerAscii (sigil t).2) := by
  cases t with
  | nil => rfl
  | cons c t =>
    by_cases hdollar : c = '$'
    · subst hdollar
      rfl
    · by_cases hat : c = '@'
      · subst hat
        rfl
      · have hdollar' := toLower_ne (by decide) hdollar
        have hat' := toLower_ne (by decide) hat
        simp [sigil, hdollar, hat, hdollar', hat']

theorem read?_lowerAscii (t : Text) :
    read? (lowerAscii t) = (read? t).map fun read => (lowerAscii read.1, lowerAscii read.2) := by
  rw [read?, read?, sigil_lowerAscii, identifier?_lowerAscii]
  cases identifier? (sigil t).2 with
  | none => rfl
  | some read =>
    simp only [Option.map_some, value?_lowerAscii]
    cases value? read.2 with
    | none => rfl
    | some value => simp

end Key

/-! ## Arguments -/

/-- The argument with all its text in lower case. -/
def Argument.lower (a : Argument) : Argument :=
  ⟨a.key.map lowerAscii, lowerAscii a.value, lowerAscii a.raw, a.separator⟩

namespace Argument

theorem dropComments_lowerAscii (inside : Bool) (t : Text) :
    dropComments inside (lowerAscii t) = lowerAscii (dropComments inside t) := by
  -- two characters that are no mark of a comment make none in lower case
  have hmark : ∀ {c d e : Char} {t : Text}, d.isAlpha = false → e.isAlpha = false →
      (∀ u, c = d → t = e :: u → False) → c.toLower = d → (lowerAscii t).head? ≠ some e := by
    intro c d e t hd he hno hc ht
    obtain ⟨u, hu⟩ := List.head?_eq_some_iff.1 ((head?_lowerAscii_eq_iff t e he).1 ht)
    exact hno u ((toLower_eq_iff c d hd).1 hc) hu
  fun_induction dropComments inside t with
  | case1 inside => rfl
  | case2 t ih => exact ih
  | case3 inside t hin =>
    obtain rfl : inside = false := by simpa using hin
    rfl
  | case4 t ih => exact ih
  | case5 inside t hin ih =>
    obtain rfl : inside = false := by simpa using hin
    exact ih
  | case6 c t hend hopen ih =>
    rw [lowerAscii_cons, dropComments_true_cons (hmark (by decide) (by decide) hend), ih]
  | case7 inside c t hend hopen hin hblank ih =>
    obtain rfl : inside = false := by simpa using hin
    rw [lowerAscii_cons, dropComments_blank ((caseBlind_isBlank c).trans hblank), ih]
  | case8 inside c t hend hopen hin hblank =>
    obtain rfl : inside = false := by simpa using hin
    have hblank' : Text.isBlank c.toLower = false :=
      (caseBlind_isBlank c).trans (by simpa using hblank)
    rw [lowerAscii_cons, dropComments_cons hblank' (hmark (by decide) (by decide) hopen)]

theorem ofPiece_lowerAscii (raw : Text) (separator : Option Separator) :
    ofPiece (lowerAscii raw) separator = (ofPiece raw separator).lower := by
  simp only [ofPiece, trim_lowerAscii, dropComments_lowerAscii, Key.read?_lowerAscii]
  cases Key.read? (dropComments false (trim raw)) with
  | none => rfl
  | some read =>
    simp only [Option.map_some, trim_lowerAscii]
    rfl

theorem isNamed_lower (a : Argument) : a.lower.isNamed = a.isNamed :=
  Option.isSome_map

theorem hasVariableKey_lower (a : Argument) : a.lower.hasVariableKey = a.hasVariableKey := by
  obtain ⟨key, value, raw, separator⟩ := a
  rcases key with _ | _ | ⟨c, name⟩
  · rfl
  · rfl
  · by_cases hdollar : c = '$'
    · subst hdollar
      rfl
    · have hdollar' := toLower_ne (by decide) hdollar
      simp [lower, hasVariableKey, hdollar, hdollar']

theorem isBlank_lower (a : Argument) : a.lower.isBlank = a.isBlank := by
  obtain ⟨key, value, raw, separator⟩ := a
  cases key <;> cases value <;> rfl

theorem split_lowerAscii (t : Text) : split (lowerAscii t) = (split t).map lower := by
  have hsound := Cut.Reading.sound_plain 0
  by_cases h : ∀ c ∈ t, Text.isBlank c = true
  · rw [(split_eq_nil_iff t).2 h]
    exact (split_eq_nil_iff _).2 ((forall_mem_lowerAscii caseBlind_isBlank).2 h)
  · have h' := mt (forall_mem_lowerAscii caseBlind_isBlank).1 h
    rw [split, split, if_neg (by simpa using h'), if_neg (by simpa using h), Cut.cuts_eq,
      Cut.cuts_eq, pieces_cuts, pieces_cuts, Cut.Reading.segments_lowerAscii hsound, List.map_map,
      List.map_map]
    exact List.map_congr_left fun s _ => ofPiece_lowerAscii s.1 s.2

end Argument

end CallLint
