import CallLint.Proofs.Argument.Rejoining

/-!
# Joining texts at a separator

A text is neutral when the scan that goes over it ends where it began: outside strings and
comments, outside all parentheses, and not after a backslash that waits for a character. Behind a
neutral text a comma or a semicolon is a separator, and what follows is split as a text of its own.

* `segments_append`: the scan over two texts, one behind the other.
* `ofText_join`: the arguments of two texts with a separator between them.
* `split_join`: what this says of splitting, for two texts and for a list of them.
-/

namespace CallLint

open Text

namespace Cut

/-- The scan of the text ends in the state that it begins in. -/
def Neutral (t : Text) : Prop := (scan .start 0 (utf8 t)).2 = .start

instance (t : Text) : Decidable (Neutral t) := inferInstanceAs (Decidable (_ = _))

namespace Reading

/-- The segments of two texts, one behind the other, where the last segment of the first text goes
on in the second. -/
def attach : List (Text × Option Separator) → List (Text × Option Separator) →
    List (Text × Option Separator)
  | [], rest => rest
  | [last], rest => rest.modifyHead fun segment => (last.1 ++ segment.1, segment.2)
  | segment :: segments, rest => segment :: attach segments rest

theorem segments_ne_nil (r : Reading) (t : Text) : r.segments t ≠ [] := by
  obtain ⟨front, separator, segments, -, hsegments, -⟩ := exists_segments r t
  rw [hsegments]
  exact List.cons_ne_nil _ _

/-- The scan over two texts, where the second does not complete the mark of a comment. -/
theorem segments_append {t : Text} (hstar : t.head? ≠ some '*') (hslash : t.head? ≠ some '/')
    (r : Reading) (s : Text) :
    r.segments (s ++ t) = attach (r.segments s) ((r.finish s).segments t) := by
  induction s generalizing r with
  | nil => exact (congrFun List.modifyHead_id _).symm
  | cons c s ih =>
    have hstep : r.step c (s ++ t).head? = r.step c s.head? := by
      cases s with
      | nil => exact step_ahead hstar hslash r c
      | cons d s => rfl
    rw [List.cons_append, segments, segments, hstep, ih, finish]
    obtain ⟨segment, segments, hsegments⟩ :=
      List.exists_cons_of_ne_nil (segments_ne_nil (r.step c s.head?).1 s)
    rw [hsegments]
    cases (r.step c s.head?).2 with
    | some separator => rfl
    | none =>
      cases segments with
      | nil => exact List.modifyHead_modifyHead ..
      | cons next segments => rfl

theorem segments_separator (s : Separator) (t : Text) :
    (plain 0).segments (s.char :: t) = ([], some s) :: (plain 0).segments t := by
  cases s <;> rfl

/-- A text without cuts is one segment. -/
theorem segments_of_cuts {t : Text} (h : Cut.cuts t = []) :
    (plain 0).segments t = [(t, none)] := by
  rw [← Argument.pieces_cuts (plain 0) 0 t, ← cuts_eq, h]
  rfl

end Reading

theorem Neutral.finish {t : Text} (h : Neutral t) : (Reading.plain 0).finish t = .plain 0 := by
  have hstate : ((Reading.plain 0).finish t).state = .start :=
    (congrArg Prod.snd (Reading.scan_utf8 (Reading.sound_plain 0) 0 t)).symm.trans h
  generalize (Reading.plain 0).finish t = r at hstate ⊢
  obtain ⟨context, depth, taken⟩ := r
  cases context with
  | plain =>
    obtain ⟨-, rfl, rfl⟩ := State.mk.inj hstate
    rfl
  | quoted mark => cases hstate
  | comment => cases hstate

end Cut

namespace Argument

open Cut Cut.Reading

/-- The arguments, the last of them with the given separator after it. -/
def endedBy (s : Separator) : List Argument → List Argument
  | [] => []
  | [last] => [{ last with separator := some s }]
  | a :: arguments => a :: endedBy s arguments

/-- The arguments of a text. A text of nothing but white space counts as one blank argument. -/
def splitAny (t : Text) : List Argument :=
  if t.all Text.isBlank then [⟨none, [], t, none⟩] else split t

/-- The separator after a piece makes no difference to what is read from the piece. -/
theorem ofPiece_separator (raw : Text) (separator separator' : Option Separator) :
    { ofPiece raw separator with separator := separator' } = ofPiece raw separator' := by
  simp only [ofPiece]
  cases Key.read? (dropComments false (trim raw)) with
  | none => rfl
  | some found => rfl

theorem ofPiece_blank {t : Text} (h : ∀ c ∈ t, Text.isBlank c = true)
    (separator : Option Separator) : ofPiece t separator = ⟨none, [], t, separator⟩ := by
  rw [ofPiece, trim_eq_nil_iff.2 h]
  rfl

/-- Only separators cut a text, so white space is one piece. -/
theorem splitAny_eq_ofText (t : Text) : splitAny t = ofText t := by
  rw [splitAny]
  split
  next h =>
    rw [List.all_eq_true] at h
    have hcrosses : Crosses 0 t [] := crosses_space h
    have hsegments := hcrosses.segments
    rw [List.append_nil] at hsegments
    rw [ofText, hsegments]
    simp [segments, ofPiece_blank h]
  next h =>
    rw [List.all_eq_true] at h
    exact split_eq_ofText h

/-- A separator ends the last piece in front of it. -/
theorem map_attach_separator {segments : List (Text × Option Separator)} (hne : segments ≠ [])
    (s : Separator) (rest : List (Text × Option Separator)) :
    (attach segments (([], some s) :: rest)).map (fun segment => ofPiece segment.1 segment.2) =
      endedBy s (segments.map fun segment => ofPiece segment.1 segment.2) ++
        rest.map fun segment => ofPiece segment.1 segment.2 := by
  induction segments with
  | nil => exact absurd rfl hne
  | cons segment segments ih =>
    cases segments with
    | nil =>
      rw [attach, List.map_cons, List.map_nil, endedBy, ofPiece_separator]
      simp
    | cons next segments =>
      have hrest := ih (List.cons_ne_nil next segments)
      exact congrArg (ofPiece segment.1 segment.2 :: ·) hrest

/-- The arguments of two texts with a separator between them, when the first is neutral. -/
theorem ofText_join {a : Text} (h : Neutral a) (s : Separator) (b : Text) :
    ofText (a ++ s.char :: b) = endedBy s (ofText a) ++ ofText b := by
  rw [ofText, segments_append (by simp [s.char_ne_star]) (by simp [s.char_ne_slash]), h.finish,
    segments_separator, map_attach_separator (segments_ne_nil _ _)]
  rfl

theorem ofText_of_cuts {t : Text} (h : Cut.cuts t = []) : ofText t = [ofPiece t none] := by
  rw [ofText, segments_of_cuts h]
  rfl

/-- The pieces with the separators after them, and a last piece. -/
def joined : List (Text × Separator) → Text → Text
  | [], last => last
  | piece :: pieces, last => piece.1 ++ piece.2.char :: joined pieces last

/-- The arguments of a joined text are its pieces, if none of these has a separator of its own. -/
theorem ofText_joined {pieces : List (Text × Separator)} {last : Text}
    (hpieces : ∀ piece ∈ pieces, Neutral piece.1 ∧ Cut.cuts piece.1 = [])
    (hlast : Cut.cuts last = []) :
    ofText (joined pieces last) =
      (pieces.map fun piece => ofPiece piece.1 (some piece.2)) ++ [ofPiece last none] := by
  induction pieces with
  | nil => exact ofText_of_cuts hlast
  | cons piece pieces ih =>
    obtain ⟨hneutral, hcuts⟩ := hpieces piece List.mem_cons_self
    have hrest := ih fun p hp => hpieces p (List.mem_cons_of_mem _ hp)
    rw [joined, ofText_join hneutral, hrest, ofText_of_cuts hcuts, endedBy, ofPiece_separator]
    rfl

/-- No separator is white space. -/
theorem not_blank_of_separator (a : Text) (s : Separator) (b : Text) :
    ¬ ∀ c ∈ a ++ s.char :: b, Text.isBlank c = true := by
  intro h
  have hchar := h s.char (List.mem_append_right _ List.mem_cons_self)
  cases s with
  | comma => exact absurd hchar (by decide)
  | semicolon => exact absurd hchar (by decide)

end Argument

open Argument Cut

/-- Behind a neutral text and a separator, the rest is split as a text of its own, and the
arguments of the neutral text come first, the last of them ended by the separator. So pieces that
are neutral and have no separators of their own are found again when they are joined, with the
separators between them. -/
theorem split_join :
    (∀ (a : Text) (s : Separator) (b : Text), Neutral a →
      split (a ++ s.char :: b) = endedBy s (splitAny a) ++ splitAny b) ∧
    ∀ (pieces : List (Text × Separator)) (last : Text),
      (∀ piece ∈ pieces, Neutral piece.1 ∧ cuts piece.1 = []) → cuts last = [] →
      (¬ ∀ c ∈ joined pieces last, Text.isBlank c = true) →
      (split (joined pieces last)).map (fun a => (a.raw, a.separator)) =
        (pieces.map fun piece => (piece.1, some piece.2)) ++ [(last, none)] := by
  constructor
  · intro a s b h
    rw [split_eq_ofText (not_blank_of_separator a s b), splitAny_eq_ofText, splitAny_eq_ofText]
    exact ofText_join h s b
  · intro pieces last hpieces hlast hblank
    rw [split_eq_ofText hblank, ofText_joined hpieces hlast]
    simp

/-- An escaped backslash, a `)` too many, a separator in a comment, and a string that is left
open. -/
theorem split_join_of_open :
    split "\\\\) /*;*/,  ; 'é, b".toList =
        endedBy .comma (splitAny "\\\\) /*;*/".toList) ++ splitAny "  ; 'é, b".toList ∧
      (split (joined [("f(1,2)".toList, .semicolon), ([], .comma)] "'é, b".toList)).map
          (fun a => (a.raw, a.separator)) =
        [("f(1,2)".toList, some .semicolon), ([], some .comma), ("'é, b".toList, none)] :=
  ⟨split_join.1 "\\\\) /*;*/".toList .comma "  ; 'é, b".toList (by decide),
    split_join.2 [("f(1,2)".toList, .semicolon), ([], .comma)] "'é, b".toList (by decide)
      (by decide) fun hblank => absurd (hblank 'f' (by decide)) (by decide)⟩

end CallLint
