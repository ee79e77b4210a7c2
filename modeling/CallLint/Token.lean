import CallLint.Leaf
import CallLint.Text.Escape

/-!
# Tokens

The tokens of a style sheet value. Every text splits into tokens, however malformed it is: an
unfinished string, comment or address runs to the end of the text.

A name directly before `(` opens a call. The name `url` (in any case of its ASCII letters) opens an
address instead when the first character after `(` that is not white space exists and is neither a
quote nor `)`; the whole text up to the first `)` outside an escape then is one token.

* `text_next`: the first token and the text after it make up the text.
* `flatten_scan`: the tokens of a text, written one after the other, are the text.
-/

namespace CallLint

open Text

/-- A token of a style sheet value. -/
inductive Token where
  /-- A part that opens and closes nothing. -/
  | leaf (part : Leaf)
  /-- A name, possibly empty, with the `(` after it. -/
  | opening (name : Text)
  /-- A `)`. -/
  | closing
  deriving DecidableEq, Repr

namespace Token

/-- The characters that a token stands for. -/
def text : Token → Text
  | .leaf part => part.text
  | .opening name => name ++ ['(']
  | .closing => [')']

/-- Whether a call of this name may hold a bare address. -/
def isAddressName (name : Text) : Bool := lowerAscii name = ['u', 'r', 'l']

/-- Whether the text after `(` begins a bare address. -/
def startsAddress (t : Text) : Bool :=
  match trimStart t with
  | [] => false
  | c :: _ => !isQuote c && c ≠ ')'

/-- Reads a string after its opening quote. -/
def readQuoted (mark : Char) (t : Text) : Token × Text :=
  match readUntil (· = mark) t with
  | (body, []) => (.leaf (.quoted mark body false), [])
  | (body, _ :: rest) => (.leaf (.quoted mark body true), rest)

/-- The text before the first end of a comment, and the text after that end if there is one. -/
def readCommentBody : Text → Text × Option Text
  | [] => ([], none)
  | '*' :: '/' :: t => ([], some t)
  | c :: t =>
    let rest := readCommentBody t
    (c :: rest.1, rest.2)

/-- Reads a comment after its opening mark. -/
def readComment (t : Text) : Token × Text :=
  match readCommentBody t with
  | (body, none) => (.leaf (.comment body false), [])
  | (body, some rest) => (.leaf (.comment body true), rest)

/-- Reads on after a name and its `(`. -/
def readOpening (name : Text) (t : Text) : Token × Text :=
  if isAddressName name && startsAddress t then
    match readUntil (· = ')') t with
    | (body, []) => (.leaf (.address name body false), [])
    | (body, _ :: rest) => (.leaf (.address name body true), rest)
  else (.opening name, t)

/-- Reads a word, or the name of a call. -/
def readWord (t : Text) : Token × Text :=
  match readUntil endsWord t with
  | (name, '(' :: rest) => readOpening name rest
  | (name, rest) => (.leaf (.word name), rest)

/-- The first token of the text `c :: t`, and the text after it. -/
def next (c : Char) (t : Text) : Token × Text :=
  if isBlank c then (.leaf (.space (c :: t.takeWhile isBlank)), t.dropWhile isBlank)
  else if isQuote c then readQuoted c t
  else if c = '/' && t.head? = some '*' then readComment t.tail
  else if isDivider c then (.leaf (.divider c), t)
  else if c = '(' then readOpening [] t
  else if c = ')' then (.closing, t)
  else readWord (c :: t)

theorem readCommentBody_append (t : Text) :
    (readCommentBody t).1 ++
      (match (readCommentBody t).2 with
        | none => []
        | some rest => '*' :: '/' :: rest) = t := by
  fun_induction readCommentBody t with
  | case1 => rfl
  | case2 t => rfl
  | case3 c t _ rest ih => simpa [rest] using ih

theorem text_readQuoted (mark : Char) (t : Text) :
    (readQuoted mark t).1.text ++ (readQuoted mark t).2 = mark :: t := by
  have h := readUntil_append (· = mark) t
  have stop := readUntil_stop (· = mark) t
  unfold readQuoted
  split
  next body hr =>
    rw [hr] at h
    simpa [text, Leaf.text] using h
  next body c rest hr =>
    rw [hr] at h stop
    obtain rfl : c = mark := by simpa using stop c rest rfl
    simpa [text, Leaf.text] using h

theorem text_readComment (t : Text) :
    (readComment t).1.text ++ (readComment t).2 = '/' :: '*' :: t := by
  have h := readCommentBody_append t
  unfold readComment
  split
  next body hr =>
    rw [hr] at h
    simpa [text, Leaf.text] using h
  next body rest hr =>
    rw [hr] at h
    simpa [text, Leaf.text] using h

theorem text_readOpening (name t : Text) :
    (readOpening name t).1.text ++ (readOpening name t).2 = name ++ '(' :: t := by
  have h := readUntil_append (· = ')') t
  have stop := readUntil_stop (· = ')') t
  unfold readOpening
  split
  · split
    next body hr =>
      rw [hr] at h
      simpa [text, Leaf.text] using h
    next body c rest hr =>
      rw [hr] at h stop
      obtain rfl : c = ')' := by simpa using stop c rest rfl
      simpa [text, Leaf.text] using h
  · simp [text]

theorem text_readWord (t : Text) : (readWord t).1.text ++ (readWord t).2 = t := by
  have h := readUntil_append endsWord t
  unfold readWord
  split
  next name rest hr =>
    rw [hr] at h
    rw [text_readOpening]
    exact h
  next name rest _ hr =>
    rw [hr] at h
    exact h

/-- The first token takes its characters from the front of the text. -/
theorem text_next (c : Char) (t : Text) : (next c t).1.text ++ (next c t).2 = c :: t := by
  unfold next
  split
  · simp [text, Leaf.text]
  · split
    · exact text_readQuoted c t
    · split
      next h =>
        obtain ⟨rfl, ht⟩ : c = '/' ∧ t.head? = some '*' := by simpa using h
        obtain ⟨rest, rfl⟩ := List.head?_eq_some_iff.1 ht
        exact text_readComment rest
      · split
        · simp [text, Leaf.text]
        · split
          next h =>
            rw [text_readOpening, h]
            rfl
          · split
            next h => simp [text, h]
            · exact text_readWord (c :: t)

theorem text_readWord_ne_nil (c : Char) (t : Text) (h : endsWord c = false) :
    (readWord (c :: t)).1.text ≠ [] := by
  have hne : (readUntil endsWord (c :: t)).1 ≠ [] := by
    unfold readUntil
    split
    · simp_all
    · simp
    next d t' _ hd =>
      obtain ⟨rfl, rfl⟩ := List.cons.inj hd
      simp [h]
  unfold readWord
  split
  next name rest hr =>
    unfold readOpening
    split
    · split <;> simp [text, Leaf.text]
    · simp [text]
  next name rest _ hr =>
    rw [hr] at hne
    exact hne

/-- The first token is not empty. -/
theorem text_next_ne_nil (c : Char) (t : Text) : (next c t).1.text ≠ [] := by
  unfold next
  split
  · simp [text, Leaf.text]
  · split
    · unfold readQuoted
      split <;> simp [text, Leaf.text]
    · split
      · unfold readComment
        split <;> simp [text, Leaf.text]
      · split
        · simp [text, Leaf.text]
        · split
          · unfold readOpening
            split
            · split <;> simp [text, Leaf.text]
            · simp [text]
          · split
            · simp [text]
            next hb hq _ hd ho hc =>
              refine text_readWord_ne_nil c t ?_
              simp [endsWord, hb, hq, hd, ho, hc]

theorem length_next_lt (c : Char) (t : Text) : (next c t).2.length < (c :: t).length := by
  have h := congrArg List.length (text_next c t)
  have hpos := List.length_pos_iff.2 (text_next_ne_nil c t)
  rw [List.length_append] at h
  omega

/-- The tokens of a text. -/
def scan : Text → List Token
  | [] => []
  | c :: t => (next c t).1 :: scan (next c t).2
termination_by t => t.length
decreasing_by exact length_next_lt c t

@[simp] theorem scan_nil : scan [] = [] := by
  rw [scan]

theorem scan_cons (c : Char) (t : Text) :
    scan (c :: t) = (next c t).1 :: scan (next c t).2 := by
  rw [scan]

/-- Nothing of a text is lost or added when it is split into tokens. -/
theorem flatten_scan (t : Text) : ((scan t).map text).flatten = t := by
  induction h : t.length using Nat.strongRecOn generalizing t with
  | ind n ih =>
    cases t with
    | nil => simp
    | cons c t =>
      have hlt := length_next_lt c t
      rw [scan_cons, List.map_cons, List.flatten_cons, ih _ (by omega) _ rfl, text_next]

end Token

end CallLint
