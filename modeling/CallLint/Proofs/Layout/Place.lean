import CallLint.Proofs.Layout.Within
import CallLint.Proofs.Text.Trim

/-!
# Places in a text

Ranges of bytes and the texts that stand there.

* `placed_of_mem`: in the layout of a value, what an entry says of its node stands in the text of
  the value at the ranges that the entry gives.
* `isAddress_entry`, `not_isAddress_callEntry`: which calls are addresses can be told from the name
  and from the text behind the `(`.
-/

namespace CallLint

open Text

/-- A character of the text begins at the byte, or the text ends there. -/
def Text.Boundary (t : Text) (n : Nat) : Prop :=
  ∃ front back, t = front ++ back ∧ byteLength front = n

/-- The character begins at the byte. -/
def Text.CharAt (t : Text) (n : Nat) (c : Char) : Prop :=
  ∃ front back, t = front ++ c :: back ∧ byteLength front = n

/-- The text from a byte on. -/
def Text.dropBytes (n : Nat) (t : Text) : Text := (splitBytes n t).2

/-- The text in a range of bytes. -/
def Span.cut (s : Span) (t : Text) : Text := (splitBytes s.length (dropBytes s.start t)).1

/-- The text with another text in the range of bytes. -/
def Span.replace (s : Span) (t part : Text) : Text :=
  (splitBytes s.start t).1 ++ (part ++ dropBytes s.stop t)

/-- The range holds exactly the text `part`. -/
def Span.Covers (s : Span) (t part : Text) : Prop :=
  ∃ front back, t = front ++ (part ++ back) ∧ byteLength front = s.start ∧
    s.stop = s.start + byteLength part

theorem byteLength_pos {t : Text} (h : t ≠ []) : 0 < byteLength t := by
  cases t with
  | nil => exact absurd rfl h
  | cons c t =>
    have hc := c.utf8Size_pos
    rw [byteLength_cons]
    omega

theorem Text.dropBytes_append (s t : Text) : dropBytes (byteLength s) (s ++ t) = t := by
  rw [dropBytes, splitBytes_append]

namespace Span.Covers

variable {s : Span} {t part : Text}

theorem cut (h : s.Covers t part) : s.cut t = part := by
  obtain ⟨front, back, rfl, hs, hstop⟩ := h
  have hl : s.length = byteLength part := by
    rw [Span.length, hstop, Nat.add_sub_cancel_left]
  rw [Span.cut, hl, ← hs, dropBytes_append, splitBytes_append]

theorem start_le (h : s.Covers t part) : s.start ≤ s.stop := by
  obtain ⟨-, -, -, -, hstop⟩ := h
  omega

theorem boundary_start (h : s.Covers t part) : t.Boundary s.start := by
  obtain ⟨front, back, rfl, hs, -⟩ := h
  exact ⟨front, part ++ back, rfl, hs⟩

theorem boundary_stop (h : s.Covers t part) : t.Boundary s.stop := by
  obtain ⟨front, back, rfl, hs, hstop⟩ := h
  exact ⟨front ++ part, back, by simp, by rw [byteLength_append, hs, hstop]⟩

end Span.Covers

/-- What the entry says of its node stands at the ranges that the entry gives. -/
structure Entry.Placed (t : Text) (e : Entry) : Prop where
  value : e.value.Covers t e.node.value
  source : e.source.Covers t e.node.text
  inner : e.inner.Covers t e.node.inner

theorem covers_append {t before part after : Text} (h : t = before ++ (part ++ after)) :
    Span.Covers ⟨byteLength before, byteLength before + byteLength part⟩ t part :=
  ⟨before, after, h, rfl, rfl⟩

theorem covers_trimSpan {t part before after : Text} (h : t = before ++ (part ++ after)) :
    (Leaf.trimSpan (byteLength before) part).Covers t (trim part) := by
  obtain ⟨front, back, hpart, hstart, -⟩ := exists_trim part
  have hlen : byteLength part - byteLength (trimStart part) = byteLength front := by
    have hl := congrArg byteLength hpart
    rw [byteLength_append, ← hstart] at hl
    omega
  refine ⟨before ++ front, back ++ after, ?_, ?_, rfl⟩
  · calc
      t = before ++ (part ++ after) := h
      _ = before ++ ((front ++ (trim part ++ back)) ++ after) := by rw [← hpart]
      _ = before ++ front ++ (trim part ++ (back ++ after)) := by simp
  · rw [Leaf.trimSpan, hlen, byteLength_append]

theorem covers_innerSpan {t before name body after : Text}
    (h : t = before ++ (name ++ '(' :: (body ++ after))) :
    (Leaf.innerSpan (byteLength before) name body).Covers t body := by
  refine ⟨before ++ (name ++ ['(']), after, by simp [h], ?_, rfl⟩
  simp [Leaf.innerSpan, Char.utf8Size, Nat.add_assoc]

theorem replace_innerSpan {t before name body behind : Text}
    (h : t = before ++ (name ++ '(' :: (body ++ behind))) (other : Text) :
    (Leaf.innerSpan (byteLength before) name body).replace t other =
      before ++ (name ++ '(' :: (other ++ behind)) := by
  have hstart : (Leaf.innerSpan (byteLength before) name body).start =
      byteLength (before ++ (name ++ ['('])) := by
    simp [Leaf.innerSpan, Char.utf8Size, Nat.add_assoc]
  have hstop : (Leaf.innerSpan (byteLength before) name body).stop =
      byteLength (before ++ (name ++ ['(']) ++ body) := by
    simp [Leaf.innerSpan, Char.utf8Size, Nat.add_assoc]
  have ht : t = before ++ (name ++ ['(']) ++ (body ++ behind) := by simp [h]
  have hfront : (splitBytes (byteLength (before ++ (name ++ ['(']))) t).1 =
      before ++ (name ++ ['(']) := by
    rw [ht, splitBytes_append]
  have hback : dropBytes (byteLength (before ++ (name ++ ['(']) ++ body)) t = behind := by
    rw [ht, ← List.append_assoc _ body, dropBytes_append]
  rw [Span.replace, hstart, hstop, hfront, hback]
  simp

theorem covers_empty (t : Text) : Span.Covers ⟨0, 0⟩ t [] := ⟨[], t, rfl, rfl, rfl⟩

theorem utf8Size_of_isQuote {c : Char} (h : isQuote c = true) : c.utf8Size = 1 := by
  rcases Token.isQuote_iff.1 h with rfl | rfl
  all_goals decide

/-- Where a string stands in a forest that stands, its mark is a quote. -/
theorem Forest.Stands.isQuote {mark : Char} {body after : Text} {closed nested : Bool}
    {rest : Forest} (h : (Forest.leaf (.quoted mark body closed) rest).Stands nested after) :
    isQuote mark = true := by
  obtain ⟨⟨hm, -⟩ | ⟨-, hw⟩, -⟩ := h
  · exact hm
  · cases hw

theorem Leaf.placed_entry {t before after : Text} {part : Leaf}
    (h : t = before ++ (part.text ++ after))
    (hmark : ∀ mark body closed, part = .quoted mark body closed → isQuote mark = true)
    (base : Nat) :
    (part.entry base (byteLength before)).Placed t := by
  have hsource := covers_append h
  cases part with
  | quoted mark body closed =>
    refine ⟨⟨before ++ [mark], (if closed then [mark] else []) ++ after, ?_, ?_, rfl⟩,
      by simpa [entry, Entry.ofLeaf] using hsource, covers_empty t⟩
    · simp [h, Leaf.text, entry, Entry.ofLeaf, Node.value]
    · simp [entry, Entry.ofLeaf, utf8Size_of_isQuote (hmark _ _ _ rfl)]
  | comment body closed =>
    refine ⟨⟨before ++ ['/', '*'], (if closed then ['*', '/'] else []) ++ after, ?_, ?_, rfl⟩,
      by simpa [entry, Entry.ofLeaf] using hsource, covers_empty t⟩
    · simp [h, Leaf.text, entry, Entry.ofLeaf, Node.value]
    · simp [entry, Entry.ofLeaf, Char.utf8Size]
  | address name body closed =>
    have ht : t =
        before ++ (name ++ '(' :: (body ++ ((if closed then [')'] else []) ++ after))) := by
      simp [h, Leaf.text]
    refine ⟨covers_append ht, ?_, covers_innerSpan ht⟩
    simpa [entry] using hsource
  | space s => exact ⟨hsource, by simpa [entry, Entry.ofLeaf] using hsource, covers_empty t⟩
  | word s => exact ⟨hsource, by simpa [entry, Entry.ofLeaf] using hsource, covers_empty t⟩
  | divider mark => exact ⟨hsource, by simpa [entry, Entry.ofLeaf] using hsource, covers_empty t⟩

theorem Leaf.placed_words {t before after : Text} {part : Leaf}
    (h : t = before ++ (part.text ++ after)) :
    ∀ e ∈ part.words (byteLength before), e.Placed t := by
  cases part with
  | address name body closed =>
    have ht : t =
        before ++ (name ++ '(' :: (body ++ ((if closed then [')'] else []) ++ after))) := by
      simp [h, Leaf.text]
    have hword : (trimSpan (innerSpan (byteLength before) name body).start body).Covers t
        (trim body) := by
      have hinner := covers_innerSpan ht
      obtain ⟨front, back, hfront, hstart, -⟩ := hinner
      rw [← hstart]
      exact covers_trimSpan hfront
    intro e he
    simp only [words] at he
    split at he
    · cases he
    · obtain rfl := List.mem_singleton.1 he
      exact ⟨hword, by simpa [Entry.ofLeaf, Leaf.text] using hword, covers_empty t⟩
  | _ => simp [words]

theorem Forest.placed_callEntry {t before after name : Text} {inside rest : Forest} {closed : Bool}
    (h : t = before ++ (text (.call name inside closed rest) ++ after)) (base : Nat) :
    (callEntry base (byteLength before) name inside closed).Placed t := by
  have ht : t = before ++ (name ++ '(' :: (inside.text ++
      ((if closed then [')'] else []) ++ (rest.text ++ after)))) := by
    simp [h]
  refine ⟨covers_append ht, ⟨before, rest.text ++ after, ?_, rfl, ?_⟩, covers_innerSpan ht⟩
  · simp [h, callEntry]
  · cases closed <;> simp [callEntry, Leaf.innerSpan, Char.utf8Size] <;> omega

/-- In the layout of a value, what an entry says of its node stands in the text at the ranges that
the entry gives. -/
theorem placed_of_mem {t : Text} {i : Nat} {e : Entry}
    (h : (Forest.parse t).layout.entries[i]? = some e) : e.Placed t := by
  rcases Forest.exists_part h with
    ⟨before, first, part, rest, after, hpart, ⟨-, rfl⟩ | hword⟩ |
    ⟨before, first, name, inside, closed, rest, after, hpart, -, rfl⟩
  · obtain ⟨ht, -, nested, hstands⟩ := Forest.within_parse hpart
    rw [Forest.text_leaf, List.append_assoc] at ht
    refine Leaf.placed_entry ht ?_ first
    rintro mark body closed rfl
    exact hstands.isQuote
  · obtain ⟨ht, -⟩ := Forest.within_parse hpart
    rw [Forest.text_leaf, List.append_assoc] at ht
    exact Leaf.placed_words ht e hword
  · obtain ⟨ht, -⟩ := Forest.within_parse hpart
    exact Forest.placed_callEntry ht first

/-! ## Addresses -/

/-- The entry is that of an address: a call with such a name, behind whose `(` the first character
that is not white space exists and is neither a quote nor `)`. -/
def Entry.IsAddress (t : Text) (e : Entry) : Prop :=
  e.node.isCall = true ∧ Token.isAddressName (e.value.cut t) = true ∧
    Token.startsAddress (dropBytes e.inner.start t) = true

instance (t : Text) (e : Entry) : Decidable (e.IsAddress t) :=
  inferInstanceAs (Decidable (_ ∧ _ ∧ _))

theorem dropBytes_innerSpan {t before name behind : Text}
    (h : t = before ++ (name ++ '(' :: behind)) (body : Text) :
    dropBytes (Leaf.innerSpan (byteLength before) name body).start t = behind := by
  have hlen : (Leaf.innerSpan (byteLength before) name body).start =
      byteLength (before ++ (name ++ ['('])) := by
    simp [Leaf.innerSpan, Char.utf8Size, Nat.add_assoc]
  have ht : t = (before ++ (name ++ ['('])) ++ behind := by simp [h]
  rw [hlen, ht, dropBytes_append]

/-- Where an address stands in a forest that stands. -/
theorem Forest.Stands.address {name body after : Text} {closed nested : Bool} {rest : Forest}
    (h : (Forest.leaf (.address name body closed) rest).Stands nested after) :
    (Leaf.address name body closed).Stands (rest.text ++ after) := by
  obtain ⟨hs | ⟨-, hw⟩, -⟩ := h
  · exact hs
  · cases hw

theorem trim_ne_nil_of_startsAddress {t : Text} (h : Token.startsAddress t = true) :
    trim t ≠ [] := by
  rw [Ne, trim_eq_nil_iff, ← trimStart_eq_nil_iff]
  intro hn
  simp [Token.startsAddress, hn] at h

namespace Forest

variable {t before after name : Text} {first : Nat} {closed : Bool} {rest : Forest}

theorem text_eq_of_call {inside : Forest}
    (h : Within (parse t) before first (.call name inside closed rest) after) :
    t = before ++ (name ++ '(' :: (inside.text ++ ((if closed then [')'] else []) ++
      (rest.text ++ after)))) := by
  simp [(within_parse h).1]

theorem text_eq_of_address {body : Text}
    (h : Within (parse t) before first (.leaf (.address name body closed) rest) after) :
    t = before ++ (name ++ '(' :: (body ++ ((if closed then [')'] else []) ++
      (rest.text ++ after)))) := by
  simp [(within_parse h).1, Leaf.text]

theorem isAddress_entry {body : Text}
    (h : Within (parse t) before first (.leaf (.address name body closed) rest) after)
    (base : Nat) :
    ((Leaf.address name body closed).entry base (byteLength before)).IsAddress t := by
  obtain ⟨-, -, nested, hstands⟩ := within_parse h
  obtain ⟨hname, hstarts, henclosed⟩ := hstands.address
  have ht := text_eq_of_address h
  refine ⟨rfl, ?_, ?_⟩
  · rwa [show (((Leaf.address name body closed).entry base (byteLength before)).value.cut t) = name
      from (covers_append ht).cut]
  · rw [Leaf.entry, dropBytes_innerSpan ht]
    cases closed with
    | true => rwa [if_pos rfl, List.singleton_append, Token.startsAddress_append_closing]
    | false =>
      obtain ⟨hnil, -⟩ := henclosed
      simpa [hnil] using hstarts

theorem not_isAddress_callEntry {inside : Forest}
    (h : Within (parse t) before first (.call name inside closed rest) after) (base : Nat) :
    ¬ (callEntry base (byteLength before) name inside closed).IsAddress t := by
  obtain ⟨-, -, nested, hstands⟩ := within_parse h
  obtain ⟨⟨-, hstarts⟩, -⟩ := hstands
  have ht := text_eq_of_call h
  rintro ⟨-, hname, haddress⟩
  rw [callEntry, dropBytes_innerSpan ht] at haddress
  rw [show ((callEntry base (byteLength before) name inside closed).value.cut t) = name
      from (covers_append ht).cut] at hname
  rw [hstarts hname] at haddress
  cases haddress

/-- The entry of an address is that of a part of the value. -/
theorem exists_address {i : Nat} {e : Entry} (h : (parse t).layout.entries[i]? = some e)
    (ha : e.IsAddress t) :
    ∃ before first name body closed rest after,
      Within (parse t) before first (.leaf (.address name body closed) rest) after ∧
        i = first + (Leaf.address name body closed).wordCount ∧
        e = (Leaf.address name body closed).entry first (byteLength before) := by
  rcases exists_part h with
    ⟨before, first, part, rest, after, hpart, ⟨hi, rfl⟩ | hword⟩ |
    ⟨before, first, name, inside, closed, rest, after, hpart, -, rfl⟩
  · obtain ⟨hcall, -⟩ := ha
    cases part with
    | address name body closed =>
      exact ⟨before, first, name, body, closed, rest, after, hpart, hi, rfl⟩
    | _ => cases hcall
  · obtain ⟨hcall, -⟩ := ha
    rw [Leaf.isCall_of_mem_words hword] at hcall
    cases hcall
  · exact absurd ha (not_isAddress_callEntry hpart first)

/-- The entry of every other call is that of a part of the value. -/
theorem exists_call {i : Nat} {e : Entry} (h : (parse t).layout.entries[i]? = some e)
    (hcall : e.node.isCall = true) (ha : ¬ e.IsAddress t) :
    ∃ before first name inside closed rest after,
      Within (parse t) before first (.call name inside closed rest) after ∧
        i = first + inside.size ∧ e = callEntry first (byteLength before) name inside closed := by
  rcases exists_part h with
    ⟨before, first, part, rest, after, hpart, ⟨hi, rfl⟩ | hword⟩ |
    ⟨before, first, name, inside, closed, rest, after, hpart, hi, rfl⟩
  · cases part with
    | address name body closed => exact absurd (isAddress_entry hpart first) ha
    | _ => cases hcall
  · rw [Leaf.isCall_of_mem_words hword] at hcall
    cases hcall
  · exact ⟨before, first, name, inside, closed, rest, after, hpart, hi, rfl⟩

end Forest

end CallLint
