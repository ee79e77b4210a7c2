import CallLint.Forest.Tally
import CallLint.Proofs.Forest.Joining

/-!
# Writing the missing ends

A call that lacks its `)` is the last node on its level, so a value that lacks nothing else can be
given all its ends: one `)` for each open call, at the end of the text. What is read then are the
same nodes, with their ends.

* `text_mend`: the text of a forest that was given its ends.
* `Stands.mend`: it stands, unless a backslash at its end waits for a character.
* `parse_mend`: reading a value with the missing ends written behind it.
-/

namespace CallLint

open Text

namespace Leaf

/-- The number of calls without `)` that the leaf is. -/
def countOpen : Leaf → Nat
  | .address _ _ closed => if closed then 0 else 1
  | _ => 0

/-- The leaf with its `)`, if it is an address. -/
def mend : Leaf → Leaf
  | .address name body _ => .address name body true
  | part => part

/-- The leaf lacks no end, or is an address. -/
def Mendable : Leaf → Prop
  | .address .. => True
  | part => part.closed = true

variable {part : Leaf}

theorem mend_of_closed (h : part.closed = true) : part.mend = part ∧ part.countOpen = 0 := by
  cases part with
  | address name body closed =>
    obtain rfl : closed = true := h
    exact ⟨rfl, rfl⟩
  | _ => exact ⟨rfl, rfl⟩

/-- The only leaf that can be given its end and lacks it is an address. -/
theorem Mendable.exists_address (h : part.Mendable) (hopen : part.closed = false) :
    ∃ name body, part = .address name body false := by
  cases part with
  | address name body closed =>
    obtain rfl : closed = false := hopen
    exact ⟨name, body, rfl⟩
  | _ => cases hopen.symm.trans h

end Leaf

namespace Forest

/-- The number of calls without `)`, at any depth. -/
def countOpen : Forest → Nat
  | .nil => 0
  | .leaf part rest => part.countOpen + rest.countOpen
  | .call _ inside closed rest =>
    inside.countOpen + (if closed then 0 else 1) + rest.countOpen

/-- The forest with the `)` of all its calls. -/
def mend : Forest → Forest
  | .nil => .nil
  | .leaf part rest => .leaf part.mend rest.mend
  | .call name inside _ rest => .call name inside.mend true rest.mend

/-- No string and no comment in the forest lacks its end. -/
def Mendable : Forest → Prop
  | .nil => True
  | .leaf part rest => part.Mendable ∧ rest.Mendable
  | .call _ inside _ rest => inside.Mendable ∧ rest.Mendable

variable {f : Forest} {nested : Bool} {c : Char} {t after : Text}

/-- In front of another character nothing lacks its end. -/
theorem Stands.mend_eq_self (h : f.Stands nested (c :: t)) : f.mend = f ∧ f.countOpen = 0 := by
  induction f generalizing nested c t with
  | nil => exact ⟨rfl, rfl⟩
  | leaf part rest ih =>
    obtain ⟨hpart, hrest⟩ := h
    obtain ⟨hmend, hcount⟩ := ih hrest
    have hend : part.closed = true := by
      obtain hs | ⟨-, rfl⟩ := hpart
      · exact hs.closed_of_append_cons
      · rfl
    obtain ⟨hpartMend, hpartCount⟩ := Leaf.mend_of_closed hend
    rw [mend, countOpen, hmend, hcount, hpartMend, hpartCount]
    exact ⟨rfl, rfl⟩
  | call name inside closed rest ihInside ih =>
    obtain ⟨-, hinside, hrest, hclosed⟩ := h
    obtain ⟨hmend, hcount⟩ := ih hrest
    cases closed with
    | true =>
      obtain ⟨hmendInside, hcountInside⟩ := ihInside hinside
      rw [mend, countOpen, hmend, hcount, hmendInside, hcountInside]
      exact ⟨rfl, rfl⟩
    | false => cases (hclosed rfl).2

/-- All missing ends are written at the end of the text. -/
theorem text_mend (h : f.Stands nested []) (hm : f.Mendable) :
    f.mend.text = f.text ++ List.replicate f.countOpen ')' := by
  induction f generalizing nested with
  | nil => rfl
  | leaf part rest ih =>
    obtain ⟨hpart, hrest⟩ := h
    cases hend : part.closed with
    | true =>
      obtain ⟨hmend, hcount⟩ := Leaf.mend_of_closed hend
      rw [mend, text_leaf, ih hrest hm.2, hmend, countOpen, hcount, Nat.zero_add, text_leaf,
        List.append_assoc]
    | false =>
      obtain ⟨name, body, rfl⟩ := hm.1.exists_address hend
      obtain hs | ⟨-, hword⟩ := hpart
      · have hbehind := hs.eq_nil_of_open hend
        rw [List.append_nil] at hbehind
        obtain rfl := hrest.eq_nil_of_text hbehind
        simp [mend, Leaf.mend, countOpen, Leaf.countOpen, Leaf.text]
      · cases hword
  | call name inside closed rest ihInside ih =>
    obtain ⟨-, hinside, hrest, hclosed⟩ := h
    cases closed with
    | true =>
      obtain ⟨hmend, hcount⟩ := hinside.mend_eq_self
      simp [mend, countOpen, hmend, hcount, ih hrest hm.2]
    | false =>
      obtain ⟨rfl, -⟩ := hclosed rfl
      have htext := ihInside hinside hm.1
      simp [mend, countOpen, htext, List.replicate_succ']

/-! ## A forest with its ends stands -/

theorem standsApart_replicate (n : Nat) (ht : StandsApart t) :
    StandsApart (List.replicate n ')' ++ t) := by
  cases n with
  | zero => simpa using ht
  | succ n => exact standsApart_closing _

theorem startsAddress_append_replicate (s : Text) (n : Nat) :
    Token.startsAddress (s ++ List.replicate n ')') = Token.startsAddress s := by
  cases n with
  | zero => simp
  | succ n => exact Token.startsAddress_append_closing s _

/-- A forest with its ends stands in front of a text that stands apart, unless a backslash at its
end waits for a character. -/
theorem Stands.mend (h : f.Stands nested []) (hm : f.Mendable)
    (heven : Even (trailingBackslashes f.text)) (ht : StandsApart t) : f.mend.Stands nested t := by
  induction f generalizing nested t with
  | nil => trivial
  | leaf part rest ih =>
    cases hend : part.closed with
    | true =>
      obtain ⟨hpart, hback⟩ := h.before_leaf hend heven (standsApart_replicate rest.countOpen ht)
      rw [← List.append_assoc, ← text_mend h.2 hm.2, ← (Leaf.mend_of_closed hend).1] at hpart
      exact ⟨hpart, ih h.2 hm.2 hback ht⟩
    | false =>
      obtain ⟨name, body, rfl⟩ := hm.1.exists_address hend
      obtain ⟨⟨hname, hstarts, hnil, hbody⟩ | ⟨-, hword⟩, hrest⟩ := h
      · rw [List.append_nil] at hnil
        obtain rfl := hrest.eq_nil_of_text hnil
        refine ⟨.inl ⟨hname, hstarts, ?_⟩, trivial⟩
        have htext : text (.leaf (.address name body false) .nil) = name ++ '(' :: body := by
          simp [Leaf.text]
        rw [htext, trailingBackslashes_append_cons _ (by decide)] at heven
        exact hbody.resolve_right fun hbreaks => hbreaks.not_even heven
      · cases hword
  | call name inside closed rest ihInside ih =>
    cases closed with
    | true =>
      obtain ⟨hname, hinside, hback⟩ := h.before_call heven (rest.mend.text ++ t)
      rw [← h.2.1.mend_eq_self.1] at hname hinside
      exact ⟨hname, hinside, ih h.2.2.1 hm.2 hback ht, by simp⟩
    | false =>
      obtain ⟨⟨hname, hstarts⟩, hinside, -, hclosed⟩ := h
      obtain ⟨rfl, -⟩ := hclosed rfl
      have htext : text (.call name inside false .nil) = name ++ '(' :: inside.text := by simp
      rw [htext, trailingBackslashes_append_cons _ (by decide)] at heven
      refine ⟨⟨hname, fun hn => ?_⟩, ihInside hinside hm.1 heven (standsApart_closing t), trivial,
        by simp⟩
      have hs := hstarts hn
      rwa [if_pos rfl, List.singleton_append, Token.startsAddress_append_closing,
        text_mend hinside hm.1, startsAddress_append_replicate, ← List.append_nil inside.text]

/-- Reading a value with the missing ends written behind it gives its nodes, with their ends. -/
theorem parse_mend (hm : (parse t).Mendable) (heven : Even (trailingBackslashes t)) :
    parse (t ++ List.replicate (parse t).countOpen ')') = (parse t).mend := by
  rw [parse_eq_iff, text_mend (stands_parse t) hm, text_parse]
  exact ⟨rfl, (stands_parse t).mend hm (by rwa [text_parse]) standsApart_nil⟩

end Forest

end CallLint
