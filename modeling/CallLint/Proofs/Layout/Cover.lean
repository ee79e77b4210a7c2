import CallLint.Proofs.Layout.Place

/-!
# What the ranges of a layout cover

The ranges of neighbouring nodes lie side by side: the nodes of the top level cover the whole text,
and the nodes inside a call cover the text between its parentheses. The text inside an address is
one word, which covers it apart from the white space around it.

* `tile_rootsFrom`: the nodes of a forest cover its text.
* `parse_covers`: what this says of the layout of a value.
-/

namespace CallLint

open Text

/-- The nodes of the given numbers lie side by side, none of them empty, and cover the bytes from
`start` up to `stop`. -/
def Layout.Tile (l : Layout) : List Nat → Nat → Nat → Prop
  | [], start, stop => start = stop
  | i :: is, start, stop => ∃ e, l.entries[i]? = some e ∧ e.source.start = start ∧
      start < e.source.stop ∧ l.Tile is e.source.stop stop

/-- How the ranges of a call lie: the name, the `(`, the text between the parentheses, and either
the `)` or the end of the text. -/
structure Entry.Framed (t : Text) (e : Entry) : Prop where
  value_start : e.value.start = e.source.start
  inner_start : e.inner.start = e.value.stop + 1
  opening : t.CharAt e.value.stop '('
  closed : e.node.closed = true → t.CharAt e.inner.stop ')' ∧ e.source.stop = e.inner.stop + 1
  unclosed : e.node.closed = false →
    e.inner.stop = byteLength t ∧ e.source.stop = byteLength t

/-- What is inside an address: one word, which is the text between the parentheses without the
white space around it. That text ends at the first `)` outside an escape, or else with the whole
text. -/
structure Layout.AddressInside (l : Layout) (t : Text) (e : Entry) : Prop where
  word : ∃ i w, e.children = [i] ∧ l.entries[i]? = some w ∧
    w.node = .leaf (.word (trim (e.inner.cut t))) ∧
    w.value = w.source ∧ w.source = Leaf.trimSpan e.inner.start (e.inner.cut t) ∧
    w.source.cut t = trim (e.inner.cut t) ∧
    e.inner.start ≤ w.source.start ∧ w.source.start < w.source.stop ∧ w.source.stop ≤ e.inner.stop
  closed : e.node.closed = true → Units (· = ')') (e.inner.cut t)
  unclosed : e.node.closed = false →
    Units (· = ')') (e.inner.cut t) ∨ Breaks (· = ')') (e.inner.cut t)

/-- The nodes of a forest cover its text. -/
theorem Layout.tile_rootsFrom {l : Layout} {f : Forest} {base pos : Nat} {nested : Bool}
    {after : Text} (h : l.Holds f base pos) (hf : f.Stands nested after) :
    l.Tile (f.rootsFrom base) pos (pos + byteLength f.text) := by
  induction f generalizing base pos with
  | nil => rfl
  | leaf part rest ih =>
    obtain ⟨hown, -, hrest⟩ := h.leaf
    have hpos := byteLength_pos hf.leaf_ne_nil
    refine ⟨_, hown, by simp, by simpa using hpos, ?_⟩
    have htile := ih hrest hf.2
    simpa [Nat.add_assoc] using htile
  | call name inside closed rest _ ih =>
    obtain ⟨hown, -, hrest⟩ := h.call
    have htile := ih hrest hf.2.2.1
    rw [Forest.byteLength_text_call]
    refine ⟨_, hown, rfl, ?_, ?_⟩
    · simp only [Forest.callEntry, Leaf.innerSpan]
      omega
    · simpa [Forest.callEntry, Leaf.innerSpan, Nat.add_assoc] using htile

/-! ## Calls -/

theorem Entry.framed_of {t before name body behind : Text} {closed : Bool} {e : Entry}
    (ht : t = before ++ (name ++ '(' :: (body ++ ((if closed then [')'] else []) ++ behind))))
    (hclosed : e.node.closed = closed) (hbehind : closed = false → behind = [])
    (hvalue : e.value = ⟨byteLength before, byteLength before + byteLength name⟩)
    (hinner : e.inner = Leaf.innerSpan (byteLength before) name body)
    (hsource : e.source = ⟨byteLength before, e.inner.stop + if closed then 1 else 0⟩) :
    e.Framed t := by
  have hlen : byteLength (before ++ (name ++ '(' :: body)) = e.inner.stop := by
    rw [hinner]
    simp [Leaf.innerSpan, Char.utf8Size]
    omega
  subst hclosed
  refine ⟨by rw [hvalue, hsource], by rw [hvalue, hinner]; rfl, ?_, fun hc => ?_, fun hc => ?_⟩
  · refine ⟨before ++ name, body ++ ((if e.node.closed then [')'] else []) ++ behind), ?_, ?_⟩
    · rw [ht, List.append_assoc]
    · rw [byteLength_append, hvalue]
  · refine ⟨⟨before ++ (name ++ '(' :: body), behind, ?_, hlen⟩, ?_⟩
    · simpa [hc] using ht
    · rw [hsource, if_pos hc]
  · have htext : t = before ++ (name ++ '(' :: body) := by simpa [hc, hbehind hc] using ht
    have hstop : e.inner.stop = byteLength t := by rw [htext, hlen]
    refine ⟨hstop, ?_⟩
    rw [hsource, if_neg (by simp [hc]), ← hstop, Nat.add_zero]

namespace Forest

variable {t before after name : Text} {first : Nat} {closed : Bool} {rest : Forest}

theorem framed_callEntry {inside : Forest}
    (h : Within (parse t) before first (.call name inside closed rest) after) (base : Nat) :
    (callEntry base (byteLength before) name inside closed).Framed t := by
  obtain ⟨-, -, nested, -, -, -, hend⟩ := within_parse h
  refine Entry.framed_of (text_eq_of_call h) rfl ?_ rfl rfl rfl
  intro hc
  obtain ⟨rfl, rfl⟩ := hend hc
  rfl

theorem framed_address {body : Text}
    (h : Within (parse t) before first (.leaf (.address name body closed) rest) after)
    (base : Nat) :
    ((Leaf.address name body closed).entry base (byteLength before)).Framed t := by
  obtain ⟨-, -, nested, hstands⟩ := within_parse h
  obtain ⟨-, -, henclosed⟩ := hstands.address
  refine Entry.framed_of (text_eq_of_address h) rfl ?_ rfl rfl ?_
  · rintro rfl
    exact henclosed.1
  · rw [Leaf.entry_source, byteLength_address]
    simp only [Leaf.entry, Leaf.innerSpan]
    congr 1
    omega

theorem addressInside {body : Text}
    (h : Within (parse t) before first (.leaf (.address name body closed) rest) after) :
    (parse t).layout.AddressInside t
      ((Leaf.address name body closed).entry first (byteLength before)) := by
  obtain ⟨ht, hholds, nested, hstands⟩ := within_parse h
  obtain ⟨-, hstarts, henclosed⟩ := hstands.address
  obtain ⟨hown, hwords, -⟩ := hholds.leaf
  have hne := trim_ne_nil_of_startsAddress hstarts
  have hinner := covers_innerSpan (text_eq_of_address h)
  have hcut :
      ((Leaf.address name body closed).entry first (byteLength before)).inner.cut t = body :=
    hinner.cut
  have hword : (parse t).layout.entries[first]? = some
      (.ofLeaf (.word (trim body))
        (Leaf.trimSpan (Leaf.innerSpan (byteLength before) name body).start body)
        (Leaf.trimSpan (Leaf.innerSpan (byteLength before) name body).start body)) := by
    have hw := hwords 0 (by simp [Leaf.wordCount, hne])
    simpa [Leaf.words, hne] using hw
  refine ⟨⟨first, _, by simp [Leaf.entry, hne], hword, by rw [hcut]; rfl, rfl, by rw [hcut]; rfl,
    ?_, ?_, ?_, ?_⟩,
    fun hc => ?_, fun hc => ?_⟩
  · obtain ⟨front, back, hfront, hstart, -⟩ := hinner
    rw [hcut, ← hstart]
    exact (covers_trimSpan hfront).cut
  · simp [Leaf.entry, Entry.ofLeaf, Leaf.trimSpan]
  · have hpos := byteLength_pos hne
    simp only [Entry.ofLeaf, Leaf.trimSpan]
    omega
  · obtain ⟨front, back, hbody, htrim, -⟩ := exists_trim body
    have hlen := congrArg byteLength htrim
    have hle := congrArg byteLength hbody
    simp only [Entry.ofLeaf, Leaf.entry, Leaf.innerSpan, Leaf.trimSpan,
      byteLength_append] at hlen hle ⊢
    omega
  · obtain rfl : closed = true := hc
    rw [hcut]
    exact henclosed
  · obtain rfl : closed = false := hc
    rw [hcut]
    exact henclosed.2

end Forest

/-! ## The layout of a value -/

/-- The layout of a value loses nothing of its text, and no two of its neighbours overlap. -/
theorem parse_covers (t : Text) :
    (Forest.parse t).layout.Tile (Forest.parse t).layout.roots 0 (byteLength t) ∧
      (∀ (i : Nat) (e : Entry), (Forest.parse t).layout.entries[i]? = some e →
        e.node.isCall = true →
          e.Framed t ∧
            (e.IsAddress t → (Forest.parse t).layout.AddressInside t e) ∧
            (¬ e.IsAddress t →
              (Forest.parse t).layout.Tile e.children e.inner.start e.inner.stop)) ∧
      ∀ (i : Nat) (e : Entry), (Forest.parse t).layout.entries[i]? = some e →
        ∀ s ∈ [e.value, e.source, e.inner],
          s.start ≤ s.stop ∧ t.Boundary s.start ∧ t.Boundary s.stop := by
  refine ⟨?_, fun i e he hcall => ?_, fun i e he s hs => ?_⟩
  · have htile := Layout.tile_rootsFrom (Layout.holds_layout _) (Forest.stands_parse t)
    simpa [Forest.layout_eq, Forest.text_parse] using htile
  · by_cases ha : e.IsAddress t
    · obtain ⟨before, first, name, body, closed, rest, after, h, -, rfl⟩ :=
        Forest.exists_address he ha
      exact ⟨Forest.framed_address h first, fun _ => Forest.addressInside h, fun hn => absurd ha hn⟩
    · obtain ⟨before, first, name, inside, closed, rest, after, h, -, rfl⟩ :=
        Forest.exists_call he hcall ha
      refine ⟨Forest.framed_callEntry h first, fun hn => absurd hn ha, fun _ => ?_⟩
      obtain ⟨-, hholds, nested, -, hinside, -⟩ := Forest.within_parse h
      exact Layout.tile_rootsFrom hholds.call.2.1 hinside
  · have hp := placed_of_mem he
    rcases (by simpa using hs : s = e.value ∨ s = e.source ∨ s = e.inner) with rfl | rfl | rfl
    · exact ⟨hp.value.start_le, hp.value.boundary_start, hp.value.boundary_stop⟩
    · exact ⟨hp.source.start_le, hp.source.boundary_start, hp.source.boundary_stop⟩
    · exact ⟨hp.inner.start_le, hp.inner.boundary_start, hp.inner.boundary_stop⟩

end CallLint
