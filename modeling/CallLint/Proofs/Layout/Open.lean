import CallLint.Forest.Tally
import CallLint.Proofs.Layout.Cover
import CallLint.Proofs.Layout.PostOrder

/-!
# Nodes without an end

A string, a comment or a call may lack its end. It then runs to the end of the value, and so does
everything around it: the nodes without an end lie one inside the other, each the last one on its
level, and only the innermost of them can be a string or a comment.

* `Layout.Tile.getLast?_eq`: of neighbouring nodes, only the last one reaches the end of them all.
* `stops_of_open`: a node without an end reaches the end of the value.
* `inside_of_open`: of two nodes without an end, the later one holds the earlier one.
* `chain_of_open`: what follows for the layout of a value, and where the end of every other node is.
-/

namespace CallLint

open Text

/-- Where the content of the entry stands: the text between the parentheses of a call, and the value
of every other node. -/
def Entry.content (e : Entry) : Span := if e.node.isCall then e.inner else e.value

/-! ## Neighbours -/

namespace Layout.Tile

variable {l : Layout} {is : List Nat} {start stop : Nat}

theorem start_le (h : l.Tile is start stop) : start ≤ stop := by
  induction is generalizing start with
  | nil => exact Nat.le_of_eq h
  | cons i is ih =>
    obtain ⟨e, -, -, hlt, hrest⟩ := h
    exact Nat.le_trans (Nat.le_of_lt hlt) (ih hrest)

theorem eq_nil (h : l.Tile is stop stop) : is = [] := by
  cases is with
  | nil => rfl
  | cons i is =>
    obtain ⟨e, -, -, hlt, hrest⟩ := h
    exact absurd hrest.start_le (Nat.not_le_of_lt hlt)

theorem stop_le (h : l.Tile is start stop) {i : Nat} {e : Entry} (hi : i ∈ is)
    (he : l.entries[i]? = some e) : e.source.stop ≤ stop := by
  induction is generalizing start with
  | nil => cases hi
  | cons j is ih =>
    obtain ⟨d, hd, -, -, hrest⟩ := h
    rcases List.mem_cons.1 hi with rfl | hi
    · obtain rfl := Option.some.inj (hd.symm.trans he)
      exact hrest.start_le
    · exact ih hrest hi

/-- Of neighbouring nodes, only the last one reaches the end of them all. -/
theorem getLast?_eq (h : l.Tile is start stop) {i : Nat} {e : Entry} (hi : i ∈ is)
    (he : l.entries[i]? = some e) (hstop : e.source.stop = stop) : is.getLast? = some i := by
  induction is generalizing start with
  | nil => cases hi
  | cons j is ih =>
    obtain ⟨d, hd, -, -, hrest⟩ := h
    rcases List.mem_cons.1 hi with rfl | hi
    · obtain rfl := Option.some.inj (hd.symm.trans he)
      rw [hstop] at hrest
      rw [hrest.eq_nil]
      rfl
    · rw [List.getLast?_cons, ih hrest hi]
      rfl

end Layout.Tile

/-! ## Where the nodes end -/

theorem Text.CharAt.lt_byteLength {t : Text} {n : Nat} {c : Char} (h : t.CharAt n c) :
    n < byteLength t := by
  obtain ⟨front, back, rfl, rfl⟩ := h
  have hc := c.utf8Size_pos
  rw [byteLength_append, byteLength_cons]
  omega

theorem byteLength_quoted {mark : Char} (h : isQuote mark = true) (body : Text) (closed : Bool) :
    byteLength (Leaf.quoted mark body closed).text =
      1 + byteLength body + if closed then 1 else 0 := by
  have hsize := utf8Size_of_isQuote h
  cases closed with
  | true =>
    simp [Leaf.text, hsize]
    omega
  | false => simp [Leaf.text, hsize]

theorem byteLength_comment (body : Text) (closed : Bool) :
    byteLength (Leaf.comment body closed).text = 2 + byteLength body + if closed then 2 else 0 := by
  cases closed with
  | true =>
    simp [Leaf.text, Char.utf8Size]
    omega
  | false =>
    simp [Leaf.text, Char.utf8Size]
    omega

theorem Node.text_ne_nil_of_open {n : Node} (h : n.closed = false) : n.text ≠ [] := by
  cases n with
  | leaf part =>
    cases part with
    | quoted mark body closed => simp [Leaf.text]
    | comment body closed => simp [Leaf.text]
    | address name body closed => simp [Leaf.text]
    | _ => cases h
  | call name inside closed => simp

/-- How the end of a node stands behind its content. -/
def Entry.Ended (t : Text) (e : Entry) : Prop :=
  match e.node.kind with
  | .quoted => e.value.start = e.source.start + 1 ∧ e.source.stop = e.value.stop + 1 ∧
      ∃ mark, isQuote mark = true ∧ t.CharAt e.source.start mark ∧ t.CharAt e.value.stop mark
  | .comment => e.source.stop = e.value.stop + 2 ∧ t.CharAt e.value.stop '*' ∧
      t.CharAt (e.value.stop + 1) '/'
  | .call => e.source.stop = e.inner.stop + 1 ∧ t.CharAt e.inner.stop ')'
  | _ => True

namespace Forest

variable {t : Text} {i : Nat} {e : Entry}

/-- A node without an end reaches the end of the value, and so does its content. -/
theorem stops_of_open (he : (parse t).layout.entries[i]? = some e)
    (hopen : e.node.closed = false) :
    e.source.stop = byteLength t ∧ e.content.stop = byteLength t := by
  rcases exists_part he with
    ⟨before, first, part, rest, after, hpart, ⟨-, rfl⟩ | hword⟩ |
    ⟨before, first, name, inside, closed, rest, after, hpart, -, rfl⟩
  · obtain ⟨ht, -, nested, hstands, -⟩ := within_parse hpart
    rw [Leaf.entry_node] at hopen
    obtain hs | ⟨-, rfl⟩ := hstands
    · have hbehind := hs.eq_nil_of_open hopen
      rw [text_leaf, List.append_assoc, hbehind, List.append_nil] at ht
      have hlen : byteLength t = byteLength before + byteLength part.text := by
        rw [ht, byteLength_append]
      refine ⟨by rw [Leaf.entry_source, hlen], ?_⟩
      cases part with
      | quoted mark body closed =>
        obtain rfl : closed = false := hopen
        rw [hlen, byteLength_quoted hs.1]
        exact Nat.add_assoc ..
      | comment body closed =>
        obtain rfl : closed = false := hopen
        rw [hlen, byteLength_comment]
        exact Nat.add_assoc ..
      | address name body closed => exact ((framed_address hpart first).unclosed hopen).1
      | _ => cases hopen
    · cases hopen
  · rw [Leaf.closed_of_mem_words hword] at hopen
    cases hopen
  · have hend := (framed_callEntry hpart first).unclosed hopen
    exact ⟨hend.2, hend.1⟩

/-- Every other node has its end right behind its content. -/
theorem ended_of_closed (he : (parse t).layout.entries[i]? = some e)
    (hclosed : e.node.closed = true) : e.Ended t := by
  rcases exists_part he with
    ⟨before, first, part, rest, after, hpart, ⟨-, rfl⟩ | hword⟩ |
    ⟨before, first, name, inside, closed, rest, after, hpart, -, rfl⟩
  · obtain ⟨ht, -, nested, hstands⟩ := within_parse hpart
    rw [text_leaf, List.append_assoc] at ht
    rw [Leaf.entry_node] at hclosed
    cases part with
    | quoted mark body closed =>
      obtain rfl : closed = true := hclosed
      have hmark := hstands.isQuote
      have hsize := utf8Size_of_isQuote hmark
      refine ⟨rfl, ?_, mark, hmark, ⟨before, _, ht, rfl⟩, ?_⟩
      · rw [Leaf.entry_source, byteLength_quoted hmark, if_pos rfl]
        simp only [Leaf.entry, Entry.ofLeaf]
        omega
      · refine ⟨before ++ mark :: body, rest.text ++ after, by simp [ht, Leaf.text], ?_⟩
        rw [byteLength_append, byteLength_cons, hsize]
        exact (Nat.add_assoc ..).symm
    | comment body closed =>
      obtain rfl : closed = true := hclosed
      refine ⟨?_, ?_, ?_⟩
      · rw [Leaf.entry_source, byteLength_comment, if_pos rfl]
        simp only [Leaf.entry, Entry.ofLeaf]
        omega
      · refine ⟨before ++ '/' :: '*' :: body, '/' :: (rest.text ++ after),
          by simp [ht, Leaf.text], ?_⟩
        simp [Leaf.entry, Entry.ofLeaf, Char.utf8Size]
        omega
      · refine ⟨before ++ '/' :: '*' :: (body ++ ['*']), rest.text ++ after,
          by simp [ht, Leaf.text], ?_⟩
        simp [Leaf.entry, Entry.ofLeaf, Char.utf8Size]
        omega
    | address name body closed => exact ((framed_address hpart first).closed hclosed).symm
    | _ => trivial
  · obtain ⟨w, hw⟩ := Leaf.node_of_mem_words hword
    rw [Entry.Ended, hw]
    trivial
  · exact ((framed_callEntry hpart first).closed hclosed).symm

/-! ## What is around a node without an end -/

theorem getLast?_roots_of_open (he : (parse t).layout.entries[i]? = some e)
    (hopen : e.node.closed = false) (hi : i ∈ (parse t).layout.roots) :
    (parse t).layout.roots.getLast? = some i := by
  have htile := Layout.tile_rootsFrom (Layout.holds_layout _) (stands_parse t)
  rw [Nat.zero_add, text_parse] at htile
  rw [layout_eq] at hi ⊢
  exact htile.getLast?_eq hi he (stops_of_open he hopen).1

/-- A node without an end is the last one inside a call, and that lacks its end too. -/
theorem parent_of_open (he : (parse t).layout.entries[i]? = some e) (hopen : e.node.closed = false)
    {p : Nat} {d : Entry} (hd : (parse t).layout.entries[p]? = some d) (hi : i ∈ d.children) :
    d.children.getLast? = some i ∧ d.node.closed = false := by
  have hstop := (stops_of_open he hopen).1
  rcases exists_part hd with
    ⟨before, first, part, rest, after, hpart, ⟨-, rfl⟩ | hword⟩ |
    ⟨before, first, name, inside, closed, rest, after, hpart, -, rfl⟩
  · -- the word inside an address has its end
    obtain ⟨-, hwords, -⟩ := (within_parse hpart).2.1.leaf
    rw [Leaf.children_entry, List.mem_range'_1] at hi
    obtain ⟨j, rfl⟩ := Nat.exists_eq_add_of_le hi.1
    rw [hwords j (by omega)] at he
    rw [Leaf.closed_of_mem_words (List.mem_of_getElem? he)] at hopen
    cases hopen
  · rw [List.flatMap_eq_nil_iff.1 (part.children_words (byteLength before)) d hword] at hi
    cases hi
  · obtain ⟨-, hholds, nested, -, hinside, -⟩ := within_parse hpart
    have htile := Layout.tile_rootsFrom hholds.call.2.1 hinside
    have hle := htile.stop_le hi he
    have hframed := framed_callEntry hpart first
    cases closed with
    | true =>
      have hlt := (hframed.closed rfl).1.lt_byteLength
      rw [hstop] at hle
      exact absurd hle (Nat.not_le_of_lt hlt)
    | false => exact ⟨htile.getLast?_eq hi he (hstop.trans (hframed.unclosed rfl).1.symm), rfl⟩

/-- Of two nodes without an end, the later one holds the earlier one. -/
theorem inside_of_open {j : Nat} {d : Entry} (hd : (parse t).layout.entries[i]? = some d)
    (he : (parse t).layout.entries[j]? = some e) (hdopen : d.node.closed = false)
    (heopen : e.node.closed = false) (hij : i < j) : (parse t).layout.Inside j i := by
  by_contra hout
  have hapart := (Layout.nestsByPlace_layout (parse t)).apart i j d e hd he hij hout
  -- the later one would be empty, since both reach the end of the value
  obtain ⟨-, -, -, hstart, hstop⟩ := (placed_of_mem he).source
  have hpos := byteLength_pos (Node.text_ne_nil_of_open heopen)
  rw [(stops_of_open hd hdopen).1, ← (stops_of_open he heopen).1] at hapart
  omega

theorem isCall_of_inside {j : Nat} (hd : (parse t).layout.entries[j]? = some e)
    (h : (parse t).layout.Inside j i) : e.node.isCall = true := by
  obtain ⟨k, hk, -⟩ := (Layout.inside_iff hd).1 h
  exact (Layout.children_of_getElem? hd).2.2 (List.ne_nil_of_mem hk)

end Forest

/-- How a node without an end stands in the layout of a value: it reaches the end of the value, and
it is the last node on its level, where the call around it lacks its end too. -/
structure Layout.ReachesEnd (l : Layout) (t : Text) (i : Nat) (e : Entry) : Prop where
  kind : e.node.kind = .quoted ∨ e.node.kind = .comment ∨ e.node.kind = .call
  source : e.source.stop = byteLength t
  content : e.content.stop = byteLength t
  level : i ∈ l.roots ∨ ∃ p, l.Child p i
  root : i ∈ l.roots → l.roots.getLast? = some i
  parent : ∀ (p : Nat) (d : Entry), l.entries[p]? = some d → i ∈ d.children →
    d.children.getLast? = some i ∧ d.node.closed = false

theorem Node.kind_of_open {n : Node} (h : n.closed = false) :
    n.kind = .quoted ∨ n.kind = .comment ∨ n.kind = .call := by
  cases n with
  | leaf part =>
    cases part with
    | quoted mark body closed => exact .inl rfl
    | comment body closed => exact .inr (.inl rfl)
    | address name body closed => exact .inr (.inr rfl)
    | _ => cases h
  | call name inside closed => exact .inr (.inr rfl)

theorem Forest.reachesEnd_of_open {t : Text} {i : Nat} {e : Entry}
    (he : (parse t).layout.entries[i]? = some e) (hopen : e.node.closed = false) :
    (parse t).layout.ReachesEnd t i e := by
  obtain ⟨hsource, hcontent⟩ := stops_of_open he hopen
  refine ⟨Node.kind_of_open hopen, hsource, hcontent, ?_, getLast?_roots_of_open he hopen,
    fun p d hd hi => parent_of_open he hopen hd hi⟩
  have hlt := (Array.getElem?_eq_some_iff.1 he).1
  have hmem := (Layout.isPostOrder_layout (parse t)).once.mem_iff.2 (List.mem_range.2 hlt)
  rcases List.mem_append.1 hmem with hroot | hchild
  · exact .inl hroot
  · obtain ⟨d, hd, hi⟩ := List.mem_flatMap.1 hchild
    obtain ⟨p, hp⟩ := List.getElem?_of_mem hd
    exact .inr ⟨p, d, by rwa [← Array.getElem?_toList], hi⟩

/-- In the layout of a value, the nodes without an end form one chain up to the end of the value:
each of them reaches it, as the last node on its level, and of two of them one is inside the other.
At most one is no call, and it is inside all others. Every other string, comment or call has its end
right behind its content. -/
theorem chain_of_open (t : Text) :
    (∀ (i : Nat) (e : Entry), (Forest.parse t).layout.entries[i]? = some e →
      e.node.closed = false → (Forest.parse t).layout.ReachesEnd t i e) ∧
    (∀ (i j : Nat) (d e : Entry), (Forest.parse t).layout.entries[i]? = some d →
      (Forest.parse t).layout.entries[j]? = some e → d.node.closed = false →
      e.node.closed = false → i < j → (Forest.parse t).layout.Inside j i) ∧
    (∀ (i j : Nat) (d e : Entry), (Forest.parse t).layout.entries[i]? = some d →
      (Forest.parse t).layout.entries[j]? = some e → d.node.closed = false →
      e.node.closed = false → d.node.isCall = false → i ≠ j →
        e.node.isCall = true ∧ (Forest.parse t).layout.Inside j i) ∧
    ∀ (i : Nat) (e : Entry), (Forest.parse t).layout.entries[i]? = some e →
      e.node.closed = true → e.Ended t := by
  refine ⟨fun i e he hopen => Forest.reachesEnd_of_open he hopen,
    fun i j d e hd he hdopen heopen hij => Forest.inside_of_open hd he hdopen heopen hij,
    fun i j d e hd he hdopen heopen hcall hne => ?_,
    fun i e he hclosed => Forest.ended_of_closed he hclosed⟩
  rcases Nat.lt_or_gt_of_ne hne with hlt | hgt
  · have hinside := Forest.inside_of_open hd he hdopen heopen hlt
    exact ⟨Forest.isCall_of_inside he hinside, hinside⟩
  · have hinside := Forest.inside_of_open he hd heopen hdopen hgt
    rw [Forest.isCall_of_inside hd hinside] at hcall
    cases hcall

/-- A closed call and a comment with a `(` in front of a call that lacks its end, and in this a
string whose closing quote is escaped. -/
theorem chain_of_open_of_escape :
    (Forest.parse "f(g()/*(*/h(\"é\\\"".toList).layout.Inside 4 2 ∧
      (Forest.parse "f(g()/*(*/h(\"é\\\"".toList).layout.Inside 3 2 ∧
      (Forest.parse "f(g()/*(*/h(\"é\\\"".toList).layout.roots.getLast? = some 4 := by
  have hstring : (Forest.parse "f(g()/*(*/h(\"é\\\"".toList).layout.entries[2]? =
      some (.ofLeaf (.quoted '"' ['é', '\\', '"'] false) ⟨13, 17⟩ ⟨12, 17⟩) := by decide +kernel
  have hinner : (Forest.parse "f(g()/*(*/h(\"é\\\"".toList).layout.entries[3]? =
      some (Forest.callEntry 2 10 ['h'] (Forest.parse "\"é\\\"".toList) false) := by decide +kernel
  have houter : (Forest.parse "f(g()/*(*/h(\"é\\\"".toList).layout.entries[4]? =
      some (Forest.callEntry 0 0 ['f'] (Forest.parse "g()/*(*/h(\"é\\\"".toList) false) := by
    decide +kernel
  obtain ⟨hreach, -, hinnermost, -⟩ := chain_of_open "f(g()/*(*/h(\"é\\\"".toList
  exact ⟨(hinnermost 2 4 _ _ hstring houter rfl rfl rfl (by decide)).2,
    (hinnermost 2 3 _ _ hstring hinner rfl rfl rfl (by decide)).2,
    (hreach 4 _ houter rfl).root (by decide +kernel)⟩

end CallLint
