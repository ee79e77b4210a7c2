import CallLint.Proofs.Argument.Blank
import CallLint.Proofs.Argument.Passing
import CallLint.Proofs.Layout.Place
import CallLint.Proofs.Layout.Subtree

/-!
# Arguments and nodes

The arguments of a call are found twice: the text between its parentheses is cut into pieces, and
the reader of the value finds commas and semicolons among the nodes inside the call. Both agree,
as long as the addresses inside the call are quiet.

* `Argument.Agrees`: what it means that they agree. It is carried from the last node to the first.
* `arguments_agree_children`: what this says of the layout of a value.
-/

namespace CallLint

open Text Cut Cut.Reading

/-- The separator of arguments that the node is, if it is one. -/
def Node.separator? : Node → Option Separator
  | .leaf (.divider ',') => some .comma
  | .leaf (.divider ';') => some .semicolon
  | _ => none

/-- The second range lies within the first. -/
def Span.Contains (s r : Span) : Prop := s.start ≤ r.start ∧ r.stop ≤ s.stop

namespace Argument

/-- The arguments with the places of their pieces, when the first piece begins at the given byte.
Between two pieces there is one byte for the separator. -/
def place (offset : Nat) : List Argument → List (Argument × Span)
  | [] => []
  | a :: arguments =>
    let stop := offset + byteLength a.raw
    (a, ⟨offset, stop⟩) :: place (stop + 1) arguments

/-- The arguments and the nodes of a text that begins at the byte `pos` have the same cuts, and an
argument is blank if and only if its piece holds no nodes but white space and comments. -/
structure Agrees (arguments : List Argument) (entries : List Entry) (pos : Nat) : Prop where
  source : ∀ e ∈ entries, pos ≤ e.source.start ∧ e.source.start < e.source.stop
  cuts : (place pos arguments).filterMap (fun p => p.1.separator.map (Cut.mk p.2.stop)) =
    entries.filterMap fun e => e.node.separator?.map (Cut.mk e.source.start)
  blank : ∀ p ∈ place pos arguments,
    p.1.isBlank = true ↔ ∀ e ∈ entries, p.2.Contains e.source → e.node.Idle

@[simp] theorem raw_ofPiece (raw : Text) (separator : Option Separator) :
    (ofPiece raw separator).raw = raw := by
  simp only [ofPiece]
  split <;> rfl

@[simp] theorem separator_ofPiece (raw : Text) (separator : Option Separator) :
    (ofPiece raw separator).separator = separator := by
  simp only [ofPiece]
  split <;> rfl

theorem le_place {offset : Nat} {arguments : List Argument} :
    ∀ p ∈ place offset arguments, offset ≤ p.2.start := by
  induction arguments generalizing offset with
  | nil => simp [place]
  | cons a arguments ih =>
    rintro p (_ | ⟨_, hp⟩)
    · exact Nat.le_refl offset
    · have hle := ih p hp
      omega

namespace Agrees

variable {a a' : Argument} {arguments : List Argument} {e : Entry} {entries : List Entry}
  {pos : Nat}

theorem nil : Agrees [ofPiece [] none] [] pos := by
  refine ⟨by simp, by simp [place], ?_⟩
  simp [place, isBlank_ofPiece_iff, dropComments]

/-- A node that is a separator ends a piece, and behind it another piece begins. -/
theorem separator {s : Separator} (h : Agrees arguments entries (pos + 1))
    (hsource : e.source = ⟨pos, pos + 1⟩) (hnode : e.node.separator? = some s) :
    Agrees (ofPiece [] (some s) :: arguments) (e :: entries) pos := by
  have hplace : place pos (ofPiece [] (some s) :: arguments) =
      (ofPiece [] (some s), ⟨pos, pos⟩) :: place (pos + 1) arguments := by
    simp [place]
  refine ⟨?_, ?_, ?_⟩
  · rintro d (_ | ⟨_, hd⟩)
    · simp [hsource]
    · obtain ⟨hstart, hlt⟩ := h.source d hd
      exact ⟨by omega, hlt⟩
  · have hcuts := h.cuts
    simp [hplace, hnode, hsource, hcuts]
  · rw [hplace]
    rintro p (_ | ⟨_, hp⟩)
    · refine iff_of_true ((isBlank_ofPiece_iff _ _).2 rfl) ?_
      rintro d (_ | ⟨_, hd⟩) ⟨hstart, hstop⟩
      · simp only [hsource] at hstop
        omega
      · obtain ⟨hd, hlt⟩ := h.source d hd
        simp only at hstop
        omega
    · have hle := le_place p hp
      rw [h.blank p hp, List.forall_mem_cons]
      refine (and_iff_right fun hcontains => ?_).symm
      obtain ⟨hstart, -⟩ := hcontains
      simp only [hsource] at hstart
      omega

/-- Any other node belongs to the first piece. -/
theorem node {len : Nat} (h : Agrees (a :: arguments) entries (pos + len)) (hpos : 0 < len)
    (hsource : e.source = ⟨pos, pos + len⟩) (hnode : e.node.separator? = none)
    (hraw : byteLength a'.raw = len + byteLength a.raw) (hsep : a'.separator = a.separator)
    (hblank : a'.isBlank = true ↔ e.node.Idle ∧ a.isBlank = true) :
    Agrees (a' :: arguments) (e :: entries) pos := by
  have hplace : place pos (a' :: arguments) =
      (a', ⟨pos, pos + len + byteLength a.raw⟩) ::
        place (pos + len + byteLength a.raw + 1) arguments := by
    rw [place, hraw, ← Nat.add_assoc]
  refine ⟨?_, ?_, ?_⟩
  · rintro d (_ | ⟨_, hd⟩)
    · simp only [hsource]
      omega
    · obtain ⟨hstart, hlt⟩ := h.source d hd
      exact ⟨by omega, hlt⟩
  · have hcuts := h.cuts
    rw [place] at hcuts
    simpa [hplace, hnode, hsep, List.filterMap_cons] using hcuts
  · rw [hplace]
    rintro p (_ | ⟨_, hp⟩)
    · have hfirst := h.blank (a, ⟨pos + len, pos + len + byteLength a.raw⟩) List.mem_cons_self
      rw [hblank, hfirst, List.forall_mem_cons]
      refine and_congr ?_ (forall₂_congr fun d hd => ?_)
      · refine ⟨fun hidle _ => hidle, fun hidle => hidle ⟨?_, ?_⟩⟩
        · simp [hsource]
        · simp [hsource]
      · obtain ⟨hstart, -⟩ := h.source d hd
        refine imp_congr_left (and_congr_left fun _ => ?_)
        simp only
        omega
    · have hle := le_place p hp
      rw [h.blank p (List.mem_cons_of_mem _ hp), List.forall_mem_cons]
      refine (and_iff_right fun hcontains => ?_).symm
      obtain ⟨hstart, -⟩ := hcontains
      simp only [hsource] at hstart
      omega

end Agrees

/-! ## The arguments of a text -/

/-- The arguments of a text, which is one blank argument if there is nothing in the text. -/
def ofText (t : Text) : List Argument :=
  ((plain 0).segments t).map fun segment => ofPiece segment.1 segment.2

theorem split_eq_ofText {t : Text} (h : ¬ ∀ c ∈ t, Text.isBlank c = true) :
    split t = ofText t := by
  rw [split, if_neg (by simpa using h), cuts_eq, pieces_cuts, ofText]

/-- Each piece and each separator stands in the text where it is placed. -/
theorem covers_place (r : Reading) (before t : Text) :
    ∀ p ∈ place (byteLength before) ((r.segments t).map fun segment => ofPiece segment.1 segment.2),
      p.2.Covers (before ++ t) p.1.raw ∧
        ∀ s, p.1.separator = some s → (before ++ t).CharAt p.2.stop s.char := by
  induction t generalizing r before with
  | nil =>
    intro p hp
    obtain rfl := List.mem_singleton.1 hp
    exact ⟨⟨before, [], by simp, rfl, rfl⟩, by simp⟩
  | cons c t ih =>
    have hrest := ih (r.step c t.head?).1 (before ++ [c])
    have hlen : byteLength (before ++ [c]) = byteLength before + c.utf8Size := by simp
    rw [List.append_assoc, List.singleton_append, hlen] at hrest
    rw [Reading.segments]
    cases hsep : (r.step c t.head?).2 with
    | none =>
      obtain ⟨front, s, segments, back, hsegments, ht⟩ := exists_segments (r.step c t.head?).1 t
      simp only [hsegments, List.modifyHead_cons, List.map_cons, place, raw_ofPiece,
        byteLength_cons, ← Nat.add_assoc] at hrest ⊢
      rintro p (_ | ⟨_, hp⟩)
      · obtain ⟨-, hstop⟩ := hrest _ List.mem_cons_self
        refine ⟨?_, by simpa using hstop⟩
        have hcovers := covers_append (t := before ++ (c :: front ++ back)) rfl
        simpa [ht, Nat.add_assoc] using hcovers
      · exact hrest p (List.mem_cons_of_mem _ hp)
    | some s =>
      obtain ⟨-, rfl, -⟩ := eq_of_step_eq_some hsep
      simp only [List.map_cons, place, raw_ofPiece, byteLength_nil, Nat.add_zero,
        s.utf8Size_char] at hrest ⊢
      rintro p (_ | ⟨_, hp⟩)
      · refine ⟨⟨before, s.char :: t, rfl, rfl, rfl⟩, ?_⟩
        intro s' hs'
        obtain rfl : s = s' := by simpa using hs'
        exact ⟨before, t, rfl, rfl⟩
      · exact hrest p hp

/-- The argument that a node begins grows by the text of the node. -/
theorem Agrees.cons {x rest : Text} {e : Entry} {entries : List Entry} {pos : Nat}
    (h : Agrees (ofText rest) entries (pos + byteLength x)) (hcross : Crosses 0 x rest)
    (hx : x ≠ []) (hsource : e.source = ⟨pos, pos + byteLength x⟩)
    (hnode : e.node.separator? = none)
    (hidle : ∀ front back, rest = front ++ back →
      (dropComments false (x ++ front) = [] ↔ e.node.Idle ∧ dropComments false front = [])) :
    Agrees (ofText (x ++ rest)) (e :: entries) pos := by
  obtain ⟨front, s, segments, back, hsegments, hrest⟩ := exists_segments (plain 0) rest
  rw [ofText, hsegments, List.map_cons] at h
  rw [ofText, hcross.segments, hsegments, List.modifyHead_cons, List.map_cons]
  refine h.node (byteLength_pos hx) hsource hnode (by simp) (by simp) ?_
  rw [isBlank_ofPiece_iff, isBlank_ofPiece_iff]
  exact hidle front back hrest

theorem ofText_separator (s : Separator) (t : Text) :
    ofText (s.char :: t) = ofPiece [] (some s) :: ofText t := by
  cases s <;> rfl

end Argument

open Argument

/-! ## The nodes of a forest -/

theorem Node.eq_of_separator? {n : Node} {s : Separator} (h : n.separator? = some s) :
    n = .leaf (.divider s.char) := by
  unfold separator? at h
  split at h
  · obtain rfl := Option.some.inj h
    rfl
  · obtain rfl := Option.some.inj h
    rfl
  · cases h

theorem Node.separator?_of_space {n : Node} (h : n.kind = .space) : n.separator? = none := by
  cases hs : n.separator? with
  | none => rfl
  | some s =>
    rw [eq_of_separator? hs] at h
    cases h

namespace Forest

/-- The entries of the top level. -/
def rootEntries (base pos : Nat) : Forest → List Entry
  | .nil => []
  | .leaf part rest =>
    part.entry base pos ::
      rest.rootEntries (base + part.wordCount + 1) (pos + byteLength part.text)
  | .call name inside closed rest =>
    let own := callEntry base pos name inside closed
    own :: rest.rootEntries (base + inside.size + 1) own.source.stop

theorem filterMap_rootsFrom {l : Layout} {f : Forest} {base pos : Nat} (h : l.Holds f base pos) :
    (f.rootsFrom base).filterMap (l.entries[·]?) = f.rootEntries base pos := by
  induction f generalizing base pos with
  | nil => rfl
  | leaf part rest ih =>
    obtain ⟨hown, -, hrest⟩ := h.leaf
    rw [rootsFrom, rootEntries, List.filterMap_cons_some hown, ih hrest]
  | call name inside closed rest _ ih =>
    obtain ⟨hown, -, hrest⟩ := h.call
    rw [rootsFrom, rootEntries, List.filterMap_cons_some hown, ih hrest]
    rfl

theorem map_node_rootEntries (base pos : Nat) (f : Forest) :
    (f.rootEntries base pos).map Entry.node = f.nodes := by
  induction f generalizing base pos with
  | nil => rfl
  | leaf part rest ih => rw [rootEntries, nodes, List.map_cons, ih, Leaf.entry_node]
  | call name inside closed rest _ ih =>
    rw [rootEntries, nodes, List.map_cons, ih]
    rfl

/-- The arguments of the text of a forest agree with its nodes. -/
theorem Stands.agrees {f : Forest} (h : f.Stands true []) (hq : f.Quiet) (base pos : Nat) :
    Agrees (ofText f.text) (f.rootEntries base pos) pos := by
  -- from the last node to the first: a separator begins a new argument in front of all others,
  -- any other node is crossed and grows the first argument
  induction f generalizing base pos with
  | nil => exact .nil
  | leaf part rest ih =>
    obtain ⟨hpart | ⟨hn, -⟩, hrest⟩ := h
    · rw [List.append_nil] at hpart
      have hih := ih hrest hq.2 (base + part.wordCount + 1) (pos + byteLength part.text)
      rw [text_leaf, rootEntries]
      cases hsep : (Node.leaf part).separator? with
      | some s =>
        obtain ⟨rfl⟩ : part = .divider s.char := by simpa using Node.eq_of_separator? hsep
        have hlen : byteLength (Leaf.divider s.char).text = 1 := by cases s <;> rfl
        have hfirst : ofText ((Leaf.divider s.char).text ++ rest.text) =
            ofPiece [] (some s) :: ofText rest.text := ofText_separator s rest.text
        rw [hfirst]
        rw [hlen] at hih ⊢
        exact hih.separator (by simp [hlen]) (by simpa using hsep)
      | none =>
        have hcross : Crosses 0 part.text rest.text := by
          refine hpart.crosses hq.1 fun _ => ⟨?_, ?_⟩
          · rintro rfl
            cases hsep
          · rintro rfl
            cases hsep
        refine hih.cons hcross hpart.text_ne_nil (by simp) (by simpa using hsep) ?_
        intro front back hfront
        rw [hfront] at hpart
        simpa using hpart.front.dropComments_eq_nil_iff
    · cases hn
  | call name inside closed rest _ ih =>
    have hinside : Crosses 1 inside.text ((if closed then [')'] else []) ++ (rest.text ++ [])) :=
      h.2.1.crosses hq.1 (by simp)
    have hcross := h.crosses_call hinside
    have hlen : (callEntry base pos name inside closed).source =
        ⟨pos, pos + byteLength (name ++ '(' :: inside.text ++ (if closed then [')'] else []))⟩ := by
      cases closed <;> simp [callEntry, Leaf.innerSpan, Char.utf8Size] <;> omega
    rw [List.append_nil] at hcross
    rw [text_call, rootEntries]
    refine Agrees.cons ?_ hcross (by simp) hlen rfl fun front back _ => ?_
    · rw [hlen]
      exact ih h.2.2.1 hq.2 _ _
    · have hleft := dropComments_name h.1.1
        (inside.text ++ ((if closed then [')'] else []) ++ front))
      simpa [callEntry, Node.Idle, Node.kind] using hleft

/-- If all addresses among the parts of a forest are quiet, so is the forest. -/
theorem quiet_of_within {f : Forest}
    (h : ∀ before first name body closed rest after,
      Within f before first (.leaf (.address name body closed) rest) after → quiet body = true) :
    f.Quiet := by
  induction f with
  | nil => trivial
  | leaf part rest ih =>
    refine ⟨?_, ih fun _ _ _ _ _ _ _ hg => h _ _ _ _ _ _ _ (.afterLeaf hg)⟩
    cases part with
    | address name body closed => exact h _ _ _ _ _ _ _ (.all _)
    | _ => trivial
  | call name inside closed rest ihInside ih =>
    exact ⟨ihInside fun _ _ _ _ _ _ _ hg => h _ _ _ _ _ _ _ (.inside hg),
      ih fun _ _ _ _ _ _ _ hg => h _ _ _ _ _ _ _ (.afterCall hg)⟩

end Forest

/-! ## The layout of a value -/

/-- The entries of the nodes directly inside a call. -/
def Layout.childEntries (l : Layout) (e : Entry) : List Entry :=
  e.children.filterMap (l.entries[·]?)

/-- The arguments of a call with the places of their pieces in the value. -/
def Entry.arguments (e : Entry) (t : Text) : List (Argument × Span) :=
  Argument.place e.inner.start (Argument.split (e.inner.cut t))

namespace Forest

/-- Where the addresses inside a call are quiet, so is the forest inside it. -/
theorem quiet_inside {t before after name : Text} {first : Nat} {closed : Bool}
    {inside rest : Forest}
    (h : Within (parse t) before first (.call name inside closed rest) after)
    (hquiet : ∀ (m : Nat) (d : Entry), (parse t).layout.Inside (first + inside.size) m →
      (parse t).layout.entries[m]? = some d → d.IsAddress t → quiet (d.inner.cut t) = true) :
    inside.Quiet := by
  obtain ⟨-, hholds, -⟩ := within_parse h
  obtain ⟨hown, hinside, -⟩ := hholds.call
  refine quiet_of_within fun before' first' name' body closed' rest' after' hpart => ?_
  have haddress := h.inside_call.trans hpart
  obtain ⟨-, hleaf, -⟩ := within_parse haddress
  have hcut := (covers_innerSpan (text_eq_of_address haddress)).cut
  have hquiet' := hquiet _ _ ?_ hleaf.leaf.1 (isAddress_entry haddress _)
  · rwa [← hcut]
  · rw [Layout.inside_iff hown]
    refine (Layout.reach_rootsFrom_iff hinside).2 ?_
    have hle := hpart.le_size
    rw [size] at hle
    omega

/-- The nodes inside a call, and what their entries are. -/
theorem childEntries_callEntry {t before after name : Text} {first : Nat} {closed : Bool}
    {inside rest : Forest}
    (h : Within (parse t) before first (.call name inside closed rest) after) :
    (parse t).layout.childEntries (callEntry first (byteLength before) name inside closed) =
      inside.rootEntries first
        (callEntry first (byteLength before) name inside closed).inner.start := by
  obtain ⟨-, hholds, -⟩ := within_parse h
  exact filterMap_rootsFrom hholds.call.2.1

end Forest

theorem place_eq_nil_iff {offset : Nat} {arguments : List Argument} :
    place offset arguments = [] ↔ arguments = [] := by
  cases arguments with
  | nil => exact iff_of_true rfl rfl
  | cons a arguments => simp [place]

theorem Entry.arguments_eq_nil_iff {e : Entry} {t : Text} :
    e.arguments t = [] ↔ ∀ c ∈ e.inner.cut t, isBlank c = true := by
  rw [arguments, place_eq_nil_iff, split_eq_nil_iff]

/-- Each piece and each separator stands in the value where it is placed. -/
theorem Entry.covers_arguments {e : Entry} {t part : Text} (h : e.inner.Covers t part) :
    ∀ p ∈ e.arguments t, p.2.Covers t p.1.raw ∧
      ∀ s, p.1.separator = some s → t.CharAt p.2.stop s.char := by
  rw [arguments, h.cut]
  by_cases hb : ∀ c ∈ part, isBlank c = true
  · rw [(split_eq_nil_iff part).2 hb]
    simp [place]
  · obtain ⟨before, after, ht, hstart, -⟩ := h
    rw [split_eq_ofText hb, ← hstart]
    intro p hp
    obtain ⟨⟨front, back, hfront, hlen⟩, hchar⟩ := covers_place (plain 0) before part p hp
    refine ⟨⟨front, back ++ after, ?_, hlen⟩, fun s hs => ?_⟩
    · rw [ht, ← List.append_assoc, hfront]
      simp
    · obtain ⟨front, back, hfront, hlen⟩ := hchar s hs
      refine ⟨front, back ++ after, ?_, hlen⟩
      rw [ht, ← List.append_assoc, hfront]
      simp

namespace Forest

variable {e : Entry} {t : Text} {inside : Forest}

theorem arguments_eq_nil (hinner : e.inner.Covers t inside.text) (hinside : inside.Stands true [])
    (base : Nat) :
    e.arguments t = [] ↔ ∀ d ∈ inside.rootEntries base e.inner.start, d.node.kind = .space := by
  rw [Entry.arguments_eq_nil_iff, hinner.cut, hinside.forall_isBlank_iff,
    ← map_node_rootEntries base e.inner.start inside, List.forall_mem_map]

/-- The arguments in the text of the nodes inside a call agree with the nodes. -/
theorem arguments_agree (hinner : e.inner.Covers t inside.text) (hinside : inside.Stands true [])
    (hq : inside.Quiet) (base : Nat) :
    (e.arguments t).filterMap (fun p => p.1.separator.map (Cut.mk p.2.stop)) =
      (inside.rootEntries base e.inner.start).filterMap
        (fun d => d.node.separator?.map (Cut.mk d.source.start)) ∧
    ∀ p ∈ e.arguments t, p.1.isBlank = true ↔
      ∀ d ∈ inside.rootEntries base e.inner.start, p.2.Contains d.source → d.node.Idle := by
  by_cases hnil : e.arguments t = []
  · have hspace := (arguments_eq_nil hinner hinside base).1 hnil
    rw [hnil]
    refine ⟨?_, by simp⟩
    rw [List.filterMap_nil, eq_comm, List.filterMap_eq_nil_iff]
    intro d hd
    rw [Node.separator?_of_space (hspace d hd)]
    rfl
  · rw [Entry.arguments_eq_nil_iff, hinner.cut] at hnil
    have hagree := hinside.agrees hq base e.inner.start
    rw [Entry.arguments, hinner.cut, split_eq_ofText hnil]
    exact ⟨hagree.cuts, hagree.blank⟩

end Forest

/-- The arguments of a call and the nodes inside it agree when no address inside the call has a
quote, a `(` or a `/*` outside escapes. Both have the same separators at the same places, an
argument is blank if and only if no node in its piece is other than white space or a comment, and
there are no arguments if and only if there is nothing but white space. -/
theorem arguments_agree_children {t : Text} {n : Nat} {e : Entry}
    (he : (Forest.parse t).layout.entries[n]? = some e) (hcall : e.node.isCall = true)
    (ha : ¬ e.IsAddress t)
    (hquiet : ∀ (m : Nat) (d : Entry), (Forest.parse t).layout.Inside n m →
      (Forest.parse t).layout.entries[m]? = some d → d.IsAddress t →
        quiet (d.inner.cut t) = true) :
    (∀ p ∈ e.arguments t, p.2.Covers t p.1.raw ∧
      ∀ s, p.1.separator = some s → t.CharAt p.2.stop s.char) ∧
    (e.arguments t).filterMap (fun p => p.1.separator.map (Cut.mk p.2.stop)) =
      ((Forest.parse t).layout.childEntries e).filterMap
        (fun d => d.node.separator?.map (Cut.mk d.source.start)) ∧
    (∀ p ∈ e.arguments t, p.1.isBlank = false ↔
      ∃ d ∈ (Forest.parse t).layout.childEntries e,
        p.2.Contains d.source ∧ d.node.kind ≠ .space ∧ d.node.kind ≠ .comment) ∧
    (e.arguments t = [] ↔
      ∀ d ∈ (Forest.parse t).layout.childEntries e, d.node.kind = .space) := by
  obtain ⟨before, first, name, inside, closed, rest, after, h, rfl, rfl⟩ :=
    Forest.exists_call he hcall ha
  obtain ⟨-, -, nested, -, hstands, -⟩ := Forest.within_parse h
  have hinside : inside.Stands true [] := Forest.Stands.front (s := []) hstands
  have hinner := covers_innerSpan (Forest.text_eq_of_call h)
  obtain ⟨hcuts, hblank⟩ :=
    Forest.arguments_agree (e := Forest.callEntry first (byteLength before) name inside closed)
      hinner hinside (Forest.quiet_inside h hquiet) first
  rw [Forest.childEntries_callEntry h]
  refine ⟨Entry.covers_arguments hinner, hcuts, fun p hp => ?_,
    Forest.arguments_eq_nil hinner hinside first⟩
  rw [← Bool.not_eq_true, hblank p hp]
  simp only [Node.Idle, not_forall, not_or, exists_prop]

/-- A semicolon outside and a comma inside quotes, and an address between two separators. -/
theorem arguments_agree_children_of_address :
    (Forest.parse "f(a;url(b),\"c,\")".toList).layout.entries[6]? =
        some (Forest.callEntry 0 0 ['f'] (Forest.parse "a;url(b),\"c,\"".toList) true) ∧
      ((Forest.callEntry 0 0 ['f'] (Forest.parse "a;url(b),\"c,\"".toList) true).arguments
          "f(a;url(b),\"c,\")".toList).filterMap
        (fun p => p.1.separator.map (Cut.mk p.2.stop)) = [⟨3, .semicolon⟩, ⟨10, .comma⟩] := by
  have he : (Forest.parse "f(a;url(b),\"c,\")".toList).layout.entries[6]? =
      some (Forest.callEntry 0 0 ['f'] (Forest.parse "a;url(b),\"c,\"".toList) true) := by
    decide +kernel
  have hquiet : ∀ d ∈ (Forest.parse "f(a;url(b),\"c,\")".toList).layout.entries.toList,
      d.IsAddress "f(a;url(b),\"c,\")".toList →
        quiet (d.inner.cut "f(a;url(b),\"c,\")".toList) = true := by decide +kernel
  have hmem : ∀ (m : Nat) (d : Entry),
      (Forest.parse "f(a;url(b),\"c,\")".toList).layout.entries[m]? = some d →
        d ∈ (Forest.parse "f(a;url(b),\"c,\")".toList).layout.entries.toList := by
    intro m d hd
    rw [← Array.getElem?_toList] at hd
    exact List.mem_of_getElem? hd
  obtain ⟨-, hcuts, -⟩ := arguments_agree_children he rfl (by decide +kernel)
    fun m d _ hd => hquiet d (hmem m d hd)
  exact ⟨he, hcuts.trans (by decide +kernel)⟩

end CallLint
