import CallLint.Proofs.Config.Setting

/-!
# Options by themselves

Options are read straight from their text, and a setting is read as a value of JSON first. The two
ways report different problems, but they take the same options: a text holds options if and only if
a list of an expectation and this text is a setting.

* `Options.read_eq_ok_iff`: options are read from their texts, and from no other ones.
* `whole_pair_iff`: a text after an expectation makes a setting if the text holds options.
* `Config.ofJson_pair`: options read by themselves, and as part of a setting.
-/

namespace CallLint

open Json

namespace Options

variable {bound n : Nat} {first : Bool} {t rest u : Text} {ss : List Text} {o : Options}

/-! ## Lists of strings -/

/-- Reads a string where an item of a list begins. -/
def readText (t : Text) : Except Json.Problem (Text × Text) :=
  match skipSpace t with
  | [] => .error .endInValue
  | '"' :: t => readString t
  | t => .error (wrongType .string t)

theorem reads_text (s : Text) : Reads readText s (Literal s) n := by
  intro t rest _
  rw [starts_literal_iff]
  constructor
  · intro h
    unfold readText at h
    split at h
    · cases h
    next t₁ hskip => exact ⟨t₁, hskip, h⟩
    · cases h
  · rintro ⟨t₁, hskip, hread⟩
    rw [readText, hskip]
    exact hread

theorem readText_of_ne (hnil : skipSpace t ≠ []) (hquote : ∀ t₁, skipSpace t ≠ '"' :: t₁) :
    readText t = .error (wrongType .string (skipSpace t)) := by
  unfold readText
  split
  next h => exact absurd h hnil
  next h => exact absurd h (hquote _)
  · rfl

theorem loop_readStringItems :
    Loop ']' (fun n => n) nextItem (fun _ => readText) readStringItems where
  need_lt h := h
  succ bound first t := by
    rw [readStringItems, readRound]
    apply bind_congr
    rintro ⟨more, t⟩
    cases more with
    | false => rfl
    | true =>
      simp only [if_true]
      split
      next hskip =>
        have htext : readText t = .error .endInValue := by simp only [readText, hskip]
        rw [htext]
        rfl
      next t₁ hskip =>
        have htext : readText t = readString t₁ := by simp only [readText, hskip]
        rw [htext]
      next hnil hquote =>
        rw [readText_of_ne hnil hquote]
        rfl
  ends first t rest := nextItem_eq_end_iff

theorem readStringItems_eq_ok_iff (hbound : t.length < bound) :
    readStringItems bound first t = .ok (ss, rest) ↔
      ∃ u, Items ']' first (ss.map Literal) u ∧ t = u ++ rest := by
  apply loop_readStringItems.eq_ok_iff
  · intro s _ bound first t rest _
    exact (reads_text s).item_iff (fun _ hu => hu.opens) le_rfl
  · intro s _ u hu
    exact hu.opens.ne_nil
  · exact hbound

theorem reads_strings (ss : List Text) : Reads readStrings ss (StringsText ss) n := by
  intro t rest _
  rw [StringsText, starts_bracketed_iff rfl]
  constructor
  · intro h
    unfold readStrings at h
    split at h
    · cases h
    next t₁ hskip => exact ⟨t₁, hskip, (readStringItems_eq_ok_iff (Nat.lt_succ_self _)).1 h⟩
    · cases h
  · rintro ⟨t₁, hskip, hitems⟩
    rw [readStrings, hskip]
    exact (readStringItems_eq_ok_iff (Nat.lt_succ_self _)).2 hitems

theorem StringsText.opens (h : StringsText ss u) : Opens u :=
  Bracketed.opens h rfl (by decide)

/-! ## Options as a list -/

theorem readListEnd_eq_ok_iff :
    readListEnd t = .ok rest ↔ ∃ w, Spaces w ∧ t = w ++ ']' :: rest := by
  constructor
  · intro h
    unfold readListEnd at h
    split at h
    · cases h
    next u hu =>
      obtain rfl := Except.ok.inj h
      exact (skipSpace_eq_cons_iff.1 hu).2
    · split at h <;> cases h
    · cases h
  · rintro ⟨w, hw, rfl⟩
    rw [readListEnd, skipSpace_append hw, skipSpace_cons rfl]
    rfl

/-- Options as a list hold no list, one list or two lists. -/
theorem readList_cases :
    readList t = .ok (o, rest) ↔
      (nextItem true t = .ok (false, rest) ∧ o = ofLists []) ∨
      (∃ ss t₁, (∃ t₀, nextItem true t = .ok (true, t₀) ∧ readStrings t₀ = .ok (ss, t₁)) ∧
        nextItem false t₁ = .ok (false, rest) ∧ o = ofLists [ss]) ∨
      ∃ ss t₁, (∃ t₀, nextItem true t = .ok (true, t₀) ∧ readStrings t₀ = .ok (ss, t₁)) ∧
        ∃ ss' t₂, (∃ t₀, nextItem false t₁ = .ok (true, t₀) ∧ readStrings t₀ = .ok (ss', t₂)) ∧
          readListEnd t₂ = .ok rest ∧ o = ofLists [ss, ss'] := by
  rw [readList, bind_eq_ok_iff]
  constructor
  · rintro ⟨⟨more, t₀⟩, hnext, h⟩
    cases more with
    | false =>
      cases h
      exact .inl ⟨hnext, rfl⟩
    | true =>
      obtain ⟨⟨ss, t₁⟩, hss, h⟩ := bind_eq_ok_iff.1 h
      obtain ⟨⟨more, t₂⟩, hnext', h⟩ := bind_eq_ok_iff.1 h
      cases more with
      | false =>
        cases h
        exact .inr (.inl ⟨ss, t₁, ⟨t₀, hnext, hss⟩, hnext', rfl⟩)
      | true =>
        obtain ⟨⟨ss', t₃⟩, hss', h⟩ := bind_eq_ok_iff.1 h
        obtain ⟨t₄, hend, h⟩ := bind_eq_ok_iff.1 h
        cases h
        exact .inr (.inr ⟨ss, t₁, ⟨t₀, hnext, hss⟩, ss', t₃, ⟨t₂, hnext', hss'⟩, hend, rfl⟩)
  · rintro (⟨hnext, rfl⟩ | ⟨ss, t₁, ⟨t₀, hnext, hss⟩, hnext', rfl⟩ |
      ⟨ss, t₁, ⟨t₀, hnext, hss⟩, ss', t₃, ⟨t₂, hnext', hss'⟩, hend, rfl⟩)
    · exact ⟨_, hnext, rfl⟩
    · exact ⟨_, hnext, bind_eq_ok_iff.2 ⟨_, hss, bind_eq_ok_iff.2 ⟨_, hnext', rfl⟩⟩⟩
    · exact ⟨_, hnext, bind_eq_ok_iff.2 ⟨_, hss, bind_eq_ok_iff.2 ⟨_, hnext', bind_eq_ok_iff.2
        ⟨_, hss', bind_eq_ok_iff.2 ⟨_, hend, rfl⟩⟩⟩⟩⟩

theorem item_strings_iff :
    (∃ t₀, nextItem first t = .ok (true, t₀) ∧ readStrings t₀ = .ok (ss, rest)) ↔
      ∃ w u, Lead first w ∧ StringsText ss u ∧ t = w ++ (u ++ rest) :=
  (reads_strings ss).item_iff (fun _ hu => StringsText.opens hu) le_rfl

theorem readList_eq_ok_iff :
    readList t = .ok (o, rest) ↔
      ∃ lists : List (List Text), lists.length ≤ 2 ∧ o = ofLists lists ∧
        ∃ u, Items ']' true (lists.map StringsText) u ∧ t = u ++ rest := by
  simp only [readList_cases, item_strings_iff, nextItem_eq_end_iff, readListEnd_eq_ok_iff]
  constructor
  · rintro (⟨hend, rfl⟩ | ⟨ss, t₁, hss, hend, rfl⟩ | ⟨ss, t₁, hss, ss', t₂, hss', hend, rfl⟩)
    · exact ⟨[], by simp, rfl, items_nil_iff.2 hend⟩
    · exact ⟨[ss], by simp, rfl, items_cons_iff.2 ⟨t₁, hss, items_nil_iff.2 hend⟩⟩
    · exact ⟨[ss, ss'], by simp, rfl, items_cons_iff.2 ⟨t₁, hss, items_cons_iff.2
        ⟨t₂, hss', items_nil_iff.2 hend⟩⟩⟩
  · rintro ⟨lists, hlength, rfl, hu⟩
    match lists, hlength with
    | [], _ => exact .inl ⟨items_nil_iff.1 hu, rfl⟩
    | [ss], _ =>
      obtain ⟨t₁, hss, hu⟩ := items_cons_iff.1 hu
      exact .inr (.inl ⟨ss, t₁, hss, items_nil_iff.1 hu, rfl⟩)
    | [ss, ss'], _ =>
      obtain ⟨t₁, hss, hu⟩ := items_cons_iff.1 hu
      obtain ⟨t₂, hss', hu⟩ := items_cons_iff.1 hu
      exact .inr (.inr ⟨ss, t₁, hss, ss', t₂, hss', items_nil_iff.1 hu, rfl⟩)

/-! ## Options as an object -/

/-- One round over the fields of an object, by the fields that were read before. -/
theorem readFields_succ (done : List (Text × List Text)) :
    readFields (bound + 1) first (done.lookup ignoreField) (done.lookup functionsField) t = do
      let (more, t) ← nextKey first t
      if more then
        let (key, t) ← readString t
        if key = ignoreField ∨ key = functionsField then
          if (done.lookup key).isSome then .error (.duplicateField key)
          else
            let (items, t) ← readStrings (← readColon t)
            readFields bound false ((done ++ [(key, items)]).lookup ignoreField)
              ((done ++ [(key, items)]).lookup functionsField) t
        else .error (.unknownField key)
      else return (ofFields done, t) := by
  rw [readFields]
  apply bind_congr
  rintro ⟨more, t⟩
  cases more with
  | false => rfl
  | true =>
    apply bind_congr
    rintro ⟨key, t⟩
    dsimp only
    by_cases hignore : key = ignoreField
    · have hknown : key = ignoreField ∨ key = functionsField := .inl hignore
      rw [if_pos hignore, if_pos hknown, hignore]
      by_cases hnew : (done.lookup ignoreField).isSome = true
      · rw [if_pos hnew, if_pos hnew]
      · rw [if_neg hnew, if_neg hnew]
        simp only [lookup_concat_self (Option.not_isSome_iff_eq_none.1 hnew),
          lookup_concat_of_ne ignoreField_ne.symm]
    by_cases hfunctions : key = functionsField
    · have hknown : key = ignoreField ∨ key = functionsField := .inr hfunctions
      rw [if_neg hignore, if_pos hfunctions, if_pos hknown, hfunctions]
      by_cases hnew : (done.lookup functionsField).isSome = true
      · rw [if_pos hnew, if_pos hnew]
      · rw [if_neg hnew, if_neg hnew]
        simp only [lookup_concat_self (Option.not_isSome_iff_eq_none.1 hnew),
          lookup_concat_of_ne ignoreField_ne]
    · rw [if_neg hignore, if_neg hfunctions, if_neg (not_or_intro hignore hfunctions)]

theorem readFields_succ_iff {done : List (Text × List Text)} (hdone : Fields done) :
    readFields (bound + 1) first (done.lookup ignoreField) (done.lookup functionsField) t =
        .ok (o, rest) ↔
      (nextKey first t = .ok (false, rest) ∧ o = ofFields done) ∨
      ∃ key ss t₁, (∃ t₀, nextKey first t = .ok (true, t₀) ∧ ∃ t₂ t₃,
          readString t₀ = .ok (key, t₂) ∧ readColon t₂ = .ok t₃ ∧ readStrings t₃ = .ok (ss, t₁)) ∧
        Fields (done ++ [(key, ss)]) ∧
        readFields bound false ((done ++ [(key, ss)]).lookup ignoreField)
          ((done ++ [(key, ss)]).lookup functionsField) t₁ = .ok (o, rest) := by
  rw [readFields_succ, bind_eq_ok_iff]
  simp only [fields_concat_iff hdone]
  constructor
  · rintro ⟨⟨more, t₀⟩, hnext, h⟩
    cases more with
    | false =>
      cases h
      exact .inl ⟨hnext, rfl⟩
    | true =>
      obtain ⟨⟨key, t₂⟩, hkey, h⟩ := bind_eq_ok_iff.1 h
      dsimp only at h
      split at h
      next hknown =>
        split at h
        · cases h
        next hnew =>
          obtain ⟨t₃, hcolon, h⟩ := bind_eq_ok_iff.1 h
          obtain ⟨⟨ss, t₁⟩, hss, h⟩ := bind_eq_ok_iff.1 h
          exact .inr ⟨key, ss, t₁, ⟨t₀, hnext, t₂, t₃, hkey, hcolon, hss⟩,
            ⟨hknown, Option.not_isSome_iff_eq_none.1 hnew⟩, h⟩
      · cases h
  · rintro (⟨hnext, rfl⟩ | ⟨key, ss, t₁, ⟨t₀, hnext, t₂, t₃, hkey, hcolon, hss⟩,
      ⟨hknown, hnew⟩, h⟩)
    · exact ⟨_, hnext, rfl⟩
    · refine ⟨_, hnext, bind_eq_ok_iff.2 ⟨_, hkey, ?_⟩⟩
      dsimp only
      rw [if_pos hknown, if_neg (Option.not_isSome_iff_eq_none.2 hnew)]
      exact bind_eq_ok_iff.2 ⟨_, hcolon, bind_eq_ok_iff.2 ⟨_, hss, h⟩⟩

theorem readFields_eq_ok_iff {done : List (Text × List Text)} (hdone : Fields done)
    (hbound : t.length < bound) :
    readFields bound first (done.lookup ignoreField) (done.lookup functionsField) t =
        .ok (o, rest) ↔
      ∃ fields : List (Text × List Text), Fields (done ++ fields) ∧ o = ofFields (done ++ fields) ∧
        ∃ u, Items '}' first (fields.map fun f => Member f.1 (StringsText f.2)) u ∧
          t = u ++ rest := by
  induction bound generalizing first t done with
  | zero => omega
  | succ bound ih =>
    rw [readFields_succ_iff hdone]
    simp only [(reads_strings _).member_iff le_rfl, nextKey_eq_end_iff]
    constructor
    · rintro (⟨hend, rfl⟩ | ⟨key, ss, t₁, hmember, hconcat, h⟩)
      · exact ⟨[], by rwa [List.append_nil], by rw [List.append_nil], items_nil_iff.2 hend⟩
      · have hlt := length_lt_of_item (fun _ hu => Member.ne_nil hu) hmember
        obtain ⟨fields, hfields, ho, hu⟩ := (ih hconcat (by omega)).1 h
        rw [← List.append_cons] at hfields ho
        exact ⟨(key, ss) :: fields, hfields, ho, items_cons_iff.2 ⟨t₁, hmember, hu⟩⟩
    · rintro ⟨fields, hfields, ho, hu⟩
      cases fields with
      | nil =>
        rw [List.append_nil] at ho
        exact .inl ⟨items_nil_iff.1 hu, ho⟩
      | cons f fields =>
        obtain ⟨key, ss⟩ := f
        obtain ⟨t₁, hmember, hu⟩ := items_cons_iff.1 hu
        have hlt := length_lt_of_item (fun _ hu => Member.ne_nil hu) hmember
        rw [List.append_cons] at hfields ho
        have hconcat := hfields.of_append
        exact .inr ⟨key, ss, t₁, hmember, hconcat,
          (ih hconcat (by omega)).2 ⟨fields, hfields, ho, hu⟩⟩

/-! ## Options alone -/

theorem readObject_eq_ok_iff :
    readFields (t.length + 1) true none none t = .ok (o, rest) ↔
      ∃ fields, Fields fields ∧ o = ofFields fields ∧
        ∃ u, Items '}' true (fields.map fun f => Member f.1 (StringsText f.2)) u ∧ t = u ++ rest :=
  readFields_eq_ok_iff fields_nil (Nat.lt_succ_self _)

theorem starts_optionsText_iff :
    Starts (OptionsText o) t rest ↔
      (∃ t₁, skipSpace t = '[' :: t₁ ∧ readList t₁ = .ok (o, rest)) ∨
      ∃ t₁, skipSpace t = '{' :: t₁ ∧
        readFields (t₁.length + 1) true none none t₁ = .ok (o, rest) := by
  simp only [readList_eq_ok_iff, readObject_eq_ok_iff]
  constructor
  · rintro ⟨w, u, hw, hu, rfl⟩
    cases hu with
    | @lists lists _ hlength hu =>
      obtain ⟨t₁, hskip, hitems⟩ := (starts_bracketed_iff rfl).1 ⟨w, u, hw, hu, rfl⟩
      exact .inl ⟨t₁, hskip, lists, hlength, rfl, hitems⟩
    | @fields fields _ hfields hu =>
      obtain ⟨t₁, hskip, hitems⟩ := (starts_bracketed_iff rfl).1 ⟨w, u, hw, hu, rfl⟩
      exact .inr ⟨t₁, hskip, fields, hfields, rfl, hitems⟩
  · rintro (⟨t₁, hskip, lists, hlength, rfl, hitems⟩ | ⟨t₁, hskip, fields, hfields, rfl, hitems⟩)
    · obtain ⟨w, u, hw, hu, rfl⟩ := (starts_bracketed_iff rfl).2 ⟨t₁, hskip, hitems⟩
      exact ⟨w, u, hw, .lists hlength hu, rfl⟩
    · obtain ⟨w, u, hw, hu, rfl⟩ := (starts_bracketed_iff rfl).2 ⟨t₁, hskip, hitems⟩
      exact ⟨w, u, hw, .fields hfields hu, rfl⟩

/-- Options are read from their texts, and from no other ones. -/
theorem read_eq_ok_iff : read t = .ok o ↔ Whole (OptionsText o) t := by
  constructor
  · intro h
    unfold read at h
    split at h
    · cases h
    next t₁ hskip =>
      obtain ⟨⟨o', rest⟩, hread, h⟩ := bind_eq_ok_iff.1 h
      obtain ⟨_, hend, h⟩ := bind_eq_ok_iff.1 h
      cases h
      exact ⟨rest, checkEnd_eq_ok_iff.1 hend, starts_optionsText_iff.2 (.inl ⟨t₁, hskip, hread⟩)⟩
    next t₁ hskip =>
      obtain ⟨⟨o', rest⟩, hread, h⟩ := bind_eq_ok_iff.1 h
      obtain ⟨_, hend, h⟩ := bind_eq_ok_iff.1 h
      cases h
      exact ⟨rest, checkEnd_eq_ok_iff.1 hend, starts_optionsText_iff.2 (.inr ⟨t₁, hskip, hread⟩)⟩
    · cases h
  · rintro ⟨rest, hrest, hstarts⟩
    obtain ⟨t₁, hskip, hread⟩ | ⟨t₁, hskip, hread⟩ := starts_optionsText_iff.1 hstarts
    · rw [read, hskip]
      exact bind_eq_ok_iff.2 ⟨_, hread, bind_eq_ok_iff.2 ⟨(), checkEnd_eq_ok_iff.2 hrest, rfl⟩⟩
    · rw [read, hskip]
      exact bind_eq_ok_iff.2 ⟨_, hread, bind_eq_ok_iff.2 ⟨(), checkEnd_eq_ok_iff.2 hrest, rfl⟩⟩

end Options

/-! ## Options in a setting -/

variable {e q t : Text}

/-- A list of an expectation and a text is a setting if the text holds options. -/
theorem whole_pair_iff (hq : Literal e q) {s : Setting} :
    Whole (SettingText s) ('[' :: (q ++ ',' :: (t ++ [']']))) ↔
      ∃ o, s = ⟨e, some o⟩ ∧ Whole (OptionsText o) t := by
  obtain ⟨b, rfl⟩ := hq.exists_cons
  constructor
  · rintro ⟨rest, hrest, w, u, hw, hu, heq⟩
    cases hu with
    | alone hu =>
      obtain ⟨b', rfl⟩ := hu.exists_cons
      obtain rfl := hw.eq_nil_of_cons rfl heq
      cases (List.cons.inj heq).1
    | @both e' _ o hu =>
      obtain ⟨w', p, x, v, o', y, hw', hp, hx, hv, ho', hy, rfl⟩ := bracketed_pair_iff.1 hu
      obtain ⟨b', rfl⟩ := hp.exists_cons
      simp only [List.append_assoc, List.cons_append, List.nil_append] at heq
      obtain rfl := hw.eq_nil_of_cons rfl heq
      have hitems := (List.cons.inj heq).2
      obtain rfl := hw'.eq_nil_of_cons rfl hitems
      -- the expectation is the same, since no literal begins another one
      obtain ⟨rfl, -, hcomma⟩ := hq.unique hp hitems
      obtain rfl := hx.eq_nil_of_cons rfl hcomma
      have htext : t ++ [']'] = (v ++ (o' ++ y) ++ [']']) ++ rest := by
        simpa using (List.cons.inj hcomma).2
      -- the last bracket of the text is the one that closes the list
      obtain rfl := hrest.eq_nil_of_concat rfl htext
      rw [List.append_nil] at htext
      obtain rfl := List.append_cancel_right htext
      exact ⟨o, rfl, y, hy, v, o', hv, ho', rfl⟩
  · rintro ⟨o, rfl, y, hy, v, u, hv, hu, rfl⟩
    refine ⟨[], spaces_nil, [], _, spaces_nil, .both (bracketed_pair_iff.2
      ⟨[], _, [], v, u, y, spaces_nil, hq, spaces_nil, hv, hu, hy, rfl⟩), ?_⟩
    simp

namespace Config

/-- Options by themselves and as part of a setting are the same. -/
theorem ofJson_pair (hq : Literal e q) (t : Text) :
    ((∃ o, Options.read t = .ok o) ↔
        ∀ problem, ofJson ('[' :: (q ++ ',' :: (t ++ [']']))) ≠ .error (.json problem)) ∧
      ∀ o, Options.read t = .ok o →
        ofJson ('[' :: (q ++ ',' :: (t ++ [']']))) = ofOptions e o := by
  rw [ofJson_ne_json_iff]
  simp only [whole_pair_iff hq, Options.read_eq_ok_iff]
  refine ⟨⟨?_, ?_⟩, ?_⟩
  · rintro ⟨o, ho⟩
    exact ⟨_, o, rfl, ho⟩
  · rintro ⟨_, o, -, ho⟩
    exact ⟨o, ho⟩
  · intro o ho
    exact ofJson_eq ((whole_pair_iff hq).2 ⟨o, rfl, ho⟩)

theorem ofJson_pair_of_escapes :
    let t := " \x7b\"ignor\\u0065\": [],\n\"ignoreFunctions\" : [\"rgb\"]\x7d ".toList
    let o : Options := ⟨[], ["rgb".toList]⟩
    Literal "never".toList "\"n\\u0065ver\"".toList ∧ Options.read t = .ok o ∧
      (∀ problem, ofJson ('[' :: ("\"n\\u0065ver\"".toList ++ ',' :: (t ++ [']']))) ≠
        .error (.json problem)) ∧
      ofJson ('[' :: ("\"n\\u0065ver\"".toList ++ ',' :: (t ++ [']']))) =
        ofOptions "never".toList o := by
  intro t o
  have hstring : readString "n\\u0065ver\"".toList = .ok ("never".toList, []) := by decide
  obtain ⟨q, hq, heq⟩ := readString_eq_ok_iff.1 hstring
  have hliteral : Literal "never".toList "\"n\\u0065ver\"".toList := by
    rw [List.append_nil] at heq
    rwa [← heq] at hq
  have hread : Options.read t = .ok o := by decide
  obtain ⟨haccepted, hmeans⟩ := ofJson_pair hliteral t
  exact ⟨hliteral, hread, haccepted.1 ⟨o, hread⟩, hmeans o hread⟩

end Config

end CallLint
