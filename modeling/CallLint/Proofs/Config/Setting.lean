import CallLint.Proofs.Config.Checking
import CallLint.Proofs.Json.Textual
import Mathlib.Data.List.Nodup

/-!
# Settings written in JSON

The texts of settings have a grammar of their own. A text makes a configuration, or fails for what
its entries say, if it is in the grammar; every other text is refused before its entries are looked
at.

* `OptionsText`, `SettingText`: the texts of options and of settings.
* `Setting.read_eq_ok_iff`: what is read is a setting of the grammar, and each of them is read.
* `Config.ofJson_accepts`: the settings of the grammar are the ones that are accepted.
-/

namespace CallLint

open Json

/-- The texts of a list of strings. -/
def StringsText (ss : List Text) : Text → Prop := Bracketed '[' ']' (ss.map Literal)

namespace Options

/-- The options that two lists make, one after the other. -/
def ofLists (lists : List (List Text)) : Options := ⟨lists[0]?.getD [], lists[1]?.getD []⟩

/-- The options that named lists make. -/
def ofFields (fields : List (Text × List Text)) : Options :=
  ⟨(fields.lookup ignoreField).getD [], (fields.lookup functionsField).getD []⟩

/-- Both lists have names of their own, and each name occurs once at most. -/
structure Fields (fields : List (Text × List Text)) : Prop where
  nodup : (fields.map Prod.fst).Nodup
  known : ∀ f ∈ fields, f.1 = ignoreField ∨ f.1 = functionsField

end Options

/-- The texts of options: at most two lists in their order, or an object of named lists. -/
inductive OptionsText : Options → Text → Prop
  | lists {lists : List (List Text)} {u : Text} (hlength : lists.length ≤ 2)
    (hu : Bracketed '[' ']' (lists.map StringsText) u) : OptionsText (.ofLists lists) u
  | fields {fields : List (Text × List Text)} {u : Text} (hfields : Options.Fields fields)
    (hu : Bracketed '{' '}' (fields.map fun f => Member f.1 (StringsText f.2)) u) :
    OptionsText (.ofFields fields) u

/-- The texts of settings: an expectation alone, or a list of an expectation and options. -/
inductive SettingText : Setting → Text → Prop
  | alone {expectation u : Text} (hu : Literal expectation u) : SettingText ⟨expectation, none⟩ u
  | both {expectation u : Text} {options : Options}
    (hu : Bracketed '[' ']' [Literal expectation, OptionsText options] u) :
    SettingText ⟨expectation, some options⟩ u

/-- One of the texts, and white space around it. -/
def Whole (P : Text → Prop) (t : Text) : Prop := ∃ w, Spaces w ∧ Starts P t w

variable {t u : Text}

/-! ## Fields one after the other -/

namespace Options

theorem ignoreField_ne : ignoreField ≠ functionsField := by decide

variable {done fields : List (Text × List Text)} {key : Text} {ss : List Text}

theorem lookup_eq_none_iff_not_mem : done.lookup key = none ↔ key ∉ done.map Prod.fst := by
  rw [List.lookup_eq_none_iff, List.mem_map]
  constructor
  · rintro h ⟨f, hf, rfl⟩
    simpa using h f hf
  · intro h f hf
    simp only [bne_iff_ne, ne_eq]
    rintro rfl
    exact h ⟨f, hf, rfl⟩

theorem lookup_concat_self (h : done.lookup key = none) :
    (done ++ [(key, ss)]).lookup key = some ss := by
  rw [List.lookup_append, h, List.lookup_cons_self, Option.none_or]

theorem lookup_concat_of_ne {other : Text} (h : other ≠ key) :
    (done ++ [(key, ss)]).lookup other = done.lookup other := by
  have hne : (other == key) = false := by simpa using h
  rw [List.lookup_append, List.lookup_cons, hne, List.lookup_nil, Option.or_none]

theorem Fields.of_append (h : Fields (done ++ fields)) : Fields done := by
  constructor
  · have hnodup := h.nodup
    rw [List.map_append] at hnodup
    exact hnodup.of_append_left
  · intro f hf
    exact h.known f (List.mem_append_left fields hf)

theorem fields_nil : Fields [] := ⟨List.nodup_nil, fun _ hf => absurd hf List.not_mem_nil⟩

/-- One field more has to be a known one, and a new one. -/
theorem fields_concat_iff (hdone : Fields done) :
    Fields (done ++ [(key, ss)]) ↔
      (key = ignoreField ∨ key = functionsField) ∧ done.lookup key = none := by
  rw [lookup_eq_none_iff_not_mem]
  constructor
  · intro h
    have hnodup := h.nodup
    rw [List.map_append, List.map_cons, List.map_nil, List.nodup_append_comm] at hnodup
    exact ⟨h.known (key, ss) (by simp), (List.nodup_cons.1 hnodup).1⟩
  · rintro ⟨hkey, hnew⟩
    constructor
    · rw [List.map_append, List.map_cons, List.map_nil, List.nodup_append_comm]
      exact List.nodup_cons.2 ⟨hnew, hdone.nodup⟩
    · intro f hf
      rcases List.mem_append.1 hf with h | h
      · exact hdone.known f h
      · rw [List.mem_singleton.1 h]
        exact hkey

/-! ## The values of settings -/

/-- The value that a list of strings makes. -/
def ofStrings (ss : List Text) : Json := .list (ss.map .string)

theorem strings?_eq_some_iff {v : Json} : strings? v = some ss ↔ v = ofStrings ss := by
  cases v with
  | list items =>
    rw [strings?, ofStrings, Json.list.injEq]
    induction items generalizing ss with
    | nil =>
      cases ss <;> simp
    | cons item items ih =>
      rw [List.mapM_cons]
      cases ss with
      | nil => simp [Option.bind_eq_some_iff]
      | cons s ss =>
        rw [List.map_cons, List.cons.injEq, ← ih]
        cases item <;> simp [Option.bind_eq_some_iff, and_comm]
  | _ => simp [strings?, ofStrings]

theorem ofMembers?_cons_iff (hdone : Fields done) {v : Json} {members : List (Text × Json)}
    {o : Options} :
    ofMembers? (done.lookup ignoreField) (done.lookup functionsField) ((key, v) :: members) =
        some o ↔
      ∃ ss, v = ofStrings ss ∧ Fields (done ++ [(key, ss)]) ∧
        ofMembers? ((done ++ [(key, ss)]).lookup ignoreField)
          ((done ++ [(key, ss)]).lookup functionsField) members = some o := by
  simp only [fields_concat_iff hdone, ← strings?_eq_some_iff]
  rw [ofMembers?]
  split
  next h =>
    obtain ⟨rfl, hnone⟩ : key = ignoreField ∧ done.lookup ignoreField = none := by simpa using h
    simp only [lookup_concat_self hnone, lookup_concat_of_ne ignoreField_ne.symm, hnone,
      Option.bind_eq_some_iff, true_or, and_true, true_and]
  split
  next h =>
    obtain ⟨rfl, hnone⟩ : key = functionsField ∧ done.lookup functionsField = none := by
      simpa using h
    simp only [lookup_concat_self hnone, lookup_concat_of_ne ignoreField_ne, hnone,
      Option.bind_eq_some_iff, or_true, and_true, true_and]
  next hignore hfunctions =>
    refine iff_of_false (by simp) ?_
    rintro ⟨ss, -, ⟨rfl | rfl, hnone⟩, -⟩
    · simp [hnone] at hignore
    · simp [hnone] at hfunctions

theorem ofMembers?_eq_some_iff (hdone : Fields done) {members : List (Text × Json)} {o : Options} :
    ofMembers? (done.lookup ignoreField) (done.lookup functionsField) members = some o ↔
      ∃ fields : List (Text × List Text), members = fields.map (fun f => (f.1, ofStrings f.2)) ∧
        Fields (done ++ fields) ∧ o = ofFields (done ++ fields) := by
  induction members generalizing done with
  | nil =>
    rw [ofMembers?]
    constructor
    · intro h
      cases h
      exact ⟨[], rfl, by rwa [List.append_nil], by rw [List.append_nil]; rfl⟩
    · rintro ⟨fields, hmembers, -, rfl⟩
      rw [List.map_eq_nil_iff.1 hmembers.symm, List.append_nil]
      rfl
  | cons member members ih =>
    obtain ⟨key, v⟩ := member
    rw [ofMembers?_cons_iff hdone]
    constructor
    · rintro ⟨ss, rfl, hconcat, h⟩
      obtain ⟨fields, rfl, hfields, rfl⟩ := (ih hconcat).1 h
      exact ⟨(key, ss) :: fields, rfl, by simpa using hfields, by simp⟩
    · rintro ⟨fields, hmembers, hfields, ho⟩
      cases fields with
      | nil => cases hmembers
      | cons f fields =>
        obtain ⟨name, ss⟩ := f
        rw [List.map_cons, List.cons.injEq, Prod.mk.injEq] at hmembers
        obtain ⟨⟨rfl, rfl⟩, rfl⟩ := hmembers
        rw [List.append_cons] at hfields ho
        have hconcat := hfields.of_append
        exact ⟨ss, rfl, hconcat, (ih hconcat).2 ⟨fields, rfl, hfields, ho⟩⟩

theorem ofJson?_eq_some_iff {v : Json} {o : Options} :
    ofJson? v = some o ↔
      (∃ lists : List (List Text), lists.length ≤ 2 ∧ v = .list (lists.map ofStrings) ∧
        o = ofLists lists) ∨
      ∃ fields : List (Text × List Text), Fields fields ∧
        v = .object (fields.map fun f => (f.1, ofStrings f.2)) ∧ o = ofFields fields := by
  constructor
  · intro h
    unfold ofJson? at h
    split at h
    · cases h
      exact .inl ⟨[], by simp, rfl, rfl⟩
    next v =>
      obtain ⟨ss, hss, rfl⟩ := Option.map_eq_some_iff.1 h
      rw [strings?_eq_some_iff.1 hss]
      exact .inl ⟨[ss], by simp, rfl, rfl⟩
    next v v' =>
      obtain ⟨ss, hss, h⟩ := Option.bind_eq_some_iff.1 h
      obtain ⟨ss', hss', h⟩ := Option.bind_eq_some_iff.1 h
      cases h
      rw [strings?_eq_some_iff.1 hss, strings?_eq_some_iff.1 hss']
      exact .inl ⟨[ss, ss'], by simp, rfl, rfl⟩
    next members =>
      obtain ⟨fields, rfl, hfields, rfl⟩ := (ofMembers?_eq_some_iff fields_nil).1 h
      exact .inr ⟨fields, hfields, rfl, rfl⟩
    · cases h
  · rintro (⟨lists, hlength, rfl, rfl⟩ | ⟨fields, hfields, rfl, rfl⟩)
    · match lists, hlength with
      | [], _ => rfl
      | [ss], _ => exact Option.map_eq_some_iff.2 ⟨ss, strings?_eq_some_iff.2 rfl, rfl⟩
      | [ss, ss'], _ =>
        exact Option.bind_eq_some_iff.2 ⟨ss, strings?_eq_some_iff.2 rfl,
          Option.bind_eq_some_iff.2 ⟨ss', strings?_eq_some_iff.2 rfl, rfl⟩⟩
    · exact (ofMembers?_eq_some_iff fields_nil).2 ⟨fields, rfl, hfields, rfl⟩

/-! ## Their texts -/

theorem textual_ofStrings (d : Nat) : Textual (d + 1) (ofStrings ss) := by
  apply Textual.list
  intro v hv
  obtain ⟨s, -, rfl⟩ := List.mem_map.1 hv
  exact .string s

theorem denotes_ofStrings (d : Nat) : Denotes (d + 1) (ofStrings ss) = StringsText ss := by
  have hitems : (ss.map Json.string).map (Denotes d) = ss.map Literal := by
    rw [List.map_map]
    exact List.map_congr_left fun s _ => denotes_string s
  rw [ofStrings, Denotes, hitems, StringsText]

theorem textual_of_ofJson? {v : Json} {o : Options} (h : ofJson? v = some o) : Textual 2 v := by
  obtain ⟨lists, -, rfl, -⟩ | ⟨fields, -, rfl, -⟩ := ofJson?_eq_some_iff.1 h
  · apply Textual.list
    intro v hv
    obtain ⟨ss, -, rfl⟩ := List.mem_map.1 hv
    exact textual_ofStrings 0
  · apply Textual.object
    intro m hm
    obtain ⟨f, -, rfl⟩ := List.mem_map.1 hm
    exact textual_ofStrings 0

theorem denotes_lists (lists : List (List Text)) :
    Denotes 2 (.list (lists.map ofStrings)) = Bracketed '[' ']' (lists.map StringsText) := by
  rw [Denotes, List.map_map]
  exact congrArg _ (List.map_congr_left fun ss _ => denotes_ofStrings 0)

theorem denotes_fields (fields : List (Text × List Text)) :
    Denotes 2 (.object (fields.map fun f => (f.1, ofStrings f.2))) =
      Bracketed '{' '}' (fields.map fun f => Member f.1 (StringsText f.2)) := by
  rw [Denotes, List.map_map]
  exact congrArg _ (List.map_congr_left fun f _ => congrArg _ (denotes_ofStrings 0))

/-- The texts of options are the texts of the values that stand for them. -/
theorem optionsText_iff {o : Options} :
    OptionsText o u ↔ ∃ v, ofJson? v = some o ∧ Denotes 2 v u := by
  constructor
  · intro h
    cases h with
    | @lists lists _ hlength hu =>
      exact ⟨_, ofJson?_eq_some_iff.2 (.inl ⟨lists, hlength, rfl, rfl⟩), by rwa [denotes_lists]⟩
    | @fields fields _ hfields hu =>
      exact ⟨_, ofJson?_eq_some_iff.2 (.inr ⟨fields, hfields, rfl, rfl⟩), by rwa [denotes_fields]⟩
  · rintro ⟨v, hv, hu⟩
    obtain ⟨lists, hlength, rfl, rfl⟩ | ⟨fields, hfields, rfl, rfl⟩ := ofJson?_eq_some_iff.1 hv
    · rw [denotes_lists] at hu
      exact .lists hlength hu
    · rw [denotes_fields] at hu
      exact .fields hfields hu

end Options

theorem checkEnd_eq_ok_iff : checkEnd t = .ok () ↔ Spaces t := by
  rw [checkEnd]
  split
  next h => simpa using skipSpace_eq_nil_iff.1 (by simpa using h)
  next h => simpa [← skipSpace_eq_nil_iff] using h

namespace Setting

theorem ofJson?_eq_some_iff {v : Json} {s : Setting} :
    ofJson? v = some s ↔
      (∃ e, v = .string e ∧ s = ⟨e, none⟩) ∨
      ∃ e w o, v = .list [.string e, w] ∧ Options.ofJson? w = some o ∧ s = ⟨e, some o⟩ := by
  constructor
  · intro h
    unfold ofJson? at h
    split at h
    next e =>
      cases h
      exact .inl ⟨e, rfl, rfl⟩
    next e w =>
      obtain ⟨o, ho, rfl⟩ := Option.map_eq_some_iff.1 h
      exact .inr ⟨e, w, o, rfl, ho, rfl⟩
    · cases h
  · rintro (⟨e, rfl, rfl⟩ | ⟨e, w, o, rfl, ho, rfl⟩)
    · rfl
    · exact Option.map_eq_some_iff.2 ⟨o, ho, rfl⟩

theorem textual_of_ofJson? {v : Json} {s : Setting} (h : ofJson? v = some s) : Textual 3 v := by
  obtain ⟨e, rfl, -⟩ | ⟨e, w, o, rfl, ho, -⟩ := ofJson?_eq_some_iff.1 h
  · exact .string e
  · apply Textual.list
    intro v hv
    obtain rfl | rfl : v = .string e ∨ v = w := by simpa using hv
    · exact .string e
    · exact Options.textual_of_ofJson? ho

/-- The texts of settings are the texts of the values that stand for them. -/
theorem settingText_iff {s : Setting} :
    SettingText s u ↔ ∃ v, ofJson? v = some s ∧ Denotes 3 v u := by
  constructor
  · intro h
    cases h with
    | @alone e _ hu =>
      exact ⟨.string e, rfl, by rwa [denotes_string]⟩
    | @both e _ o hu =>
      obtain ⟨w, p, x, v, q, y, hw, hp, hx, hv, hq, hy, rfl⟩ := bracketed_pair_iff.1 hu
      obtain ⟨value, hvalue, hq⟩ := Options.optionsText_iff.1 hq
      refine ⟨.list [.string e, value], Option.map_eq_some_iff.2 ⟨o, hvalue, rfl⟩, ?_⟩
      rw [Denotes, List.map_cons, List.map_cons, List.map_nil, denotes_string]
      exact bracketed_pair_iff.2 ⟨w, p, x, v, q, y, hw, hp, hx, hv, hq, hy, rfl⟩
  · rintro ⟨v, hv, hu⟩
    obtain ⟨e, rfl, rfl⟩ | ⟨e, value, o, rfl, hvalue, rfl⟩ := ofJson?_eq_some_iff.1 hv
    · rw [denotes_string] at hu
      exact .alone hu
    · rw [Denotes, List.map_cons, List.map_cons, List.map_nil, denotes_string] at hu
      obtain ⟨w, p, x, v, q, y, hw, hp, hx, hv, hq, hy, rfl⟩ := bracketed_pair_iff.1 hu
      have hq' := Options.optionsText_iff.2 ⟨value, hvalue, hq⟩
      exact .both (bracketed_pair_iff.2 ⟨w, p, x, v, q, y, hw, hp, hx, hv, hq', hy, rfl⟩)

theorem json_read_eq_ok_iff {v : Json} {rest : Text} (hv : Textual 3 v) :
    Json.read t = .ok (v, rest) ↔ Starts (Denotes 3 v) t rest :=
  hv.reads (by decide) (Nat.lt_succ_self _) t rest le_rfl

/-- A setting is read from its texts, and from no other ones. -/
theorem read_eq_ok_iff {s : Setting} : read t = .ok s ↔ Whole (SettingText s) t := by
  rw [read, bind_eq_ok_iff]
  constructor
  · rintro ⟨⟨v, rest⟩, hread, h⟩
    dsimp only at h
    split at h
    · cases h
    next s' hv =>
      obtain ⟨_, hend, hs⟩ := bind_eq_ok_iff.1 h
      cases hs
      obtain ⟨w, u, hw, hu, rfl⟩ := (json_read_eq_ok_iff (textual_of_ofJson? hv)).1 hread
      exact ⟨rest, checkEnd_eq_ok_iff.1 hend, w, u, hw, settingText_iff.2 ⟨v, hv, hu⟩, rfl⟩
  · rintro ⟨rest, hrest, w, u, hw, hu, rfl⟩
    obtain ⟨v, hv, hu⟩ := settingText_iff.1 hu
    refine ⟨(v, rest), (json_read_eq_ok_iff (textual_of_ofJson? hv)).2 ⟨w, u, hw, hu, rfl⟩, ?_⟩
    dsimp only
    rw [hv]
    exact bind_eq_ok_iff.2 ⟨(), checkEnd_eq_ok_iff.2 hrest, rfl⟩

/-- The names of fields are compared after their escapes are read. -/
example : read "[ \"always\" ,\t\x7b\"\\u0069gnore\": []\x7d]\n".toList =
    .ok ⟨"always".toList, some ⟨[], []⟩⟩ := by decide +kernel

end Setting

namespace Config

variable {s : Setting}

/-- A setting means what its parts mean. -/
theorem ofJson_eq (h : Whole (SettingText s) t) :
    ofJson t = ofOptions s.expectation (s.options.getD .empty) := by
  rw [ofJson, Setting.read_eq_ok_iff.2 h]

/-- Every text but a setting is refused for how it is written. -/
theorem ofJson_ne_json_iff :
    (∀ problem, ofJson t ≠ .error (.json problem)) ↔ ∃ s, Whole (SettingText s) t := by
  constructor
  · intro h
    cases hread : Setting.read t with
    | error problem =>
      refine absurd ?_ (h problem)
      rw [ofJson, hread]
    | ok s => exact ⟨s, Setting.read_eq_ok_iff.1 hread⟩
  · rintro ⟨s, hs⟩ problem
    rw [ofJson_eq hs]
    exact ofOptions_ne_json _ _ problem

/-- The settings of the grammar are accepted, and no other texts, and they mean what their parts
mean. -/
theorem ofJson_accepts (t : Text) :
    ((∀ problem, ofJson t ≠ .error (.json problem)) ↔ ∃ s, Whole (SettingText s) t) ∧
      ∀ s, Whole (SettingText s) t →
        ofJson t = ofOptions s.expectation (s.options.getD .empty) :=
  ⟨ofJson_ne_json_iff, fun _ => ofJson_eq⟩

end Config

end CallLint
