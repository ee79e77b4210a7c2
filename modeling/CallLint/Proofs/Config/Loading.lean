import CallLint.Config
import Mathlib.Data.List.Dedup
import Mathlib.Data.List.Forall2

/-!
# What options make

Options make a configuration if and only if the expectation and every entry can be read. What is
ignored then is what the entries stand for, whatever their order is and however often each of them
is there.

* `ofOptions_eq_ok_iff`: the configuration that options make.
* `length_of_ofOptions`: how many things and functions it ignores.
* `exists_ofOptions_of_sameEntries`: options with the same entries ignore the same.
-/

namespace CallLint

/-- Taking in what each entry stands for succeeds if each entry can be read. -/
theorem foldlM_eq_ok_iff {α β γ ε : Type} (read : α → Except ε β) (add : γ → β → γ) {l : List α}
    {c d : γ} :
    l.foldlM (fun c raw => return add c (← read raw)) c = .ok d ↔
      ∃ items, List.Forall₂ (fun raw item => read raw = .ok item) l items ∧
        d = items.foldl add c := by
  induction l generalizing c with
  | nil =>
    rw [List.foldlM_nil]
    constructor
    · intro h
      obtain rfl := Except.ok.inj h
      exact ⟨[], .nil, rfl⟩
    · rintro ⟨items, hitems, rfl⟩
      cases hitems
      rfl
  | cons raw l ih =>
    rw [List.foldlM_cons, bind_eq_ok_iff]
    constructor
    · rintro ⟨c', hstep, hrest⟩
      obtain ⟨item, hitem, heq⟩ := bind_eq_ok_iff.1 hstep
      obtain rfl := Except.ok.inj heq
      obtain ⟨items, hitems, rfl⟩ := ih.1 hrest
      exact ⟨item :: items, .cons hitem hitems, rfl⟩
    · rintro ⟨items, hitems, rfl⟩
      cases hitems with
      | @cons _ item _ items hhead htail =>
        exact ⟨add c item, bind_eq_ok_iff.2 ⟨item, hhead, rfl⟩, ih.2 ⟨items, htail, rfl⟩⟩

/-- A list of items goes with the entries if each of them has one. -/
theorem exists_forall₂_iff {α β : Type} {R : α → β → Prop} {l : List α} :
    (∃ items, List.Forall₂ R l items) ↔ ∀ raw ∈ l, ∃ item, R raw item := by
  induction l with
  | nil => exact iff_of_true ⟨[], .nil⟩ (by simp)
  | cons raw l ih =>
    rw [List.forall_mem_cons, ← ih]
    constructor
    · rintro ⟨items, hitems⟩
      cases hitems with
      | cons hhead htail => exact ⟨⟨_, hhead⟩, _, htail⟩
    · rintro ⟨⟨item, hitem⟩, items, hitems⟩
      exact ⟨item :: items, .cons hitem hitems⟩

/-- The items that go with the entries are those that some entry stands for. -/
theorem mem_iff_of_forall₂ {α β ε : Type} {read : α → Except ε β} {l : List α} {items : List β}
    (h : List.Forall₂ (fun raw item => read raw = .ok item) l items) (item : β) :
    item ∈ items ↔ ∃ raw ∈ l, read raw = .ok item := by
  induction h with
  | nil => simp
  | cons hhead _ ih =>
    rw [List.mem_cons, List.exists_mem_cons_iff, ih, hhead, Except.ok.injEq, eq_comm]

/-- Lists with the same entries stand for the same items. -/
theorem exists_forall₂_of_same_entries {α β ε : Type} {read : α → Except ε β} {l l' : List α}
    {items : List β} (h : List.Forall₂ (fun raw item => read raw = .ok item) l items)
    (hsame : ∀ raw, raw ∈ l' ↔ raw ∈ l) :
    ∃ items', List.Forall₂ (fun raw item => read raw = .ok item) l' items' ∧
      ∀ item, item ∈ items' ↔ item ∈ items := by
  have hread := exists_forall₂_iff.1 ⟨items, h⟩
  obtain ⟨items', hitems'⟩ :=
    exists_forall₂_iff.2 fun raw hraw => hread raw ((hsame raw).1 hraw)
  refine ⟨items', hitems', fun item => ?_⟩
  rw [mem_iff_of_forall₂ hitems', mem_iff_of_forall₂ h]
  simp only [hsame]

/-- Two options have the same entries, in whatever order and however often. -/
structure Options.SameEntries (options options' : Options) : Prop where
  ignore : ∀ raw, raw ∈ options.ignore ↔ raw ∈ options'.ignore
  ignoreFunctions : ∀ raw, raw ∈ options.ignoreFunctions ↔ raw ∈ options'.ignoreFunctions

/-- What can be ignored has one name. -/
theorem IgnoreOption.eq_name_of_parse {raw : Text} {o : IgnoreOption}
    (h : IgnoreOption.parse raw = .ok o) : raw = o.name.toList := by
  unfold IgnoreOption.parse at h
  split at h
  next hraw =>
    obtain rfl := Except.ok.inj h
    exact hraw
  next => cases h

theorem IgnoreOption.name_injective :
    Function.Injective fun o : IgnoreOption => o.name.toList := by
  rintro ⟨⟩ ⟨⟩ -
  rfl

namespace Config

/-- Options make a configuration if the expectation and every entry can be read. -/
theorem ofOptions_eq_ok_iff {raw : Text} {options : Options} {c : Config} :
    ofOptions raw options = .ok c ↔
      ∃ e ignored functions, Expectation.parse raw = .ok e ∧
        List.Forall₂ (fun r o => IgnoreOption.parse r = .ok o) options.ignore ignored ∧
        List.Forall₂ (fun r m => Matcher.parse r = .ok m) options.ignoreFunctions functions ∧
        c = functions.foldl withIgnoredFunction (ignored.foldl withIgnore (new e)) := by
  unfold ofOptions
  rw [bind_eq_ok_iff]
  constructor
  · rintro ⟨e, he, hrest⟩
    obtain ⟨d, hd, hc⟩ := bind_eq_ok_iff.1 hrest
    obtain ⟨ignored, hignored, rfl⟩ := (foldlM_eq_ok_iff _ _).1 hd
    obtain ⟨functions, hfunctions, rfl⟩ := (foldlM_eq_ok_iff _ _).1 hc
    exact ⟨e, ignored, functions, he, hignored, hfunctions, rfl⟩
  · rintro ⟨e, ignored, functions, he, hignored, hfunctions, rfl⟩
    exact ⟨e, he, bind_eq_ok_iff.2 ⟨_, (foldlM_eq_ok_iff _ _).2 ⟨ignored, hignored, rfl⟩,
      (foldlM_eq_ok_iff _ _).2 ⟨functions, hfunctions, rfl⟩⟩⟩

theorem expectation_withIgnore (c : Config) (o : IgnoreOption) :
    (c.withIgnore o).expectation = c.expectation := by
  unfold withIgnore
  split <;> rfl

theorem ignoreFunctions_withIgnore (c : Config) (o : IgnoreOption) :
    (c.withIgnore o).ignoreFunctions = c.ignoreFunctions := by
  unfold withIgnore
  split <;> rfl

theorem foldl_withIgnore (ignored : List IgnoreOption) (c : Config) :
    (ignored.foldl withIgnore c).expectation = c.expectation ∧
      (ignored.foldl withIgnore c).ignoreFunctions = c.ignoreFunctions ∧
      ∀ o, o ∈ (ignored.foldl withIgnore c).ignore ↔ o ∈ ignored ∨ o ∈ c.ignore := by
  induction ignored generalizing c with
  | nil => exact ⟨rfl, rfl, fun o => by simp⟩
  | cons added ignored ih =>
    obtain ⟨he, hfunctions, hignore⟩ := ih (c.withIgnore added)
    refine ⟨he.trans (c.expectation_withIgnore added),
      hfunctions.trans (c.ignoreFunctions_withIgnore added), fun o => ?_⟩
    have hadded : o ∈ (c.withIgnore added).ignore ↔ o = added ∨ o ∈ c.ignore := by
      simpa [ignores] using c.ignores_withIgnore added o
    rw [List.foldl_cons, hignore, hadded, List.mem_cons]
    tauto

theorem nodup_withIgnore {c : Config} (h : c.ignore.Nodup) (o : IgnoreOption) :
    (c.withIgnore o).ignore.Nodup := by
  unfold withIgnore
  split
  · exact h
  next hnew =>
    have hmem : o ∉ c.ignore := by simpa using hnew
    exact List.Nodup.append h (List.nodup_singleton o) (by simpa using hmem)

/-- However often something is ignored, it is ignored once. -/
theorem nodup_foldl_withIgnore (ignored : List IgnoreOption) {c : Config} (h : c.ignore.Nodup) :
    (ignored.foldl withIgnore c).ignore.Nodup := by
  induction ignored generalizing c with
  | nil => exact h
  | cons o ignored ih => exact ih (nodup_withIgnore h o)

theorem foldl_withIgnoredFunction (functions : List Matcher) (c : Config) :
    functions.foldl withIgnoredFunction c =
      { c with ignoreFunctions := c.ignoreFunctions ++ functions } := by
  induction functions generalizing c with
  | nil => rw [List.foldl_nil, List.append_nil]
  | cons m functions ih =>
    rw [List.foldl_cons, ih, withIgnoredFunction]
    simp

theorem nodup_of_ofOptions {raw : Text} {options : Options} {c : Config}
    (h : ofOptions raw options = .ok c) : c.ignore.Nodup := by
  obtain ⟨e, ignored, functions, -, -, -, rfl⟩ := ofOptions_eq_ok_iff.1 h
  rw [foldl_withIgnoredFunction]
  exact nodup_foldl_withIgnore ignored List.nodup_nil

/-- A configuration ignores as many things as there are distinct entries, and it has a matcher for
every entry, repeated or not. -/
theorem length_of_ofOptions {raw : Text} {options : Options} {c : Config}
    (h : ofOptions raw options = .ok c) :
    c.ignore.length = options.ignore.dedup.length ∧
      c.ignoreFunctions.length = options.ignoreFunctions.length := by
  obtain ⟨e, ignored, functions, -, hignored, hfunctions, rfl⟩ := ofOptions_eq_ok_iff.1 h
  rw [foldl_withIgnoredFunction]
  obtain ⟨-, hkept, hmem⟩ := foldl_withIgnore ignored (new e)
  have hnames : options.ignore = ignored.map fun o => o.name.toList := by
    have hsame : List.Forall₂ (fun r (o : IgnoreOption) => r = o.name.toList) options.ignore
        ignored := hignored.imp fun _ _ => IgnoreOption.eq_name_of_parse
    rwa [← List.forall₂_map_right_iff, List.forall₂_eq_eq_eq] at hsame
  have hperm : (ignored.foldl withIgnore (new e)).ignore.Perm ignored.dedup := by
    refine (List.perm_ext_iff_of_nodup (nodup_foldl_withIgnore ignored List.nodup_nil)
      (List.nodup_dedup ignored)).2 fun o => ?_
    rw [hmem, List.mem_dedup]
    simp [new]
  constructor
  · rw [hnames, List.dedup_map_of_injective IgnoreOption.name_injective, List.length_map]
    exact hperm.length_eq
  · rw [hkept]
    exact hfunctions.length_eq.symm

/-- One configuration expects and ignores what the other does, in another order or repeatedly. -/
structure SameEntries (c d : Config) : Prop where
  expectation : c.expectation = d.expectation
  ignore : ∀ o, o ∈ c.ignore ↔ o ∈ d.ignore
  ignoreFunctions : ∀ m, m ∈ c.ignoreFunctions ↔ m ∈ d.ignoreFunctions

/-- Options with the same entries make configurations that ignore the same. -/
theorem exists_ofOptions_of_sameEntries {raw : Text} {options options' : Options} {c : Config}
    (hsame : options'.SameEntries options) (hc : ofOptions raw options = .ok c) :
    ∃ c', ofOptions raw options' = .ok c' ∧ c'.SameEntries c := by
  obtain ⟨e, ignored, functions, he, hignored, hfunctions, rfl⟩ := ofOptions_eq_ok_iff.1 hc
  obtain ⟨ignored', hignored', hmem⟩ := exists_forall₂_of_same_entries hignored hsame.ignore
  obtain ⟨functions', hfunctions', hmem'⟩ :=
    exists_forall₂_of_same_entries hfunctions hsame.ignoreFunctions
  refine ⟨_, ofOptions_eq_ok_iff.2 ⟨e, ignored', functions', he, hignored', hfunctions', rfl⟩, ?_⟩
  obtain ⟨hexp, hfun, hign⟩ := foldl_withIgnore ignored (new e)
  obtain ⟨hexp', hfun', hign'⟩ := foldl_withIgnore ignored' (new e)
  rw [foldl_withIgnoredFunction, foldl_withIgnoredFunction]
  constructor
  · exact hexp'.trans hexp.symm
  · intro o
    simp only [hign, hign', hmem]
  · intro m
    simp only [hfun, hfun', List.mem_append, hmem']

end Config

end CallLint
