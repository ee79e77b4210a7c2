import CallLint.Proofs.Json.Items

/-!
# Values made of strings

Settings hold neither numbers nor names such as `true`. The values that they are made of have a
grammar of their own, and they are read from its texts alone, whatever else JSON allows.

* `Textual`, `Denotes`: a value made of strings, lists and objects, and its texts.
* `readValue_cases`: what can be read where a value is expected.
* `Textual.reads`: a value made of strings is read from its texts.
-/

namespace CallLint.Json

open Text

/-- The value is made of strings, and of lists and objects nested at most so deep. -/
inductive Textual : Nat → Json → Prop
  | string {d : Nat} (s : Text) : Textual d (.string s)
  | list {d : Nat} {items : List Json} (h : ∀ v ∈ items, Textual d v) :
      Textual (d + 1) (.list items)
  | object {d : Nat} {members : List (Text × Json)} (h : ∀ m ∈ members, Textual d m.2) :
    Textual (d + 1) (.object members)

/-- The texts of such a value. -/
def Denotes : Nat → Json → Text → Prop
  | _, .string s => Literal s
  | d + 1, .list items => Bracketed '[' ']' (items.map (Denotes d))
  | d + 1, .object members => Bracketed '{' '}' (members.map fun m => Member m.1 (Denotes d m.2))
  | _, _ => fun _ => False

variable {bound depth d n : Nat} {first : Bool} {t t₁ rest u : Text} {v : Json}

theorem denotes_string (s : Text) : Denotes d (.string s) = Literal s := by
  cases d <;> rfl

theorem Textual.opens (h : Textual d v) (hu : Denotes d v u) : Opens u := by
  cases h with
  | string s => exact Literal.opens (denotes_string s ▸ hu)
  | list h => exact Bracketed.opens hu rfl (by decide)
  | object h => exact Bracketed.opens hu rfl (by decide)

/-! ## One step -/

/-- What can be read is made of strings only if it begins with a quote or a bracket. -/
theorem readValue_cases (h : readValue (bound + 1) depth t = .ok (v, rest)) (hv : Textual d v) :
    (∃ s t₁, v = .string s ∧ skipSpace t = '"' :: t₁ ∧ readString t₁ = .ok (s, rest)) ∨
      (∃ items e t₁, v = .list items ∧ depth = e + 1 ∧ skipSpace t = '[' :: t₁ ∧
        readItems bound e true t₁ = .ok (items, rest)) ∨
      ∃ members e t₁, v = .object members ∧ depth = e + 1 ∧ skipSpace t = '{' :: t₁ ∧
        readMembers bound e true t₁ = .ok (members, rest) := by
  rw [readValue] at h
  split at h
  · cases h
  next c t₁ hskip =>
  split at h
  · obtain ⟨a, -, heq⟩ := bind_eq_ok_iff.1 h
    cases heq
    cases hv
  split at h
  · obtain ⟨a, -, heq⟩ := bind_eq_ok_iff.1 h
    cases heq
    cases hv
  split at h
  · obtain ⟨a, -, heq⟩ := bind_eq_ok_iff.1 h
    cases heq
    cases hv
  split at h
  · obtain ⟨a, -, heq⟩ := map_eq_ok_iff.1 h
    cases heq
    cases hv
  split at h
  · obtain ⟨a, -, heq⟩ := map_eq_ok_iff.1 h
    cases heq
    cases hv
  split at h
  next hc =>
    obtain ⟨⟨s, t₂⟩, hs, heq⟩ := map_eq_ok_iff.1 h
    cases heq
    exact .inl ⟨s, t₁, rfl, by rw [hskip, hc], hs⟩
  split at h
  next hc =>
    split at h
    · cases h
    next e =>
      obtain ⟨⟨items, t₂⟩, hitems, heq⟩ := map_eq_ok_iff.1 h
      cases heq
      exact .inr (.inl ⟨items, e, t₁, rfl, rfl, by rw [hskip, hc], hitems⟩)
  split at h
  next hc =>
    split at h
    · cases h
    next e =>
      obtain ⟨⟨members, t₂⟩, hmembers, heq⟩ := map_eq_ok_iff.1 h
      cases heq
      exact .inr (.inr ⟨members, e, t₁, rfl, rfl, by rw [hskip, hc], hmembers⟩)
  · cases h

theorem readValue_string_iff {s : Text} :
    readValue (bound + 1) depth t = .ok (.string s, rest) ↔
      ∃ t₁, skipSpace t = '"' :: t₁ ∧ readString t₁ = .ok (s, rest) := by
  constructor
  · intro h
    obtain ⟨_, t₁, heq, hskip, hs⟩ | ⟨_, _, _, heq, -⟩ | ⟨_, _, _, heq, -⟩ :=
      readValue_cases h (.string (d := 0) s)
    · cases heq
      exact ⟨t₁, hskip, hs⟩
    · cases heq
    · cases heq
  · rintro ⟨t₁, hskip, hs⟩
    rw [readValue, hskip]
    exact map_eq_ok_iff.2 ⟨_, hs, rfl⟩

theorem readValue_list_iff {items : List Json} (hv : Textual d (.list items)) :
    readValue (bound + 1) (depth + 1) t = .ok (.list items, rest) ↔
      ∃ t₁, skipSpace t = '[' :: t₁ ∧ readItems bound depth true t₁ = .ok (items, rest) := by
  constructor
  · intro h
    obtain ⟨_, _, heq, -⟩ | ⟨_, _, t₁, heq, hdepth, hskip, hitems⟩ | ⟨_, _, _, heq, -⟩ :=
      readValue_cases h hv
    · cases heq
    · cases heq
      cases hdepth
      exact ⟨t₁, hskip, hitems⟩
    · cases heq
  · rintro ⟨t₁, hskip, hitems⟩
    rw [readValue, hskip]
    exact map_eq_ok_iff.2 ⟨_, hitems, rfl⟩

theorem readValue_object_iff {members : List (Text × Json)} (hv : Textual d (.object members)) :
    readValue (bound + 1) (depth + 1) t = .ok (.object members, rest) ↔
      ∃ t₁, skipSpace t = '{' :: t₁ ∧ readMembers bound depth true t₁ = .ok (members, rest) := by
  constructor
  · intro h
    obtain ⟨_, _, heq, -⟩ | ⟨_, _, _, heq, -⟩ | ⟨_, _, t₁, heq, hdepth, hskip, hmembers⟩ :=
      readValue_cases h hv
    · cases heq
    · cases heq
    · cases heq
      cases hdepth
      exact ⟨t₁, hskip, hmembers⟩
  · rintro ⟨t₁, hskip, hmembers⟩
    rw [readValue, hskip]
    exact map_eq_ok_iff.2 ⟨_, hmembers, rfl⟩

/-! ## Items and members -/

theorem loop_readItems (depth : Nat) :
    Loop ']' (fun n => 2 * n + 1) nextItem (fun bound => readValue bound depth)
      (fun bound => readItems bound depth) where
  need_lt := by omega
  succ bound first t := by
    rw [readItems]
    rfl
  ends first t rest := nextItem_eq_end_iff

/-- Reads a member of an object, after the opening quote of its key. -/
def readMember (bound depth : Nat) (t : Text) : Except Problem ((Text × Json) × Text) := do
  let (key, t) ← readString t
  let (value, t) ← readValue bound depth (← readColon t)
  return ((key, value), t)

theorem loop_readMembers (depth : Nat) :
    Loop '}' (fun n => 2 * n + 1) nextKey (fun bound => readMember bound depth)
      (fun bound => readMembers bound depth) where
  need_lt := by omega
  succ bound first t := by
    rw [readMembers]
    simp only [readRound, readMember, bind_assoc, pure_bind]
  ends first t rest := nextKey_eq_end_iff

theorem readMember_eq_ok_iff {key : Text} :
    readMember bound depth t = .ok ((key, v), rest) ↔
      ∃ t₁ t₂, readString t = .ok (key, t₁) ∧ readColon t₁ = .ok t₂ ∧
        readValue bound depth t₂ = .ok (v, rest) := by
  rw [readMember, bind_eq_ok_iff]
  constructor
  · rintro ⟨⟨k, t₁⟩, hkey, h⟩
    obtain ⟨t₂, hcolon, h⟩ := bind_eq_ok_iff.1 h
    obtain ⟨⟨v', t₃⟩, hv, h⟩ := bind_eq_ok_iff.1 h
    cases h
    exact ⟨t₁, t₂, hkey, hcolon, hv⟩
  · rintro ⟨t₁, t₂, hkey, hcolon, hv⟩
    exact ⟨_, hkey, bind_eq_ok_iff.2 ⟨_, hcolon, bind_eq_ok_iff.2 ⟨_, hv, rfl⟩⟩⟩

/-- A value made of strings is read from its texts. -/
theorem Textual.reads (hv : Textual d v) (hd : d ≤ depth) (hbound : 2 * n < bound) :
    Reads (readValue bound depth) v (Denotes d v) n := by
  induction hv generalizing bound depth n with
  | string s =>
    intro t rest _
    obtain ⟨bound, rfl⟩ : ∃ b, bound = b + 1 := ⟨bound - 1, by omega⟩
    rw [readValue_string_iff, denotes_string, starts_literal_iff]
  | @list d items h ih =>
    intro t rest ht
    obtain ⟨bound, rfl⟩ : ∃ b, bound = b + 1 := ⟨bound - 1, by omega⟩
    obtain ⟨depth, rfl⟩ : ∃ e, depth = e + 1 := ⟨depth - 1, by omega⟩
    rw [readValue_list_iff (.list h), Denotes, starts_bracketed_iff rfl]
    refine exists_congr fun t₁ => and_congr_right fun hskip => ?_
    obtain ⟨-, w, -, rfl⟩ := skipSpace_eq_cons_iff.1 hskip
    simp only [List.length_append, List.length_cons] at ht
    apply (loop_readItems depth).eq_ok_iff
    · intro v hv bound first t rest hn
      exact (ih v hv (by omega) hn).item_iff (fun u hu => (h v hv).opens hu) le_rfl
    · intro v hv u hu
      exact ((h v hv).opens hu).ne_nil
    · omega
  | @object d members h ih =>
    intro t rest ht
    obtain ⟨bound, rfl⟩ : ∃ b, bound = b + 1 := ⟨bound - 1, by omega⟩
    obtain ⟨depth, rfl⟩ : ∃ e, depth = e + 1 := ⟨depth - 1, by omega⟩
    rw [readValue_object_iff (.object h), Denotes, starts_bracketed_iff rfl]
    refine exists_congr fun t₁ => and_congr_right fun hskip => ?_
    obtain ⟨-, w, -, rfl⟩ := skipSpace_eq_cons_iff.1 hskip
    simp only [List.length_append, List.length_cons] at ht
    apply (loop_readMembers depth).eq_ok_iff
    · rintro ⟨key, v⟩ hm bound first t rest hn
      simp only [readMember_eq_ok_iff]
      exact (ih (key, v) hm (by omega) hn).member_iff le_rfl
    · intro m hm u hu
      exact hu.ne_nil
    · omega

end CallLint.Json
