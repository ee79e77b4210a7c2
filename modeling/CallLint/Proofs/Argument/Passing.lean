import CallLint.Proofs.Argument.Characters
import CallLint.Proofs.Forest.Reading

/-!
# Texts without cuts

`Passes r t after r'` says that the scan goes over `t` without a cut, from `r` to `r'`, when `after`
is the text behind it. A text is crossed when the scan is back where it was, unless the text ends
there.

* `Leaf.Stands.crosses`: every leaf is crossed that is not a separator of arguments.
* `Forest.Stands.crosses`: between parentheses, every forest is crossed.

An address is opaque to the reader of a value but not to the scan. This holds for addresses that
are quiet, with none of the characters that would take the scan elsewhere.
-/

namespace CallLint

open Text

/-- Outside escapes, the text has no quote, no `(` and no `/*`. -/
def Text.quiet : Text → Bool
  | [] => true
  | '\\' :: _ :: t => quiet t
  | '/' :: '*' :: _ => false
  | c :: t => !isQuote c && c ≠ '(' && quiet t

/-- If the leaf is an address, it is quiet. -/
def Leaf.Quiet : Leaf → Prop
  | .address _ body _ => quiet body = true
  | _ => True

/-- All addresses in the forest are quiet, at every depth. -/
def Forest.Quiet : Forest → Prop
  | .nil => True
  | .leaf part rest => part.Quiet ∧ rest.Quiet
  | .call _ inside _ rest => inside.Quiet ∧ rest.Quiet

theorem Text.quiet_cons {c : Char} (hc : c ≠ '\\') (t : Text) :
    quiet (c :: t) = true ↔
      isQuote c = false ∧ c ≠ '(' ∧ (c = '/' → t.head? ≠ some '*') ∧ quiet t = true := by
  by_cases hstar : c = '/' ∧ t.head? = some '*'
  · obtain ⟨rfl, ht⟩ := hstar
    obtain ⟨u, rfl⟩ := List.head?_eq_some_iff.1 ht
    simp [quiet]
  · rw [quiet.eq_4]
    · simp only [Bool.and_eq_true, Bool.not_eq_true', decide_eq_true_eq, and_assoc]
      constructor
      · rintro ⟨hq, ho, ht⟩
        exact ⟨hq, ho, fun h h' => hstar ⟨h, h'⟩, ht⟩
      · rintro ⟨hq, ho, -, ht⟩
        exact ⟨hq, ho, ht⟩
    · rintro d u rfl -
      exact hc rfl
    · rintro u rfl rfl
      exact hstar ⟨rfl, rfl⟩

theorem Text.Units.quiet_left {stop : Char → Bool} {t after : Text} (h : Units stop t)
    (hq : quiet (t ++ after) = true) : quiet t = true := by
  induction h with
  | nil => rfl
  | escape c _ ih => exact ih hq
  | @plain c t hc _ _ ih =>
    rw [List.cons_append, quiet_cons hc] at hq
    obtain ⟨hquote, hopen, hstar, ht⟩ := hq
    rw [quiet_cons hc]
    refine ⟨hquote, hopen, fun h hs => ?_, ih ht⟩
    obtain ⟨u, rfl⟩ := List.head?_eq_some_iff.1 hs
    exact hstar h rfl

namespace Cut.Reading

/-- The scan goes over the second argument without a cut, from the first to the last; the third is
the text behind it. -/
inductive Passes : Reading → Text → Text → Reading → Prop
  | nil {r : Reading} {after : Text} : Passes r [] after r
  | cons {r r' r'' : Reading} {c : Char} {t after : Text}
      (hstep : r.step c (t ++ after).head? = (r', none)) (h : Passes r' t after r'') :
      Passes r (c :: t) after r''

theorem Passes.append {r r' r'' : Reading} {s t after : Text} (hs : Passes r s (t ++ after) r')
    (ht : Passes r' t after r'') : Passes r (s ++ t) after r'' := by
  generalize hbehind : t ++ after = behind at hs
  induction hs with
  | nil => exact ht
  | cons hstep _ ih =>
    subst hbehind
    refine .cons ?_ (ih ht rfl)
    rwa [List.append_eq, List.append_assoc]

theorem Passes.segments {r r' : Reading} {t after : Text} (h : Passes r t after r') :
    r.segments (t ++ after) =
      (r'.segments after).modifyHead fun segment => (t ++ segment.1, segment.2) := by
  induction h with
  | nil => exact (congrFun List.modifyHead_id _).symm
  | cons hstep _ ih =>
    rw [List.cons_append, Reading.segments, hstep, ih, List.modifyHead_modifyHead]
    rfl

/-- The scan goes over the text without a cut and then is where it was, or at the end. -/
def Crosses (depth : Nat) (t after : Text) : Prop :=
  ∃ r, Passes (plain depth) t after r ∧ (r = plain depth ∨ after = [])

variable {depth : Nat} {t after : Text}

theorem Crosses.nil : Crosses depth [] after := ⟨_, .nil, .inl rfl⟩

theorem Crosses.append {s : Text} (hs : Crosses depth s (t ++ after)) (ht : Crosses depth t after) :
    Crosses depth (s ++ t) after := by
  obtain ⟨r, hr, rfl | hend⟩ := hs
  · obtain ⟨r', hr', hback⟩ := ht
    exact ⟨r', hr.append hr', hback⟩
  · obtain ⟨rfl, rfl⟩ := List.append_eq_nil_iff.1 hend
    exact ⟨r, by simpa using hr, .inr rfl⟩

theorem Crosses.segments (h : Crosses depth t after) :
    (plain depth).segments (t ++ after) =
      ((plain depth).segments after).modifyHead fun segment => (t ++ segment.1, segment.2) := by
  obtain ⟨r, hr, rfl | rfl⟩ := h
  · exact hr.segments
  · exact hr.segments

/-! ## Units -/

/-- A character without a meaning of its own. -/
theorem step_plain {c : Char} {ahead : Option Char} (hslash : c ≠ '\\')
    (hquote : isQuote c = false) (hopen : c ≠ '(') (hclose : c ≠ ')')
    (hstar : c = '/' → ahead ≠ some '*') (hsep : depth = 0 → c ≠ ',' ∧ c ≠ ';') :
    (plain depth).step c ahead = (plain depth, none) := by
  by_cases hd : depth = 0
  · obtain ⟨hcomma, hsemi⟩ := hsep hd
    simpa [step, plain, hslash, hquote, hopen, hclose, hcomma, hsemi] using hstar
  · simpa [step, plain, hslash, hquote, hopen, hclose, hd] using hstar

theorem Passes.escape {context : Context} (hcontext : context ≠ .comment) (c : Char) {r : Reading}
    (h : Passes ⟨context, depth, false⟩ t after r) :
    Passes ⟨context, depth, false⟩ ('\\' :: c :: t) after r := by
  have hstep : (⟨context, depth, false⟩ : Reading).step '\\' (c :: t ++ after).head? =
      (⟨context, depth, true⟩, none) := by
    cases context with
    | comment => exact absurd rfl hcontext
    | _ => rfl
  exact .cons hstep (.cons rfl h)

/-- Units are passed when each single character in them is. -/
theorem passes_of_units {stop : Char → Bool} {context : Context} (hcontext : context ≠ .comment)
    (hstep : ∀ (c : Char) (ahead : Option Char), c ≠ '\\' → stop c = false →
      (⟨context, depth, false⟩ : Reading).step c ahead = (⟨context, depth, false⟩, none))
    (h : Units stop t) : Passes ⟨context, depth, false⟩ t after ⟨context, depth, false⟩ := by
  induction h with
  | nil => exact .nil
  | escape c _ ih => exact ih.escape hcontext c
  | plain hc hs _ ih => exact .cons (hstep _ _ hc hs) ih

/-- So are units that break off. -/
theorem Passes.break {context : Context} (hcontext : context ≠ .comment)
    (h : Passes ⟨context, depth, false⟩ t ['\\'] ⟨context, depth, false⟩) :
    Passes ⟨context, depth, false⟩ (t ++ ['\\']) [] ⟨context, depth, true⟩ := by
  refine Passes.append h (.cons ?_ .nil)
  cases context with
  | comment => exact absurd rfl hcontext
  | _ => rfl

/-- Outside all marks, a text that is read to its end is crossed. -/
theorem crosses_of_runs {stop : Char → Bool}
    (hstep : ∀ (c : Char) (ahead : Option Char), c ≠ '\\' → stop c = false →
      (plain depth).step c ahead = (plain depth, none))
    (h : Runs stop t after) : Crosses depth t after := by
  rcases h with ⟨hu, -⟩ | ⟨⟨u, hu, rfl⟩, rfl⟩
  · exact ⟨_, passes_of_units (by simp) hstep hu, .inl rfl⟩
  · exact ⟨_, (passes_of_units (by simp) hstep hu).break (by simp), .inr rfl⟩

theorem step_of_endsWord {c : Char} {ahead : Option Char} (hslash : c ≠ '\\')
    (h : endsWord c = false) : (plain depth).step c ahead = (plain depth, none) := by
  obtain ⟨-, hquote, hdivider, hopen, hclose⟩ := Token.endsWord_eq_false_iff.1 h
  have hne : ∀ d : Char, isDivider d = true → c ≠ d :=
    fun _ hd => (Token.ne_of_class hd hdivider).symm
  exact step_plain hslash hquote hopen hclose (fun hc => absurd hc (hne '/' (by decide)))
    fun _ => ⟨hne ',' (by decide), hne ';' (by decide)⟩

theorem step_of_isBlank {c : Char} {ahead : Option Char} (h : isBlank c = true) :
    (plain depth).step c ahead = (plain depth, none) := by
  have hne : ∀ d : Char, isBlank d = false → c ≠ d := fun _ => Token.ne_of_class h
  have hquote : isQuote c = false := by
    refine Bool.eq_false_iff.2 fun hq => ?_
    simp [Token.isBlank_of_isQuote hq] at h
  exact step_plain (hne '\\' (by decide)) hquote (hne '(' (by decide)) (hne ')' (by decide))
    (fun hc => absurd hc (hne '/' (by decide))) fun _ => ⟨hne ',' (by decide), hne ';' (by decide)⟩

theorem crosses_space (h : ∀ c ∈ t, isBlank c = true) : Crosses depth t after := by
  refine ⟨_, ?_, .inl rfl⟩
  induction t with
  | nil => exact .nil
  | cons c t ih =>
    exact .cons (step_of_isBlank (h c List.mem_cons_self))
      (ih fun d hd => h d (List.mem_cons_of_mem _ hd))

/-- The body of an address that is quiet is passed within the parentheses of the address. -/
theorem passes_of_quiet (h : Units (· = ')') t) (hq : quiet t = true) (hdepth : depth ≠ 0)
    (hafter : after.head? ≠ some '*') : Passes (plain depth) t after (plain depth) := by
  induction h with
  | nil => exact .nil
  | escape c _ ih => exact Passes.escape (by simp) c (ih hq)
  | @plain c t hc hs _ ih =>
    obtain ⟨hquote, hopen, hstar, ht⟩ := (quiet_cons hc t).1 hq
    refine .cons (step_plain hc hquote hopen (by simpa using hs) (fun hslash => ?_) (by omega))
      (ih ht)
    cases t with
    | nil => exact hafter
    | cons d t => exact hstar hslash

/-! ## Strings and comments -/

theorem step_quote {mark : Char} (hm : isQuote mark = true) (ahead : Option Char) :
    (plain depth).step mark ahead = (⟨.quoted mark, depth, false⟩, none) := by
  rcases Token.isQuote_iff.1 hm with rfl | rfl
  · rfl
  · rfl

theorem step_quoted {mark c : Char} (ahead : Option Char) (hslash : c ≠ '\\')
    (hs : decide (c = mark) = false) :
    (⟨.quoted mark, depth, false⟩ : Reading).step c ahead =
      (⟨.quoted mark, depth, false⟩, none) := by
  have hc : c ≠ mark := of_decide_eq_false hs
  simp [step, hslash, hc]

theorem crosses_quoted {mark : Char} {body : Text} {closed : Bool} (hm : isQuote mark = true)
    (h : Enclosed (· = mark) body closed after) :
    Crosses depth (mark :: body ++ (if closed then [mark] else [])) after := by
  have hslash : mark ≠ '\\' := by
    rintro rfl
    exact absurd hm (by decide)
  have hbody : ∀ u behind, Units (· = mark) u →
      Passes ⟨.quoted mark, depth, false⟩ u behind ⟨.quoted mark, depth, false⟩ :=
    fun u behind hu => passes_of_units (by simp) (fun _ ahead => step_quoted ahead) hu
  cases closed with
  | true =>
    have hend : Passes ⟨.quoted mark, depth, false⟩ [mark] after (plain depth) := by
      refine .cons ?_ .nil
      simp [step, hslash, plain]
    exact ⟨plain depth, .cons (step_quote hm _) ((hbody body _ h).append hend), .inl rfl⟩
  | false =>
    obtain ⟨rfl, hu | ⟨u, hu, rfl⟩⟩ := h
    · rw [if_neg (by simp), List.append_nil]
      exact ⟨_, .cons (step_quote hm _) (hbody body [] hu), .inr rfl⟩
    · rw [if_neg (by simp), List.append_nil]
      exact ⟨_, .cons (step_quote hm _) ((hbody u _ hu).break (by simp)), .inr rfl⟩

/-- A comment goes on up to its first end. -/
theorem passes_comment {body behind : Text} (h : ¬ ['*', '/'] <:+: body)
    (hbehind : behind.head? ≠ some '/') :
    Passes ⟨.comment, depth, false⟩ body behind ⟨.comment, depth, false⟩ := by
  induction body with
  | nil => exact .nil
  | cons c body ih =>
    rw [List.infix_cons_iff, not_or] at h
    refine .cons ?_ (ih h.2)
    have hend : ¬ (c = '*' ∧ (body ++ behind).head? = some '/') := by
      rintro ⟨rfl, hs⟩
      cases body with
      | nil => exact hbehind hs
      | cons d body =>
        obtain rfl : d = '/' := by simpa using hs
        exact h.1 ⟨body, rfl⟩
    simpa [step] using hend

theorem Passes.comment {body behind : Text} {r : Reading}
    (h : Passes ⟨.comment, depth, false⟩ body behind r) :
    Passes (plain depth) ('/' :: '*' :: body) behind r := by
  have hstep : (plain depth).step '/' (some '*') = (⟨.comment, depth, true⟩, none) := rfl
  exact .cons hstep (.cons rfl h)

theorem passes_closed_comment {body : Text} (h : ¬ ['*', '/'] <:+: body) :
    Passes (plain depth) ('/' :: '*' :: (body ++ ['*', '/'])) after (plain depth) := by
  have hstep : (⟨.comment, depth, false⟩ : Reading).step '*' (some '/') =
      (⟨.plain, depth, true⟩, none) := rfl
  have hend : Passes ⟨.comment, depth, false⟩ ['*', '/'] after (plain depth) :=
    .cons hstep (.cons rfl .nil)
  exact ((passes_comment h (by simp)).append hend).comment

theorem crosses_comment {body : Text} {closed : Bool} (h : ¬ ['*', '/'] <:+: body)
    (hclosed : closed = false → after = []) :
    Crosses depth ('/' :: '*' :: body ++ (if closed then ['*', '/'] else [])) after := by
  cases closed with
  | true => exact ⟨_, passes_closed_comment h, .inl rfl⟩
  | false =>
    obtain rfl := hclosed rfl
    rw [if_neg (by simp), List.append_nil]
    exact ⟨_, (passes_comment h (by simp)).comment, .inr rfl⟩

/-! ## Parentheses -/

/-- A text in parentheses is crossed if what stands between them is. -/
theorem crosses_parens {name body : Text} {closed : Bool} (hname : Units endsWord name)
    (hbody : Crosses (depth + 1) body ((if closed then [')'] else []) ++ after))
    (hclosed : closed = false → after = []) :
    Crosses depth (name ++ '(' :: body ++ (if closed then [')'] else [])) after := by
  obtain ⟨r, hr, hback⟩ := hbody
  have hopen : ∀ u behind r', Passes (plain (depth + 1)) u behind r' →
      Passes (plain depth) (name ++ '(' :: u) behind r' :=
    fun u behind r' hu => Passes.append
      (passes_of_units (by simp) (fun _ _ => step_of_endsWord) hname) (.cons rfl hu)
  cases closed with
  | true =>
    -- the `)` is still to come, so what stands in front of it was crossed to its end
    obtain rfl : r = plain (depth + 1) := hback.resolve_right (by simp)
    have hend : Passes (plain (depth + 1)) [')'] after (plain depth) := .cons rfl .nil
    rw [List.append_assoc]
    exact ⟨_, hopen _ _ _ (hr.append hend), .inl rfl⟩
  | false =>
    obtain rfl := hclosed rfl
    rw [if_neg (by simp), List.append_nil]
    exact ⟨_, hopen _ _ _ (by simpa using hr), .inr rfl⟩

theorem crosses_address {body : Text} {closed : Bool} (hq : quiet body = true)
    (h : Enclosed (· = ')') body closed after) :
    Crosses (depth + 1) body ((if closed then [')'] else []) ++ after) := by
  cases closed with
  | true => exact ⟨_, passes_of_quiet h hq (by omega) (by simp), .inl rfl⟩
  | false =>
    obtain ⟨rfl, hu | ⟨u, hu, rfl⟩⟩ := h
    · exact ⟨_, passes_of_quiet hu hq (by omega) (by simp), .inl rfl⟩
    · exact ⟨_, (passes_of_quiet hu (hu.quiet_left hq) (by omega) (by simp)).break (by simp),
        .inr rfl⟩

end Cut.Reading

open Cut Cut.Reading

/-- A leaf that stands is crossed, unless it is a separator outside all parentheses. -/
theorem Leaf.Stands.crosses {part : Leaf} {depth : Nat} {after : Text} (h : part.Stands after)
    (hq : part.Quiet) (hsep : depth = 0 → part ≠ .divider ',' ∧ part ≠ .divider ';') :
    Crosses depth part.text after := by
  cases part with
  | space t => exact crosses_space h.2.1
  | word t => exact crosses_of_runs (fun _ _ => step_of_endsWord) h.2.1
  | quoted mark body closed => exact crosses_quoted h.1 h.2
  | comment body closed => exact crosses_comment h.1 h.2
  | divider mark =>
    obtain ⟨hd, hstar⟩ := h
    have hne : ∀ c : Char, isDivider c = false → mark ≠ c := fun _ => Token.ne_of_class hd
    have hstep := step_plain (hne '\\' (by decide)) (Token.isQuote_of_isDivider hd)
      (hne '(' (by decide)) (hne ')' (by decide)) hstar (by simpa using hsep)
    exact ⟨_, .cons hstep .nil, .inl rfl⟩
  | address name body closed =>
    obtain ⟨hname, -, henclosed⟩ := h
    refine crosses_parens (Token.units_of_isAddressName hname) (crosses_address hq henclosed) ?_
    rintro rfl
    exact henclosed.1

namespace Forest

theorem Stands.crosses_call {name after : Text} {inside rest : Forest} {closed nested : Bool}
    {depth : Nat} (h : (Forest.call name inside closed rest).Stands nested after)
    (hinside : Crosses (depth + 1) inside.text
      ((if closed then [')'] else []) ++ (rest.text ++ after))) :
    Crosses depth (name ++ '(' :: inside.text ++ (if closed then [')'] else []))
      (rest.text ++ after) := by
  obtain ⟨⟨hname, -⟩, -, -, hclosed⟩ := h
  refine crosses_parens hname hinside fun hc => ?_
  obtain ⟨rfl, rfl⟩ := hclosed hc
  rfl

/-- Between parentheses, a forest that stands is crossed. -/
theorem Stands.crosses {f : Forest} {after : Text} (h : f.Stands true after) (hq : f.Quiet)
    {depth : Nat} (hdepth : depth ≠ 0) : Crosses depth f.text after := by
  induction f generalizing after depth with
  | nil => exact .nil
  | leaf part rest ih =>
    obtain ⟨hpart | ⟨hn, -⟩, hrest⟩ := h
    · exact (hpart.crosses hq.1 (fun hd => absurd hd hdepth)).append (ih hrest hq.2 hdepth)
    · cases hn
  | call name inside closed rest ihInside ih =>
    have hinside := ihInside h.2.1 hq.1 (Nat.succ_ne_zero depth)
    rw [text_call]
    exact (h.crosses_call hinside).append (ih h.2.2.1 hq.2 hdepth)

end Forest

end CallLint
