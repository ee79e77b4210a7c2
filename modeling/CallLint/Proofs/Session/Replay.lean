import CallLint.Proofs.Config.Loading
import CallLint.Session

/-!
# A session as a replay of its changes

At every moment of a session its configuration is the one that options make: the last expectation
that was taken, and the entries that were taken since the configuration was last built. Changes
that failed are not among them.

* `sinceBegun`: the changes from the last one that began anew.
* `ofOptions_of_apply`: what options make after one change more.
* `replay`: the configuration of a session, and the answers that follow from it.
-/

namespace CallLint

/-- The entries of some options, and then those of others. -/
def Options.append (options more : Options) : Options :=
  ⟨options.ignore ++ more.ignore, options.ignoreFunctions ++ more.ignoreFunctions⟩

namespace Config

/-- The same configuration with another expectation. -/
def expecting (e : Expectation) (c : Config) : Config := { c with expectation := e }

theorem withIgnore_expecting (e : Expectation) (c : Config) (o : IgnoreOption) :
    (c.expecting e).withIgnore o = (c.withIgnore o).expecting e := by
  unfold withIgnore expecting
  split <;> rfl

theorem withIgnoredFunction_expecting (e : Expectation) (c : Config) (m : Matcher) :
    (c.expecting e).withIgnoredFunction m = (c.withIgnoredFunction m).expecting e :=
  rfl

theorem withIgnoredFunction_withIgnore (c : Config) (o : IgnoreOption) (m : Matcher) :
    (c.withIgnore o).withIgnoredFunction m = (c.withIgnoredFunction m).withIgnore o := by
  unfold withIgnore withIgnoredFunction
  split <;> rfl

theorem ofOptions_empty {raw : Text} {e : Expectation} (he : Expectation.parse raw = .ok e) :
    ofOptions raw .empty = .ok (new e) :=
  ofOptions_eq_ok_iff.2 ⟨e, [], [], he, .nil, .nil, rfl⟩

/-- Another expectation does not touch what is ignored. -/
theorem ofOptions_expecting {raw raw' : Text} {options : Options} {c : Config} {e : Expectation}
    (hc : ofOptions raw options = .ok c) (he : Expectation.parse raw' = .ok e) :
    ofOptions raw' options = .ok (c.expecting e) := by
  obtain ⟨e', ignored, functions, -, hignored, hfunctions, rfl⟩ := ofOptions_eq_ok_iff.1 hc
  refine ofOptions_eq_ok_iff.2 ⟨e, ignored, functions, he, hignored, hfunctions, ?_⟩
  have hnew : new e = (new e').expecting e := rfl
  rw [hnew, List.foldl_hom (expecting e) (withIgnore_expecting e),
    List.foldl_hom (expecting e) (withIgnoredFunction_expecting e)]

/-- What is ignored in addition may be read before the functions or after them. -/
theorem ofOptions_withIgnore {raw entry : Text} {options : Options} {c : Config} {o : IgnoreOption}
    (hc : ofOptions raw options = .ok c) (ho : IgnoreOption.parse entry = .ok o) :
    ofOptions raw (options.append ⟨[entry], []⟩) = .ok (c.withIgnore o) := by
  obtain ⟨e, ignored, functions, he, hignored, hfunctions, rfl⟩ := ofOptions_eq_ok_iff.1 hc
  refine ofOptions_eq_ok_iff.2
    ⟨e, ignored ++ [o], functions, he, List.rel_append hignored (.cons ho .nil), ?_, ?_⟩
  · rw [Options.append, List.append_nil]
    exact hfunctions
  -- the options hold the new entry in front of all functions, the session took it in after them
  · rw [List.foldl_append, List.foldl_cons, List.foldl_nil,
      List.foldl_hom (withIgnore · o) fun d m => withIgnoredFunction_withIgnore d o m]

theorem ofOptions_withIgnoredFunction {raw entry : Text} {options : Options} {c : Config}
    {m : Matcher} (hc : ofOptions raw options = .ok c) (hm : Matcher.parse entry = .ok m) :
    ofOptions raw (options.append ⟨[], [entry]⟩) = .ok (c.withIgnoredFunction m) := by
  obtain ⟨e, ignored, functions, he, hignored, hfunctions, rfl⟩ := ofOptions_eq_ok_iff.1 hc
  refine ofOptions_eq_ok_iff.2
    ⟨e, ignored, functions ++ [m], he, ?_, List.rel_append hfunctions (.cons hm .nil), ?_⟩
  · rw [Options.append, List.append_nil]
    exact hignored
  · rw [List.foldl_append, List.foldl_cons, List.foldl_nil]

end Config

namespace Change

/-- The expectation that a change sets. -/
def expectation? : Change → Option Text
  | .new raw | .setExpectation raw => some raw
  | .load source => source.setting.toOption.map (·.expectation)
  | .withIgnore _ | .withIgnoredFunction _ => none

/-- The entries that a change brings. -/
def entries : Change → Options
  | .load source => (source.setting.toOption.bind (·.options)).getD .empty
  | .withIgnore raw => ⟨[raw], []⟩
  | .withIgnoredFunction raw => ⟨[], [raw]⟩
  | .new _ | .setExpectation _ => .empty

/-- Whether a change drops what was ignored before it. -/
def begins : Change → Bool
  | .new _ | .load _ => true
  | .setExpectation _ | .withIgnore _ | .withIgnoredFunction _ => false

/-- The options after a change. -/
def optionsAfter (options : Options) (ch : Change) : Options :=
  if ch.begins then ch.entries else options.append ch.entries

/-- A change that succeeds does to the configuration what it does to the options. -/
theorem ofOptions_of_apply {raw : Text} {options : Options} {c d : Config} {ch : Change}
    (hc : Config.ofOptions raw options = .ok c) (hch : ch.apply c = .ok d) :
    Config.ofOptions (ch.expectation?.getD raw) (ch.optionsAfter options) = .ok d := by
  cases ch with
  | new raw' =>
    obtain ⟨e, he, hd⟩ := bind_eq_ok_iff.1 hch
    obtain rfl := Except.ok.inj hd
    exact Config.ofOptions_empty he
  | load source =>
    have hbuild : source.build = .ok d := hch
    rw [source.build_eq] at hbuild
    obtain ⟨setting, hsetting, hd⟩ := bind_eq_ok_iff.1 hbuild
    simp only [expectation?, optionsAfter, begins, entries, hsetting, Except.toOption,
      Option.map_some, Option.bind_some, Option.getD_some, if_pos]
    exact hd
  | setExpectation raw' =>
    obtain ⟨e, he, hd⟩ := bind_eq_ok_iff.1 hch
    obtain rfl := Except.ok.inj hd
    have hsame : (Change.setExpectation raw').optionsAfter options = options := by
      simp [optionsAfter, begins, entries, Options.append, Options.empty]
    rw [hsame]
    exact Config.ofOptions_expecting hc he
  | withIgnore entry =>
    obtain ⟨o, ho, hd⟩ := bind_eq_ok_iff.1 hch
    obtain rfl := Except.ok.inj hd
    exact Config.ofOptions_withIgnore hc ho
  | withIgnoredFunction entry =>
    obtain ⟨m, hm, hd⟩ := bind_eq_ok_iff.1 hch
    obtain rfl := Except.ok.inj hd
    exact Config.ofOptions_withIgnoredFunction hc hm

end Change

namespace Session

/-- The changes among some steps that succeed. -/
def accepted (c : Config) : List Step → List Change
  | [] => []
  | .change ch :: steps =>
    match ch.apply c with
    | .ok changed => ch :: accepted changed steps
    | .error _ => accepted c steps
  | .ignoresFunction _ :: steps | .lint _ :: steps => accepted c steps

/-- The changes from the last one on that drops what was ignored before it, or all of them. -/
def sinceBegun : List Change → List Change
  | [] => []
  | ch :: changes => if changes.any Change.begins then sinceBegun changes else ch :: changes

/-- The last expectation that some changes set. -/
def expectation (changes : List Change) : Text :=
  (changes.filterMap Change.expectation?).getLastD Expectation.always.name.toList

/-- The entries that some changes bring and do not drop. -/
def options (changes : List Change) : Options :=
  ⟨(sinceBegun changes).flatMap (·.entries.ignore),
    (sinceBegun changes).flatMap (·.entries.ignoreFunctions)⟩

theorem final_append (c : Config) (steps more : List Step) :
    final c (steps ++ more) = final (final c steps) more :=
  List.foldl_append

theorem answers_append (c : Config) (steps more : List Step) :
    answers c (steps ++ more) = answers c steps ++ answers (final c steps) more := by
  induction steps generalizing c with
  | nil => rfl
  | cons s steps ih => exact congrArg (s.answer c :: ·) (ih (s.after c))

theorem accepted_cons (c : Config) (s : Step) (steps : List Step) :
    accepted c (s :: steps) = accepted c [s] ++ accepted (s.after c) steps := by
  cases s with
  | change ch =>
    simp only [accepted, Step.after]
    cases ch.apply c with
    | ok changed => rfl
    | error p => rfl
  | ignoresFunction name => rfl
  | lint value => rfl

theorem sinceBegun_concat (changes : List Change) (ch : Change) :
    sinceBegun (changes ++ [ch]) = if ch.begins then [ch] else sinceBegun changes ++ [ch] := by
  induction changes with
  | nil => cases ch.begins <;> rfl
  | cons first changes ih =>
    rw [List.cons_append, sinceBegun, ih, sinceBegun, List.any_append]
    cases hany : changes.any Change.begins <;> cases hch : ch.begins <;> simp [hch]

theorem expectation_concat (changes : List Change) (ch : Change) :
    expectation (changes ++ [ch]) = ch.expectation?.getD (expectation changes) := by
  unfold expectation
  rw [List.filterMap_append]
  cases hch : ch.expectation? with
  | none => simp [hch]
  | some raw => simp [hch]

theorem options_concat (changes : List Change) (ch : Change) :
    options (changes ++ [ch]) = ch.optionsAfter (options changes) := by
  unfold options Change.optionsAfter
  rw [sinceBegun_concat]
  cases ch.begins <;> simp [Options.append]

/-- Some changes make a configuration if their last expectation and their entries do. -/
def Replays (changes : List Change) (c : Config) : Prop :=
  Config.ofOptions (expectation changes) (options changes) = .ok c

theorem Replays.step {changes : List Change} {c : Config} (h : Replays changes c) (s : Step) :
    Replays (changes ++ accepted c [s]) (s.after c) := by
  -- a change that succeeds is one change more; all other steps leave both sides as they are
  cases s with
  | change ch =>
    simp only [accepted, Step.after]
    cases hch : ch.apply c with
    | ok changed =>
      have hmake := Change.ofOptions_of_apply h hch
      rwa [← expectation_concat, ← options_concat] at hmake
    | error p =>
      rw [List.append_nil]
      exact h
  | ignoresFunction name =>
    rw [accepted, accepted, List.append_nil]
    exact h
  | lint value =>
    rw [accepted, accepted, List.append_nil]
    exact h

/-- Whatever the steps are, the changes that succeed go on making the configuration. -/
theorem Replays.run {changes : List Change} {c : Config} (h : Replays changes c)
    (steps : List Step) : Replays (changes ++ accepted c steps) (final c steps) := by
  induction steps generalizing changes c with
  | nil =>
    rw [accepted, List.append_nil]
    exact h
  | cons s steps ih =>
    rw [accepted_cons, ← List.append_assoc]
    exact ih (h.step s)

/-- After any steps, a session answers as the configuration does that the last expectation and the
entries since it was last built make as options, and a step that fails does not change it. -/
theorem replay (steps : List Step) :
    ∃ c, Config.ofOptions (expectation (accepted initial steps))
        (options (accepted initial steps)) = .ok c ∧
      final initial steps = c ∧ c.ignore.Nodup ∧
      (∀ more, answers initial (steps ++ more) = answers initial steps ++ answers c more) ∧
      ∀ s p, s.answer c = .problem p → final initial (steps ++ [s]) = c := by
  have hstart : Replays [] initial := rfl
  have hmake := hstart.run steps
  refine ⟨final initial steps, hmake, rfl, Config.nodup_of_ofOptions hmake,
    answers_append initial steps, fun s p hp => ?_⟩
  rw [final_append]
  exact Step.after_of_answer_problem hp

/-- Entries before and after a build, one of them twice, with failures between them. -/
theorem replay_of_mixed :
    let single : Text := "single-argument".toList
    let steps : List Step := [
      .change (.withIgnoredFunction ['f']),
      .change (.load (.json "[\"never\", \x7b\"ignoreFunctions\": [\"g\"]\x7d]".toList)),
      .change (.withIgnoredFunction "/h/q".toList),
      .change (.withIgnore single),
      .lint "(1)".toList,
      .change (.setExpectation "always".toList),
      .change (.setExpectation "Never".toList),
      .change (.withIgnoredFunction ['h']),
      .change (.withIgnore single)]
    let broken : Step := .change (.load (.json "[\"never\"".toList))
    let c : Config := ⟨.always, [.singleArgument], [.exact ['g'], .exact ['h']]⟩
    expectation (accepted initial steps) = "always".toList ∧
      options (accepted initial steps) = ⟨[single, single], [['g'], ['h']]⟩ ∧
      Config.ofOptions "always".toList ⟨[single, single], [['g'], ['h']]⟩ = .ok c ∧
      final initial steps = c ∧ c.ignore.Nodup ∧
      answers initial (steps ++ [broken, .ignoresFunction ['f']]) =
        answers initial steps ++ [.problem (.json .endInList), .truth false] ∧
      final initial (steps ++ [broken]) = c := by
  intro single steps broken c
  have hexpectation : expectation (accepted initial steps) = "always".toList := by decide +kernel
  have hoptions : options (accepted initial steps) = ⟨[single, single], [['g'], ['h']]⟩ := by
    decide +kernel
  have hbroken : broken.answer c = .problem (.json .endInList) := by decide +kernel
  obtain ⟨d, hmake, hfinal, hnodup, hanswers, hfails⟩ := replay steps
  rw [hexpectation, hoptions] at hmake
  obtain rfl : c = d := Except.ok.inj hmake
  have hrest : answers c [broken, .ignoresFunction ['f']] =
      [.problem (.json .endInList), .truth false] := by
    rw [answers, hbroken, Step.after_of_answer_problem hbroken]
    rfl
  refine ⟨hexpectation, hoptions, hmake, hfinal, hnodup, ?_, hfails broken _ hbroken⟩
  rw [hanswers, hrest]

end Session

end CallLint
