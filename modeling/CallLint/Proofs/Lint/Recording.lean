import CallLint.Proofs.Config.Loading
import CallLint.Proofs.Lint.Calls
import CallLint.Recording

/-!
# What a record holds

A run tells of its work and reports violations, step by step. `Adds m events violations` says of a
part of a run what it adds to any record, so that the parts can be taken one by one.

* `Adds.append`, `adds_forM`: one part after the other, and a loop.
* `adds_checkCall`, `adds_check`: what the check of a call adds, and the check of a value.
* `record_accounts`: the record of a whole run.
-/

namespace CallLint

open Text

/-- The record with more told and more found. -/
def Record.add (r : Record) (events : List Event) (violations : List Violation) : Record :=
  ⟨r.events ++ events.toArray, r.violations ++ violations.toArray⟩

theorem Record.add_nil (r : Record) : r.add [] [] = r := by
  simp [add]

theorem Record.add_add (r : Record) (events events' : List Event)
    (violations violations' : List Violation) :
    (r.add events violations).add events' violations' =
      r.add (events ++ events') (violations ++ violations') := by
  simp [add]

/-- What can be read off an event. -/
def Event.reading (e : Event) : String × List (String × Field) := (e.message, e.fields)

/-- What is told of a violation: the wording, and where it was found. -/
def Violation.reading (v : Violation) : String × List (String × Field) :=
  (v.kind.message, [("property", .text v.property), ("function", .text v.function),
    ("argument", .text v.argument)])

/-- What this part of a run adds to every record. -/
def Adds (m : StateM Record Unit) (events : List Event) (violations : List Violation) : Prop :=
  ∀ r : Record, m.run r = pure ((), r.add events violations)

theorem adds_pure : Adds (pure ()) [] [] := by
  intro r
  rw [Record.add_nil]
  rfl

theorem adds_tell (e : Event) : Adds (Record.tell e) [e] [] := by
  intro r
  have hadd : r.add [e] [] = { r with events := r.events.push e } := by
    simp [Record.add]
  rw [hadd]
  rfl

theorem adds_report (v : Violation) : Adds (Record.report v) [] [v] := by
  intro r
  have hadd : r.add [] [v] = { r with violations := r.violations.push v } := by
    simp [Record.add]
  rw [hadd]
  rfl

theorem Adds.append {m m' : StateM Record Unit} {events events' : List Event}
    {violations violations' : List Violation} (h : Adds m events violations)
    (h' : Adds m' events' violations') :
    Adds (m >>= fun _ => m') (events ++ events') (violations ++ violations') := by
  intro r
  rw [StateT.run_bind, h r, pure_bind, h', Record.add_add]

/-- A loop adds what its rounds add, one after the other. -/
theorem adds_forM {α : Type} {f : α → StateM Record Unit} {events : α → List Event}
    {violations : α → List Violation} (h : ∀ a, Adds (f a) (events a) (violations a))
    (l : List α) : Adds (l.forM f) (l.flatMap events) (l.flatMap violations) := by
  induction l with
  | nil => exact adds_pure
  | cons a l ih =>
    rw [List.flatMap_cons, List.flatMap_cons]
    exact (h a).append ih

namespace Config

theorem adds_checkArgument (c : Config) (property function : Text) (a : Argument) :
    Adds (c.checkArgument property function a)
      ((c.violation? property function a).toList.map .violated)
      (c.violation? property function a).toList := by
  unfold checkArgument
  cases c.violation? property function a with
  | none => exact adds_pure
  | some v => exact (adds_tell (.violated v)).append (adds_report v)

/-- The check of a call adds what becomes of the call. -/
theorem adds_checkCall (c : Config) (property : Text) (n : Node) :
    Adds (c.checkCall property n) (c.judge property n).events
      (c.judge property n).violations := by
  unfold checkCall judge
  split
  · exact adds_pure
  · simp only
    split
    · exact (adds_tell _).append adds_pure
    · split
      · exact (adds_tell _).append adds_pure
      · have hloop := adds_forM (c.adds_checkArgument property n.name) (arguments n)
        have hevents : (arguments n).flatMap
            (fun a => (c.violation? property n.name a).toList.map Event.violated) =
            ((arguments n).filterMap (c.violation? property n.name)).map Event.violated := by
          rw [List.filterMap_eq_flatMap_toList, List.map_flatMap]
        rwa [hevents, ← List.filterMap_eq_flatMap_toList] at hloop

theorem outcomes_eq (c : Config) (property value : Text) :
    c.outcomes property value =
      (Forest.parse value).layout.calls.map fun e => c.judge property e.node := by
  rw [outcomes, Layout.calls_layout, ← Forest.map_node_callEntries (Forest.parse value) 0 0,
    List.map_map]
  rfl

/-- The check of a value adds what becomes of its calls. -/
theorem adds_check (c : Config) (property value : Text) :
    Adds (c.check property value) (c.log property value) (c.lint property value) := by
  rw [log, lint, outcomes_eq, List.flatMap_map, List.flatMap_map]
  exact adds_forM (fun e : Entry => c.adds_checkCall property e.node) _

/-- What a record holds about one call. -/
structure Accounts (c : Config) (property : Text) (n : Node) (events : List Event)
    (violations : List Violation) : Prop where
  exempt : n.isExempt = true → events = [] ∧ violations = []
  ignored : n.isExempt = false → c.ignoresFunction n.name = true →
    events = [.functionIgnored n.name] ∧ violations = []
  single : n.isExempt = false → c.ignoresFunction n.name = false →
    c.ignores .singleArgument = true → n.present.length = 1 →
    events = [.singleArgumentIgnored n.name] ∧ violations = []
  judged : n.isExempt = false → c.ignoresFunction n.name = false →
    ¬ (c.ignores .singleArgument = true ∧ n.present.length = 1) →
    violations = n.present.filterMap (c.violation? property n.name) ∧
      events = violations.map .violated

theorem accounts_judge (c : Config) (property : Text) (n : Node) :
    c.Accounts property n (c.judge property n).events (c.judge property n).violations := by
  rw [judge, arguments_eq_present]
  constructor
  · intro hexempt
    rw [Node.isExempt] at hexempt
    rw [if_pos hexempt]
    exact ⟨rfl, rfl⟩
  · intro hexempt hignored
    rw [Node.isExempt] at hexempt
    rw [hexempt, if_neg Bool.false_ne_true, if_pos hignored]
    exact ⟨rfl, rfl⟩
  · intro hexempt hignored hsingle hlength
    rw [Node.isExempt] at hexempt
    rw [hexempt, hignored, if_neg Bool.false_ne_true, if_neg Bool.false_ne_true]
    simp only [hsingle, hlength, decide_true, Bool.and_true, if_true]
    exact ⟨rfl, rfl⟩
  · intro hexempt hignored hmany
    rw [Node.isExempt] at hexempt
    have hcond : ¬ (decide (n.present.length = 1) && c.ignores .singleArgument) = true := by
      simpa [and_comm] using hmany
    rw [hexempt, hignored, if_neg Bool.false_ne_true, if_neg Bool.false_ne_true]
    simp only [if_neg hcond]
    exact ⟨rfl, rfl⟩

/-- A call either is passed over without a violation, or is told of by its violations alone. -/
theorem Accounts.debug_or_eq {c : Config} {property : Text} {n : Node} {events : List Event}
    {violations : List Violation} (h : c.Accounts property n events violations) :
    ((∀ e ∈ events, e.level = .debug) ∧ violations = []) ∨
      events = violations.map .violated := by
  cases hexempt : n.isExempt with
  | true =>
    obtain ⟨rfl, rfl⟩ := h.exempt hexempt
    exact .inr rfl
  | false =>
    cases hignored : c.ignoresFunction n.name with
    | true =>
      obtain ⟨rfl, rfl⟩ := h.ignored hexempt hignored
      exact .inl ⟨List.forall_mem_singleton.2 rfl, rfl⟩
    | false =>
      by_cases hsingle : c.ignores .singleArgument = true ∧ n.present.length = 1
      · obtain ⟨rfl, rfl⟩ := h.single hexempt hignored hsingle.1 hsingle.2
        exact .inl ⟨List.forall_mem_singleton.2 rfl, rfl⟩
      · exact .inr (h.judged hexempt hignored hsingle).2

theorem Accounts.eq_nil_of_debug {c : Config} {property : Text} {n : Node} {events : List Event}
    {violations : List Violation} (h : c.Accounts property n events violations) {e : Event}
    (he : e ∈ events) (hlevel : e.level = .debug) : violations = [] := by
  rcases h.debug_or_eq with ⟨-, hnil⟩ | rfl
  · exact hnil
  · obtain ⟨v, -, rfl⟩ := List.mem_map.1 he
    cases hlevel

theorem Accounts.filter_trace {c : Config} {property : Text} {n : Node} {events : List Event}
    {violations : List Violation} (h : c.Accounts property n events violations) :
    events.filter (·.level = .trace) = violations.map .violated := by
  rcases h.debug_or_eq with ⟨hdebug, rfl⟩ | rfl
  · rw [List.map_nil, List.filter_eq_nil_iff]
    intro e he
    simp [hdebug e he]
  · rw [List.filter_eq_self]
    intro e he
    obtain ⟨v, -, rfl⟩ := List.mem_map.1 he
    rfl

/-- Only a configuration that is built is told of. -/
theorem run_load (raw : Text) (options : Options) (r : Record) :
    ((load raw options).run).run r = match ofOptions raw options with
      | .error p => pure (.error p, r)
      | .ok c => pure (.ok c, r.add [c.loaded] []) := by
  cases hc : ofOptions raw options with
  | error p =>
    unfold load
    rw [hc]
    rfl
  | ok c =>
    have htell := adds_tell c.loaded r
    unfold load
    rw [hc]
    exact congrArg (fun told : Unit × Record => (Except.ok c, told.2)) htell

end Config

namespace ConfigSource

/-- A run tells of nothing but its configuration and the calls, in this order. -/
theorem record_eq (source : ConfigSource) (property value : Text) :
    source.record property value = match source.build with
      | .error p => (.error p, .empty)
      | .ok c => (.ok (), Record.empty.add (c.loaded :: c.log property value)
          (c.lint property value)) := by
  rw [build_eq]
  cases hsetting : source.setting with
  | error p =>
    unfold record check load
    rw [hsetting]
    rfl
  | ok setting =>
    have hload := Config.run_load setting.expectation (setting.options.getD .empty) .empty
    have hbind : (Except.ok setting >>= fun setting : Setting =>
        Config.ofOptions setting.expectation (setting.options.getD .empty)) =
        Config.ofOptions setting.expectation (setting.options.getD .empty) := rfl
    have hrun : source.load.run.run .empty =
        ((Config.load setting.expectation (setting.options.getD .empty)).run).run .empty := by
      unfold load
      rw [hsetting]
      rfl
    rw [hbind, record, check, ExceptT.run_bind, StateT.run_bind, hrun, hload]
    cases hc : Config.ofOptions setting.expectation (setting.options.getD .empty) with
    | error p => rfl
    | ok c =>
      have hcheck := c.adds_check property value (Record.empty.add [c.loaded] [])
      rw [Record.add_add] at hcheck
      exact congrArg (fun checked : Unit × Record => (Except.ok (), checked.2)) hcheck

/-- The record of a run. A configuration that is refused leaves no trace. Otherwise the first event
tells how much is ignored, and then every call has its part of the record, in the order of the walk:
either it is passed over with at most one event and no violation, or each of its violations has an
event. So the events of level `trace` are the violations, which are those of the linter. -/
theorem record_accounts (source : ConfigSource) (property value : Text) :
    (∀ p, source.build = .error p → source.record property value = (.error p, .empty)) ∧
    ∀ c, source.build = .ok c →
      ∃ (setting : Setting) (parts : List (List Event × List Violation)),
        source.setting = .ok setting ∧
        List.Forall₂ (fun e part => c.Accounts property e.node part.1 part.2)
          (Forest.parse value).layout.calls parts ∧
        source.record property value =
          (.ok (), ⟨(.configLoaded c.expectation (setting.options.getD .empty).ignore.dedup.length
              (setting.options.getD .empty).ignoreFunctions.length ::
                parts.flatMap Prod.fst).toArray,
            (parts.flatMap Prod.snd).toArray⟩) ∧
        parts.flatMap Prod.snd = c.lint property value ∧
        ((parts.flatMap Prod.fst).filter (·.level = .trace)).map Event.reading =
          (c.lint property value).map Violation.reading ∧
        ∀ part ∈ parts, (∃ e ∈ part.1, e.level = .debug) → part.2 = [] := by
  have hrecord := source.record_eq property value
  refine ⟨fun p hp => ?_, fun c hc => ?_⟩
  · rwa [hp] at hrecord
  · obtain ⟨setting, hsetting, hoptions⟩ := bind_eq_ok_iff.1 (source.build_eq.symm.trans hc)
    obtain ⟨hignore, hfunctions⟩ := Config.length_of_ofOptions hoptions
    have haccounts : List.Forall₂ (fun (e : Entry) part => c.Accounts property e.node part.1 part.2)
        (Forest.parse value).layout.calls
        ((Forest.parse value).layout.calls.map fun e =>
          ((c.judge property e.node).events, (c.judge property e.node).violations)) := by
      rw [List.forall₂_map_right_iff]
      exact List.forall₂_same.2 fun e _ => c.accounts_judge property e.node
    have hfound : c.lint property value = (Forest.parse value).layout.calls.flatMap
        fun e => (c.judge property e.node).violations := by
      rw [Config.lint, Config.outcomes_eq, List.flatMap_map]
    have hlog : c.log property value = (Forest.parse value).layout.calls.flatMap
        fun e => (c.judge property e.node).events := by
      rw [Config.log, Config.outcomes_eq, List.flatMap_map]
    refine ⟨setting, _, hsetting, haccounts, ?_, ?_, ?_, ?_⟩
    · rw [hc] at hrecord
      simpa [Config.loaded, hignore, hfunctions, hlog, hfound, Record.add, Record.empty,
        List.flatMap_map] using hrecord
    · rw [List.flatMap_map, hfound]
    · rw [List.flatMap_map, List.filter_flatMap, List.map_flatMap, hfound, List.map_flatMap]
      refine List.flatMap_congr fun e _ => ?_
      rw [(c.accounts_judge property e.node).filter_trace, List.map_map]
      rfl
    · rintro part hpart ⟨e, he, hlevel⟩
      obtain ⟨d, -, rfl⟩ := List.mem_map.1 hpart
      exact (c.accounts_judge property d.node).eq_nil_of_debug he hlevel

/-- A call of every sort, one within the other, and a pattern that is refused after other
entries. -/
theorem record_accounts_of_nested :
    let ignore : String := "\"ignore\": [\"single-argument\", \"single-argument\"]"
    let ignoreFunctions : String := "\"ignoreFunctions\": [\"g\", \"g\"]"
    let source : ConfigSource :=
      .json ("[\"never\", \x7b" ++ ignore ++ ", " ++ ignoreFunctions ++ "\x7d]").toList
    let refused : ConfigSource := .given "never".toList ⟨[], [['g'], "/g/x".toList]⟩
    let c : Config := ⟨.never, [.singleArgument], [.exact ['g'], .exact ['g']]⟩
    let value : Text := "(calc($a: 1), g(f($b: 2, 3), h(4)))".toList
    let found : Violation := ⟨.rejected, ['p'], ['f'], "$b: 2".toList⟩
    source.build = .ok c ∧
      source.record ['p'] value = (.ok (), ⟨#[.configLoaded .never 1 2, .functionIgnored ['g'],
        .violated found, .singleArgumentIgnored ['h']], #[found]⟩) ∧
      (∃ parts : List (List Event × List Violation),
        List.Forall₂ (fun e part => c.Accounts ['p'] e.node part.1 part.2)
          (Forest.parse value).layout.calls parts ∧
        parts.flatMap Prod.fst =
          [.functionIgnored ['g'], .violated found, .singleArgumentIgnored ['h']] ∧
        parts.flatMap Prod.snd = [found]) ∧
      refused.record ['p'] value = (.error (.patternFlag "/g/x".toList 'x'), .empty) := by
  intro ignore ignoreFunctions source refused c value found
  have hbuild : source.build = .ok c := by decide +kernel
  have hrefused : refused.build = .error (.patternFlag "/g/x".toList 'x') := by decide +kernel
  have hrun : source.record ['p'] value = (.ok (), ⟨#[.configLoaded .never 1 2,
      .functionIgnored ['g'], .violated found, .singleArgumentIgnored ['h']], #[found]⟩) := by
    decide +kernel
  obtain ⟨setting, parts, -, hparts, hrecord, -⟩ := (record_accounts source ['p'] value).2 c hbuild
  rw [hrun] at hrecord
  have hevents := congrArg (fun run => run.2.events.toList.tail) hrecord
  have hfound := congrArg (fun run => run.2.violations.toList) hrecord
  exact ⟨hbuild, hrun, ⟨parts, hparts, hevents.symm, hfound.symm⟩,
    (record_accounts refused ['p'] value).1 _ hrefused⟩

end ConfigSource

end CallLint
