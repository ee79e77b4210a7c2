import CallLint.Proofs.Pattern.Bounds
import CallLint.Proofs.Pattern.Entry
import CallLint.Proofs.Pattern.Search

/-!
# Patterns kept at the start

The flag that keeps a match at the start of the name puts the pattern into a group behind an anchor.
This changes nothing else, provided that the pattern closes no group that it has not opened, and
that it does not end within a comment: the parenthesis that closes the group around it would else
belong to the pattern, or the one in the pattern would close the group around it. The group and the
anchor take two levels of nesting and one state more.

* `syntax?_anchored_eq_some_iff`: what is read with the group around the pattern.
* `occursIn_iff`: a pattern occurs in a name when its expression matches some stretch of it.
* `parse_sticky`: what the flag does to an entry.
-/

namespace CallLint

open Text

namespace Pattern

/-- A reading at the start of a pattern. -/
def Reading.start : Reading := ⟨false, [], ⟨[], []⟩, []⟩

theorem Reading.bounded_start : start.Bounded :=
  ⟨Level.bounded_nil, fun _ h => absurd h List.not_mem_nil⟩

/-- The syntax of a pattern, however deep it is nested. -/
def syntax? (source : Text) : Option Syntax := Reading.start.rest? source

/-- The pattern has a closing parenthesis where no group of it is open. -/
def Strays (source : Text) : Prop := Reading.start.Strays source

/-- The pattern ends within a comment, so that a closing parenthesis behind it changes nothing. -/
def EndsInComment (source : Text) : Prop :=
  (syntax? source).isSome ∧ (syntax? (source ++ [')'])).isSome

/-- A pattern with such a parenthesis is malformed. -/
theorem Strays.syntax?_eq_none {source : Text} (h : Strays source) : syntax? source = none :=
  Reading.Strays.rest?_eq_none h

/-- The pattern that keeps another at the start. -/
def keptAtStart (s : Syntax) : Syntax := .sequence (.anchor .textStart) (.group false [] s)

/-- The group that is open around the pattern, behind the anchor. -/
def startGroup : OpenGroup := ⟨false, [], false, ⟨[], [.anchor .textStart]⟩⟩

theorem close_startGroup : startGroup.close = keptAtStart := rfl

/-- The anchor and the opening of the group are two steps of the reading. -/
theorem syntax?_anchored (source : Text) :
    syntax? (Matcher.anchored source) =
      (Reading.start.within startGroup).rest? (source ++ [')']) := by
  have hanchor : Reading.start.next '\\' ('A' :: '(' :: '?' :: ':' :: (source ++ [')'])) =
      some (Reading.start.add (.anchor .textStart), '(' :: '?' :: ':' :: (source ++ [')'])) := rfl
  have hopen : (Reading.start.add (.anchor .textStart)).next '('
      ('?' :: ':' :: (source ++ [')'])) =
        some (Reading.start.within startGroup, source ++ [')']) := rfl
  change Reading.start.rest? ('\\' :: 'A' :: '(' :: '?' :: ':' :: (source ++ [')'])) = _
  rw [Reading.rest?_eq]
  change (Reading.start.next '\\' _).bind _ = _
  rw [hanchor, Option.bind_some, Reading.rest?_eq]
  change ((Reading.start.add (.anchor .textStart)).next '(' _).bind _ = _
  rw [hopen, Option.bind_some]

theorem syntax?_anchored_eq_some_iff {source : Text} (hstrays : ¬ Strays source) {s' : Syntax} :
    syntax? (Matcher.anchored source) = some s' ↔
      ¬ EndsInComment source ∧ ∃ s, syntax? source = some s ∧ s' = keptAtStart s := by
  have hread : syntax? (Matcher.anchored source) =
      if (syntax? (source ++ [')'])).isSome then none else (syntax? source).map keptAtStart := by
    rw [syntax?_anchored, Reading.rest?_within hstrays, close_startGroup]
    rfl
  rw [hread]
  by_cases hparen : (syntax? (source ++ [')'])).isSome
  · rw [if_pos hparen]
    refine iff_of_false (Option.some_ne_none s').symm ?_
    intro h
    obtain ⟨hcomment, s, hs, -⟩ := h
    exact hcomment ⟨Option.isSome_of_eq_some hs, hparen⟩
  · have hcomment : ¬ EndsInComment source := fun hcomment => hparen hcomment.2
    rw [if_neg hparen, Option.map_eq_some_iff, and_iff_right hcomment]
    simp only [eq_comm]

theorem depth_keptAtStart (s : Syntax) : (keptAtStart s).depth = s.depth + 2 := by
  simp [keptAtStart, Syntax.depth]

/-- A group that is not captured means what stands in it, and leaves the flags alone. -/
theorem expr?_uncaptured (s : Syntax) (f : Flags) :
    (Syntax.group false [] s).expr? f = (s.expr? f).map fun read => (read.1, f) := by
  rw [Syntax.expr?]
  change (s.expr? f).bind _ = _
  cases s.expr? f <;> rfl

theorem expr?_keptAtStart (s : Syntax) (f : Flags) :
    (keptAtStart s).expr? f =
      (s.expr? f).map fun read => (.sequence (.atom (.look .textStart)) read.1, f) := by
  change ((Syntax.group false [] s).expr? f).bind _ = _
  rw [expr?_uncaptured]
  cases s.expr? f <;> rfl

/-- A pattern is accepted when it is well formed and neither nested too deep nor too large. -/
theorem compile_eq_ok_iff {o : PatternOptions} {source : Text} {p : Pattern} :
    compile o source = .ok p ↔
      p.source = source ∧ ∃ s f, syntax? source = some s ∧ s.depth ≤ maxDepth ∧
        s.expr? o.flags = some (p.expr, f) ∧ p.expr.size ≤ maxSize := by
  have heq : read? source = (syntax? source).bind fun s =>
      if s.depth ≤ maxDepth then some s else none := by
    unfold read?
    split
    next hread => rw [show syntax? source = none from hread, Option.bind_none]
    next s hread => rw [show syntax? source = some s from hread, Option.bind_some]
  unfold compile
  rw [heq]
  constructor
  · intro h
    split at h
    next => cases h
    next e f heq =>
      obtain ⟨s, hs, hexpr⟩ := Option.bind_eq_some_iff.1 heq
      obtain ⟨s', hread, hdepth⟩ := Option.bind_eq_some_iff.1 hs
      split at hdepth
      next hle =>
        cases hdepth
        split at h
        next hsize =>
          cases h
          exact ⟨rfl, s, f, hread, hle, hexpr, hsize⟩
        next => cases h
      next => cases hdepth
  · rintro ⟨hsource, s, f, hread, hdepth, hexpr, hsize⟩
    obtain ⟨source', e⟩ := p
    obtain rfl : source' = source := hsource
    rw [hread, Option.bind_some, if_pos hdepth, Option.bind_some, hexpr]
    exact if_pos hsize

/-- Kept at the start a pattern is accepted as it is by itself, with two levels of nesting and one
state less to spare, unless it ends within a comment. -/
theorem compile_anchored_eq_ok_iff {o : PatternOptions} {source : Text} (hstrays : ¬ Strays source)
    {p : Pattern} :
    compile o (Matcher.anchored source) = .ok p ↔
      p.source = Matcher.anchored source ∧ ¬ EndsInComment source ∧
        ∃ s e f, syntax? source = some s ∧ s.depth + 2 ≤ maxDepth ∧
          s.expr? o.flags = some (e, f) ∧ e.size + stateSize ≤ maxSize ∧
            p.expr = .sequence (.atom (.look .textStart)) e := by
  have hsize : ∀ e : Expr Atom,
      (Expr.sequence (.atom (.look .textStart)) e).size = e.size + stateSize :=
    fun e => Nat.add_comm stateSize e.size
  rw [compile_eq_ok_iff]
  refine and_congr_right fun _ => ?_
  constructor
  · intro ⟨s', f', hread, hdepth, hexpr, hle⟩
    obtain ⟨hcomment, s, hs, rfl⟩ := (syntax?_anchored_eq_some_iff hstrays).1 hread
    rw [depth_keptAtStart] at hdepth
    rw [expr?_keptAtStart] at hexpr
    obtain ⟨⟨e, f⟩, he, heq⟩ := Option.map_eq_some_iff.1 hexpr
    have hp : p.expr = .sequence (.atom (.look .textStart)) e := (Prod.mk.inj heq).1.symm
    rw [hp, hsize] at hle
    exact ⟨hcomment, s, e, f, hs, hdepth, he, hle, hp⟩
  · intro ⟨hcomment, s, e, f, hs, hdepth, he, hle, hp⟩
    refine ⟨keptAtStart s, o.flags,
      (syntax?_anchored_eq_some_iff hstrays).2 ⟨hcomment, s, hs, rfl⟩, ?_, ?_, ?_⟩
    · rw [depth_keptAtStart]
      exact hdepth
    · rw [expr?_keptAtStart, he, hp]
      rfl
    · rw [hp, hsize]
      exact hle

/-- A pattern occurs in a name when its expression matches some stretch of the name. -/
theorem occursIn_iff {o : PatternOptions} {source : Text} {p : Pattern}
    (h : compile o source = .ok p) (name : Text) :
    p.occursIn name = true ↔ ∃ i j, Matches name p.expr i j := by
  obtain ⟨-, s, f, hread, -, hexpr, -⟩ := compile_eq_ok_iff.1 h
  have hbounded : s.Bounded := Reading.bounded_rest? Reading.bounded_start hread
  exact Expr.occursIn_iff (Syntax.bounded_expr? hbounded hexpr) name

/-- Behind the anchor an expression matches at the start of the text. -/
theorem exists_matches_anchored_iff {text : Text} {e : Expr Atom} :
    (∃ i j, Matches text (.sequence (.atom (.look .textStart)) e) i j) ↔
      ∃ j, Matches text e 0 j := by
  have hanchor : ∀ {i k : Nat}, Matches text (.atom (.look .textStart)) i k ↔ k = 0 ∧ i = 0 := by
    intro i k
    rw [matches_look_iff]
    constructor
    · intro ⟨hk, hi, hlook⟩
      cases i with
      | zero => exact ⟨hk, rfl⟩
      | succ i =>
        have hbefore : text[i]? = some text[i] := List.getElem?_eq_getElem hi
        simp [Look.holds, hbefore] at hlook
    · intro ⟨hk, hi⟩
      subst hk hi
      exact ⟨rfl, Nat.zero_le _, rfl⟩
  simp only [matches_sequence_iff, hanchor]
  constructor
  · intro ⟨i, j, k, ⟨hk, _⟩, h⟩
    exact ⟨j, hk ▸ h⟩
  · intro ⟨j, h⟩
    exact ⟨0, j, 0, ⟨rfl, rfl⟩, h⟩

/-- A pattern is accepted at the start when it is accepted by itself with room for the group and the
anchor around it, and does not end within a comment. -/
theorem exists_compile_anchored_iff {o : PatternOptions} {source : Text}
    (hstrays : ¬ Strays source) :
    (∃ q, compile o (Matcher.anchored source) = .ok q) ↔
      ¬ EndsInComment source ∧
        ∃ p s, compile o source = .ok p ∧ syntax? source = some s ∧ s.depth + 2 ≤ maxDepth ∧
          p.expr.size + stateSize ≤ maxSize := by
  constructor
  · intro ⟨q, hq⟩
    obtain ⟨-, hcomment, s, e, f, hs, hdepth, he, hsize, -⟩ :=
      (compile_anchored_eq_ok_iff hstrays).1 hq
    have hp : compile o source = .ok ⟨source, e⟩ :=
      compile_eq_ok_iff.2 ⟨rfl, s, f, hs, Nat.le_of_add_right_le hdepth, he,
        Nat.le_of_add_right_le hsize⟩
    exact ⟨hcomment, ⟨source, e⟩, s, hp, hs, hdepth, hsize⟩
  · intro ⟨hcomment, p, s, hp, hs, hdepth, hsize⟩
    obtain ⟨-, s', f, hs', -, he, -⟩ := compile_eq_ok_iff.1 hp
    obtain rfl : s = s' := Option.some.inj (hs.symm.trans hs')
    exact ⟨⟨Matcher.anchored source, .sequence (.atom (.look .textStart)) p.expr⟩,
      (compile_anchored_eq_ok_iff hstrays).2
        ⟨rfl, hcomment, s, p.expr, f, hs, hdepth, he, hsize, rfl⟩⟩

theorem Strays.compile_ne_ok {source : Text} (h : Strays source) (o : PatternOptions)
    (p : Pattern) : compile o source ≠ .ok p := by
  intro hp
  obtain ⟨-, s, f, hs, -⟩ := compile_eq_ok_iff.1 hp
  rw [h.syntax?_eq_none] at hs
  cases hs

/-- Accepted at the start, a pattern occurs in the names at whose start it matches. -/
theorem occursIn_anchored_iff {o : PatternOptions} {source : Text} {p q : Pattern}
    (hp : compile o source = .ok p) (hq : compile o (Matcher.anchored source) = .ok q)
    (name : Text) : q.occursIn name = true ↔ ∃ j, Matches name p.expr 0 j := by
  obtain ⟨-, s, f, hs, -, he, -⟩ := compile_eq_ok_iff.1 hp
  have hstrays : ¬ Strays source := fun hstrays => hstrays.compile_ne_ok o p hp
  obtain ⟨-, -, s', e, f', hs', -, he', -, hexpr⟩ := (compile_anchored_eq_ok_iff hstrays).1 hq
  obtain rfl : s = s' := Option.some.inj (hs.symm.trans hs')
  obtain rfl : p.expr = e := (Prod.mk.inj (Option.some.inj (he.symm.trans he'))).1
  rw [occursIn_iff hq, hexpr, exists_matches_anchored_iff]

end Pattern

namespace Matcher

open Pattern

section Flags

variable {source flags : Text} (hflags : ∀ c ∈ flags, c ∈ ['i', 'm', 's', 'g', 'u'])

include hflags

theorem isFlag_of_mem : ∀ c ∈ flags, isFlag c = true := by
  intro c hc
  have hmem := hflags c hc
  simp only [List.mem_cons, List.not_mem_nil, or_false] at hmem
  obtain rfl | rfl | rfl | rfl | rfl := hmem <;> rfl

theorem parse_free_eq_ok_iff {m : Matcher} :
    parse (entry source flags) = .ok m ↔
      ∃ p, m = .pattern p ∧ Pattern.compile (optionsOf flags) source = .ok p := by
  have hy : ¬ flags.contains 'y' = true := by
    rw [List.contains_iff_mem]
    intro hmem
    exact absurd (hflags 'y' hmem) (by decide)
  rw [parse_entry_eq_ok_iff (isFlag_of_mem hflags), if_neg hy]

theorem parse_kept_eq_ok_iff {m : Matcher} :
    parse (entry source (flags ++ ['y'])) = .ok m ↔
      ∃ p, m = .pattern p ∧ Pattern.compile (optionsOf flags) (anchored source) = .ok p := by
  have hknown : ∀ c ∈ flags ++ ['y'], isFlag c = true := by
    intro c hc
    obtain hc | hc := List.mem_append.1 hc
    · exact isFlag_of_mem hflags c hc
    · obtain rfl := List.mem_singleton.1 hc
      rfl
  have hy : (flags ++ ['y']).contains 'y' = true := by simp
  have hoptions : optionsOf (flags ++ ['y']) = optionsOf flags := by simp [optionsOf]
  rw [parse_entry_eq_ok_iff hknown, if_pos hy, hoptions]

end Flags

/-- With the flag an entry matches the names at whose very start its pattern matches. A pattern that
closes a group it has not opened is never accepted without the flag. Any other pattern is accepted
with the flag when it is accepted without it, does not end within a comment, and has two levels of
nesting and one state to spare. -/
theorem parse_sticky {source flags : Text} (hflags : ∀ c ∈ flags, c ∈ ['i', 'm', 's', 'g', 'u']) :
    (Strays source → ∀ m, parse (entry source flags) ≠ .ok m) ∧
    (¬ Strays source →
      ((∃ m, parse (entry source (flags ++ ['y'])) = .ok m) ↔
        ¬ EndsInComment source ∧
          ∃ p s, parse (entry source flags) = .ok (.pattern p) ∧ syntax? source = some s ∧
            s.depth + 2 ≤ maxDepth ∧ p.expr.size + stateSize ≤ maxSize)) ∧
    ∀ p m, parse (entry source flags) = .ok (.pattern p) →
      parse (entry source (flags ++ ['y'])) = .ok m →
        ∀ name, m.isMatch name = true ↔ ∃ j, Matches name p.expr 0 j := by
  have hfree : ∀ p, parse (entry source flags) = .ok (.pattern p) ↔
      Pattern.compile (optionsOf flags) source = .ok p := by
    intro p
    simp only [parse_free_eq_ok_iff hflags, Matcher.pattern.injEq, exists_eq_left']
  have hkept : (∃ m, parse (entry source (flags ++ ['y'])) = .ok m) ↔
      ∃ q, Pattern.compile (optionsOf flags) (anchored source) = .ok q := by
    simp only [parse_kept_eq_ok_iff hflags]
    rw [exists_comm]
    simp only [exists_eq_left]
  refine ⟨?_, ?_, ?_⟩
  · intro hstrays m hm
    obtain ⟨p, -, hp⟩ := (parse_free_eq_ok_iff hflags).1 hm
    exact hstrays.compile_ne_ok _ p hp
  · intro hstrays
    rw [hkept, exists_compile_anchored_iff hstrays]
    simp only [hfree]
  · intro p m hp hm name
    obtain ⟨q, rfl, hq⟩ := (parse_kept_eq_ok_iff hflags).1 hm
    exact occursIn_anchored_iff ((hfree p).1 hp) hq name

/-- The flag keeps all alternatives of a pattern at the start. -/
theorem parse_sticky_of_choice :
    (∀ c ∈ ['m'], c ∈ ['i', 'm', 's', 'g', 'u']) ∧
      ∃ p m, parse (entry "a|b".toList ['m']) = .ok (.pattern p) ∧
        parse (entry "a|b".toList (['m'] ++ ['y'])) = .ok m ∧
          ∀ name, m.isMatch name = true ↔ ∃ j, Matches name p.expr 0 j := by
  have hflags : ∀ c ∈ ['m'], c ∈ ['i', 'm', 's', 'g', 'u'] := by simp
  have hread : syntax? "a|b".toList = some (.choice (.literal 'a' false) (.literal 'b' false)) := by
    decide +kernel
  have hcomment : ¬ EndsInComment "a|b".toList := by
    intro h
    exact absurd h.2 (by decide +kernel)
  let p : Pattern := ⟨"a|b".toList,
    .choice (.atom (.one (.single 'a'))) (.atom (.one (.single 'b')))⟩
  have hp : parse (entry "a|b".toList ['m']) = .ok (.pattern p) := by decide +kernel
  have hsticky := @parse_sticky "a|b".toList ['m'] hflags
  have hstrays : ¬ Strays "a|b".toList := fun h => hsticky.1 h _ hp
  obtain ⟨m, hm⟩ := (hsticky.2.1 hstrays).2
    ⟨hcomment, p, _, hp, hread, by decide +kernel, by decide +kernel⟩
  exact ⟨hflags, p, m, hp, hm, hsticky.2.2 p m hp hm⟩

/-- A malformed pattern whose parentheses fit into the group around it is accepted with the flag,
and a comment at the end of a pattern keeps the pattern from being accepted with the flag. -/
theorem parse_sticky_ne :
    syntax? "a)(b".toList = none ∧
      parse (entry "a)(b".toList []) = .error (.pattern "/a)(b/".toList .malformed) ∧
      (∃ m, parse (entry "a)(b".toList ['y']) = .ok m ∧ m.isMatch "ab".toList = true) ∧
      (∃ m, parse (entry "(?x)a #c".toList []) = .ok m ∧ m.isMatch "ab".toList = true) ∧
      parse (entry "(?x)a #c".toList ['y']) =
        .error (.pattern "/(?x)a #c/y".toList .malformed) := by
  let split : Pattern := ⟨"\\A(?:a)(b)".toList,
    .sequence (.atom (.look .textStart))
      (.sequence (.atom (.one (.single 'a'))) (.group (.atom (.one (.single 'b')))))⟩
  let commented : Pattern := ⟨"(?x)a #c".toList,
    .sequence .empty (.atom (.one (.single 'a')))⟩
  refine ⟨by decide +kernel, by decide +kernel, ⟨.pattern split, ?_, ?_⟩,
    ⟨.pattern commented, ?_, ?_⟩, ?_⟩
  · decide +kernel
  · decide +kernel
  · decide +kernel
  · decide +kernel
  · decide +kernel

end Matcher

end CallLint
