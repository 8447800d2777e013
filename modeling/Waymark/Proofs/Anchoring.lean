import Mathlib.Data.Option.Basic
import Waymark.Proofs.Enclosure
import Waymark.Proofs.Evaluation
import Waymark.Proofs.Primitive

/-!
This module contains the binding of patterns to the offset that they are matched at.
-/

namespace Waymark
namespace Regex

section Search

open Program

variable {code : Array Instruction} {program : Program} {threads : List Thread} {n : Nat}

theorem start_of_mem_visit {prev next : Option Char} {fuel visited : Nat}
    {todo reached : List Thread} (htodo : ∀ t ∈ todo, t.start = n)
    (hreached : ∀ t ∈ reached, t.start = n) :
    ∀ t ∈ visit code prev next fuel todo visited reached, t.start = n := by
  induction fuel generalizing todo visited reached with
  | zero => exact hreached
  | succ fuel ih =>
    cases todo with
    | nil => exact hreached
    | cons thread todo =>
      rw [List.forall_mem_cons] at htodo
      rw [visit]
      split
      . exact ih htodo.2 hreached
      . dsimp only
        split
        . apply ih _ hreached
          simp only [List.forall_mem_cons]
          exact ⟨htodo.1, htodo.1, htodo.2⟩
        . apply ih _ hreached
          split
          . exact List.forall_mem_cons.mpr htodo
          . exact htodo.2
        . apply ih htodo.2
          exact List.forall_mem_cons.mpr ⟨htodo.1, hreached⟩

theorem start_of_mem_closure {prev next : Option Char} (hthreads : ∀ t ∈ threads, t.start = n) :
    ∀ t ∈ closure code prev next threads, t.start = n := by
  intro t ht
  exact start_of_mem_visit hthreads (by simp) t (List.mem_reverse.mp ht)

theorem start_of_follow {c : Char} {t u : Thread} (h : follow code c t = some u) :
    u.start = t.start := by
  unfold follow at h
  split at h
  . split at h
    . rw [← Option.some.inj h]
    . contradiction
  . contradiction

theorem start_of_search {text : List Char} {prev : Option Char} {place start stop : Nat}
    (hthreads : ∀ t ∈ threads, t.start = n)
    (h : search program text prev place false threads = some (start, stop)) : start = n := by
  have hfound (next : Option Char) {prev : Option Char} {place : Nat} {threads : List Thread}
      (hthreads : ∀ t ∈ threads, t.start = n)
      (h : ((closure program.code prev next threads).find? (accepts program.code)).map
        (fun thread => (thread.start, place)) = some (start, stop)) : start = n := by
    obtain ⟨t, ht, hspan⟩ := Option.map_eq_some_iff.mp h
    rw [← (Prod.mk.inj hspan).1]
    exact start_of_mem_closure hthreads t (List.mem_of_find?_eq_some ht)
  induction text generalizing prev place threads with
  | nil => exact hfound none hthreads h
  | cons c cs ih =>
    rw [search] at h
    dsimp only at h
    split at h
    . exact hfound (some c) hthreads h
    . rw [Bool.false_and, if_neg Bool.false_ne_true, Option.orElse_eq_some] at h
      rcases h with h | ⟨-, h⟩
      . apply ih _ h
        intro u hu
        obtain ⟨t, ht, hmoved⟩ := List.mem_filterMap.mp hu
        rw [start_of_follow hmoved]
        exact start_of_mem_closure hthreads t (List.takeWhile_subset _ ht)
      . exact hfound (some c) hthreads h

theorem start_of_find {text : List Char} {start length : Nat} (hanchored : program.isAnchored)
    (h : program.find text = some (start, length)) : start = 0 := by
  unfold find at h
  rw [hanchored, Bool.not_true] at h
  obtain ⟨⟨_, stop⟩, hsearch, hspan⟩ := Option.map_eq_some_iff.mp h
  obtain ⟨rfl, -⟩ := Prod.mk.inj hspan
  apply start_of_search _ hsearch
  simp

theorem isAnchored_ofNode (node : Node) :
    (Program.ofNode (.cat (.assert .textStart) node)).isAnchored = true := by
  unfold isAnchored Program.ofNode
  simp [Emitter.ofNode]

end Search

theorem find?_of_textStart {source : String} {node : Node} {text : List Char} {span : Span}
    (h : find? ⟨source, .ofNode (.cat (.assert .textStart) node)⟩ text = some span) :
    ∃ found back, text = found ++ back ∧ span = ⟨0, Text.size found⟩ := by
  obtain ⟨⟨before, length⟩, hfind, rfl⟩ := Option.map_eq_some_iff.mp h
  obtain rfl := start_of_find (isAnchored_ofNode node) hfind
  refine ⟨text.take length, text.drop length, (List.take_append_drop _ _).symm, ?_⟩
  simp

theorem readAlternatives_of_read {source : String} {node : Node} (h : Node.read source = .ok node) :
    ∃ read, readAlternatives (source.length + 1) {} none [] source.toList = .ok (read, []) ∧
      read.value = node := by
  unfold Node.read at h
  cases hread : readAlternatives (source.length + 1) {} none [] source.toList with
  | error e =>
    rw [hread] at h
    contradiction
  | ok result =>
    rw [hread] at h
    obtain ⟨read, _ | _⟩ := result
    . refine ⟨read, rfl, ?_⟩
      simp only [bind, Except.bind] at h
      split at h
      . contradiction
      . split at h
        . contradiction
        . exact Except.ok.inj h
    . contradiction

theorem readAlternatives_part (n : Nat) (operands : Operands) (cs : List Char) :
    readAlternatives (n + 1) {} none operands ('(' :: '?' :: ':' :: cs) = (do
      match ← readAlternatives n {} none [] cs with
      | (body, _ :: rest) => readAlternatives n {} none (operands.push (.wrap id body)) rest
      | (_, []) => .error .unclosedGroup) := rfl

theorem readAlternatives_end {n : Nat} {operands : Operands} {read : Nested Node}
    {rest : List Char} (h : readAlternatives n {} none operands [] = .ok (read, rest)) :
    read = operands.toNode := by
  cases n with
  | zero => contradiction
  | succ n => exact (Prod.mk.inj (Except.ok.inj h)).1.symm

theorem read_anchored {source : String} {node wrapped : Node} (hnode : Node.read source = .ok node)
    (hwrapped : Node.read (Pattern.anchored source) = .ok wrapped) :
    wrapped = .cat (.assert .textStart) node := by
  obtain ⟨own, hown, rfl⟩ := readAlternatives_of_read hnode
  obtain ⟨read, hread, rfl⟩ := readAlternatives_of_read hwrapped
  have hchars : (Pattern.anchored source).toList =
      '^' :: '(' :: '?' :: ':' :: (source.toList ++ [')']) := by
    unfold Pattern.anchored
    simp
  have hlength : (Pattern.anchored source).length + 1 = source.length + 4 + 1 + 1 := by
    rw [← String.length_toList, ← String.length_toList, hchars]
    simp
  rw [hchars, hlength] at hread
  change readAlternatives (source.length + 4 + 1) {} none [.flat (some (.assert .textStart))]
    ('(' :: '?' :: ':' :: (source.toList ++ [')'])) = .ok (read, []) at hread
  rw [readAlternatives_part] at hread
  cases hinner : readAlternatives (source.length + 4) {} none [] (source.toList ++ [')']) with
  | error e =>
    rw [hinner] at hread
    contradiction
  | ok inner =>
    obtain ⟨body, rest⟩ := inner
    rw [hinner] at hread
    obtain ⟨rfl, hrest⟩ := readAlternatives_agree (.append source.toList) _ _ none []
      _ _ hown hinner
    cases hrest with
    | nil => contradiction
    | closed =>
      rw [readAlternatives_end hread]
      rfl

end Regex

namespace Pattern

theorem read_eq_ofNode {source : String} {p : Pattern} {node : Regex.Node}
    (hp : read source = .ok p) (hnode : Regex.Node.read source = .ok node) :
    p = ofNode source node := by
  unfold read Regex.read at hp
  cases hwrapped : Regex.Node.read (anchored source) with
  | error e =>
    rw [hwrapped] at hp
    contradiction
  | ok wrapped =>
    rw [hwrapped] at hp
    obtain rfl := Regex.read_anchored hnode hwrapped
    simp only [bind, Except.bind] at hp
    split at hp
    . contradiction
    . next hregex =>
      split at hregex
      . rw [← Except.ok.inj hp, ← Except.ok.inj hregex]
        rfl
      . contradiction

end Pattern

namespace Parser

open Effect

variable {rules : Rules} {source : String} {p : Pattern} {node : Regex.Node} {s : State}

theorem runPattern_of_find? (hs : s.OnBoundary) {found back : List Char}
    (hrest : s.rest = found ++ back)
    (hfind : p.regex.find? s.rest = some ⟨0, Text.size found⟩) :
    runPattern p s = pure (s.past found) := by
  unfold runPattern Pattern.matchSize?
  rw [hfind]
  exact hs.consume_eq hrest

/--
A pattern whose source is an expression on its own is that expression behind the start of the text.
Its matches begin at the offset, and it succeeds just if there is one, which is what it consumes.
-/
theorem pattern_is_anchored (hp : Pattern.read source = .ok p)
    (hnode : Regex.Node.read source = .ok node) :
    p = .ofNode source node ∧
      (∀ text span, p.regex.find? text = some span → span.start = 0) ∧
      ∀ s : State, s.isError = false → s.OnBoundary → ∀ j t k,
        (Returns rules (.pattern p) s j t k ∧ t.isError = false) ↔
          ∃ found back, s.rest = found ++ back ∧
            p.regex.find? s.rest = some ⟨0, Text.size found⟩ ∧ t = s.past found ∧ k = j := by
  have hpattern := Pattern.read_eq_ofNode hp hnode
  have hfind {text : List Char} {span : Regex.Span} (h : p.regex.find? text = some span) :
      ∃ found back, text = found ++ back ∧ span = ⟨0, Text.size found⟩ := by
    rw [hpattern] at h
    exact Regex.find?_of_textStart h
  refine ⟨hpattern, ?_, ?_⟩
  . intro text span h
    obtain ⟨found, back, -, rfl⟩ := hfind h
    rfl
  . intro s hs hboundary j t k
    have heval : eval rules (.pattern p) s = s.unlessError (runPattern p s) := eval_eq fun _ => rfl
    rw [← eval_eq_done_iff, heval, State.unlessError_of_live hs]
    constructor
    . rintro ⟨hrun, ht⟩
      cases hspan : p.regex.find? s.rest with
      | none =>
        unfold runPattern Pattern.matchSize? at hrun
        rw [hspan] at hrun
        obtain ⟨rfl, -⟩ := Outcome.done.inj hrun
        contradiction
      | some span =>
        obtain ⟨found, back, hrest, rfl⟩ := hfind hspan
        rw [runPattern_of_find? hboundary hrest hspan] at hrun
        obtain ⟨rfl, rfl⟩ := Outcome.done.inj hrun
        exact ⟨found, back, hrest, rfl, rfl, rfl⟩
    . rintro ⟨found, back, hrest, hspan, rfl, rfl⟩
      rw [runPattern_of_find? hboundary hrest hspan, State.isError_past]
      exact ⟨rfl, hs⟩

theorem pattern_is_anchored_alternation :
    let s : State := { target := "abb", index := 1, registry := 0 }
    ∃ p node t, Pattern.read "(?x) a | b # either\n" = .ok p ∧
      Regex.Node.read "(?x) a | b # either\n" = .ok node ∧ s.isError = false ∧ s.OnBoundary ∧
      Returns [] (.pattern p) s {} t {} ∧ t.isError = false ∧ t = s.past ['b'] := by
  intro s
  let node : Regex.Node := .alt (.set (.single 'a')) (.set (.single 'b'))
  let p : Pattern := .ofNode "(?x) a | b # either\n" node
  have hp : Pattern.read "(?x) a | b # either\n" = .ok p := rfl
  have hnode : Regex.Node.read "(?x) a | b # either\n" = .ok node := rfl
  have hs : s.isError = false := rfl
  have hboundary : s.OnBoundary := by decide
  have hspan : p.regex.find? s.rest = some ⟨0, Text.size ['b']⟩ := by decide +kernel
  have hrest : s.rest = ['b'] ++ ['b'] := by decide
  obtain ⟨-, -, hreturns⟩ := pattern_is_anchored hp hnode
  obtain ⟨ht, hlive⟩ :=
    (hreturns s hs hboundary {} (s.past ['b']) {}).mpr ⟨['b'], ['b'], hrest, hspan, rfl, rfl⟩
  exact ⟨p, node, _, hp, hnode, hs, hboundary, ht, hlive, rfl⟩

/--
A source that ends the group it is put into. The alternative behind is not bound to the offset, so
what is before its match is consumed with it.
-/
theorem pattern_leaves_offset :
    let s : State := { target := "ab", registry := 0 }
    ∃ p t, Pattern.read "x)|(?:b" = .ok p ∧ s.isError = false ∧ s.OnBoundary ∧
      p.regex.find? s.rest = some ⟨1, 2⟩ ∧ Returns [] (.pattern p) s {} t {} ∧
      t.isError = false ∧ t.result = .token "ab" := by
  intro s
  let p : Pattern := ⟨"x)|(?:b", Pattern.anchored "x)|(?:b",
    .ofNode (.alt (.cat (.assert .textStart) (.set (.single 'x'))) (.set (.single 'b')))⟩
  have hp : Pattern.read "x)|(?:b" = .ok p := rfl
  have hspan : p.regex.find? s.rest = some ⟨1, 2⟩ := by decide +kernel
  have hpasses : (parse [] 1 (.pattern p) s {}).passes (fun t k =>
      !t.isError && t.result == .token "ab" && k == {}) = true := by
    decide +kernel
  obtain ⟨t, _, ht, htest⟩ := returns_of_passes 1 hpasses
  simp only [Bool.and_eq_true, Bool.not_eq_true', beq_iff_eq] at htest
  obtain ⟨⟨hlive, hresult⟩, rfl⟩ := htest
  exact ⟨p, t, hp, rfl, by decide, hspan, ht, hlive, hresult⟩

end Parser
end Waymark
