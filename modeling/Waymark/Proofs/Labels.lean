import Waymark.Proofs.Noninterference
import Waymark.Proofs.Simulation.Limit
import Waymark.Proofs.Unlabel

/-!
This module contains the proof that error mappers do no more than tell: without them a parser ends
in the same way, with a state that is the same but for its messages, of which the chain has fewer.
-/

namespace Waymark

structure State.TellsLess (s s' : State) : Prop where
  target_eq : s.target = s'.target
  index_eq : s.index = s'.index
  result_eq : s.result = s'.result
  isError_eq : s.isError = s'.isError
  mark_eq : s.mark = s'.mark
  registry_eq : s.registry = s'.registry
  chain : s'.chain.Sublist s.chain

namespace State.TellsLess

variable {s s' t t' : State}

theorem refl (s : State) : s.TellsLess s :=
  ⟨rfl, rfl, rfl, rfl, rfl, rfl, .refl _⟩

theorem agrees (h : s.TellsLess s') : s.Agrees s' :=
  ⟨h.target_eq, h.index_eq, h.result_eq, h.isError_eq⟩

theorem withResult (h : s.TellsLess s') (value : Value) :
    (s.withResult value).TellsLess (s'.withResult value) :=
  { h with result_eq := rfl }

theorem fail (h : s.TellsLess s') (message : String) :
    (s.fail message).TellsLess (s'.fail message) :=
  { h with isError_eq := rfl, chain := h.chain.append (.refl _) }

theorem withDiagnosticsOf (h : s.TellsLess s') (ht : t.TellsLess t') :
    (s.withDiagnosticsOf t).TellsLess (s'.withDiagnosticsOf t') :=
  { h with mark_eq := ht.mark_eq, chain := ht.chain }

theorem further (h : s.TellsLess s') (ht : t.TellsLess t') :
    (Parser.further (some s) t).TellsLess (Parser.further (some s') t') := by
  unfold Parser.further
  dsimp
  rw [← h.mark_eq, ← ht.mark_eq]
  split
  . exact ht
  . exact h

theorem rest_eq (h : s.TellsLess s') : s.rest = s'.rest := by
  unfold rest
  rw [h.target_eq, h.index_eq]

theorem suggestionKey_eq (h : s.TellsLess s') : s.suggestionKey = s'.suggestionKey := by
  unfold suggestionKey
  rw [h.mark_eq, h.index_eq, h.result_eq]

theorem missMessage_eq (h : s.TellsLess s') (expected : String) :
    s.missMessage expected = s'.missMessage expected := by
  unfold missMessage found
  rw [h.mark_eq, h.index_eq, h.rest_eq]

theorem foldl_relabel (h : s.TellsLess s') (fs : List (String → Nat → String)) :
    (fs.foldl relabel s).TellsLess s' := by
  induction fs generalizing s with
  | nil => exact h
  | cons f fs ih =>
    apply ih
    unfold relabel
    split
    . exact h
    . next message hmessage =>
      have herror : true = s'.isError := by
        rw [← h.isError_eq, isError, hmessage]
        rfl
      exact { h with
        isError_eq := herror
        chain := h.chain.trans (List.sublist_append_left _ _) }

end State.TellsLess

structure Journal.SameRecords (start k k' : Journal) : Prop where
  tables_eq : k.tables = k'.tables
  alike : Journal.Alike start start k k'

namespace Simulation

def telling (start : Journal) : Simulation where
  journal := Journal.SameRecords start
  fault := Eq
  state := State.TellsLess
  told := State.TellsLess
  table := Eq
  isError_eq h := h.isError_eq
  result_eq h := h.result_eq
  rest_eq h := h.rest_eq
  isAtEnd_eq h := by
    unfold State.isAtEnd State.size
    rw [h.target_eq, h.index_eq]
  withResult h value := h.withResult value
  fail h ht message := by
    rw [h.index_eq]
    exact ht.fail _
  told_of_state h := h
  told_further hbest h := hbest.further h
  withDiagnosticsOf h ht := h.withDiagnosticsOf ht
  consume {s s'} h front _ _ := by
    unfold State.consume
    rw [h.target_eq, h.index_eq]
    split
    . exact Bond.Couples.raise rfl
    . next text _ =>
      unfold State.advance State.size
      rw [h.target_eq]
      dsimp
      split
      . apply Bond.Couples.pure
        split
        . exact ⟨rfl, rfl, rfl, h.isError_eq, h.mark_eq, h.registry_eq, h.chain⟩
        . exact ⟨rfl, rfl, rfl, h.isError_eq, rfl, h.registry_eq, h.chain⟩
      . exact Bond.Couples.raise rfl
  miss {s s'} h expected pattern := by
    intro k k' hk
    obtain ⟨events, events', hextends, hextends', hevents⟩ := hk.alike
    apply Bond.Meets.done
    . rw [h.missMessage_eq]
      exact h.fail _
    . refine ⟨?_, Journal.Alike.log
        ⟨events, events', hextends.record _ _ _, hextends'.record _ _ _, hevents⟩ ?_⟩
      . dsimp [Journal.log, Journal.record, Journal.table]
        rw [h.registry_eq, h.suggestionKey_eq, hk.tables_eq]
      . unfold Event.trace
        dsimp
        rw [h.index_eq]
  countOpened h := ⟨h.tables_eq, h.alike⟩
  noAlternative h _ _ hj n := by
    refine ⟨hj.tables_eq, hj.alike.log ?_⟩
    unfold Event.trace
    dsimp
    rw [h.index_eq]
  suggestions h _ _ hj := by
    unfold Journal.table
    rw [h.registry_eq, hj.tables_eq]

end Simulation

namespace Parser

variable {rules : Rules} {p : Parser} {sees : State → Prop} {node : Parser → Prop} {s s' : State}

theorem Throughout.core (h : p.Throughout rules sees node) : p.core.Throughout rules sees node := by
  fun_induction Parser.core p with
  | case1 body f ih => exact ih (h.inner List.mem_cons_self)
  | case2 => exact h

theorem admits_telling (hp : p.IgnoresDiagnostics) (hmap : ∀ body f, p ≠ .mapError body f)
    (start : Journal) : (Simulation.telling start).Admits p := by
  have hchooses (h : p.ChoosesBy State.Agrees fun _ _ => True) :
      p.ChoosesBy State.TellsLess Eq :=
    h.mono (fun _ _ h => h.agrees) fun _ _ _ => trivial
  cases p with
  | setState saved =>
    intro s s' h
    exact ⟨rfl, rfl, rfl, rfl, rfl, h.registry_eq, .refl _⟩
  | chain first next => exact hchooses hp
  | mapError body f => exact absurd rfl (hmap body f)
  | contextual body => exact hchooses hp
  | transform f => exact hp.elim
  | _ => trivial

theorem parseCore_couples (hp : p.Throughout rules (fun _ => True) IgnoresDiagnostics)
    (start : Journal) (n : Nat) (h : s.TellsLess s') :
    (Simulation.telling start).Couples State.TellsLess (parseCore rules n p s)
      (parse rules.unlabel n p.unlabel s') := by
  induction n generalizing p s s' with
  | zero => exact Bond.Couples.exhausted
  | succ n ih =>
    have hcore := hp.core
    have hne := core_ne_mapError p
    have hparse : parse rules.unlabel (n + 1) p.unlabel s' =
        step (fun q => parse rules.unlabel n q.unlabel) rules n p.core s' >>= pure := by
      rw [bind_pure, ← step_unlabel hne, unlabel_core, parse]
    rw [parseCore, hparse]
    apply Bond.Couples.bind
    . apply Simulation.step_of_parts (admits_telling hcore.self hne start) _ n h
      intro q hq t t' ht
      exact ih (hcore.part (hq.mono fun _ _ => trivial)) ht
    . intro t t' ht
      exact Bond.Couples.pure (ht.foldl_relabel p.labels)

/--
A parser and the same without its error mappers both go on forever from a state, or are at fault for
the same reason, or both return: states that are the same but for their messages, of which the chain
without the mappers has fewer, after the same entries of the tables and the same events.
-/
theorem mappers_only_tell (hp : p.Throughout rules (fun _ => True) IgnoresDiagnostics) (s : State)
    (j : Journal) :
    (∀ n, parse rules n p s j = .outOfFuel ∧
        parse rules.unlabel n p.unlabel s j = .outOfFuel) ∨
      (∃ n cause, parse rules n p s j = .fault cause ∧
        parse rules.unlabel n p.unlabel s j = .fault cause) ∨
      ∃ t k t' k', Returns rules p s j t k ∧ Returns rules.unlabel p.unlabel s j t' k' ∧
        t.TellsLess t' ∧ k.tables = k'.tables ∧ Journal.Alike j j k k' := by
  have hstart : Journal.SameRecords j j j := ⟨rfl, [], [], .refl j, .refl j, rfl⟩
  have hcouples : (Simulation.telling j).Couples State.TellsLess (eval rules p s)
      (eval rules.unlabel p.unlabel s) :=
    .of_ascends (parseCore_ascends p s) parse_ascends fun n => parseCore_couples hp j n (.refl s)
  rcases alike_of_meets (hcouples j j hstart) with h | ⟨n, cause, _, h, h', rfl⟩ | h
  . left
    exact h
  . right
    left
    exact ⟨n, cause, h, h'⟩
  . right
    right
    obtain ⟨t, k, t', k', ht, ht', htells, hrecords⟩ := h
    exact ⟨t, k, t', k', ht, ht', htells, hrecords.tables_eq, hrecords.alike⟩

def naming (what message : String) (_ : Nat) : String :=
  what ++ ": " ++ message

def namedPairs : Parser :=
  .many (.chain
    (.mapError (.choice [.mapError .digits (naming "number"), .literal "x"]) (naming "first"))
    fun s _ => .mapError (.literal s.result.render) (naming "second"))

theorem throughout_namedPairs : namedPairs.Throughout [] (fun _ => True) IgnoresDiagnostics := by
  refine Throughout.intro trivial ?_
  intro q hq
  cases hq with
  | inner hq =>
    obtain rfl := List.mem_singleton.mp hq
    apply Throughout.intro
    . intro s s' _ _ h _
      dsimp
      rw [h.result_eq]
    . intro q hq
      cases hq with
      | inner hq =>
        obtain rfl := List.mem_singleton.mp hq
        refine Throughout.of_list [
          .mapError (.choice [.mapError .digits (naming "number"), .literal "x"]) (naming "first"),
          .choice [.mapError .digits (naming "number"), .literal "x"],
          .mapError .digits (naming "number"), .digits, .literal "x"] ?_ ?_ ?_ ?_ ?_
        . simp
        . simp [IsPlain, digits]
        . simp [inner, digits]
        . simp [digits]
        . simp [IgnoresDiagnostics, digits]
      | @next _ _ s _ _ _ =>
        refine Throughout.of_list [.mapError (.literal s.result.render) (naming "second"),
          .literal s.result.render] ?_ ?_ ?_ ?_ ?_
        . simp
        . simp [IsPlain]
        . simp [inner]
        . simp
        . simp [IgnoresDiagnostics]

theorem mappers_only_tell_namedPairs :
    let s : State := { target := "xx7?", registry := 0 }
    namedPairs.Throughout [] (fun _ => True) IgnoresDiagnostics ∧
      ∃ t k t' k', Returns [] namedPairs s {} t k ∧ Returns [] namedPairs.unlabel s {} t' k' ∧
        t.index = 2 ∧ t'.chain.length < t.chain.length ∧ t.TellsLess t' ∧ k.tables = k'.tables ∧
        Journal.Alike {} {} k k' := by
  intro s
  refine ⟨throughout_namedPairs, ?_⟩
  have hpasses : (parse [] 9 namedPairs s {}).passes
      (fun t _ => t.index == 2 && t.chain.length == 2) = true := by
    decide +kernel
  have hpasses' : (parse [] 9 namedPairs.unlabel s {}).passes
      (fun t _ => t.chain.length == 1) = true := by
    decide +kernel
  obtain ⟨u, l, hu, htest⟩ := returns_of_passes 9 hpasses
  obtain ⟨u', l', hu', htest'⟩ := returns_of_passes 9 hpasses'
  simp only [Bool.and_eq_true, beq_iff_eq] at htest htest'
  rcases mappers_only_tell throughout_namedPairs s {} with h | ⟨n, cause, h, -⟩ | h
  . obtain ⟨n, hn⟩ := hu
    have := (h n).1
    rw [hn] at this
    contradiction
  . obtain ⟨m, hm⟩ := hu
    have hdone := (parse_below [] (Nat.le_max_left n m) namedPairs s).eq_fault h
    rw [(parse_below [] (Nat.le_max_right n m) namedPairs s).eq_done hm] at hdone
    contradiction
  . obtain ⟨t, k, t', k', ht, ht', htells, htables, halike⟩ := h
    obtain ⟨rfl, rfl⟩ := hu.unique ht
    obtain ⟨rfl, rfl⟩ := hu'.unique ht'
    refine ⟨u, l, u', l', hu, hu', htest.1, ?_, htells, htables, halike⟩
    rw [htest.2, htest']
    exact Nat.lt_succ_self 1

end Parser
end Waymark
