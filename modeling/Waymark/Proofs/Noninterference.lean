import Waymark.Proofs.Simulation.Run

/-!
This module contains the proof that what a parse tells about failures has no influence on what it
recognises: runs that start from states with the same text, offset, result and failure end with such
states and emit the same events, whatever messages, marks and suggestions they started with.
-/

namespace Waymark

/--
Whether two states differ in nothing but what they tell about failures, and where they file it.
-/
structure State.Agrees (s s' : State) : Prop where
  target_eq : s.target = s'.target
  index_eq : s.index = s'.index
  result_eq : s.result = s'.result
  isError_eq : s.isError = s'.isError

inductive Trace where
  | missed (index : Nat) (expected : String)
  | noAlternative (index alternatives : Nat)
  | finished (index : Nat) (failed : Bool) (size : Nat)
  deriving DecidableEq, Inhabited

def Event.trace : Event → Trace
  | .missed miss => .missed miss.state.index miss.expected
  | .noAlternative index alternatives => .noAlternative index alternatives
  | .finished index failed size => .finished index failed size

def Journal.Extends (j k : Journal) (events : List Event) : Prop :=
  k.events.toList = j.events.toList ++ events

namespace Journal.Extends

variable {j k : Journal} {events : List Event}

theorem refl (j : Journal) : j.Extends j [] := by
  unfold Journal.Extends
  simp

theorem record (h : j.Extends k events) (id : RegistryId) (key pattern : String) :
    j.Extends (k.record id key pattern) events := h

theorem log (h : j.Extends k events) (event : Event) :
    j.Extends (k.log event) (events ++ [event]) := by
  unfold Journal.Extends at h ⊢
  rw [Journal.events_log, h, List.append_assoc]

end Journal.Extends

def Journal.Alike (j j' k k' : Journal) : Prop :=
  ∃ events events', j.Extends k events ∧ j'.Extends k' events' ∧
    events.map Event.trace = events'.map Event.trace

theorem Journal.Alike.log {j j' k k' : Journal} (h : Journal.Alike j j' k k') {e e' : Event}
    (he : e.trace = e'.trace) : Journal.Alike j j' (k.log e) (k'.log e') := by
  obtain ⟨events, events', hk, hk', hevents⟩ := h
  refine ⟨_, _, hk.log e, hk'.log e', ?_⟩
  rw [List.map_append, List.map_append, hevents, List.map_singleton, List.map_singleton, he]

namespace Simulation

def recognition (j j' : Journal) : Simulation where
  journal := Journal.Alike j j'
  fault := Eq
  state := State.Agrees
  told _ _ := True
  table _ _ := True
  isError_eq h := h.isError_eq
  result_eq h := h.result_eq
  rest_eq h := by
    unfold State.rest
    rw [h.target_eq, h.index_eq]
  isAtEnd_eq h := by
    unfold State.isAtEnd State.size
    rw [h.target_eq, h.index_eq]
  withResult h value := ⟨h.target_eq, h.index_eq, rfl, h.isError_eq⟩
  fail h ht message := ⟨ht.target_eq, ht.index_eq, ht.result_eq, rfl⟩
  told_of_state _ := trivial
  told_further _ _ := trivial
  withDiagnosticsOf h _ := ⟨h.target_eq, h.index_eq, h.result_eq, h.isError_eq⟩
  consume {s s'} h front _ _ := by
    unfold State.consume
    rw [h.target_eq, h.index_eq]
    split
    . exact Bond.Couples.raise rfl
    . next text _ =>
      unfold State.advance State.size
      rw [h.target_eq]
      dsimp
      split
      . apply Bond.Couples.pure
        split
        all_goals exact ⟨rfl, rfl, rfl, h.isError_eq⟩
      . exact Bond.Couples.raise rfl
  miss {s s'} h expected pattern := by
    intro k k' hk
    obtain ⟨events, events', hk, hk', hevents⟩ := hk
    apply Bond.Meets.done
    . exact ⟨h.target_eq, h.index_eq, h.result_eq, rfl⟩
    . apply Journal.Alike.log
      . exact ⟨events, events', hk.record _ _ _, hk'.record _ _ _, hevents⟩
      . unfold Event.trace
        dsimp
        rw [h.index_eq]
  countOpened h := h
  noAlternative h _ _ hj n := by
    apply hj.log
    unfold Event.trace
    dsimp
    rw [h.index_eq]
  suggestions _ _ _ _ := trivial

end Simulation

namespace Parser

/--
Whether a parser brings in no function on states, and makes what it runs next of no more than the
text, the offset, the result and whether the parse has failed.
-/
def IgnoresDiagnostics : Parser → Prop
  | .chain _ next => Indifferent State.Agrees (fun _ _ => True) next
  | .contextual body =>
    Indifferent State.Agrees (fun _ _ => True) body ∧
      ∀ s table, (body s table).Unswayed State.Agrees fun _ _ => True
  | .transform _ => False
  | _ => True

variable {rules : Rules} {p : Parser} {s s' : State}

theorem accepts_recognition (hp : p.Throughout rules (fun _ => True) IgnoresDiagnostics)
    (j j' : Journal) : (Simulation.recognition j j').Accepts rules p := by
  refine Throughout.mono hp ?_ ?_
  . intro _ _
    trivial
  . intro q hq
    cases q with
    | setState saved =>
      intro s s' _
      exact ⟨rfl, rfl, rfl, rfl⟩
    | mapError body f =>
      intro s s' _ _ h _ _
      exact ⟨h.target_eq, h.index_eq, h.result_eq, rfl⟩
    | chain first next => exact hq
    | contextual body => exact hq
    | transform f => exact hq.elim
    | _ => trivial

/--
Runs of a parser from states that agree both end or both go on forever, they are at fault for the
same reason, and if they end then with states that agree and after the same events.
-/
theorem diagnostics_do_not_interfere
    (hp : p.Throughout rules (fun _ => True) IgnoresDiagnostics) (h : s.Agrees s')
    (j j' : Journal) :
    ((∃ t k, Returns rules p s j t k) ↔ ∃ t' k', Returns rules p s' j' t' k') ∧
      (∀ cause, (∃ n, parse rules n p s j = .fault cause) ↔
        ∃ n, parse rules n p s' j' = .fault cause) ∧
      ∀ t k t' k', Returns rules p s j t k → Returns rules p s' j' t' k' →
        t.Agrees t' ∧ Journal.Alike j j' k k' := by
  have haccepts := accepts_recognition hp j j'
  have hstart : Journal.Alike j j' j j' := ⟨[], [], .refl j, .refl j', rfl⟩
  refine ⟨⟨?_, ?_⟩, ?_, ?_⟩
  . rintro ⟨t, k, ht⟩
    obtain ⟨t', k', ht', -⟩ := Simulation.returns haccepts h hstart ht
    exact ⟨t', k', ht'⟩
  . rintro ⟨t', k', ht'⟩
    exact Simulation.returns_right haccepts h hstart ht'
  . intro cause
    apply exists_congr
    intro n
    have hmeets := Simulation.parse haccepts n h j j' hstart
    generalize parse rules n p s j = x at hmeets
    generalize parse rules n p s' j' = y at hmeets
    cases hmeets with
    | done _ _ => simp
    | fault hcause => rw [hcause]
    | outOfFuel => simp
  . intro t k t' k' ht ht'
    obtain ⟨u, l, hu, hagrees, halike⟩ := Simulation.returns haccepts h hstart ht
    obtain ⟨rfl, rfl⟩ := hu.unique ht'
    exact ⟨hagrees, halike⟩

def doubled : Parser :=
  .chain .anyChar fun s _ => .literal s.result.render

theorem diagnostics_do_not_interfere_doubled :
    let s : State := { target := "aab", registry := 0 }
    let s' : State :=
      { target := "aab", registry := 1, chain := ["missing"], mark := .ofToken "b" 0 1 }
    let j' : Journal := ({} : Journal).record 1 "b" "a"
    doubled.Throughout [] (fun _ => True) IgnoresDiagnostics ∧ s.Agrees s' ∧
      ((∃ t k, Returns [] doubled s {} t k) ↔ ∃ t' k', Returns [] doubled s' j' t' k') := by
  intro s s' j'
  have hp : doubled.Throughout [] (fun _ => True) IgnoresDiagnostics := by
    apply Throughout.intro
    . intro t t' _ _ h _
      dsimp
      rw [h.result_eq]
    . intro q hq
      cases hq with
      | inner hq =>
        obtain rfl := List.mem_singleton.mp hq
        exact Throughout.of_isPrimitive trivial trivial
      | next _ _ => exact Throughout.of_isPrimitive trivial trivial
  have h : s.Agrees s' := ⟨rfl, rfl, rfl, rfl⟩
  exact ⟨hp, h, (diagnostics_do_not_interfere hp h {} j').1⟩

end Parser
end Waymark
