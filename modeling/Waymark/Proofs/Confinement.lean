import Waymark.Proofs.Invariant
import Waymark.Proofs.Noninterference

/-!
This module contains the confinement of a run to its registry. States that are brought in from
other runs lose their registries, so a run neither writes to the table of another one nor depends on
what it holds.
-/

namespace Waymark

structure Journal.Confined (id : RegistryId) (j j' k k' : Journal) : Prop where
  grown : ∃ events, j.Extends k events ∧ j'.Extends k' events
  table_eq : k.table id = k'.table id
  others_eq : ∀ other, other ≠ id →
    k.table other = j.table other ∧ k'.table other = j'.table other
  eq_of_eq : j = j' → k = k'

namespace Journal.Confined

variable {id : RegistryId} {j j' k k' : Journal}

theorem refl (h : j.table id = j'.table id) : Confined id j j' j j' where
  grown := ⟨[], .refl j, .refl j'⟩
  table_eq := h
  others_eq _ _ := ⟨rfl, rfl⟩
  eq_of_eq h := h

theorem log (h : Confined id j j' k k') (event : Event) :
    Confined id j j' (k.log event) (k'.log event) where
  grown := by
    obtain ⟨events, hk, hk'⟩ := h.grown
    exact ⟨_, hk.log event, hk'.log event⟩
  table_eq := h.table_eq
  others_eq := h.others_eq
  eq_of_eq hj := by rw [h.eq_of_eq hj]

theorem countOpened (h : Confined id j j' k k') :
    Confined id j j' k.countOpened k'.countOpened where
  grown := h.grown
  table_eq := h.table_eq
  others_eq := h.others_eq
  eq_of_eq hj := by rw [h.eq_of_eq hj]

theorem record (h : Confined id j j' k k') (key pattern : String) :
    Confined id j j' (k.record id key pattern) (k'.record id key pattern) where
  grown := by
    obtain ⟨events, hk, hk'⟩ := h.grown
    exact ⟨events, hk.record id key pattern, hk'.record id key pattern⟩
  table_eq := by rw [Journal.table_record_self, Journal.table_record_self, h.table_eq]
  others_eq other hne := by
    rw [Journal.table_record_of_ne _ hne, Journal.table_record_of_ne _ hne]
    exact h.others_eq other hne
  eq_of_eq hj := by rw [h.eq_of_eq hj]

end Journal.Confined

namespace Simulation

def confinement (id : RegistryId) (j j' : Journal) : Simulation where
  journal := Journal.Confined id j j'
  fault := Eq
  state s s' := s = s' ∧ s.registry = id
  told t t' := t = t'
  table := Eq
  isError_eq h := by rw [h.1]
  result_eq h := by rw [h.1]
  rest_eq h := by rw [h.1]
  isAtEnd_eq h := by rw [h.1]
  withResult h value := ⟨by rw [h.1], h.2⟩
  fail h ht message := ⟨by rw [h.1, ht.1], ht.2⟩
  told_of_state h := h.1
  told_further hbest h := by rw [hbest, h.1]
  withDiagnosticsOf h ht := ⟨by rw [h.1, ht], h.2⟩
  consume := by
    rintro s _ ⟨rfl, hregistry⟩ front back -
    cases s.consume_cases (Text.size front) with
    | inl h =>
      obtain ⟨cause, hfault⟩ := h
      rw [hfault]
      exact Bond.Couples.raise rfl
    | inr h =>
      obtain ⟨front, back, -, hpast⟩ := h
      rw [hpast]
      apply Bond.Couples.pure
      exact ⟨rfl, by rw [State.registry_past, hregistry]⟩
  miss := by
    rintro s _ ⟨rfl, rfl⟩ expected pattern k k' hk
    apply Bond.Meets.done
    . exact ⟨rfl, rfl⟩
    . exact (hk.record _ _).log _
  countOpened h := h.countOpened
  noAlternative := by
    rintro s _ ⟨rfl, -⟩ k k' hk n
    exact hk.log _
  suggestions := by
    rintro s _ ⟨rfl, rfl⟩ k k' hk
    exact hk.table_eq

end Simulation

namespace Parser

variable {rules : Rules} {p : Parser}

theorem accepts_confinement (hp : p.Throughout rules (fun _ => True) fun q => ∀ f, q ≠ .transform f)
    (id : RegistryId) (j j' : Journal) : (Simulation.confinement id j j').Accepts rules p := by
  refine Throughout.mono hp ?_ ?_
  . intro _ _
    trivial
  . intro q hq
    have hstate (s s' : State) (h : (Simulation.confinement id j j').state s s') : s = s' := h.1
    have hchooses := ChoosesBy.of_eq hstate (fun _ _ h => h) q
    cases q with
    | setState saved =>
      rintro s _ ⟨rfl, hregistry⟩
      exact ⟨rfl, hregistry⟩
    | chain first next => exact hchooses
    | mapError body f =>
      rintro s _ message _ ⟨rfl, hregistry⟩ h h'
      obtain rfl := Option.some.inj (h.symm.trans h')
      exact ⟨rfl, hregistry⟩
    | contextual body => exact hchooses
    | transform f => exact absurd rfl (hq f)
    | _ => trivial

/--
All states that parsers are given or return in a run have the registry that it starts with, whatever
fault marks those that have not. The tables of other registries stay as they are, and what they hold
makes no difference to how the run ends, to what it returns, notes and files.
-/
theorem registries_stay_apart
    (hp : p.Throughout rules (fun _ => True) fun q => ∀ f, q ≠ .transform f) (s : State)
    (j : Journal) :
    (∀ cause n,
      guardedBy rules (fun t => t.registry = s.registry) cause n p s j = parse rules n p s j) ∧
      (∀ t k, Returns rules p s j t k →
        t.registry = s.registry ∧ ∀ id, id ≠ s.registry → k.table id = j.table id) ∧
      ∀ j', j.table s.registry = j'.table s.registry →
        ((∃ t k, Returns rules p s j t k) ↔ ∃ t' k', Returns rules p s j' t' k') ∧
        (∀ cause, (∃ n, parse rules n p s j = .fault cause) ↔
          ∃ n, parse rules n p s j' = .fault cause) ∧
        ∀ t k t' k', Returns rules p s j t k → Returns rules p s j' t' k' →
          t = t' ∧ k.table s.registry = k'.table s.registry ∧
            ∃ events, j.Extends k events ∧ j'.Extends k' events := by
  have hs : (Simulation.confinement s.registry j j).state s s := ⟨rfl, rfl⟩
  have haccepts := accepts_confinement hp s.registry j j
  refine ⟨?_, ?_, ?_⟩
  . intro cause n
    apply Simulation.checked_eq _ _ _ _ _ _ cause haccepts n hs (.refl rfl)
    . intro _ hq
      exact hq
    . rintro _ t _ - ⟨-, h⟩
      exact h
    . rintro _ _ t _ ⟨-, h⟩
      exact h
    . rintro t _ ⟨h, -⟩
      exact h
    . intro k k' hk
      exact hk.eq_of_eq rfl
    . intro _ _ h
      exact h
  . intro t k ht
    obtain ⟨⟨-, hregistry⟩, hk⟩ := Simulation.related_of_returns haccepts hs (.refl rfl) ht ht
    refine ⟨hregistry, ?_⟩
    intro id hne
    exact (hk.others_eq id hne).1
  . intro j' htable
    have haccepts' := accepts_confinement hp s.registry j j'
    have hj : (Simulation.confinement s.registry j j').journal j j' := .refl htable
    refine ⟨Simulation.returns_iff haccepts' hs hj, ?_, ?_⟩
    . apply Simulation.fault_iff _ haccepts' hs hj
      intro _ _ h
      exact h
    . intro t k t' k' ht ht'
      obtain ⟨⟨hstate, -⟩, hk⟩ := Simulation.related_of_returns haccepts' hs hj ht ht'
      exact ⟨hstate, hk.table_eq, hk.grown⟩

def excursion (saved : State) : Parser :=
  .chain .anyChar fun s _ => .sequence
    [.setState saved, .optional (.literal "x"), .setState { s with registry := 7 }, .literal "é"]

theorem throughout_excursion (saved : State) :
    (excursion saved).Throughout [] (fun _ => True) fun q => ∀ f, q ≠ .transform f := by
  unfold excursion
  apply Throughout.intro
  . simp
  . intro q hq
    cases hq with
    | inner hq =>
      obtain rfl := List.mem_singleton.mp hq
      exact Throughout.of_isPrimitive trivial (by simp)
    | next _ _ =>
      apply Throughout.intro
      . simp
      . intro r hr
        cases hr with
        | inner hr =>
          simp only [inner, List.mem_cons, List.not_mem_nil, or_false] at hr
          rcases hr with rfl | rfl | rfl | rfl
          case inr.inl =>
            refine Throughout.of_list [.optional (.literal "x"), .literal "x"] ?_ ?_ ?_ ?_ ?_
            all_goals simp [IsPlain, inner]
          all_goals exact Throughout.of_isPrimitive trivial (by simp)

theorem registries_stay_apart_excursion :
    let p := excursion { target := "zé", index := 1, chain := ["lost"], registry := 7 }
    let s : State := { target := "né", registry := 0 }
    let j' := ({} : Journal).record 7 "z" "é"
    p.Throughout [] (fun _ => True) (fun q => ∀ f, q ≠ .transform f) ∧
      ({} : Journal).table 0 = j'.table 0 ∧ ({} : Journal).table 7 ≠ j'.table 7 ∧
      ∃ t k k', Returns [] p s {} t k ∧ Returns [] p s j' t k' ∧ t.isError = false ∧
        k.table 0 ≠ {} ∧ t.registry = 0 ∧ k.table 0 = k'.table 0 ∧ k'.table 7 = j'.table 7 := by
  intro p s j'
  have hp := throughout_excursion { target := "zé", index := 1, chain := ["lost"], registry := 7 }
  have htable : ({} : Journal).table 0 = j'.table 0 := by decide
  have hpasses : (parse [] 4 p s {}).passes (fun t k => !t.isError && k.table 0 != {}) = true := by
    decide +kernel
  obtain ⟨t, k, ht, htest⟩ := returns_of_passes 4 hpasses
  obtain ⟨hlive, hfiled⟩ : t.isError = false ∧ k.table 0 ≠ {} := by simpa using htest
  obtain ⟨-, hown, hapart⟩ := registries_stay_apart hp s {}
  obtain ⟨hiff, -, heq⟩ := hapart j' htable
  obtain ⟨t', k', ht'⟩ := hiff.mp ⟨t, k, ht⟩
  obtain ⟨rfl, htables, -⟩ := heq t k t' k' ht ht'
  obtain ⟨hregistry, -⟩ := hown t k ht
  obtain ⟨-, hown', -⟩ := registries_stay_apart hp s j'
  obtain ⟨-, hothers⟩ := hown' t k' ht'
  have hother := hothers 7 (by decide)
  exact ⟨hp, htable, by decide, t, k, k', ht, ht', hlive, hfiled, hregistry, htables, hother⟩

end Parser
end Waymark
