import Waymark.Proofs.Evaluation
import Waymark.Proofs.Simulation

/-!
This module contains the comparison of two runs that nothing bounds, from the comparison of runs
that are given more and more fuel.
-/

namespace Waymark

open Effect

theorem Bond.Couples.of_ascends {α α' : Type} {b : Bond} {value : α → α' → Prop}
    {x : Nat → Effect α} {x' : Nat → Effect α'} {y : Effect α} {y' : Effect α'}
    (h : Ascends x y) (h' : Ascends x' y') (hx : ∀ n, b.Couples value (x n) (x' n)) :
    b.Couples value y y' := by
  intro j j' hj
  obtain ⟨n, hn⟩ := h.settles j
  obtain ⟨n', hn'⟩ := h'.settles j'
  rw [← hn (max n n') (by omega), ← hn' (max n n') (by omega)]
  exact hx _ j j' hj

namespace Parser

variable {rules rules' : Rules} {p p' : Parser} {s s' : State} {j j' : Journal}

theorem alike_of_meets {b : Bond} {value : State → State → Prop}
    (h : b.Meets value (eval rules p s j) (eval rules' p' s' j')) :
    (∀ n, parse rules n p s j = .outOfFuel ∧ parse rules' n p' s' j' = .outOfFuel) ∨
      (∃ n cause cause', parse rules n p s j = .fault cause ∧
        parse rules' n p' s' j' = .fault cause' ∧ b.fault cause cause') ∨
      ∃ t k t' k', Returns rules p s j t k ∧ Returns rules' p' s' j' t' k' ∧ value t t' ∧
        b.journal k k' := by
  generalize hx : eval rules p s j = x at h
  generalize hy : eval rules' p' s' j' = y at h
  cases h with
  | done hvalue hjournal =>
    right
    right
    exact ⟨_, _, _, _, eval_eq_done_iff.mp hx, eval_eq_done_iff.mp hy, hvalue, hjournal⟩
  | fault hfault =>
    right
    left
    obtain ⟨n, hn⟩ := eval_eq_fault_iff.mp hx
    obtain ⟨n', hn'⟩ := eval_eq_fault_iff.mp hy
    refine ⟨max n n', _, _, ?_, ?_, hfault⟩
    . exact (parse_below rules (Nat.le_max_left n n') p s).eq_fault hn
    . exact (parse_below rules' (Nat.le_max_right n n') p' s').eq_fault hn'
  | outOfFuel =>
    left
    intro n
    exact ⟨eval_eq_outOfFuel_iff.mp hx n, eval_eq_outOfFuel_iff.mp hy n⟩

theorem alike_of_eval_eq (h : eval rules p s j = eval rules' p' s' j') :
    (∀ n, parse rules n p s j = .outOfFuel ∧ parse rules' n p' s' j' = .outOfFuel) ∨
      (∃ n cause, parse rules n p s j = .fault cause ∧ parse rules' n p' s' j' = .fault cause) ∨
      ∃ t k, Returns rules p s j t k ∧ Returns rules' p' s' j' t k := by
  let same : Bond := { journal := Eq, fault := Eq }
  have hmeets : same.Meets Eq (eval rules p s j) (eval rules' p' s' j') := by
    rw [h]
    cases eval rules' p' s' j' with
    | done t k => exact .done rfl rfl
    | fault cause => exact .fault rfl
    | outOfFuel => exact .outOfFuel
  rcases alike_of_meets hmeets with h | ⟨n, cause, _, h, h', rfl⟩ | ⟨t, k, _, _, h, h', rfl, rfl⟩
  . exact .inl h
  . exact .inr (.inl ⟨n, cause, h, h'⟩)
  . exact .inr (.inr ⟨t, k, h, h'⟩)

end Parser
end Waymark
