import Waymark.Parser.Fuel
import Waymark.Proofs.Parts

/-!
This module contains what a step of a parser depends on. A parser that has not failed runs its parts
from states that have not failed only, unless it is contextual, so `Parser.step_congr` asks nothing
of what its parts do with failed states.
-/

namespace Waymark

open Effect

theorem State.unlessError_congr {s : State} {x y : Effect State} (h : s.isError = false → x = y) :
    s.unlessError x = s.unlessError y := by
  unfold State.unlessError
  split
  . rfl
  . next hlive =>
    rw [h (Bool.eq_false_iff.mpr hlive)]

namespace Parser

def StopsAtFailure : Parser → Prop
  | .contextual _ => False
  | _ => True

variable {run run' : Parser → State → Effect State} {rules : Rules} {p separator : Parser}
  {ps : List Parser} {s : State}

def SameLive (run run' : Parser → State → Effect State) (p : Parser) : Prop :=
  ∀ s, s.isError = false → run p s = run' p s

theorem runAll_congr (hps : ∀ p ∈ ps, SameLive run run' p) (hs : s.isError = false) :
    runAll run ps s = runAll run' ps s := by
  induction ps generalizing s with
  | nil => rfl
  | cons p ps ih =>
    rw [runAll, runAll, hps p List.mem_cons_self s hs]
    apply bind_congr
    intro t
    split
    . rfl
    . next hlive =>
      rw [ih (fun q hq => hps q (List.mem_cons_of_mem p hq)) (Bool.eq_false_iff.mpr hlive)]

theorem runAllAfter_congr (hps : ∀ p ∈ separator :: ps, SameLive run run' p)
    (hs : s.isError = false) :
    runAllAfter run separator ps s = runAllAfter run' separator ps s := by
  induction ps generalizing s with
  | nil => rfl
  | cons p ps ih =>
    simp only [List.forall_mem_cons] at hps ih
    obtain ⟨hseparator, hp, hps⟩ := hps
    rw [runAllAfter, runAllAfter, hseparator s hs]
    apply bind_congr
    intro between
    split
    . rfl
    . next hlive =>
      rw [hp between (Bool.eq_false_iff.mpr hlive)]
      apply bind_congr
      intro t
      split
      . rfl
      . next hlive' =>
        rw [ih ⟨hseparator, hps⟩ (Bool.eq_false_iff.mpr hlive')]

theorem runSeparated_congr (hps : ∀ p ∈ separator :: ps, SameLive run run' p)
    (hs : s.isError = false) :
    runSeparated run separator ps s = runSeparated run' separator ps s := by
  cases ps with
  | nil => rfl
  | cons p ps =>
    simp only [List.forall_mem_cons] at hps
    obtain ⟨hseparator, hp, hps⟩ := hps
    rw [runSeparated, runSeparated, hp s hs]
    apply bind_congr
    intro t
    split
    . rfl
    . next hlive =>
      have hrest : ∀ q ∈ separator :: ps, SameLive run run' q := by
        simp only [List.forall_mem_cons]
        exact ⟨hseparator, hps⟩
      rw [runAllAfter_congr hrest (Bool.eq_false_iff.mpr hlive)]

theorem firstSuccess_congr (hps : ∀ p ∈ ps, SameLive run run' p) (hs : s.isError = false)
    (best : Option State) : firstSuccess run s ps best = firstSuccess run' s ps best := by
  induction ps generalizing best with
  | nil => rfl
  | cons p ps ih =>
    rw [firstSuccess, firstSuccess, hps p List.mem_cons_self s hs]
    apply bind_congr
    intro t
    rw [ih fun q hq => hps q (List.mem_cons_of_mem p hq)]

theorem collect_congr (hp : SameLive run run' p) (n : Nat) (hs : s.isError = false) :
    collect run p n s = collect run' p n s := by
  induction n generalizing s with
  | zero => rfl
  | succ n ih =>
    rw [collect, collect, hp s hs]
    apply bind_congr
    intro t
    split
    . rfl
    . next hlive =>
      rw [ih (Bool.eq_false_iff.mpr hlive)]

theorem collectSeparated_congr (hseparator : SameLive run run' separator)
    (hp : SameLive run run' p) (n : Nat) (last : State) (hs : s.isError = false) :
    collectSeparated run separator p n last s = collectSeparated run' separator p n last s := by
  induction n generalizing last s with
  | zero => rfl
  | succ n ih =>
    rw [collectSeparated, collectSeparated, hp s hs]
    apply bind_congr
    intro t
    split
    . rfl
    . next hlive =>
      rw [hseparator t (Bool.eq_false_iff.mpr hlive)]
      apply bind_congr
      intro between
      split
      . rfl
      . next hlive' =>
        rw [ih t (Bool.eq_false_iff.mpr hlive')]

theorem proceed_congr (hp : SameLive run run' p) (hs : s.isError = false)
    {next next' : State → Effect State}
    (hnext : ∀ t, t.isError = false → next t = next' t) :
    (run p s >>= fun t => t.unlessError (next t)) =
      run' p s >>= fun t => t.unlessError (next' t) := by
  rw [hp s hs]
  apply bind_congr
  intro t
  exact State.unlessError_congr (hnext t)

theorem step_congr (hp : p.StopsAtFailure)
    (hparts : ∀ q, Part rules (fun _ => True) p q → SameLive run run' q) (n : Nat)
    (hs : s.isError = false) : step run rules n p s = step run' rules n p s := by
  have hinner (q : Parser) (hq : q ∈ p.inner) : SameLive run run' q := hparts q (.inner hq)
  cases p with
  | sequence ps =>
    have hps : ∀ q ∈ ps, SameLive run run' q := hinner
    dsimp only [step]
    rw [runAll_congr hps hs]
  | sequenceSepBy separator ps =>
    dsimp only [step]
    rw [runSeparated_congr hinner hs]
  | choice ps =>
    have hps : ∀ q ∈ ps, SameLive run run' q := hinner
    dsimp only [step]
    rw [firstSuccess_congr hps hs]
  | many body =>
    dsimp only [step]
    rw [collect_congr (hinner body List.mem_cons_self) n hs]
  | many1 body =>
    dsimp only [step]
    rw [collect_congr (hinner body List.mem_cons_self) n hs]
  | sepBy separator body =>
    simp only [inner, List.forall_mem_cons] at hinner
    dsimp only [step]
    rw [collectSeparated_congr hinner.1 hinner.2.1 n s hs]
  | sepBy1 separator body =>
    simp only [inner, List.forall_mem_cons] at hinner
    dsimp only [step]
    rw [collectSeparated_congr hinner.1 hinner.2.1 n s hs]
  | between opening content closing =>
    simp only [inner, List.forall_mem_cons] at hinner
    obtain ⟨hopening, hcontent, hclosing, -⟩ := hinner
    apply proceed_congr hopening hs
    intro t ht
    apply proceed_congr hcontent ht
    intro u hu
    apply proceed_congr hclosing hu
    intro v _
    rfl
  | optional body =>
    dsimp only [step]
    rw [hinner body List.mem_cons_self s hs]
  | keepLeft left right =>
    simp only [inner, List.forall_mem_cons] at hinner
    apply proceed_congr hinner.1 hs
    intro t ht
    apply proceed_congr hinner.2.1 ht
    intro u _
    rfl
  | keepRight left right =>
    simp only [inner, List.forall_mem_cons] at hinner
    exact proceed_congr hinner.1 hs hinner.2.1
  | map body f =>
    dsimp only [step]
    rw [hinner body List.mem_cons_self s hs]
  | chain first next =>
    apply proceed_congr (hinner first List.mem_cons_self) hs
    intro t ht
    apply bind_congr
    intro table
    exact hparts (next t table) (.next trivial ht) t ht
  | mapError body f =>
    dsimp only [step]
    rw [hinner body List.mem_cons_self s hs]
  | deferred body =>
    dsimp only [step]
    rw [hinner body List.mem_cons_self s hs]
  | rule name =>
    dsimp only [step]
    rw [hparts _ .rule s hs]
  | contextual body => exact hp.elim
  | _ => rfl

theorem step_below_of_live (hp : p.StopsAtFailure)
    (hparts : ∀ q, Part rules (fun _ => True) p q →
      ∀ t, t.isError = false → Below (run q t) (run' q t))
    {n m : Nat} (hle : n ≤ m) (hs : s.isError = false) :
    Below (step run rules n p s) (step run' rules m p s) := by
  classical
  -- The step cannot tell a run from one that never ends where the step does not look.
  let shown (q : Parser) (t : State) : Prop := Part rules (fun _ => True) p q ∧ t.isError = false
  let run₀ (q : Parser) (t : State) : Effect State := if shown q t then run q t else exhausted
  have hrun₀ : step run rules n p s = step run₀ rules n p s := by
    apply step_congr hp _ n hs
    intro q hq t ht
    exact (if_pos ⟨hq, ht⟩).symm
  rw [hrun₀]
  apply step_below _ rules hle
  intro q t
  dsimp only [run₀]
  split
  . next h => exact hparts q h.1 t h.2
  . apply Below.exhausted

end Parser
end Waymark
