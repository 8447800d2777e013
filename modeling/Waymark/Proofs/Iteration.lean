import Mathlib.Logic.Basic
import Waymark.Proofs.Evaluation

/-!
This module contains repetitions as runs of a parser one after another. `Parser.repetitions_iterate`
says of `many` and `many1` that they return just if a first run fails after finitely many successes,
and with which state.
-/

namespace Waymark

open Effect

def State.repeated (last : State) (reached : List State) (attempt : State) : State :=
  { last with
    result := .seq (reached.map (·.result))
    error := none
    chain := attempt.chain
    mark := attempt.mark }

namespace Parser

inductive Iterates (rules : Rules) (p : Parser) :
    State → Journal → List State → State → Journal → Prop where
  | refl {s : State} {j : Journal} : Iterates rules p s j [] s j
  | next {s t last : State} {j k l : Journal} {reached : List State}
      (h : Returns rules p s j t k) (hlive : t.isError = false)
      (hrest : Iterates rules p t k reached last l) : Iterates rules p s j (t :: reached) last l

def Exhausts (rules : Rules) (p : Parser) (s : State) (j : Journal) (reached : List State)
    (last attempt : State) (l : Journal) : Prop :=
  ∃ k, Iterates rules p s j reached last k ∧ Returns rules p last k attempt l ∧
    attempt.isError = true

variable {rules : Rules} {p : Parser} {s t last attempt : State} {j k l : Journal}
  {reached : List State}

theorem Exhausts.next (h : Returns rules p s j t k) (hlive : t.isError = false)
    (hrest : Exhausts rules p t k reached last attempt l) :
    Exhausts rules p s j (t :: reached) last attempt l := by
  obtain ⟨k', hiterates, hattempt⟩ := hrest
  exact ⟨k', .next h hlive hiterates, hattempt⟩

theorem exhausts_nil_iff : Exhausts rules p s j [] last attempt l ↔
    last = s ∧ Returns rules p s j attempt l ∧ attempt.isError = true := by
  constructor
  . rintro ⟨k, hiterates, hattempt⟩
    cases hiterates with
    | refl => exact ⟨rfl, hattempt⟩
  . rintro ⟨rfl, hattempt⟩
    exact ⟨j, .refl, hattempt⟩

theorem exhausts_cons_iff : Exhausts rules p s j (t :: reached) last attempt l ↔
    ∃ k, Returns rules p s j t k ∧ t.isError = false ∧
      Exhausts rules p t k reached last attempt l := by
  constructor
  . rintro ⟨k', hiterates, hattempt⟩
    cases hiterates with
    | next h hlive hrest => exact ⟨_, h, hlive, k', hrest, hattempt⟩
  . rintro ⟨k, h, hlive, hrest⟩
    exact hrest.next h hlive

theorem Iterates.isError_eq (h : Iterates rules p s j reached last k) (hs : s.isError = false) :
    last.isError = false := by
  induction h with
  | refl => exact hs
  | next _ hlive _ ih => exact ih hlive

theorem exhausts_of_collect {n : Nat} {collected : State × List Value}
    (h : collect (eval rules) p n s j = .done collected l) :
    ∃ reached last attempt, Exhausts rules p s j reached last attempt l ∧
      collected = (last.withDiagnosticsOf attempt, reached.map (·.result)) := by
  induction n generalizing s j collected with
  | zero => contradiction
  | succ n ih =>
    rw [collect] at h
    obtain ⟨t, k, ht, h⟩ := bind_eq_done_iff.mp h
    have hreturns := eval_eq_done_iff.mp ht
    split at h
    . next herror =>
      obtain ⟨rfl, rfl⟩ := Outcome.done.inj h
      exact ⟨[], s, t, ⟨j, .refl, hreturns, herror⟩, rfl⟩
    . next hlive =>
      rw [Bool.not_eq_true] at hlive
      obtain ⟨rest, k', hrest, h⟩ := bind_eq_done_iff.mp h
      obtain ⟨rfl, rfl⟩ := Outcome.done.inj h
      obtain ⟨reached, last, attempt, hexhausts, rfl⟩ := ih hrest
      exact ⟨t :: reached, last, attempt, hexhausts.next hreturns hlive, rfl⟩

theorem collectAll_of_exhausts (h : Exhausts rules p s j reached last attempt l) :
    collectAll rules p s j =
      .done (last.withDiagnosticsOf attempt, reached.map (·.result)) l := by
  obtain ⟨k, hiterates, hattempt, herror⟩ := h
  induction hiterates with
  | refl =>
    rw [collectAll_eq, bind_apply, eval_eq_done_iff.mpr hattempt]
    dsimp only
    rw [if_pos herror]
    rfl
  | next h hlive _ ih =>
    rw [collectAll_eq, bind_apply, eval_eq_done_iff.mpr h]
    dsimp only
    rw [hlive, if_neg Bool.false_ne_true, bind_apply, ih hattempt]
    rfl

theorem collectAll_eq_done_iff {collected : State × List Value} :
    collectAll rules p s j = .done collected l ↔
      ∃ reached last attempt, Exhausts rules p s j reached last attempt l ∧
        collected = (last.withDiagnosticsOf attempt, reached.map (·.result)) := by
  constructor
  . intro h
    have hascends : Ascends (fun n => collect (eval rules) p n s) (collectAll rules p s) :=
      collect_eval_ascends
    obtain ⟨n, hn⟩ := hascends.settles j
    exact exhausts_of_collect ((hn n (Nat.le_refl n)).trans h)
  . rintro ⟨reached, last, attempt, h, rfl⟩
    exact collectAll_of_exhausts h

theorem collectAll_map_eq_done_iff {f : State × List Value → State} :
    (collectAll rules p s >>= fun collected => pure (f collected)) j = .done t l ↔
      ∃ reached last attempt, Exhausts rules p s j reached last attempt l ∧
        t = f (last.withDiagnosticsOf attempt, reached.map (·.result)) := by
  rw [bind_eq_done_iff]
  constructor
  . rintro ⟨collected, k, h, hdone⟩
    obtain ⟨rfl, rfl⟩ := Outcome.done.inj hdone
    obtain ⟨reached, last, attempt, hexhausts, rfl⟩ := collectAll_eq_done_iff.mp h
    exact ⟨reached, last, attempt, hexhausts, rfl⟩
  . rintro ⟨reached, last, attempt, hexhausts, rfl⟩
    exact ⟨_, l, collectAll_of_exhausts hexhausts, rfl⟩

theorem Exhausts.withResult_eq (h : Exhausts rules p s j reached last attempt l)
    (hs : s.isError = false) (values : List Value) :
    (last.withDiagnosticsOf attempt).withResult (.seq values) =
      { last with
        result := .seq values
        error := none
        chain := attempt.chain
        mark := attempt.mark } := by
  obtain ⟨k, hiterates, -⟩ := h
  have hlast := hiterates.isError_eq hs
  unfold State.isError at hlast
  rw [Option.isSome_eq_false_iff, Option.isNone_iff_eq_none] at hlast
  rw [← hlast]
  rfl

theorem many_returns_iff (hs : s.isError = false) : Returns rules (.many p) s j t l ↔
    ∃ reached last attempt, Exhausts rules p s j reached last attempt l ∧
      t = last.repeated reached attempt := by
  rw [← eval_eq_done_iff, eval_many, State.unlessError_of_live hs]
  apply Iff.trans collectAll_map_eq_done_iff
  apply exists₃_congr
  intro reached last attempt
  apply and_congr_right
  intro h
  rw [h.withResult_eq hs]
  rfl

theorem many1_returns_iff (hs : s.isError = false) : Returns rules (.many1 p) s j t l ↔
    ∃ reached last attempt, Exhausts rules p s j reached last attempt l ∧
      t = requireSome
        s!"many_one: unable to match the input parser at least once at index {s.index}"
        (last.withDiagnosticsOf attempt, reached.map (·.result)) := by
  rw [← eval_eq_done_iff, eval_many1, State.unlessError_of_live hs]
  exact collectAll_map_eq_done_iff

/--
From a state that has not failed, `many` returns just if iterating its parser comes to a failure,
after any number of successes: the last state before the failure, with the results on the way and
the diagnostics of the failure, after the same entries of the tables and the same events. So does
`many1` if there was a success; else it fails where it started.
-/
theorem repetitions_iterate (hs : s.isError = false) (j l : Journal) (t : State) :
    (Returns rules (.many p) s j t l ↔
      ∃ reached last attempt, Exhausts rules p s j reached last attempt l ∧
        t = last.repeated reached attempt) ∧
    (Returns rules (.many1 p) s j t l ↔
      ∃ reached last attempt, Exhausts rules p s j reached last attempt l ∧
        (reached ≠ [] ∧ t = last.repeated reached attempt ∨
          reached = [] ∧
            let message :=
              s!"many_one: unable to match the input parser at least once at index {s.index}"
            t = { s with
              error := some message
              chain := attempt.chain ++ [message]
              mark := attempt.mark })) := by
  refine ⟨many_returns_iff hs, many1_returns_iff hs |>.trans ?_⟩
  apply exists₃_congr
  intro reached last attempt
  apply and_congr_right
  intro h
  cases reached with
  | nil =>
    obtain ⟨k, hiterates, -⟩ := h
    cases hiterates with
    | refl => simp [requireSome, State.fail, State.withDiagnosticsOf]
  | cons u reached =>
    have hend : requireSome
        s!"many_one: unable to match the input parser at least once at index {s.index}"
        (last.withDiagnosticsOf attempt, (u :: reached).map (·.result)) =
          last.repeated (u :: reached) attempt := h.withResult_eq hs _
    rw [hend]
    simp

theorem repetitions_iterate_rounds :
    let s : State := { target := "ab1ab2abc", registry := 0 }
    let round : Parser := .sequence [.literal "a", .literal "b", .digits]
    s.isError = false ∧
      ∃ reached last attempt l, Exhausts [] round s {} reached last attempt l ∧
        reached.length = 2 ∧ last.index = 6 ∧ attempt.mark.tokenIndex = 8 ∧
        Returns [] (.many round) s {} (last.repeated reached attempt) l ∧
        Returns [] (.many1 round) s {} (last.repeated reached attempt) l := by
  intro s round
  have hs : s.isError = false := rfl
  have hpasses : (parse [] 9 (.many round) s {}).passes (fun t _ => t.index == 6 &&
      t.mark.tokenIndex == 8 && t.result.items?.map List.length == some 2) = true := by
    decide +kernel
  obtain ⟨t, l, ht, htest⟩ := returns_of_passes 9 hpasses
  simp only [Bool.and_eq_true, beq_iff_eq] at htest
  obtain ⟨⟨hindex, hmark⟩, hitems⟩ := htest
  obtain ⟨reached, last, attempt, h, rfl⟩ := (repetitions_iterate hs {} l t).1.mp ht
  have hlength : reached.length = 2 := by
    rw [← List.length_map (·.result)]
    exact Option.some.inj hitems
  have hne : reached ≠ [] := List.ne_nil_of_length_pos (by omega)
  refine ⟨hs, reached, last, attempt, l, h, hlength, hindex, hmark, ht, ?_⟩
  exact (repetitions_iterate hs {} l _).2.mpr ⟨reached, last, attempt, h, .inl ⟨hne, rfl⟩⟩

end Parser
end Waymark
