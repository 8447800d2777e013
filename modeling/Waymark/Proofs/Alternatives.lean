import Waymark.Proofs.Evaluation

/-!
This module contains choices. `Parser.choice_takes_first` says which alternative a choice returns
with, and which failed one it tells of if there is none.
-/

namespace Waymark
namespace Parser

open Effect

inductive AllFail (rules : Rules) (s : State) :
    List Parser → Journal → List State → Journal → Prop where
  | nil {j : Journal} : AllFail rules s [] j [] j
  | cons {p : Parser} {ps : List Parser} {a : State} {attempts : List State} {j k l : Journal}
      (h : Returns rules p s j a k) (hfailed : a.isError = true)
      (hrest : AllFail rules s ps k attempts l) : AllFail rules s (p :: ps) j (a :: attempts) l

/--
Whether no mark of some failures is further than that of one of them, and none before it is as far.
-/
def FirstFurthest (attempts : List State) (a : State) : Prop :=
  ∃ before after, attempts = before ++ a :: after ∧
    (∀ b ∈ before, b.mark.tokenIndex < a.mark.tokenIndex) ∧
    ∀ b ∈ after, b.mark.tokenIndex ≤ a.mark.tokenIndex

variable {rules : Rules} {ps before : List Parser} {s t a b : State} {best : Option State}
  {attempts : List State} {j k l : Journal}

theorem AllFail.length_eq (h : AllFail rules s ps j attempts k) : attempts.length = ps.length := by
  induction h with
  | nil => rfl
  | cons _ _ _ ih => rw [List.length_cons, List.length_cons, ih]

theorem FirstFurthest.le_of_mem (h : FirstFurthest attempts a) (hb : b ∈ attempts) :
    b.mark.tokenIndex ≤ a.mark.tokenIndex := by
  obtain ⟨before, after, rfl, hbefore, hafter⟩ := h
  rcases List.mem_append.mp hb with hb | hb
  . exact Nat.le_of_lt (hbefore b hb)
  . rcases List.mem_cons.mp hb with rfl | hb
    . exact Nat.le_refl _
    . exact hafter b hb

theorem FirstFurthest.cons_of_lt (h : FirstFurthest (t :: attempts) a)
    (hlt : b.mark.tokenIndex < t.mark.tokenIndex) : FirstFurthest (b :: t :: attempts) a := by
  have hle := h.le_of_mem List.mem_cons_self
  obtain ⟨before, after, hsplit, hbefore, hafter⟩ := h
  refine ⟨b :: before, after, by rw [hsplit, List.cons_append], ?_, hafter⟩
  simp only [List.forall_mem_cons]
  exact ⟨by omega, hbefore⟩

theorem FirstFurthest.insert_of_le (h : FirstFurthest (b :: attempts) a)
    (hle : t.mark.tokenIndex ≤ b.mark.tokenIndex) : FirstFurthest (b :: t :: attempts) a := by
  obtain ⟨before, after, hsplit, hbefore, hafter⟩ := h
  cases before with
  | nil =>
    obtain ⟨rfl, rfl⟩ := List.cons.inj hsplit
    refine ⟨[], t :: attempts, rfl, by simp, ?_⟩
    simp only [List.forall_mem_cons]
    exact ⟨hle, hafter⟩
  | cons c before =>
    obtain ⟨rfl, rfl⟩ := List.cons.inj hsplit
    refine ⟨b :: t :: before, after, rfl, ?_, hafter⟩
    simp only [List.forall_mem_cons] at hbefore ⊢
    exact ⟨hbefore.1, by omega, hbefore.2⟩

theorem firstFurthest_foldl (b : State) (attempts : List State) :
    ∃ a, attempts.foldl (fun best t => some (further best t)) (some b) = some a ∧
      FirstFurthest (b :: attempts) a := by
  induction attempts generalizing b with
  | nil =>
    refine ⟨b, rfl, [], [], rfl, ?_, ?_⟩
    . simp
    . simp
  | cons t attempts ih =>
    obtain ⟨a, hfoldl, hfirst⟩ := ih (further (some b) t)
    refine ⟨a, hfoldl, ?_⟩
    unfold further at hfirst
    dsimp only at hfirst
    split at hfirst
    . next hlt => exact hfirst.cons_of_lt hlt
    . next hge => exact hfirst.insert_of_le (Nat.le_of_not_lt hge)

theorem eq_of_append_eq {between after after' : List State}
    (h : a :: after = between ++ b :: after')
    (hafter : ∀ c ∈ after, c.mark.tokenIndex ≤ a.mark.tokenIndex)
    (hbetween : ∀ c ∈ between, c.mark.tokenIndex < b.mark.tokenIndex) : a = b := by
  cases between with
  | nil => exact (List.cons.inj h).1
  | cons c between =>
    obtain ⟨rfl, rfl⟩ := List.cons.inj h
    have hlt := hbetween a List.mem_cons_self
    have hle := hafter b (List.mem_append_right _ List.mem_cons_self)
    omega

theorem FirstFurthest.unique (ha : FirstFurthest attempts a)
    (hb : FirstFurthest attempts b) : a = b := by
  obtain ⟨before, after, rfl, hbefore, hafter⟩ := ha
  obtain ⟨before', after', hsplit, hbefore', hafter'⟩ := hb
  rcases List.append_eq_append_iff.mp hsplit with ⟨between, rfl, h⟩ | ⟨between, rfl, h⟩
  . exact eq_of_append_eq h hafter fun c hc => hbefore' c (List.mem_append_right _ hc)
  . exact (eq_of_append_eq h hafter' fun c hc => hbefore c (List.mem_append_right _ hc)).symm

theorem noAlternative_foldl_eq_iff :
    t = noAlternative s (attempts.foldl (fun best t => some (further best t)) none) ↔
      ∃ told, (attempts = [] ∧ told = s ∨ FirstFurthest attempts told) ∧
        let message := s!"choice: unable to match with any parser at index {s.index}"
        t = { s with
          error := some message
          chain := told.chain ++ [message]
          mark := told.mark } := by
  cases attempts with
  | nil =>
    constructor
    . intro h
      exact ⟨s, .inl ⟨rfl, rfl⟩, h⟩
    . rintro ⟨told, ⟨-, rfl⟩ | ⟨before, after, h, -⟩, rfl⟩
      . rfl
      . simp at h
  | cons a attempts =>
    obtain ⟨first, hfoldl, hfirst⟩ := firstFurthest_foldl a attempts
    rw [List.foldl_cons, further, hfoldl]
    constructor
    . intro h
      exact ⟨first, .inr hfirst, h⟩
    . rintro ⟨told, ⟨h, -⟩ | htold, rfl⟩
      . contradiction
      . obtain rfl := hfirst.unique htold
        rfl

theorem firstSuccess_append (h : AllFail rules s before j attempts k) (ps : List Parser)
    (best : Option State) :
    firstSuccess (eval rules) s (before ++ ps) best j =
      firstSuccess (eval rules) s ps
        (attempts.foldl (fun best t => some (further best t)) best) k := by
  induction h generalizing best with
  | nil => rfl
  | cons h hfailed _ ih =>
    rw [List.cons_append, firstSuccess, bind_apply, eval_eq_done_iff.mpr h]
    dsimp only
    rw [if_pos hfailed, ih]
    rfl

theorem firstSuccess_eq_done_iff {found : Except (Option State) State} :
    firstSuccess (eval rules) s ps best j = .done found l ↔
      (∃ before p after attempts k t, ps = before ++ p :: after ∧
        AllFail rules s before j attempts k ∧ Returns rules p s k t l ∧ t.isError = false ∧
        found = .ok t) ∨
      ∃ attempts, AllFail rules s ps j attempts l ∧
        found = .error (attempts.foldl (fun best t => some (further best t)) best) := by
  constructor
  . intro h
    induction ps generalizing best j with
    | nil =>
      obtain ⟨rfl, rfl⟩ := Outcome.done.inj h
      right
      exact ⟨[], .nil, rfl⟩
    | cons p ps ih =>
      rw [firstSuccess] at h
      obtain ⟨t, k, ht, h⟩ := bind_eq_done_iff.mp h
      have hreturns := eval_eq_done_iff.mp ht
      split at h
      . next hfailed =>
        rcases ih h with ⟨before, q, after, attempts, k', u, rfl, hbefore, hu⟩ |
          ⟨attempts, hrest, rfl⟩
        . left
          exact ⟨p :: before, q, after, t :: attempts, k', u, rfl,
            .cons hreturns hfailed hbefore, hu⟩
        . right
          exact ⟨t :: attempts, .cons hreturns hfailed hrest, rfl⟩
      . next hlive =>
        rw [Bool.not_eq_true] at hlive
        obtain ⟨rfl, rfl⟩ := Outcome.done.inj h
        left
        exact ⟨[], p, ps, [], j, t, rfl, .nil, hreturns, hlive, rfl⟩
  . rintro (⟨before, p, after, attempts, k, t, rfl, hbefore, ht, hlive, rfl⟩ |
      ⟨attempts, hall, rfl⟩)
    . rw [firstSuccess_append hbefore, firstSuccess, bind_apply, eval_eq_done_iff.mpr ht]
      dsimp only
      rw [hlive, if_neg Bool.false_ne_true]
      rfl
    . rw [← List.append_nil ps, firstSuccess_append hall]
      rfl

/--
From a state that has not failed, a choice returns what its first alternative returns that does not
fail, after the alternatives before it. It runs none behind. If all fail, it fails where it started,
with the diagnostics of the failure whose mark is furthest, the first of them if several are, and
notes once that nothing matched. Each alternative writes to the tables that those before it left.
-/
theorem choice_takes_first (hs : s.isError = false) (ps : List Parser) (j l : Journal)
    (t : State) : Returns rules (.choice ps) s j t l ↔
      (∃ before p after attempts k, ps = before ++ p :: after ∧
        AllFail rules s before j attempts k ∧ Returns rules p s k t l ∧ t.isError = false) ∨
      ∃ attempts k told, AllFail rules s ps j attempts k ∧
        l = k.log (.noAlternative s.index ps.length) ∧
        (attempts = [] ∧ told = s ∨ FirstFurthest attempts told) ∧
        let message := s!"choice: unable to match with any parser at index {s.index}"
        t = { s with
          error := some message
          chain := told.chain ++ [message]
          mark := told.mark } := by
  rw [← eval_eq_done_iff, eval_choice, State.unlessError_of_live hs, bind_eq_done_iff]
  constructor
  . rintro ⟨found, k, hfound, h⟩
    rcases firstSuccess_eq_done_iff.mp hfound with
      ⟨before, p, after, attempts, k', u, hps, hbefore, hu, hlive, rfl⟩ | ⟨attempts, hall, rfl⟩
    . obtain ⟨rfl, rfl⟩ := Outcome.done.inj h
      left
      exact ⟨before, p, after, attempts, k', hps, hbefore, hu, hlive⟩
    . obtain ⟨rfl, rfl⟩ := Outcome.done.inj h
      obtain ⟨told, htold⟩ := noAlternative_foldl_eq_iff.mp (Eq.refl (noAlternative s _))
      right
      exact ⟨attempts, k, told, hall, rfl, htold⟩
  . rintro (⟨before, p, after, attempts, k, hps, hbefore, ht, hlive⟩ |
      ⟨attempts, k, told, hall, rfl, htold⟩)
    . exact ⟨.ok t, l, firstSuccess_eq_done_iff.mpr
        (.inl ⟨before, p, after, attempts, k, t, hps, hbefore, ht, hlive, rfl⟩), rfl⟩
    . rw [noAlternative_foldl_eq_iff.mpr ⟨told, htold⟩]
      exact ⟨_, k, firstSuccess_eq_done_iff.mpr (.inr ⟨attempts, hall, rfl⟩), rfl⟩

theorem choice_takes_first_tie :
    let s : State := { target := "ab3", registry := 0 }
    let ps : List Parser := [.literal "x", .sequence [.literal "ab", .literal "1"],
      .sequence [.literal "ab", .literal "2"]]
    s.isError = false ∧ ∃ t l attempts told k, Returns [] (.choice ps) s {} t l ∧
      AllFail [] s ps {} attempts k ∧ FirstFurthest attempts told ∧
      told.mark.tokenIndex = 2 ∧
      told.chain = ["expected \"1\" after \"ab\" at index 2, got \"3\""] ∧
      t.index = 0 ∧ t.mark = told.mark ∧ t.chain.dropLast = told.chain := by
  intro s ps
  have hs : s.isError = false := rfl
  have hpasses : (parse [] 9 (.choice ps) s {}).passes (fun t _ => t.isError &&
      t.mark.tokenIndex == 2 && t.chain == [
        "expected \"1\" after \"ab\" at index 2, got \"3\"",
        "choice: unable to match with any parser at index 0"]) = true := by
    decide +kernel
  obtain ⟨t, l, ht, htest⟩ := returns_of_passes 9 hpasses
  simp only [Bool.and_eq_true, beq_iff_eq] at htest
  obtain ⟨⟨herror, hmark⟩, hchain⟩ := htest
  rcases (choice_takes_first hs ps {} l t).mp ht with ⟨_, _, _, _, _, _, _, _, hlive⟩ |
    ⟨attempts, k, told, hall, -, htold, rfl⟩
  . rw [hlive] at herror
    exact absurd herror Bool.false_ne_true
  . have hfurthest : FirstFurthest attempts told := by
      refine htold.resolve_left ?_
      rintro ⟨rfl, -⟩
      exact absurd hall.length_eq (by decide)
    have htold_chain := congrArg List.dropLast hchain
    rw [List.dropLast_concat] at htold_chain
    exact ⟨hs, _, l, attempts, told, k, ht, hall, hfurthest, hmark, htold_chain, rfl, rfl,
      List.dropLast_concat⟩

end Parser
end Waymark
