import Mathlib.Data.Finset.Sort
import Waymark.Parser.DoBlock
import Waymark.Proofs.Simulation.Limit
import Waymark.Proofs.Tabulation

/-!
This module contains blocks in direct style: one contextual body that binds the parsers of the steps
one after another and stops at the first that fails. What is bound is read off a history of results
with their names. `Parser.blocks_agree` shows that it makes no difference whether a block is run in
this way or as nested chains.
-/

namespace Waymark

namespace Bindings

/--
The map of a history of bindings, the latest first: all names that were ever bound, in ascending
order, each with the value that it was bound to last.
-/
def ofHistory (history : List (String × Value)) : Bindings :=
  ((history.map (·.1)).toFinset.sort (· ≤ ·)).filterMap fun name =>
    (history.lookup name).map fun value => (name, value)

theorem pairwise_ofHistory (history : List (String × Value)) :
    (ofHistory history).Pairwise fun a b => a.1 < b.1 := by
  have hnames := (Finset.sortedLT_sort (history.map (·.1)).toFinset).pairwise
  apply hnames.filterMap
  intro name name' hlt entry hentry entry' hentry'
  obtain ⟨_, -, rfl⟩ := Option.map_eq_some_iff.mp hentry
  obtain ⟨_, -, rfl⟩ := Option.map_eq_some_iff.mp hentry'
  exact hlt

theorem mem_ofHistory_iff {history : List (String × Value)} {name : String} {value : Value} :
    (name, value) ∈ ofHistory history ↔ history.lookup name = some value := by
  rw [ofHistory, List.mem_filterMap]
  constructor
  . rintro ⟨_, -, h⟩
    obtain ⟨_, hlookup, heq⟩ := Option.map_eq_some_iff.mp h
    obtain ⟨rfl, rfl⟩ := Prod.mk.inj heq
    exact hlookup
  . intro hlookup
    refine ⟨name, ?_, by rw [hlookup, Option.map_some]⟩
    obtain ⟨before, after, rfl, -⟩ := List.lookup_eq_some_iff.mp hlookup
    simp

theorem ofHistory_nil : ofHistory [] = [] := by
  simp [ofHistory]

theorem put_ofHistory (name : String) (value : Value) (history : List (String × Value)) :
    Ascending.put name value (ofHistory history) = ofHistory ((name, value) :: history) := by
  have hput := Ascending.pairwise_put name value (pairwise_ofHistory history)
  apply Ascending.ext hput (pairwise_ofHistory _)
  rintro ⟨name', value'⟩
  rw [← Ascending.lookup_eq_some_iff hput, Ascending.lookup_put, mem_ofHistory_iff,
    List.lookup_cons]
  by_cases h : name' = name
  . simp [h]
  . simp only [h, if_false, beq_eq_false_iff_ne.mpr h]
    rw [Ascending.lookup_eq_some_iff (pairwise_ofHistory history), mem_ofHistory_iff]

end Bindings

def Step.extend (step : Step) (value : Value) (history : List (String × Value)) :
    List (String × Value) :=
  match step.name with
  | some name => (name, value) :: history
  | none => history

theorem Step.bind_ofHistory (step : Step) (value : Value) (history : List (String × Value)) :
    (Bindings.ofHistory history).bind step.name value =
      Bindings.ofHistory (step.extend value history) := by
  unfold Bindings.bind Step.extend
  cases step.name with
  | none => rfl
  | some name => exact Bindings.put_ofHistory name value history

namespace Body

def bindOrHalt (p : Parser) (next : Value → Body) : Body :=
  .bind p fun t _ => if t.isError then .halt else next t.result

def ofSteps (finish : Bindings → Value) : List Step → List (String × Value) → Body
  | [], history => .finish (finish (Bindings.ofHistory history))
  | step :: steps, history =>
    .bindOrHalt (step.make (Bindings.ofHistory history)) fun value =>
      ofSteps finish steps (step.extend value history)

end Body

namespace Parser

def directBlock (steps : List Step) (finish : Bindings → Value) : Parser :=
  .contextual fun _ _ => Body.ofSteps finish steps []

variable {rules : Rules}

theorem follow_bindOrHalt (run : Parser → State → Effect State) (p : Parser) (next : Value → Body)
    (s : State) :
    follow run (.bindOrHalt p next) s = (do
      let t ← run p s
      t.unlessError (follow run (next t.result) t)) := by
  rw [Body.bindOrHalt, follow]
  apply bind_congr
  intro t
  funext j
  unfold State.unlessError
  cases t.isError with
  | true => rfl
  | false => rfl

theorem eval_ofSteps (finish : Bindings → Value) (steps : List Step)
    (history : List (String × Value)) {s : State} (hs : s.isError = false) :
    eval rules (ofSteps finish steps (Bindings.ofHistory history)) s =
      follow (eval rules) (Body.ofSteps finish steps history) s := by
  induction steps generalizing history s with
  | nil =>
    rw [ofSteps, Body.ofSteps, follow, eval_succeed, State.unlessError_of_live hs, hs]
    rfl
  | cons step steps ih =>
    rw [ofSteps, Body.ofSteps, eval_chain, follow_bindOrHalt]
    apply bind_congr
    intro t
    unfold State.unlessError
    split
    . rfl
    . next hlive =>
      rw [← ih _ (Bool.eq_false_iff.mpr hlive), ← Step.bind_ofHistory]
      rfl

theorem eval_doBlock (steps : List Step) (finish : Bindings → Value) (s : State) :
    eval rules (doBlock steps finish) s = eval rules (directBlock steps finish) s := by
  rw [doBlock, directBlock, eval_chain, eval_contextual, eval_getState, pure_bind]
  unfold State.unlessError
  split
  . rfl
  . next hlive =>
    rw [← eval_ofSteps finish steps [] (Bool.eq_false_iff.mpr hlive), Bindings.ofHistory_nil]

/--
A block as nested chains and in direct style both go on forever from a state, or are at fault for
the same reason, or both return: the same state after the same entries of the tables and the same
events.
-/
theorem blocks_agree (rules : Rules) (steps : List Step) (finish : Bindings → Value) (s : State)
    (j : Journal) :
    (∀ n, parse rules n (doBlock steps finish) s j = .outOfFuel ∧
        parse rules n (directBlock steps finish) s j = .outOfFuel) ∨
      (∃ n cause, parse rules n (doBlock steps finish) s j = .fault cause ∧
        parse rules n (directBlock steps finish) s j = .fault cause) ∨
      ∃ t k, Returns rules (doBlock steps finish) s j t k ∧
        Returns rules (directBlock steps finish) s j t k := by
  apply alike_of_eval_eq
  rw [eval_doBlock]

theorem blocks_agree_rebinding :
    let steps : List Step :=
      [.bind "x" letters, .run (.literal "="), .bind "x" digits, .bind "w" (.literal ";"),
        .bindWith "y" fun bindings => .literal (bindings.value "x").render]
    let p := doBlock steps .record
    let q := directBlock steps .record
    let s : State := { target := "ab=12;12", registry := 0 }
    let s' : State := { target := "ab=12;ab", registry := 0 }
    (∃ t k, Returns [] p s {} t k ∧ Returns [] q s {} t k ∧ t.error = none ∧
      t.result = .record [("w", .token ";"), ("x", .token "12"), ("y", .token "12")]) ∧
      ∃ t k, Returns [] p s' {} t k ∧ Returns [] q s' {} t k ∧
        t.error = some "expected \"12\" after \";\" at index 6, got \"ab\"" ∧
        t.result = .token ";" := by
  intro steps p q s s'
  have hboth {s t : State} {k : Journal} (h : Returns [] p s {} t k) : Returns [] q s {} t k := by
    rcases blocks_agree [] steps .record s {} with hout | ⟨n, cause, hfault, -⟩ | ⟨_, _, hp, hq⟩
    . exact absurd (fun n => (hout n).1) h.not_outOfFuel
    . exact absurd hfault (h.ne_fault n cause)
    . obtain ⟨rfl, rfl⟩ := h.unique hp
      exact hq
  have hpasses : (parse [] 8 p s {}).passes (fun t _ => t.error == none &&
      t.result == .record [("w", .token ";"), ("x", .token "12"), ("y", .token "12")]) = true := by
    decide +kernel
  have hpasses' : (parse [] 8 p s' {}).passes (fun t _ =>
      t.error == some "expected \"12\" after \";\" at index 6, got \"ab\"" &&
        t.result == .token ";") = true := by
    decide +kernel
  obtain ⟨t, k, ht, htest⟩ := returns_of_passes 8 hpasses
  obtain ⟨t', k', ht', htest'⟩ := returns_of_passes 8 hpasses'
  simp only [Bool.and_eq_true, beq_iff_eq] at htest htest'
  exact ⟨⟨t, k, ht, hboth ht, htest⟩, t', k', ht', hboth ht', htest'⟩

end Parser
end Waymark
