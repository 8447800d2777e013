import Waymark.Parser.Run

/-!
This module contains parsers that are changed by a function. Running them is running the parsers
they were before with a run that applies the function, and so for the loops over them.
-/

namespace Waymark

theorem Rules.resolve_map (rules : Rules) {f : Parser → Parser}
    (hf : ∀ message, f (.fail message) = .fail message) (name : String) :
    Rules.resolve (rules.map fun rule => (rule.1, f rule.2)) name = f (rules.resolve name) := by
  unfold Rules.resolve
  induction rules with
  | nil => exact (hf _).symm
  | cons rule rules ih =>
    rw [List.map_cons, List.lookup_cons, List.lookup_cons]
    split
    . rfl
    . exact ih

namespace Parser

variable {run : Parser → State → Effect State} (f : Parser → Parser)

theorem runAll_map (ps : List Parser) (s : State) :
    runAll run (ps.map f) s = runAll (fun q => run (f q)) ps s := by
  induction ps generalizing s with
  | nil => rfl
  | cons p ps ih => simp only [List.map_cons, runAll, ih]

theorem runAllAfter_map (separator : Parser) (ps : List Parser) (s : State) :
    runAllAfter run (f separator) (ps.map f) s =
      runAllAfter (fun q => run (f q)) separator ps s := by
  induction ps generalizing s with
  | nil => rfl
  | cons p ps ih => simp only [List.map_cons, runAllAfter, ih]

theorem runSeparated_map (separator : Parser) (ps : List Parser) (s : State) :
    runSeparated run (f separator) (ps.map f) s =
      runSeparated (fun q => run (f q)) separator ps s := by
  cases ps with
  | nil => rfl
  | cons p ps => simp only [List.map_cons, runSeparated, runAllAfter_map]

theorem firstSuccess_map (s : State) (ps : List Parser) (best : Option State) :
    firstSuccess run s (ps.map f) best = firstSuccess (fun q => run (f q)) s ps best := by
  induction ps generalizing best with
  | nil => rfl
  | cons p ps ih => simp only [List.map_cons, firstSuccess, ih]

theorem collect_map (p : Parser) (n : Nat) (s : State) :
    collect run (f p) n s = collect (fun q => run (f q)) p n s := by
  induction n generalizing s with
  | zero => rfl
  | succ n ih => simp only [collect, ih]

theorem collectSeparated_map (separator p : Parser) (n : Nat) (last s : State) :
    collectSeparated run (f separator) (f p) n last s =
      collectSeparated (fun q => run (f q)) separator p n last s := by
  induction n generalizing last s with
  | zero => rfl
  | succ n ih => simp only [collectSeparated, ih]

end Parser
end Waymark
