import Waymark.Proofs.Evaluation
import Waymark.Proofs.InOrder
import Waymark.Proofs.Parts
import Waymark.Proofs.Primitive

/-!
This module contains when parsers come to an end: each of them does if its parts do from the states
that it runs them from. A part is only run after another one if that one has not failed.
-/

namespace Waymark

open Effect

theorem Effect.Halts.unlessError {x : Effect State} {next : State → Effect State}
    (h : Ends x fun t => t.isError = false → Halts (next t)) :
    Halts (x >>= fun t => t.unlessError (next t)) := by
  apply Ends.bind h
  intro t ht
  apply Ends.unlessError
  . intro _
    trivial
  . exact ht

theorem Effect.halts_unlessError_bind {α : Type} {s : State} {x : Effect α} {f : α → Effect State}
    (h : s.isError = false → Halts x) (hf : ∀ a, Halts (f a)) :
    Halts (s.unlessError (x >>= f)) := by
  apply Ends.unlessError
  . intro _
    trivial
  . intro hlive
    apply Ends.bind (h hlive)
    intro a _
    exact hf a

namespace Parser

variable {run : Parser → State → Effect State} {rules : Rules} {p separator : Parser}
  {ps : List Parser} {s last : State}

section Primitive

theorem miss_halts (expected pattern : String) : Halts (s.miss expected pattern) := by
  apply Ends.update
  apply Ends.update
  exact Ends.pure trivial

theorem literal_halts (hs : s.OnBoundary) (text : String) : Halts (runLiteral text s) := by
  rcases runLiteral_cases hs text with ⟨back, -, h⟩ | ⟨-, h⟩
  . rw [h]
    exact Ends.pure trivial
  . rw [h]
    apply miss_halts

theorem pattern_halts (hs : s.OnBoundary) (p : Pattern) : Halts (runPattern p s) := by
  rcases runPattern_cases hs p with ⟨span, front, back, -, -, -, h⟩ | ⟨-, h⟩
  . rw [h]
    exact Ends.pure trivial
  . rw [h]
    apply miss_halts

theorem eatUntil_halts (hs : s.OnBoundary) (terminal : Regex) :
    Halts (runEatUntil terminal s) := by
  rcases runEatUntil_cases hs terminal with ⟨span, front, back, -, -, -, h⟩ | ⟨-, h⟩
  . rw [h]
    exact Ends.pure trivial
  . rw [h]
    exact Ends.pure trivial

theorem anyChar_halts (hs : s.OnBoundary) : Halts (runAnyChar s) := by
  rcases runAnyChar_cases hs with ⟨c, cs, -, h⟩ | ⟨-, h⟩
  . rw [h]
    exact Ends.pure trivial
  . rw [h]
    apply miss_halts

theorem endOfInput_halts (hs : s.OnBoundary) : Halts (runEndOfInput s) := by
  rcases runEndOfInput_cases hs with ⟨-, h⟩ | ⟨-, h⟩
  . rw [h]
    exact Ends.pure trivial
  . rw [h]
    apply miss_halts

theorem peek_halts : Halts (runPeek s) := by
  obtain ⟨value, h⟩ := runPeek_eq s
  rw [h]
  exact Ends.pure trivial

theorem primitive_halts (hp : IsPrimitive p) (hs : s.OnBoundary) : Halts (eval rules p s) := by
  have hunless {act : Effect State} (hstep : ∀ m, step (eval rules) rules m p s = s.unlessError act)
      (h : Halts act) : Halts (eval rules p s) := by
    rw [eval_eq hstep]
    exact Ends.unlessError (fun _ => trivial) fun _ => h
  cases p with
  | literal text => exact hunless (fun _ => rfl) (literal_halts hs text)
  | pattern p => exact hunless (fun _ => rfl) (pattern_halts hs p)
  | eatUntil terminal => exact hunless (fun _ => rfl) (eatUntil_halts hs terminal)
  | anyChar => exact hunless (fun _ => rfl) (anyChar_halts hs)
  | endOfInput => exact hunless (fun _ => rfl) (endOfInput_halts hs)
  | peek => exact hunless (fun _ => rfl) peek_halts
  | succeed value => exact hunless (fun _ => rfl) (Ends.pure trivial)
  | fail message => exact hunless (fun _ => rfl) (Ends.pure trivial)
  | getState =>
    rw [eval_eq fun _ => rfl]
    exact Ends.pure trivial
  | setState saved =>
    rw [eval_eq fun _ => rfl]
    exact Ends.pure trivial
  | _ => exact hp.elim

end Primitive

theorem firstSuccess_cons_halts
    (h : Ends (run p s) fun t =>
      t.isError = true → ∀ best, Halts (firstSuccess run s ps best)) (best : Option State) :
    Halts (firstSuccess run s (p :: ps) best) := by
  apply Ends.bind h
  intro t ht
  split
  . next herror => exact ht herror _
  . exact Ends.pure trivial

section Loop

theorem collectAll_halts
    (h : Ends (eval rules p s) fun t => t.isError = false → Halts (collectAll rules p t)) :
    Halts (collectAll rules p s) := by
  rw [collectAll_eq]
  apply Ends.bind h
  intro t ht
  split
  . exact Ends.pure trivial
  . next hlive =>
    apply Ends.bind (ht (Bool.eq_false_iff.mpr hlive))
    intro a _
    exact Ends.pure trivial

theorem collectAllSeparated_halts
    (h : Ends (eval rules p s) fun t => t.isError = false →
      Ends (eval rules separator t) fun between => between.isError = false →
        Halts (collectAllSeparated rules separator p t between)) :
    Halts (collectAllSeparated rules separator p last s) := by
  rw [collectAllSeparated_eq]
  apply Ends.bind h
  intro t ht
  split
  . exact Ends.pure trivial
  . next hlive =>
    apply Ends.bind (ht (Bool.eq_false_iff.mpr hlive))
    intro between hbetween
    split
    . exact Ends.pure trivial
    . next hgo =>
      apply Ends.bind (hbetween (Bool.eq_false_iff.mpr hgo))
      intro a _
      exact Ends.pure trivial

end Loop

section Combinator

theorem sequence_halts (h : s.isError = false → EndInOrder (eval rules) ps s) :
    Halts (eval rules (.sequence ps) s) := by
  rw [eval_sequence]
  apply halts_unlessError_bind
  . intro hlive
    exact runAll_halts (h hlive)
  . intro a
    exact Ends.unlessError (fun _ => trivial) fun _ => Ends.pure trivial

theorem sequenceSepBy_halts
    (h : s.isError = false → EndInOrder (eval rules) (separated separator ps) s) :
    Halts (eval rules (.sequenceSepBy separator ps) s) := by
  rw [eval_sequenceSepBy]
  apply halts_unlessError_bind
  . intro hlive
    exact runSeparated_halts (h hlive)
  . intro a
    exact Ends.unlessError (fun _ => trivial) fun _ => Ends.pure trivial

theorem choice_halts (h : s.isError = false → Halts (firstSuccess (eval rules) s ps none)) :
    Halts (eval rules (.choice ps) s) := by
  rw [eval_choice]
  apply halts_unlessError_bind h
  intro found
  cases found with
  | ok t => exact Ends.pure trivial
  | error best => exact Ends.update (Ends.pure trivial)

theorem many_halts (h : s.isError = false → Halts (collectAll rules p s)) :
    Halts (eval rules (.many p) s) := by
  rw [eval_many]
  apply halts_unlessError_bind h
  intro a
  exact Ends.pure trivial

theorem many1_halts (h : s.isError = false → Halts (collectAll rules p s)) :
    Halts (eval rules (.many1 p) s) := by
  rw [eval_many1]
  apply halts_unlessError_bind h
  intro a
  exact Ends.pure trivial

theorem sepBy_halts (h : s.isError = false → Halts (collectAllSeparated rules separator p s s)) :
    Halts (eval rules (.sepBy separator p) s) := by
  rw [eval_sepBy]
  apply halts_unlessError_bind h
  intro a
  exact Ends.pure trivial

theorem sepBy1_halts (h : s.isError = false → Halts (collectAllSeparated rules separator p s s)) :
    Halts (eval rules (.sepBy1 separator p) s) := by
  rw [eval_sepBy1]
  apply halts_unlessError_bind h
  intro a
  exact Ends.pure trivial

theorem between_halts {opening content closing : Parser}
    (h : EndInOrder (eval rules) [opening, content, closing] s) :
    Halts (eval rules (.between opening content closing) s) := by
  rw [eval_between]
  apply Halts.unlessError
  apply Ends.mono h
  intro t ht hlive
  apply Halts.unlessError
  apply Ends.mono (ht hlive)
  intro u hu hlive'
  apply Halts.unlessError
  apply Ends.mono (hu hlive')
  intro v _ _
  exact Ends.pure trivial

theorem optional_halts (h : s.isError = false → Halts (eval rules p s)) :
    Halts (eval rules (.optional p) s) := by
  rw [eval_optional]
  apply halts_unlessError_bind h
  intro t
  exact Ends.pure trivial

theorem keepLeft_halts {left right : Parser} (h : EndInOrder (eval rules) [left, right] s) :
    Halts (eval rules (.keepLeft left right) s) := by
  rw [eval_keepLeft]
  apply Halts.unlessError
  apply Ends.mono h
  intro t ht hlive
  apply Halts.unlessError
  apply Ends.mono (ht hlive)
  intro u _ _
  exact Ends.pure trivial

theorem keepRight_halts {left right : Parser} (h : EndInOrder (eval rules) [left, right] s) :
    Halts (eval rules (.keepRight left right) s) := by
  rw [eval_keepRight]
  apply Halts.unlessError
  apply Ends.mono h
  intro t ht hlive
  apply Ends.mono (ht hlive)
  intro u _
  trivial

theorem map_halts {f : Value → Value} (h : Halts (eval rules p s)) :
    Halts (eval rules (.map p f) s) := by
  rw [eval_map]
  apply Halts.unlessError
  apply Ends.mono h
  intro t _ _
  exact Ends.pure trivial

theorem mapError_halts {f : String → Nat → String} (h : Halts (eval rules p s)) :
    Halts (eval rules (.mapError p f) s) := by
  rw [eval_mapError]
  apply Ends.bind h
  intro t _
  split
  . exact Ends.pure trivial
  . exact Ends.pure trivial

theorem deferred_halts (h : Halts (eval rules p s)) : Halts (eval rules (.deferred p) s) := by
  rw [eval_deferred]
  exact Ends.update h

theorem rule_halts {name : String} (h : Halts (eval rules (rules.resolve name) s)) :
    Halts (eval rules (.rule name) s) := by
  rw [eval_rule]
  exact Ends.update h

end Combinator

end Parser
end Waymark
