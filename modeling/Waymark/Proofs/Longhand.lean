import Waymark.Draft.Mapper
import Waymark.Parser.DoBlock
import Waymark.Proofs.InOrder
import Waymark.Proofs.LiveParts
import Waymark.Proofs.Mapped
import Waymark.Proofs.Simulation.Limit

/-!
This module contains parsers in longhand: brackets, pairs, separated sequences and optional parsers
are short for sequences and choices. `Parser.longhand_agrees` shows that it makes no difference to
a parser that has not failed whether it is written in the one way or the other.
-/

namespace Waymark

namespace Value

def everySecond {α : Type} : List α → List α
  | [] => []
  | [a] => [a]
  | a :: _ :: as => a :: everySecond as

def evenItems : Value → Value
  | .seq items => .seq (everySecond items)
  | v => v

theorem everySecond_cons {α : Type} (a : α) (as : List α) :
    everySecond (a :: as) = a :: everySecond as.tail := by
  cases as with
  | nil => rfl
  | cons b as => rfl

end Value

namespace Parser

def longhand : Parser → Parser
  | .between opening content closing =>
    .map (.sequence [opening, content, closing]) (Mapper.nth 1).apply
  | .keepLeft left right => .map (.sequence [left, right]) (Mapper.nth 0).apply
  | .keepRight left right => .map (.sequence [left, right]) (Mapper.nth 1).apply
  | .optional body => .choice [body, .succeed .null]
  | .sequenceSepBy separator ps => .map (.sequence (separated separator ps)) Value.evenItems
  | p => p

mutual

def expandParts : Parser → Parser
  | .sequence ps => .sequence (expandAll ps)
  | .sequenceSepBy separator ps => .sequenceSepBy separator.expandParts.longhand (expandAll ps)
  | .choice ps => .choice (expandAll ps)
  | .many body => .many body.expandParts.longhand
  | .many1 body => .many1 body.expandParts.longhand
  | .sepBy separator body => .sepBy separator.expandParts.longhand body.expandParts.longhand
  | .sepBy1 separator body => .sepBy1 separator.expandParts.longhand body.expandParts.longhand
  | .between opening content closing =>
    .between opening.expandParts.longhand content.expandParts.longhand closing.expandParts.longhand
  | .optional body => .optional body.expandParts.longhand
  | .keepLeft left right => .keepLeft left.expandParts.longhand right.expandParts.longhand
  | .keepRight left right => .keepRight left.expandParts.longhand right.expandParts.longhand
  | .map body f => .map body.expandParts.longhand f
  | .chain first next =>
    .chain first.expandParts.longhand fun s table => (next s table).expandParts.longhand
  | .mapError body f => .mapError body.expandParts.longhand f
  | .deferred body => .deferred body.expandParts.longhand
  | p => p

def expandAll : List Parser → List Parser
  | [] => []
  | p :: ps => p.expandParts.longhand :: expandAll ps

end

def expand (p : Parser) : Parser :=
  p.expandParts.longhand

theorem expandAll_eq_map (ps : List Parser) : expandAll ps = ps.map expand := by
  induction ps with
  | nil => rfl
  | cons p ps ih => rw [expandAll, ih, List.map_cons, expand]

theorem eachAfter_map (f : Parser → Parser) (separator : Parser) (ps : List Parser) :
    eachAfter (f separator) (ps.map f) = (eachAfter separator ps).map f := by
  induction ps with
  | nil => rfl
  | cons p ps ih => simp only [List.map_cons, eachAfter, ih]

theorem separated_map (f : Parser → Parser) (separator : Parser) (ps : List Parser) :
    separated (f separator) (ps.map f) = (separated separator ps).map f := by
  cases ps with
  | nil => rfl
  | cons p ps => simp only [List.map_cons, separated, eachAfter_map]

theorem expandParts_longhand (p : Parser) : p.longhand.expandParts = p.expand := by
  cases p with
  | sequenceSepBy separator ps =>
    dsimp only [longhand, expand, expandParts]
    rw [expandAll_eq_map, expandAll_eq_map, ← separated_map]
    rfl
  | _ => rfl

theorem expand_doBlock (steps : List Step) (finish : Bindings → Value) :
    (doBlock steps finish).expand =
      doBlock (steps.map fun step => { step with make := fun b => (step.make b).expand }) finish := by
  have hsteps (bindings : Bindings) : (ofSteps finish steps bindings).expand =
      ofSteps finish (steps.map fun step => { step with make := fun b => (step.make b).expand })
        bindings := by
    induction steps generalizing bindings with
    | nil => rfl
    | cons step steps ih =>
      rw [List.map_cons, ofSteps]
      dsimp only [expand, expandParts, longhand, ofSteps]
      congr 1
      funext s _
      exact ih _
  dsimp only [doBlock]
  rw [← hsteps]
  rfl

def element : Parser :=
  doBlock [
    .bind "name" .letters,
    .bind "items" (.sequenceSepBy (.literal ",") [.rule "nest", .keepLeft .digits (.literal "!")]),
    .bindWith "close" fun bindings =>
      .keepRight (.literal "/") (.literal (bindings.value "name").render)]
    fun bindings => bindings.value "items"

example : element.expand =
    doBlock [
      .bind "name" .letters,
      .bind "items" (.map (.sequence [.rule "nest", .literal ",",
        .map (.sequence [.digits, .literal "!"]) (Mapper.nth 0).apply]) Value.evenItems),
      .bindWith "close" fun bindings =>
        .map (.sequence [.literal "/", .literal (bindings.value "name").render])
          (Mapper.nth 1).apply]
      fun bindings => bindings.value "items" := rfl

end Parser

def Rules.expand (rules : Rules) : Rules :=
  rules.map fun rule => (rule.1, rule.2.expand)

theorem Rules.resolve_expand (rules : Rules) (name : String) :
    rules.expand.resolve name = (rules.resolve name).expand :=
  rules.resolve_map (fun _ => rfl) name

namespace Parser

open Effect State

section Gather

variable {run : Parser → State → Effect State}

theorem runAllAfter_eq (separator : Parser) (ps : List Parser) (s : State) :
    runAllAfter run separator ps s = (do
      let (t, values) ← runAll run (eachAfter separator ps) s
      pure (t, Value.everySecond values.tail)) := by
  -- In longhand the results of the separators are gathered too, and dropped afterwards.
  induction ps generalizing s with
  | nil => rfl
  | cons p ps ih =>
    rw [runAllAfter, eachAfter, runAll, bind_assoc]
    apply bind_congr
    intro between
    split
    . rfl
    . rw [runAll, bind_assoc, bind_assoc]
      apply bind_congr
      intro t
      split
      . rfl
      . rw [ih, bind_assoc, bind_assoc]
        apply bind_congr
        intro gathered
        simp only [pure_bind, List.tail_cons, Value.everySecond_cons]

theorem runSeparated_eq (separator : Parser) (ps : List Parser) (s : State) :
    runSeparated run separator ps s = (do
      let (t, values) ← runAll run (separated separator ps) s
      pure (t, Value.everySecond values)) := by
  cases ps with
  | nil => rfl
  | cons p ps =>
    rw [runSeparated, separated, runAll, bind_assoc]
    apply bind_congr
    intro t
    split
    . rfl
    . rw [runAllAfter_eq, bind_assoc, bind_assoc]
      apply bind_congr
      intro gathered
      simp only [pure_bind, Value.everySecond_cons]

end Gather

variable {rules : Rules} {p : Parser} {ps : List Parser} {s : State}

theorem eval_map_sequence (hs : s.isError = false) (ps : List Parser) (f : Value → Value) :
    eval rules (.map (.sequence ps) f) s =
      runAll (eval rules) ps s >>= finishWith fun values => f (.seq values) := by
  rw [eval_map, eval_sequence, unlessError_of_live hs, bind_assoc]
  apply bind_congr
  rintro ⟨t, values⟩
  unfold finishWith
  dsimp only
  cases ht : t.isError with
  | true =>
    rw [unlessError_of_isError ht, unlessError_of_isError ht, pure_bind]
    exact unlessError_of_isError ht _
  | false =>
    have hlive : (t.withResult (.seq values)).isError = false := ht
    rw [unlessError_of_live ht, unlessError_of_live ht, pure_bind, unlessError_of_live hlive]
    rfl

theorem eval_longhand_optional (hs : s.isError = false) (body : Parser) :
    eval rules (.choice [body, .succeed .null]) s = eval rules (.optional body) s := by
  have hnull : (s.withResult .null).isError = false := hs
  rw [eval_choice, eval_optional, unlessError_of_live hs, unlessError_of_live hs, firstSuccess,
    bind_assoc]
  apply bind_congr
  intro t
  split
  . rw [firstSuccess, eval_succeed, State.unlessError_of_live hs, pure_bind, hnull]
    rfl
  . rfl

theorem eval_longhand (hs : s.isError = false) (p : Parser) :
    eval rules p.longhand s = eval rules p s := by
  cases p with
  | between opening content closing =>
    dsimp only [longhand]
    rw [eval_map_sequence hs, eval_between]
    simp only [runAll_cons_finishWith, runAll_nil_finishWith, unlessError_finishWith]
    rfl
  | keepLeft left right =>
    dsimp only [longhand]
    rw [eval_map_sequence hs, eval_keepLeft]
    simp only [runAll_cons_finishWith, runAll_nil_finishWith, unlessError_finishWith]
    rfl
  | keepRight left right =>
    have hlast (t u : State) : u.unlessError (finishWith
        (fun values => (Mapper.nth 1).apply (.seq (t.result :: u.result :: values))) (u, [])) =
          pure u := by
      rw [unlessError_finishWith]
      unfold finishWith State.unlessError
      split
      . rfl
      . rfl
    dsimp only [longhand]
    rw [eval_map_sequence hs, eval_keepRight]
    simp only [runAll_cons_finishWith, runAll_nil_finishWith, hlast, bind_pure]
  | optional body => exact eval_longhand_optional hs body
  | sequenceSepBy separator ps =>
    dsimp only [longhand]
    rw [eval_map_sequence hs, eval_sequenceSepBy, unlessError_of_live hs, runSeparated_eq,
      bind_assoc]
    rfl
  | _ => rfl

theorem step_expandParts {run : Parser → State → Effect State} (hp : p.StopsAtFailure) (n : Nat)
    (s : State) :
    step run rules.expand n p.expandParts s = step (fun q => run q.expand) rules n p s := by
  cases p with
  | sequence ps =>
    dsimp only [expandParts, step]
    rw [expandAll_eq_map, runAll_map]
  | sequenceSepBy separator ps =>
    dsimp only [expandParts, step]
    rw [expandAll_eq_map, ← expand, runSeparated_map]
  | choice ps =>
    dsimp only [expandParts, step]
    rw [expandAll_eq_map, firstSuccess_map, List.length_map]
  | many body =>
    dsimp only [expandParts, step]
    rw [← expand, collect_map]
  | many1 body =>
    dsimp only [expandParts, step]
    rw [← expand, collect_map]
  | sepBy separator body =>
    dsimp only [expandParts, step]
    rw [← expand, ← expand, collectSeparated_map]
  | sepBy1 separator body =>
    dsimp only [expandParts, step]
    rw [← expand, ← expand, collectSeparated_map]
  | rule name =>
    dsimp only [expandParts, step]
    rw [Rules.resolve_expand]
  | contextual body => exact hp.elim
  | _ => rfl

theorem throughout_map_sequence {sees : State → Prop}
    (hps : ∀ q ∈ ps, q.Throughout rules sees StopsAtFailure) (f : Value → Value) :
    (map (.sequence ps) f).Throughout rules sees StopsAtFailure := by
  refine Throughout.intro trivial ?_
  intro q hq
  cases hq with
  | inner hq =>
    obtain rfl := List.mem_singleton.mp hq
    refine Throughout.intro trivial ?_
    intro r hr
    cases hr with
    | inner hr => exact hps r hr

theorem Throughout.longhand {sees : State → Prop} (hp : p.Throughout rules sees StopsAtFailure) :
    p.longhand.Throughout rules sees StopsAtFailure := by
  cases p with
  | between opening content closing => exact throughout_map_sequence (fun q hq => hp.inner hq) _
  | keepLeft left right => exact throughout_map_sequence (fun q hq => hp.inner hq) _
  | keepRight left right => exact throughout_map_sequence (fun q hq => hp.inner hq) _
  | optional body =>
    refine Throughout.intro trivial ?_
    intro q hq
    cases hq with
    | inner hq =>
      rcases List.mem_cons.mp hq with rfl | hq
      . exact hp.inner List.mem_cons_self
      . obtain rfl := List.mem_singleton.mp hq
        exact Throughout.of_isPrimitive trivial trivial
  | sequenceSepBy separator ps =>
    exact throughout_map_sequence (fun q hq => hp.inner (mem_of_mem_separated hq)) _
  | _ => exact hp

theorem parse_below_expand (n : Nat) (hp : p.Throughout rules (fun _ => True) StopsAtFailure)
    (hs : s.isError = false) :
    Below (parse rules n p s) (eval rules.expand p.expand s) := by
  induction n generalizing p s with
  | zero => apply Below.exhausted
  | succ n ih =>
    have hstep : Below (step (parse rules n) rules n p s)
        (step (fun q => eval rules.expand q.expand) rules n p s) :=
      step_below_of_live hp.self (fun q hq t ht => ih (hp.part hq) ht) (Nat.le_refl n) hs
    rw [← step_expandParts hp.self] at hstep
    rw [parse, expand, eval_longhand hs]
    exact hstep.trans (step_eval_ascends.below n)

theorem expand_below_eval (n : Nat) (hp : p.Throughout rules (fun _ => True) StopsAtFailure)
    (hs : s.isError = false) :
    Below (parse rules.expand n p.expand s) (eval rules p s) := by
  induction n generalizing p s with
  | zero => apply Below.exhausted
  | succ n ih =>
    -- Written out, the parser itself is short for nothing; its parts are run with less fuel.
    have hlonghand := hp.longhand
    have hstep : Below (step (fun q => parse rules.expand n q.expand) rules n p.longhand s)
        (step (eval rules) rules n p.longhand s) :=
      step_below_of_live hlonghand.self (fun q hq t ht => ih (hlonghand.part hq) ht)
        (Nat.le_refl n) hs
    rw [← step_expandParts hlonghand.self, expandParts_longhand] at hstep
    rw [parse, ← eval_longhand hs]
    exact hstep.trans (step_eval_ascends.below n)

/--
A parser that has not failed, and the same in longhand at every depth, both go on forever, or are at
fault for the same reason, or both return: the same state after the same entries of the tables and
the same events.
-/
theorem longhand_agrees (hp : p.Throughout rules (fun _ => True) StopsAtFailure)
    (hs : s.isError = false) (j : Journal) :
    (∀ n, parse rules n p s j = .outOfFuel ∧ parse rules.expand n p.expand s j = .outOfFuel) ∨
      (∃ n cause, parse rules n p s j = .fault cause ∧
        parse rules.expand n p.expand s j = .fault cause) ∨
      ∃ t k, Returns rules p s j t k ∧ Returns rules.expand p.expand s j t k := by
  apply alike_of_eval_eq
  have heval : eval rules p s = eval rules.expand p.expand s :=
    Ascends.eq_of_below parse_ascends parse_ascends (fun n => parse_below_expand n hp hs)
      fun n => expand_below_eval n hp hs
  rw [heval]

theorem throughout_doBlock {sees : State → Prop} {steps : List Step} (finish : Bindings → Value)
    (hsteps : ∀ step ∈ steps, ∀ bindings,
      (step.make bindings).Throughout rules sees StopsAtFailure) :
    (doBlock steps finish).Throughout rules sees StopsAtFailure := by
  have hof (bindings : Bindings) :
      (ofSteps finish steps bindings).Throughout rules sees StopsAtFailure := by
    induction steps generalizing bindings with
    | nil => exact Throughout.of_isPrimitive trivial trivial
    | cons step steps ih =>
      refine Throughout.intro trivial ?_
      intro q hq
      cases hq with
      | inner hq =>
        obtain rfl := List.mem_singleton.mp hq
        exact hsteps step List.mem_cons_self bindings
      | next _ _ => exact ih (fun step h => hsteps step (List.mem_cons_of_mem _ h)) _
  refine Throughout.intro trivial ?_
  intro q hq
  cases hq with
  | inner hq =>
    obtain rfl := List.mem_singleton.mp hq
    exact Throughout.of_isPrimitive trivial trivial
  | next _ _ => exact hof []

def nestRules : Rules :=
  [("nest", .between (.literal "(") (.optional (.rule "nest")) (.literal ")"))]

theorem throughout_element : element.Throughout nestRules (fun _ => True) StopsAtFailure := by
  apply throughout_doBlock
  intro step hstep bindings
  simp only [List.mem_cons, List.not_mem_nil, or_false] at hstep
  rcases hstep with rfl | rfl | rfl
  . exact Throughout.of_isPrimitive trivial trivial
  . refine Throughout.of_list [
      .sequenceSepBy (.literal ",") [.rule "nest", .keepLeft .digits (.literal "!")],
      .literal ",", .rule "nest", .keepLeft .digits (.literal "!"), .digits, .literal "!",
      .between (.literal "(") (.optional (.rule "nest")) (.literal ")"), .literal "(",
      .optional (.rule "nest"), .literal ")"] ?_ ?_ ?_ ?_ ?_
    . simp [Step.bind]
    . simp [IsPlain, digits]
    . simp [inner, digits]
    . simp [digits, nestRules, Rules.resolve]
    . simp [StopsAtFailure, digits]
  . refine Throughout.of_list [
      .keepRight (.literal "/") (.literal (bindings.value "name").render), .literal "/",
      .literal (bindings.value "name").render] ?_ ?_ ?_ ?_ ?_
    . simp [Step.bindWith]
    . simp [IsPlain]
    . simp [inner]
    . simp
    . simp [StopsAtFailure]

theorem longhand_agrees_element :
    let s : State := { target := "ab(()),1!/ac", registry := 0 }
    element.Throughout nestRules (fun _ => True) StopsAtFailure ∧ s.isError = false ∧
      ∃ t k, Returns nestRules element s {} t k ∧
        Returns nestRules.expand element.expand s {} t k ∧
        t.isError = true ∧ t.mark.tokenIndex = 10 := by
  intro s
  have hs : s.isError = false := rfl
  have hpasses : (parse nestRules 19 element s {}).passes
      (fun t _ => t.isError && t.mark.tokenIndex == 10) = true := by
    decide +kernel
  obtain ⟨u, l, hu, htest⟩ := returns_of_passes 19 hpasses
  simp only [Bool.and_eq_true, beq_iff_eq] at htest
  rcases longhand_agrees throughout_element hs {} with h | ⟨n, cause, h, -⟩ | ⟨t, k, ht, ht'⟩
  . exact absurd (fun n => (h n).1) hu.not_outOfFuel
  . exact absurd h (hu.ne_fault n cause)
  . obtain ⟨rfl, rfl⟩ := hu.unique ht
    exact ⟨throughout_element, hs, u, l, hu, ht', htest.1, htest.2⟩

end Parser
end Waymark
