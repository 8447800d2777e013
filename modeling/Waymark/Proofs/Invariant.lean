import Waymark.Parser.Fuel
import Waymark.Proofs.Boundary
import Waymark.Proofs.Simulation.Run

/-!
This module contains properties that hold of every state of a run. `Parser.checked` is a run that
breaks off at the first parser that is given a state it should not be given, or returns one that it
should not return; `Parser.Always` says that this never happens in a run. An `Invariant` always holds
if nothing that is run brings in a state without it.
-/

namespace Waymark

namespace Parser

/--
A run that breaks off where a parser is not `given` the state that it is run on, or where the one
that it takes it to is not `kept`.
-/
def checked (rules : Rules) (given : Parser → State → Prop) (kept : Parser → State → State → Prop)
    [∀ p, DecidablePred (given p)] [∀ p s t, Decidable (kept p s t)] (cause : State → Fault) :
    Nat → Parser → State → Effect State
  | 0, _, _ => Effect.exhausted
  | fuel + 1, p, s =>
    if given p s then do
      let t ← step (checked rules given kept cause fuel) rules fuel p s
      if kept p s t then pure t else Effect.raise (cause t)
    else
      Effect.raise (cause s)

def guardedBy (rules : Rules) (ok : State → Prop) [DecidablePred ok] (cause : State → Fault) :
    Nat → Parser → State → Effect State :=
  checked rules (fun _ => ok) (fun _ _ => ok) cause

def guarded (rules : Rules) (ok : State → Prop) [DecidablePred ok] :
    Nat → Parser → State → Effect State :=
  guardedBy rules ok fun s => .splitCharacter s.index

/--
Whether it makes no difference to a run if it breaks off at what is not `given` or not `kept`, with
whatever fault: then all states are given and kept that parsers are run on in this run.
-/
def Always (rules : Rules) (given : Parser → State → Prop) (kept : Parser → State → State → Prop)
    [∀ p, DecidablePred (given p)] [∀ p s t, Decidable (kept p s t)] (p : Parser) (s : State)
    (j : Journal) : Prop :=
  ∀ cause n, checked rules given kept cause n p s j = parse rules n p s j

def RunsOnly (rules : Rules) (ok : Parser → Prop) [DecidablePred ok] (p : Parser) (s : State)
    (j : Journal) : Prop :=
  p.Always rules (fun q _ => ok q) (fun _ _ _ => True) s j

section RunsOnly

variable {rules : Rules} {ok : Parser → Prop} [DecidablePred ok] {p : Parser} {s : State}
  {j : Journal}

theorem RunsOnly.of_isPrimitive (hp : p.IsPrimitive) (hok : ok p) : p.RunsOnly rules ok s j := by
  intro cause n
  cases n with
  | zero => rfl
  | succ n =>
    rw [checked, if_pos hok, parse]
    simp only [if_true]
    rw [bind_pure]
    cases p
    all_goals first
      | rfl
      | exact hp.elim

theorem RunsOnly.chain {first : Parser} {next : State → Suggestions → Parser}
    (hok : ok (.chain first next)) (hfirst : first.RunsOnly rules ok s j)
    (hnext : ∀ t k, Returns rules first s j t k → t.isError = false →
      (next t (k.table t.registry)).RunsOnly rules ok t k) :
    (Parser.chain first next).RunsOnly rules ok s j := by
  intro cause n
  cases n with
  | zero => rfl
  | succ n =>
    rw [checked, if_pos hok, parse]
    simp only [if_true]
    rw [bind_pure, step, step, Effect.bind_apply, Effect.bind_apply, hfirst cause n]
    cases hn : parse rules n first s j with
    | done t k =>
      dsimp only
      cases ht : t.isError with
      | true => rw [State.unlessError_of_isError ht, State.unlessError_of_isError ht]
      | false =>
        rw [State.unlessError_of_live ht, State.unlessError_of_live ht]
        exact hnext t k ⟨n, hn⟩ ht cause n
    | fault cause => rfl
    | outOfFuel => rfl

end RunsOnly

end Parser

namespace Simulation

variable {σ : Simulation} {rules : Rules} {p : Parser} {s s' : State} {node : Parser → Prop}
  {given : Parser → State → Prop} {kept : Parser → State → State → Prop}
  [∀ p, DecidablePred (given p)] [∀ p s t, Decidable (kept p s t)]

theorem checked_couples (hnode : ∀ q, node q → σ.Admits q)
    (hgiven : ∀ q s s', node q → σ.state s s' → given q s)
    (hkept : ∀ q s t t', σ.state t t' → kept q s t) (cause : State → Fault)
    (hp : p.Throughout rules σ.Sees node) (n : Nat) (h : σ.state s s') :
    σ.Couples σ.state (Parser.checked rules given kept cause n p s)
      (Parser.parse rules n p s') := by
  -- On the fuel: the check before a step passes by assumption and the one after it by the step.
  induction n generalizing p s s' with
  | zero => exact Bond.Couples.exhausted
  | succ n ih =>
    have hparse : Parser.parse rules (n + 1) p s' =
        Parser.step (Parser.parse rules n) rules n p s' >>= pure := by
      rw [bind_pure, Parser.parse]
    rw [Parser.checked, if_pos (hgiven p s s' hp.self h), hparse]
    apply Bond.Couples.bind
    . apply Simulation.step_of_parts (hnode p hp.self) _ n h
      intro q hq t t' ht
      exact ih (hp.part hq) ht
    . intro t t' ht
      rw [if_pos (hkept p s t t' ht)]
      exact Bond.Couples.pure ht

theorem checked_eq (hnode : ∀ q, node q → σ.Admits q)
    (hgiven : ∀ q s s', node q → σ.state s s' → given q s)
    (hkept : ∀ q s t t', σ.state t t' → kept q s t) (hstate : ∀ s s', σ.state s s' → s = s')
    (hjournal : ∀ j j', σ.journal j j' → j = j') (hfault : ∀ c c', σ.fault c c' → c = c')
    (cause : State → Fault) (hp : p.Throughout rules σ.Sees node) (n : Nat) (h : σ.state s s)
    {j : Journal} (hj : σ.journal j j) :
    Parser.checked rules given kept cause n p s j = Parser.parse rules n p s j :=
  (checked_couples hnode hgiven hkept cause hp n h j j hj).eq hstate hjournal hfault

end Simulation

structure Invariant where
  holds : State → Prop
  withResult {s : State} (h : holds s) (value : Value) : holds (s.withResult value)
  fail {s : State} (h : holds s) (message : String) : holds (s.fail message)
  withDiagnosticsOf {s t : State} (h : holds s) (ht : holds t) : holds (s.withDiagnosticsOf t)
  consume {s : State} (h : holds s) {front back : List Char} (hrest : s.rest = front ++ back) :
    ∃ t, s.consume (Text.size front) = pure t ∧ holds t

namespace Invariant

variable (I : Invariant)

def simulation (fault : Fault → Fault → Prop := fun _ _ => False) : Simulation where
  journal := Eq
  fault := fault
  state s s' := s = s' ∧ I.holds s
  told t t' := t = t' ∧ I.holds t
  table := Eq
  isError_eq h := by rw [h.1]
  result_eq h := by rw [h.1]
  rest_eq h := by rw [h.1]
  isAtEnd_eq h := by rw [h.1]
  withResult h value := ⟨by rw [h.1], I.withResult h.2 value⟩
  fail h ht message := ⟨by rw [h.1, ht.1], I.fail ht.2 _⟩
  told_of_state h := h
  told_further hbest h := by
    refine ⟨by rw [hbest.1, h.1], ?_⟩
    unfold Parser.further
    dsimp
    split
    . exact h.2
    . exact hbest.2
  withDiagnosticsOf h ht := ⟨by rw [h.1, ht.1], I.withDiagnosticsOf h.2 ht.2⟩
  consume h _ _ hrest := by
    obtain ⟨rfl, hs⟩ := h
    obtain ⟨t, ht, hholds⟩ := I.consume hs hrest
    rw [ht]
    exact Bond.Couples.pure ⟨rfl, hholds⟩
  miss h expected pattern := by
    obtain ⟨rfl, hs⟩ := h
    rintro j _ rfl
    exact .done ⟨rfl, I.fail hs _⟩ rfl
  countOpened h := by rw [h]
  noAlternative h j j' hj n := by rw [h.1, hj]
  suggestions h j j' hj := by rw [h.1, hj]

theorem eq_of_state (s s' : State) (h : I.simulation.state s s') : s = s' :=
  h.1

theorem eq_of_table (t t' : Suggestions) (h : I.simulation.table t t') : t = t' :=
  h

theorem sees_iff {s : State} : I.simulation.Sees s ↔ I.holds s := by
  constructor
  . rintro ⟨_, rfl, hs⟩
    exact hs
  . intro hs
    exact ⟨s, rfl, hs⟩

def Allows (p : Parser) : Prop :=
  (∀ f, p ≠ .transform f) ∧
    ∀ saved, p = .setState saved → ∀ s, I.holds s → I.holds (saved.withRegistryOf s)

theorem admits {p : Parser} (hp : I.Allows p) {fault : Fault → Fault → Prop} :
    (I.simulation fault).Admits p := by
  have hchooses := Parser.ChoosesBy.of_eq I.eq_of_state I.eq_of_table p
  cases p with
  | setState saved =>
    rintro s _ ⟨rfl, hs⟩
    exact ⟨rfl, hp.2 saved rfl s hs⟩
  | chain first next => exact hchooses
  | mapError body f =>
    rintro s _ message _ ⟨rfl, hs⟩ h h'
    obtain rfl := Option.some.inj (h.symm.trans h')
    exact ⟨rfl, I.fail hs _⟩
  | contextual body => exact hchooses
  | transform f => exact absurd rfl (hp.1 f)
  | _ => trivial

variable {I} {rules : Rules} {p : Parser} {s : State} {ok : Parser → Prop}

theorem throughout_sees (hp : p.Throughout rules I.holds ok) :
    p.Throughout rules I.simulation.Sees ok := by
  refine hp.mono ?_ fun _ hq => hq
  intro s hs
  exact I.sees_iff.mp hs

theorem checked_eq {given : Parser → State → Prop} {kept : Parser → State → State → Prop}
    [∀ p, DecidablePred (given p)] [∀ p s t, Decidable (kept p s t)]
    (hok : ∀ q, ok q → I.Allows q) (hgiven : ∀ q s, ok q → I.holds s → given q s)
    (hkept : ∀ q s t, I.holds t → kept q s t) (cause : State → Fault)
    (hp : p.Throughout rules I.holds ok) (n : Nat) (hs : I.holds s) (j : Journal) :
    Parser.checked rules given kept cause n p s j = Parser.parse rules n p s j := by
  apply Simulation.checked_eq (σ := I.simulation) _ _ _ _ _ _ cause (throughout_sees hp) n
    ⟨rfl, hs⟩ rfl
  . intro q hq
    exact I.admits (hok q hq)
  . intro q s _ hq h
    exact hgiven q s hq h.2
  . intro q s t _ h
    exact hkept q s t h.2
  . exact I.eq_of_state
  . intro _ _ h
    exact h
  . intro _ _ h
    exact h.elim

theorem guarded_eq [DecidablePred I.holds] (hok : ∀ q, ok q → I.Allows q)
    (hp : p.Throughout rules I.holds ok) (n : Nat) (hs : I.holds s) (j : Journal) :
    Parser.guarded rules I.holds n p s j = Parser.parse rules n p s j :=
  checked_eq hok (fun _ _ _ h => h) (fun _ _ _ h => h) _ hp n hs j

theorem runsOnly [DecidablePred ok] (hok : ∀ q, ok q → I.Allows q)
    (hp : p.Throughout rules I.holds ok) (hs : I.holds s) (j : Journal) :
    p.RunsOnly rules ok s j := by
  intro cause n
  exact checked_eq hok (fun _ _ hq _ => hq) (fun _ _ _ _ => trivial) cause hp n hs j

section Always

variable [DecidablePred ok] [DecidablePred I.holds]

theorem checked_couples (hok : ∀ q, ok q → I.Allows q) (cause : State → Fault) (n : Nat)
    (hs : I.holds s) :
    (I.simulation fun c c' => c = c' ∧ ∃ t, cause t = c).Couples I.simulation.state
      (Parser.checked rules (fun q _ => ok q) (fun _ _ _ => True) cause n p s)
      (Parser.checked rules (fun q t => ok q ∧ I.holds t) (fun _ _ => I.holds) cause n p s) := by
  induction n generalizing p s with
  | zero => exact Bond.Couples.exhausted
  | succ n ih =>
    rw [Parser.checked, Parser.checked]
    by_cases hp : ok p
    . rw [if_pos hp, if_pos ⟨hp, hs⟩]
      apply Bond.Couples.bind
      . apply Simulation.step_of_parts (I.admits (hok p hp)) _ n ⟨rfl, hs⟩
        rintro q - t _ ⟨rfl, ht⟩
        exact ih ht
      . rintro t _ ⟨rfl, ht⟩
        rw [if_pos trivial, if_pos ht]
        exact Bond.Couples.pure ⟨rfl, ht⟩
    . rw [if_neg hp, if_neg fun h => hp h.1]
      exact Bond.Couples.raise ⟨rfl, s, rfl⟩

theorem always_holds (hok : ∀ q, ok q → I.Allows q) (hs : I.holds s) {j : Journal}
    (hp : p.RunsOnly rules ok s j) :
    (∀ n cause, Parser.parse rules n p s j ≠ .fault cause) ∧
      p.Always rules (fun q t => ok q ∧ I.holds t) (fun _ _ => I.holds) s j ∧
      ∀ t k, Parser.Returns rules p s j t k → I.holds t := by
  have hcouples (cause : State → Fault) (n : Nat) :=
    @checked_couples I rules p s ok _ _ hok cause n hs j j rfl
  have halways : p.Always rules (fun q t => ok q ∧ I.holds t) (fun _ _ => I.holds) s j := by
    intro cause n
    have heq := (hcouples cause n).eq (fun _ _ h => h.1) (fun _ _ h => h) fun _ _ h => h.1
    rw [← heq, hp cause n]
  refine ⟨?_, halways, ?_⟩
  . intro n cause hfault
    obtain ⟨other, hother⟩ : ∃ other, other ≠ cause := by
      cases cause with
      | pastEnd _ _ => exact ⟨.splitCharacter 0, by simp⟩
      | splitCharacter _ => exact ⟨.pastEnd 0 0, by simp⟩
    have h := hcouples (fun _ => other) n
    rw [hp, halways, hfault] at h
    cases h with
    | fault h =>
      obtain ⟨-, _, h⟩ := h
      exact hother h
  . rintro t k ⟨n, hn⟩
    have h := hcouples (fun _ => default) n
    rw [hp, halways, hn] at h
    cases h with
    | done ht _ => exact ht.2

end Always

end Invariant
end Waymark
