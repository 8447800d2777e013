import Waymark.Parser.Fuel
import Waymark.Proofs.Simulation

/-!
This module contains the proof that a simulation relates whole runs: what holds of the runs of the
parts holds of a step of the parser made of them, and so of every run.
-/

namespace Waymark
namespace Simulation

variable {σ : Simulation} {s s' : State}

theorem unlessError (h : σ.state s s') {x y : Effect State}
    (hxy : s.isError = false → σ.Couples σ.state x y) :
    σ.Couples σ.state (s.unlessError x) (s'.unlessError y) := by
  unfold State.unlessError
  apply Bond.Couples.ite (σ.isError_eq h)
  . intro _
    apply Bond.Couples.pure h
  . exact hxy

theorem consumeAll (h : σ.state s s') :
    σ.Couples σ.state (s.consume (Text.size s.rest)) (s'.consume (Text.size s'.rest)) := by
  rw [← σ.rest_eq h]
  have hrest : s.rest = s.rest ++ [] := by simp
  exact σ.consume h hrest

namespace Primitive

theorem literal (h : σ.state s s') (text : String) :
    σ.Couples σ.state (Parser.runLiteral text s) (Parser.runLiteral text s') := by
  unfold Parser.runLiteral
  rw [← σ.rest_eq h, ← σ.isAtEnd_eq h]
  apply Bond.Couples.ite rfl
  . intro _
    apply σ.miss h
  . intro _
    apply Bond.Couples.ite rfl
    . intro hp
      obtain ⟨back, hback⟩ := List.isPrefixOf_iff_prefix.mp hp
      apply σ.consume h hback.symm
    . intro _
      apply σ.miss h

theorem pattern (h : σ.state s s') (p : Pattern) :
    σ.Couples σ.state (Parser.runPattern p s) (Parser.runPattern p s') := by
  unfold Parser.runPattern
  rw [← σ.rest_eq h]
  split
  . next size hsize =>
    unfold Pattern.matchSize? at hsize
    obtain ⟨span, hspan, rfl⟩ := Option.map_eq_some_iff.mp hsize
    obtain ⟨before, found, after, hrest, -, hstop⟩ := Regex.eq_append_of_find? hspan
    rw [hstop]
    apply σ.consume h hrest
  . apply σ.miss h

theorem eatUntil (h : σ.state s s') (terminal : Regex) :
    σ.Couples σ.state (Parser.runEatUntil terminal s) (Parser.runEatUntil terminal s') := by
  unfold Parser.runEatUntil
  rw [← σ.rest_eq h]
  split
  . next span hspan =>
    obtain ⟨before, found, after, hrest, hstart, -⟩ := Regex.eq_append_of_find? hspan
    rw [hstart]
    rw [List.append_assoc] at hrest
    apply σ.consume h hrest
  . have := consumeAll h
    rw [← σ.rest_eq h] at this
    exact this

theorem anyChar (h : σ.state s s') :
    σ.Couples σ.state (Parser.runAnyChar s) (Parser.runAnyChar s') := by
  unfold Parser.runAnyChar
  rw [← σ.rest_eq h]
  split
  . next c cs hrest =>
    have hsize : c.utf8Size = Text.size [c] := by simp
    rw [hsize]
    apply σ.consume h hrest
  . apply σ.miss h

theorem endOfInput (h : σ.state s s') :
    σ.Couples σ.state (Parser.runEndOfInput s) (Parser.runEndOfInput s') := by
  unfold Parser.runEndOfInput
  apply Bond.Couples.ite (σ.isAtEnd_eq h)
  . intro _
    apply Bond.Couples.pure
    apply σ.withResult h
  . intro _
    apply σ.miss h

theorem peek (h : σ.state s s') :
    σ.Couples σ.state (Parser.runPeek s) (Parser.runPeek s') := by
  unfold Parser.runPeek
  rw [← σ.rest_eq h]
  split
  all_goals
    apply Bond.Couples.pure
    apply σ.withResult h

theorem step {p : Parser} (hadmits : σ.Admits p) (hp : p.IsPrimitive) (h : σ.state s s')
    {run run' : Parser → State → Effect State} {rules : Rules} (n : Nat) :
    σ.Couples σ.state (Parser.step run rules n p s) (Parser.step run' rules n p s') := by
  cases p with
  | literal text => exact unlessError h fun _ => literal h text
  | pattern p => exact unlessError h fun _ => pattern h p
  | eatUntil terminal => exact unlessError h fun _ => eatUntil h terminal
  | anyChar => exact unlessError h fun _ => anyChar h
  | endOfInput => exact unlessError h fun _ => endOfInput h
  | peek => exact unlessError h fun _ => peek h
  | getState => exact Bond.Couples.pure h
  | setState saved => exact Bond.Couples.pure (hadmits s s' h)
  | succeed value => exact unlessError h fun _ => Bond.Couples.pure (σ.withResult h value)
  | fail message => exact unlessError h fun _ => Bond.Couples.pure (σ.fail h h fun _ => message)
  | _ => exact hp.elim

end Primitive

def Gathered (σ : Simulation) (a b : State × List Value) : Prop :=
  σ.state a.1 b.1 ∧ a.2 = b.2

inductive Chosen (σ : Simulation) :
    Except (Option State) State → Except (Option State) State → Prop where
  | ok {t t' : State} (h : σ.state t t') : Chosen σ (.ok t) (.ok t')
  | error {best best' : Option State} (h : Option.Rel σ.told best best') :
      Chosen σ (.error best) (.error best')

theorem told_further' {best best' : Option State} {t t' : State}
    (hbest : Option.Rel σ.told best best') (h : σ.state t t') :
    σ.told (Parser.further best t) (Parser.further best' t') := by
  cases hbest with
  | none => exact σ.told_of_state h
  | some hbest => exact σ.told_further hbest h

theorem state_noAlternative (h : σ.state s s') {best best' : Option State}
    (hbest : Option.Rel σ.told best best') :
    σ.state (Parser.noAlternative s best) (Parser.noAlternative s' best') := by
  let message (i : Nat) := s!"choice: unable to match with any parser at index {i}"
  cases hbest with
  | none => exact σ.fail h h message
  | some hbest => exact σ.fail h (σ.withDiagnosticsOf h hbest) message

theorem Gathered.withSeq {a b : State × List Value} (h : σ.Gathered a b) :
    σ.state (a.1.withResult (.seq a.2)) (b.1.withResult (.seq b.2)) := by
  rw [← h.2]
  apply σ.withResult h.1

theorem Gathered.requireSome {a b : State × List Value} (h : σ.Gathered a b) (hs : σ.state s s')
    (message : Nat → String) :
    σ.state (Parser.requireSome (message s.index) a) (Parser.requireSome (message s'.index) b) := by
  obtain ⟨t, values⟩ := a
  obtain ⟨t', values'⟩ := b
  obtain ⟨ht, rfl⟩ := h
  cases values with
  | nil => exact σ.fail hs ht message
  | cons value values => exact σ.withResult ht _

section Parts

variable {run run' : Parser → State → Effect State}

def Respects (σ : Simulation) (run run' : Parser → State → Effect State) (p : Parser) : Prop :=
  ∀ s s', σ.state s s' → σ.Couples σ.state (run p s) (run' p s')

theorem proceed {p : Parser} (hp : σ.Respects run run' p) (h : σ.state s s')
    {k k' : State → Effect State}
    (hk : ∀ t t', σ.state t t' → t.isError = false → σ.Couples σ.state (k t) (k' t')) :
    σ.Couples σ.state (run p s >>= fun t => t.unlessError (k t))
      (run' p s' >>= fun t => t.unlessError (k' t)) := by
  apply Bond.Couples.bind (hp s s' h)
  intro t t' ht
  apply unlessError ht
  intro hlive
  exact hk t t' ht hlive

theorem runAll {ps : List Parser} (hps : ∀ p ∈ ps, σ.Respects run run' p) (h : σ.state s s') :
    σ.Couples σ.Gathered (Parser.runAll run ps s) (Parser.runAll run' ps s') := by
  induction ps generalizing s s' with
  | nil => exact Bond.Couples.pure ⟨h, rfl⟩
  | cons p ps ih =>
    apply Bond.Couples.bind (hps p (by simp) s s' h)
    intro t t' ht
    apply Bond.Couples.ite (σ.isError_eq ht)
    . intro _
      exact Bond.Couples.pure ⟨ht, rfl⟩
    . intro _
      apply Bond.Couples.bind (ih (fun q hq => hps q (by simp [hq])) ht)
      intro a b hab
      apply Bond.Couples.pure
      exact ⟨hab.1, by rw [σ.result_eq ht, hab.2]⟩

theorem runAllAfter {separator : Parser} (hseparator : σ.Respects run run' separator)
    {ps : List Parser} (hps : ∀ p ∈ ps, σ.Respects run run' p) (h : σ.state s s') :
    σ.Couples σ.Gathered (Parser.runAllAfter run separator ps s)
      (Parser.runAllAfter run' separator ps s') := by
  induction ps generalizing s s' with
  | nil => exact Bond.Couples.pure ⟨h, rfl⟩
  | cons p ps ih =>
    apply Bond.Couples.bind (hseparator s s' h)
    intro u u' hu
    apply Bond.Couples.ite (σ.isError_eq hu)
    . intro _
      exact Bond.Couples.pure ⟨hu, rfl⟩
    . intro _
      apply Bond.Couples.bind (hps p (by simp) u u' hu)
      intro t t' ht
      apply Bond.Couples.ite (σ.isError_eq ht)
      . intro _
        exact Bond.Couples.pure ⟨ht, rfl⟩
      . intro _
        apply Bond.Couples.bind (ih (fun q hq => hps q (by simp [hq])) ht)
        intro a b hab
        apply Bond.Couples.pure
        exact ⟨hab.1, by rw [σ.result_eq ht, hab.2]⟩

theorem runSeparated {separator : Parser} (hseparator : σ.Respects run run' separator)
    {ps : List Parser} (hps : ∀ p ∈ ps, σ.Respects run run' p) (h : σ.state s s') :
    σ.Couples σ.Gathered (Parser.runSeparated run separator ps s)
      (Parser.runSeparated run' separator ps s') := by
  cases ps with
  | nil => exact Bond.Couples.pure ⟨h, rfl⟩
  | cons p ps =>
    apply Bond.Couples.bind (hps p (by simp) s s' h)
    intro t t' ht
    apply Bond.Couples.ite (σ.isError_eq ht)
    . intro _
      exact Bond.Couples.pure ⟨ht, rfl⟩
    . intro _
      apply Bond.Couples.bind (runAllAfter hseparator (fun q hq => hps q (by simp [hq])) ht)
      intro a b hab
      apply Bond.Couples.pure
      exact ⟨hab.1, by rw [σ.result_eq ht, hab.2]⟩

theorem firstSuccess {ps : List Parser} (hps : ∀ p ∈ ps, σ.Respects run run' p)
    (h : σ.state s s') {best best' : Option State} (hbest : Option.Rel σ.told best best') :
    σ.Couples σ.Chosen (Parser.firstSuccess run s ps best)
      (Parser.firstSuccess run' s' ps best') := by
  induction ps generalizing best best' with
  | nil => exact Bond.Couples.pure (.error hbest)
  | cons p ps ih =>
    apply Bond.Couples.bind (hps p (by simp) s s' h)
    intro t t' ht
    apply Bond.Couples.ite (σ.isError_eq ht)
    . intro _
      apply ih (fun q hq => hps q (by simp [hq]))
      exact .some (told_further' hbest ht)
    . intro _
      exact Bond.Couples.pure (.ok ht)

theorem collect {p : Parser} (hp : σ.Respects run run' p) (n : Nat) (h : σ.state s s') :
    σ.Couples σ.Gathered (Parser.collect run p n s) (Parser.collect run' p n s') := by
  induction n generalizing s s' with
  | zero => exact Bond.Couples.exhausted
  | succ n ih =>
    apply Bond.Couples.bind (hp s s' h)
    intro t t' ht
    apply Bond.Couples.ite (σ.isError_eq ht)
    . intro _
      exact Bond.Couples.pure ⟨σ.withDiagnosticsOf h (σ.told_of_state ht), rfl⟩
    . intro _
      apply Bond.Couples.bind (ih ht)
      intro a b hab
      apply Bond.Couples.pure
      exact ⟨hab.1, by rw [σ.result_eq ht, hab.2]⟩

theorem collectSeparated {separator p : Parser} (hseparator : σ.Respects run run' separator)
    (hp : σ.Respects run run' p) (n : Nat) {last last' : State} (hlast : σ.state last last')
    (h : σ.state s s') :
    σ.Couples σ.Gathered (Parser.collectSeparated run separator p n last s)
      (Parser.collectSeparated run' separator p n last' s') := by
  induction n generalizing last last' s s' with
  | zero => exact Bond.Couples.exhausted
  | succ n ih =>
    apply Bond.Couples.bind (hp s s' h)
    intro t t' ht
    apply Bond.Couples.ite (σ.isError_eq ht)
    . intro _
      exact Bond.Couples.pure ⟨σ.withDiagnosticsOf hlast (σ.told_of_state ht), rfl⟩
    . intro _
      apply Bond.Couples.bind (hseparator t t' ht)
      intro u u' hu
      apply Bond.Couples.ite (σ.isError_eq hu)
      . intro _
        apply Bond.Couples.pure
        exact ⟨σ.withDiagnosticsOf ht (σ.told_of_state hu), by rw [σ.result_eq ht]⟩
      . intro _
        apply Bond.Couples.bind (ih ht hu)
        intro a b hab
        apply Bond.Couples.pure
        exact ⟨hab.1, by rw [σ.result_eq ht, hab.2]⟩

theorem suggestionsOf (h : σ.state s s') :
    σ.Couples σ.table s.suggestions s'.suggestions := by
  intro j j' hj
  exact .done (σ.suggestions h hj) hj

theorem follow : ∀ {body : Body} (_ : body.Unswayed σ.state σ.table)
    (_ : ∀ p, body.Binds σ.Sees p → σ.Respects run run' p) {s s' : State} (_ : σ.state s s'),
    σ.Couples σ.state (Parser.follow run body s) (Parser.follow run' body s')
  | .finish value, _, _, s, s', h => by
    apply Bond.Couples.pure
    rw [← σ.isError_eq h]
    split
    . exact h
    . exact σ.withResult h value
  | .halt, _, _, s, s', h => by
    apply Bond.Couples.pure h
  | .bind p next, .bind hsame hnext, hparts, s, s', h => by
    apply Bond.Couples.bind (hparts p .bind s s' h)
    intro t t' ht
    apply Bond.Couples.bind (suggestionsOf ht)
    intro table table' htable
    rw [← hsame t t' table table' ht htable]
    apply follow (hnext t table) _ ht
    intro q hq
    exact hparts q (.bindNext ⟨t', ht⟩ hq)
  | .fail message next, .fail hsame hnext, hparts, s, s', h => by
    have ht := σ.fail h h fun _ => message
    apply Bond.Couples.bind (suggestionsOf ht)
    intro table table' htable
    rw [← hsame _ _ table table' ht htable]
    apply follow (hnext _ table) _ ht
    intro q hq
    exact hparts q (.failNext ⟨_, ht⟩ hq)

variable {rules : Rules} {p : Parser}

theorem step_of_parts (hnode : σ.Admits p)
    (hpart : ∀ q, Parser.Part rules σ.Sees p q → σ.Respects run run' q) (n : Nat)
    (h : σ.state s s') :
    σ.Couples σ.state (Parser.step run rules n p s) (Parser.step run' rules n p s') := by
  have hinner (q : Parser) (hq : q ∈ p.inner) : σ.Respects run run' q := hpart q (.inner hq)
  cases p with
  | sequence ps =>
    apply unlessError h
    intro _
    apply Bond.Couples.bind (runAll hinner h)
    intro a b hab
    apply unlessError hab.1
    intro _
    exact Bond.Couples.pure hab.withSeq
  | sequenceSepBy separator ps =>
    apply unlessError h
    intro _
    apply Bond.Couples.bind
      (runSeparated (hinner separator (by simp [Parser.inner]))
        (fun q hq => hinner q (by simp [Parser.inner, hq])) h)
    intro a b hab
    apply unlessError hab.1
    intro _
    exact Bond.Couples.pure hab.withSeq
  | choice ps =>
    apply unlessError h
    intro _
    apply Bond.Couples.bind (firstSuccess hinner h .none)
    intro a b hab
    cases hab with
    | ok ht => exact Bond.Couples.pure ht
    | error hbest =>
      apply Bond.Couples.bind (Bond.Couples.update fun j j' hj => σ.noAlternative h hj ps.length)
      intro _ _ _
      exact Bond.Couples.pure (state_noAlternative h hbest)
  | many body =>
    apply unlessError h
    intro _
    apply Bond.Couples.bind (collect (hinner body (by simp [Parser.inner])) n h)
    intro a b hab
    exact Bond.Couples.pure hab.withSeq
  | many1 body =>
    apply unlessError h
    intro _
    apply Bond.Couples.bind (collect (hinner body (by simp [Parser.inner])) n h)
    intro a b hab
    apply Bond.Couples.pure
    exact hab.requireSome h fun i =>
      s!"many_one: unable to match the input parser at least once at index {i}"
  | sepBy separator body =>
    apply unlessError h
    intro _
    apply Bond.Couples.bind
      (collectSeparated (hinner separator (by simp [Parser.inner]))
        (hinner body (by simp [Parser.inner])) n h h)
    intro a b hab
    exact Bond.Couples.pure hab.withSeq
  | sepBy1 separator body =>
    apply unlessError h
    intro _
    apply Bond.Couples.bind
      (collectSeparated (hinner separator (by simp [Parser.inner]))
        (hinner body (by simp [Parser.inner])) n h h)
    intro a b hab
    apply Bond.Couples.pure
    exact hab.requireSome h fun i => s!"sep_by_one: unable to capture any results at index {i}"
  | between opening content closing =>
    apply proceed (hinner opening (by simp [Parser.inner])) h
    intro t t' ht _
    apply proceed (hinner content (by simp [Parser.inner])) ht
    intro u u' hu _
    apply proceed (hinner closing (by simp [Parser.inner])) hu
    intro v v' hv _
    apply Bond.Couples.pure
    rw [← σ.result_eq hu]
    exact σ.withResult hv u.result
  | optional body =>
    apply unlessError h
    intro _
    apply Bond.Couples.bind (hinner body (by simp [Parser.inner]) s s' h)
    intro t t' ht
    apply Bond.Couples.pure
    rw [← σ.isError_eq ht]
    split
    . exact σ.withResult h .null
    . exact ht
  | keepLeft left right =>
    apply proceed (hinner left (by simp [Parser.inner])) h
    intro t t' ht _
    apply proceed (hinner right (by simp [Parser.inner])) ht
    intro u u' hu _
    apply Bond.Couples.pure
    rw [← σ.result_eq ht]
    exact σ.withResult hu t.result
  | keepRight left right =>
    apply proceed (hinner left (by simp [Parser.inner])) h
    intro t t' ht _
    exact hinner right (by simp [Parser.inner]) t t' ht
  | map body f =>
    apply proceed (hinner body (by simp [Parser.inner])) h
    intro t t' ht _
    apply Bond.Couples.pure
    unfold State.mapResult
    rw [← σ.result_eq ht]
    exact σ.withResult ht (f t.result)
  | chain first next =>
    apply proceed (hinner first (by simp [Parser.inner])) h
    intro t t' ht hlive
    apply Bond.Couples.bind (suggestionsOf ht)
    intro table table' htable
    rw [← hnode t t' table table' ht htable]
    exact hpart (next t table) (.next ⟨t', ht⟩ hlive) t t' ht
  | mapError body f =>
    apply Bond.Couples.bind (hinner body (by simp [Parser.inner]) s s' h)
    intro t t' ht
    have herror := σ.isError_eq ht
    unfold State.isError at herror
    cases hmessage : t.error with
    | none =>
      cases hmessage' : t'.error with
      | none => exact Bond.Couples.pure ht
      | some message' => simp [hmessage, hmessage'] at herror
    | some message =>
      cases hmessage' : t'.error with
      | none => simp [hmessage, hmessage'] at herror
      | some message' =>
        exact Bond.Couples.pure (hnode t t' message message' ht hmessage hmessage')
  | deferred body =>
    apply Bond.Couples.bind (Bond.Couples.update fun j j' hj => σ.countOpened hj)
    intro _ _ _
    exact hinner body (by simp [Parser.inner]) s s' h
  | rule name =>
    apply Bond.Couples.bind (Bond.Couples.update fun j j' hj => σ.countOpened hj)
    intro _ _ _
    exact hpart _ .rule s s' h
  | contextual body =>
    apply unlessError h
    intro hlive
    apply Bond.Couples.bind (suggestionsOf h)
    intro table table' htable
    rw [← hnode.1 s s' table table' h htable]
    apply follow (hnode.2 s table) _ h
    intro q hq
    exact hpart q (.contextual ⟨s', h⟩ hlive hq)
  | transform f => exact hnode s s' h
  | _ => exact Primitive.step hnode trivial h n

theorem step (hrun : ∀ q, σ.Accepts rules q → σ.Respects run run' q) (n : Nat)
    (hp : σ.Accepts rules p) (h : σ.state s s') :
    σ.Couples σ.state (Parser.step run rules n p s) (Parser.step run' rules n p s') := by
  apply step_of_parts hp.self _ n h
  intro q hq
  exact hrun q (hp.part hq)

end Parts

theorem parse {rules : Rules} {p : Parser} (hp : σ.Accepts rules p) (n : Nat) (h : σ.state s s') :
    σ.Couples σ.state (Parser.parse rules n p s) (Parser.parse rules n p s') := by
  induction n generalizing p s s' with
  | zero => exact Bond.Couples.exhausted
  | succ n ih =>
    apply step _ n hp h
    intro q hq t t' ht
    exact ih hq ht

variable {rules : Rules} {p : Parser} {j j' : Journal}

theorem returns (hp : σ.Accepts rules p) (h : σ.state s s') (hj : σ.journal j j') {t : State}
    {k : Journal} (ht : Parser.Returns rules p s j t k) :
    ∃ t' k', Parser.Returns rules p s' j' t' k' ∧ σ.state t t' ∧ σ.journal k k' := by
  obtain ⟨n, hn⟩ := ht
  have hmeets := parse hp n h j j' hj
  rw [hn] at hmeets
  generalize hn' : Parser.parse rules n p s' j' = outcome at hmeets
  cases hmeets with
  | done ht hk => exact ⟨_, _, ⟨n, hn'⟩, ht, hk⟩

theorem returns_right (hp : σ.Accepts rules p) (h : σ.state s s') (hj : σ.journal j j') {t' : State}
    {k' : Journal} (ht : Parser.Returns rules p s' j' t' k') :
    ∃ t k, Parser.Returns rules p s j t k := by
  obtain ⟨n, hn'⟩ := ht
  have hmeets := parse hp n h j j' hj
  rw [hn'] at hmeets
  generalize hn : Parser.parse rules n p s j = outcome at hmeets
  cases hmeets with
  | done ht hk => exact ⟨_, _, n, hn⟩

theorem returns_iff (hp : σ.Accepts rules p) (h : σ.state s s') (hj : σ.journal j j') :
    (∃ t k, Parser.Returns rules p s j t k) ↔ ∃ t' k', Parser.Returns rules p s' j' t' k' := by
  constructor
  . rintro ⟨t, k, ht⟩
    obtain ⟨t', k', ht', -⟩ := returns hp h hj ht
    exact ⟨t', k', ht'⟩
  . rintro ⟨t', k', ht'⟩
    exact returns_right hp h hj ht'

theorem related_of_returns (hp : σ.Accepts rules p) (h : σ.state s s') (hj : σ.journal j j')
    {t t' : State} {k k' : Journal} (ht : Parser.Returns rules p s j t k)
    (ht' : Parser.Returns rules p s' j' t' k') : σ.state t t' ∧ σ.journal k k' := by
  obtain ⟨u, l, hu, hstate, hjournal⟩ := returns hp h hj ht
  obtain ⟨rfl, rfl⟩ := hu.unique ht'
  exact ⟨hstate, hjournal⟩

theorem diverge_or_return (hfault : ∀ c c', ¬σ.fault c c') (hp : σ.Accepts rules p)
    (h : σ.state s s') (hj : σ.journal j j') :
    (∀ n, Parser.parse rules n p s j = .outOfFuel ∧ Parser.parse rules n p s' j' = .outOfFuel) ∨
      ∃ t k t' k', Parser.Returns rules p s j t k ∧ Parser.Returns rules p s' j' t' k' ∧
        σ.state t t' ∧ σ.journal k k' := by
  by_cases hreturns : ∃ t k, Parser.Returns rules p s j t k
  . right
    obtain ⟨t, k, ht⟩ := hreturns
    obtain ⟨t', k', ht', hstate, hjournal⟩ := returns hp h hj ht
    exact ⟨t, k, t', k', ht, ht', hstate, hjournal⟩
  . left
    intro n
    have hmeets := parse hp n h j j' hj
    generalize hx : Parser.parse rules n p s j = x at hmeets
    generalize Parser.parse rules n p s' j' = y at hmeets
    cases hmeets with
    | done _ _ => exact absurd ⟨_, _, n, hx⟩ hreturns
    | fault hc => exact absurd hc (hfault _ _)
    | outOfFuel => exact ⟨rfl, rfl⟩

theorem fault_iff (hfault : ∀ c c', σ.fault c c' → c = c') (hp : σ.Accepts rules p)
    (h : σ.state s s') (hj : σ.journal j j') (cause : Fault) :
    (∃ n, Parser.parse rules n p s j = .fault cause) ↔
      ∃ n, Parser.parse rules n p s' j' = .fault cause := by
  apply exists_congr
  intro n
  have hmeets := parse hp n h j j' hj
  generalize Parser.parse rules n p s j = x at hmeets
  generalize Parser.parse rules n p s' j' = y at hmeets
  cases hmeets with
  | done _ _ => simp
  | fault hc => rw [hfault _ _ hc]
  | outOfFuel => simp

end Simulation
end Waymark
