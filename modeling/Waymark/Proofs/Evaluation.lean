import Waymark.Proofs.Ascent

/-!
This module contains what parsers do when nothing bounds their runs, and the equations that say so
parser by parser. A run that never ends is out of fuel however much it is given.
-/

namespace Waymark
namespace Parser

open Effect

section Continuity

variable {run : Nat → Parser → State → Effect State} {run' : Parser → State → Effect State}

theorem runAll_ascends (h : ∀ p s, Ascends (fun n => run n p s) (run' p s)) (ps : List Parser)
    (s : State) : Ascends (fun n => runAll (run n) ps s) (runAll run' ps s) := by
  induction ps generalizing s with
  | nil => apply Ascends.const
  | cons p ps ih =>
    apply Ascends.bind (h p s)
    intro t
    apply Ascends.ite
    . apply Ascends.const
    . apply Ascends.bind (ih t)
      intro a
      apply Ascends.const

theorem runAllAfter_ascends (h : ∀ p s, Ascends (fun n => run n p s) (run' p s))
    (separator : Parser) (ps : List Parser) (s : State) :
    Ascends (fun n => runAllAfter (run n) separator ps s) (runAllAfter run' separator ps s) := by
  induction ps generalizing s with
  | nil => apply Ascends.const
  | cons p ps ih =>
    apply Ascends.bind (h separator s)
    intro between
    apply Ascends.ite
    . apply Ascends.const
    . apply Ascends.bind (h p between)
      intro t
      apply Ascends.ite
      . apply Ascends.const
      . apply Ascends.bind (ih t)
        intro a
        apply Ascends.const

theorem runSeparated_ascends (h : ∀ p s, Ascends (fun n => run n p s) (run' p s))
    (separator : Parser) (ps : List Parser) (s : State) :
    Ascends (fun n => runSeparated (run n) separator ps s) (runSeparated run' separator ps s) := by
  cases ps with
  | nil => apply Ascends.const
  | cons p ps =>
    apply Ascends.bind (h p s)
    intro t
    apply Ascends.ite
    . apply Ascends.const
    . apply Ascends.bind (runAllAfter_ascends h separator ps t)
      intro a
      apply Ascends.const

theorem firstSuccess_ascends (h : ∀ p s, Ascends (fun n => run n p s) (run' p s)) (s : State)
    (ps : List Parser) (best : Option State) :
    Ascends (fun n => firstSuccess (run n) s ps best) (firstSuccess run' s ps best) := by
  induction ps generalizing best with
  | nil => apply Ascends.const
  | cons p ps ih =>
    apply Ascends.bind (h p s)
    intro t
    apply Ascends.ite
    . apply ih
    . apply Ascends.const

theorem collect_ascends (h : ∀ p s, Ascends (fun n => run n p s) (run' p s)) (p : Parser) (m : Nat)
    (s : State) : Ascends (fun n => collect (run n) p m s) (collect run' p m s) := by
  induction m generalizing s with
  | zero => apply Ascends.const
  | succ m ih =>
    apply Ascends.bind (h p s)
    intro t
    apply Ascends.ite
    . apply Ascends.const
    . apply Ascends.bind (ih t)
      intro a
      apply Ascends.const

theorem collectSeparated_ascends (h : ∀ p s, Ascends (fun n => run n p s) (run' p s))
    (separator p : Parser) (m : Nat) (last s : State) :
    Ascends (fun n => collectSeparated (run n) separator p m last s)
      (collectSeparated run' separator p m last s) := by
  induction m generalizing last s with
  | zero => apply Ascends.const
  | succ m ih =>
    apply Ascends.bind (h p s)
    intro t
    apply Ascends.ite
    . apply Ascends.const
    . apply Ascends.bind (h separator t)
      intro between
      apply Ascends.ite
      . apply Ascends.const
      . apply Ascends.bind (ih t between)
        intro a
        apply Ascends.const

theorem follow_ascends (h : ∀ p s, Ascends (fun n => run n p s) (run' p s)) :
    ∀ (body : Body) (s : State), Ascends (fun n => follow (run n) body s) (follow run' body s)
  | .finish _, _ => by apply Ascends.const
  | .halt, _ => by apply Ascends.const
  | .bind p next, s => by
    apply Ascends.bind (h p s)
    intro t
    apply Ascends.bind (Ascends.const _)
    intro table
    apply follow_ascends h
  | .fail message next, s => by
    apply Ascends.bind (Ascends.const _)
    intro table
    apply follow_ascends h

theorem step_ascends (h : ∀ p s, Ascends (fun n => run n p s) (run' p s)) (rules : Rules) (m : Nat)
    (p : Parser) (s : State) :
    Ascends (fun n => step (run n) rules m p s) (step run' rules m p s) := by
  cases p with
  | sequence ps =>
    apply Ascends.unlessError
    apply Ascends.bind (runAll_ascends h ps s)
    intro a
    apply Ascends.const
  | sequenceSepBy separator ps =>
    apply Ascends.unlessError
    apply Ascends.bind (runSeparated_ascends h separator ps s)
    intro a
    apply Ascends.const
  | choice ps =>
    apply Ascends.unlessError
    apply Ascends.bind (firstSuccess_ascends h s ps none)
    intro a
    apply Ascends.const
  | many body =>
    apply Ascends.unlessError
    apply Ascends.bind (collect_ascends h body m s)
    intro a
    apply Ascends.const
  | many1 body =>
    apply Ascends.unlessError
    apply Ascends.bind (collect_ascends h body m s)
    intro a
    apply Ascends.const
  | sepBy separator body =>
    apply Ascends.unlessError
    apply Ascends.bind (collectSeparated_ascends h separator body m s s)
    intro a
    apply Ascends.const
  | sepBy1 separator body =>
    apply Ascends.unlessError
    apply Ascends.bind (collectSeparated_ascends h separator body m s s)
    intro a
    apply Ascends.const
  | between opening content closing =>
    apply Ascends.bind (h opening s)
    intro t
    apply Ascends.unlessError
    apply Ascends.bind (h content t)
    intro u
    apply Ascends.unlessError
    apply Ascends.bind (h closing u)
    intro v
    apply Ascends.const
  | optional body =>
    apply Ascends.unlessError
    apply Ascends.bind (h body s)
    intro t
    apply Ascends.const
  | keepLeft left right =>
    apply Ascends.bind (h left s)
    intro t
    apply Ascends.unlessError
    apply Ascends.bind (h right t)
    intro u
    apply Ascends.const
  | keepRight left right =>
    apply Ascends.bind (h left s)
    intro t
    apply Ascends.unlessError
    apply h
  | map body f =>
    apply Ascends.bind (h body s)
    intro t
    apply Ascends.const
  | chain first next =>
    apply Ascends.bind (h first s)
    intro t
    apply Ascends.unlessError
    apply Ascends.bind (Ascends.const _)
    intro table
    apply h
  | mapError body f =>
    apply Ascends.bind (h body s)
    intro t
    apply Ascends.const
  | deferred body =>
    apply Ascends.bind (Ascends.const _)
    intro _
    apply h
  | rule name =>
    apply Ascends.bind (Ascends.const _)
    intro _
    apply h
  | contextual body =>
    apply Ascends.unlessError
    apply Ascends.bind (Ascends.const _)
    intro table
    apply follow_ascends h
  | _ => apply Ascends.const

end Continuity

section Gather

variable {run : Parser → State → Effect State} {g : List Value → Value} {s : State}

def finishWith (g : List Value → Value) (gathered : State × List Value) : Effect State :=
  gathered.1.unlessError (pure (gathered.1.withResult (g gathered.2)))

theorem unlessError_finishWith (s : State) (values : List Value) :
    s.unlessError (finishWith g (s, values)) = finishWith g (s, values) := by
  unfold finishWith
  cases hs : s.isError with
  | true => rw [State.unlessError_of_isError hs, State.unlessError_of_isError hs]
  | false => rw [State.unlessError_of_live hs]

theorem runAll_nil_finishWith :
    (runAll run [] s >>= finishWith g) = finishWith g (s, []) := rfl

theorem runAll_cons_finishWith (p : Parser) (ps : List Parser) :
    (runAll run (p :: ps) s >>= finishWith g) = (do
      let t ← run p s
      t.unlessError (runAll run ps t >>= finishWith fun values => g (t.result :: values))) := by
  rw [runAll, bind_assoc]
  apply bind_congr
  intro t
  cases ht : t.isError with
  | true =>
    rw [State.unlessError_of_isError ht, if_pos rfl, pure_bind]
    exact State.unlessError_of_isError ht _
  | false =>
    rw [State.unlessError_of_live ht, if_neg Bool.false_ne_true, bind_assoc]
    rfl

end Gather

noncomputable def eval (rules : Rules) (p : Parser) (s : State) : Effect State :=
  limit fun n => parse rules n p s

variable {rules : Rules} {p : Parser} {s t : State} {j k : Journal}

theorem parse_ascends : Ascends (fun n => parse rules n p s) (eval rules p s) := by
  apply Ascends.limit
  intro n m hle
  exact parse_below rules hle p s

theorem step_eval_ascends :
    Ascends (fun m => step (eval rules) rules m p s) (eval rules p s) := by
  have hrefl (q : Parser) (u : State) : Below (eval rules q u) (eval rules q u) := Below.refl _
  have hrounds := Ascends.limit fun n m (hle : n ≤ m) => step_below hrefl rules hle p s
  have hparts (m : Nat) : Ascends (fun n => step (parse rules n) rules m p s)
      (step (eval rules) rules m p s) :=
    step_ascends (fun _ _ => parse_ascends) rules m p s
  have hmono (n m m' : Nat) (hle : m ≤ m') :
      Below (step (parse rules n) rules m p s) (step (parse rules n) rules m' p s) :=
    step_below (fun _ _ => Below.refl _) rules hle p s
  have hsteps : Ascends (fun n => step (parse rules n) rules n p s) (eval rules p s) :=
    parse_ascends.succ
  -- A run spends one fuel on both depth and rounds, which settles on what each settles on in turn.
  rw [hsteps.unique (Ascends.diagonal hparts hrounds hmono)]
  exact hrounds

theorem eval_eq_done_iff : eval rules p s j = .done t k ↔ Returns rules p s j t k := by
  constructor
  . intro h
    have hascends : Ascends (fun n => parse rules n p s) (eval rules p s) := parse_ascends
    obtain ⟨n, hn⟩ := hascends.settles j
    exact ⟨n, by rw [hn n (Nat.le_refl n), h]⟩
  . rintro ⟨n, hn⟩
    exact (parse_ascends.below n).eq_done hn

theorem eval_eq_outOfFuel_iff :
    eval rules p s j = .outOfFuel ↔ ∀ n, parse rules n p s j = .outOfFuel := by
  constructor
  . intro h n
    cases parse_ascends.below n j with
    | inl h' => exact h'
    | inr h' => rw [h', h]
  . intro h
    have hascends : Ascends (fun n => parse rules n p s) (eval rules p s) := parse_ascends
    obtain ⟨n, hn⟩ := hascends.settles j
    rw [← hn n (Nat.le_refl n), h n]

theorem eval_eq_fault_iff {cause : Fault} :
    eval rules p s j = .fault cause ↔ ∃ n, parse rules n p s j = .fault cause := by
  constructor
  . intro h
    have hascends : Ascends (fun n => parse rules n p s) (eval rules p s) := parse_ascends
    obtain ⟨n, hn⟩ := hascends.settles j
    exact ⟨n, by rw [hn n (Nat.le_refl n), h]⟩
  . rintro ⟨n, hn⟩
    exact (parse_ascends.below n).eq_fault hn

theorem eval_eq {x : Effect State} (h : ∀ m, step (eval rules) rules m p s = x) :
    eval rules p s = x := by
  apply step_eval_ascends.unique
  simp only [h]
  apply Ascends.const

theorem eval_getState : eval rules .getState s = pure s :=
  eval_eq fun _ => rfl

theorem eval_succeed (value : Value) :
    eval rules (.succeed value) s = s.unlessError (pure (s.withResult value)) :=
  eval_eq fun _ => rfl

theorem eval_sequence (ps : List Parser) :
    eval rules (.sequence ps) s = s.unlessError (do
      let (t, values) ← runAll (eval rules) ps s
      t.unlessError (pure (t.withResult (.seq values)))) :=
  eval_eq fun _ => rfl

theorem eval_sequence_eq_finishWith (ps : List Parser) :
    eval rules (.sequence ps) s = s.unlessError (runAll (eval rules) ps s >>= finishWith .seq) :=
  eval_sequence ps

theorem eval_sequenceSepBy (separator : Parser) (ps : List Parser) :
    eval rules (.sequenceSepBy separator ps) s = s.unlessError (do
      let (t, values) ← runSeparated (eval rules) separator ps s
      t.unlessError (pure (t.withResult (.seq values)))) :=
  eval_eq fun _ => rfl

theorem eval_choice (ps : List Parser) :
    eval rules (.choice ps) s = s.unlessError (do
      match ← firstSuccess (eval rules) s ps none with
      | .ok t => pure t
      | .error best =>
        Effect.update (·.log (.noAlternative s.index ps.length))
        pure (noAlternative s best)) :=
  eval_eq fun _ => rfl

theorem eval_between (opening content closing : Parser) :
    eval rules (.between opening content closing) s = (do
      let t ← eval rules opening s
      t.unlessError do
        let u ← eval rules content t
        u.unlessError do
          let v ← eval rules closing u
          v.unlessError (pure (v.withResult u.result))) :=
  eval_eq fun _ => rfl

theorem eval_optional (body : Parser) :
    eval rules (.optional body) s = s.unlessError (do
      let t ← eval rules body s
      pure (if t.isError then s.withResult .null else t)) :=
  eval_eq fun _ => rfl

theorem eval_keepLeft (left right : Parser) :
    eval rules (.keepLeft left right) s = (do
      let t ← eval rules left s
      t.unlessError do
        let u ← eval rules right t
        u.unlessError (pure (u.withResult t.result))) :=
  eval_eq fun _ => rfl

theorem eval_keepRight (left right : Parser) :
    eval rules (.keepRight left right) s = (do
      let t ← eval rules left s
      t.unlessError (eval rules right t)) :=
  eval_eq fun _ => rfl

theorem eval_map (body : Parser) (f : Value → Value) :
    eval rules (.map body f) s = (do
      let t ← eval rules body s
      t.unlessError (pure (t.mapResult f))) :=
  eval_eq fun _ => rfl

theorem eval_chain (first : Parser) (next : State → Suggestions → Parser) :
    eval rules (.chain first next) s = (do
      let t ← eval rules first s
      t.unlessError do
        let table ← t.suggestions
        eval rules (next t table) t) :=
  eval_eq fun _ => rfl

theorem eval_mapError (body : Parser) (f : String → Nat → String) :
    eval rules (.mapError body f) s = (do
      let t ← eval rules body s
      match t.error with
      | none => pure t
      | some message => pure (t.fail (f message t.index))) :=
  eval_eq fun _ => rfl

theorem eval_deferred (body : Parser) :
    eval rules (.deferred body) s = (do
      Effect.update (·.countOpened)
      eval rules body s) :=
  eval_eq fun _ => rfl

theorem eval_rule (name : String) :
    eval rules (.rule name) s = (do
      Effect.update (·.countOpened)
      eval rules (rules.resolve name) s) :=
  eval_eq fun _ => rfl

theorem eval_contextual (body : State → Suggestions → Body) :
    eval rules (.contextual body) s = s.unlessError (do
      let table ← s.suggestions
      follow (eval rules) (body s table) s) :=
  eval_eq fun _ => rfl

noncomputable def collectAll (rules : Rules) (p : Parser) (s : State) :
    Effect (State × List Value) :=
  limit fun m => collect (eval rules) p m s

theorem collect_eval_ascends :
    Ascends (fun m => collect (eval rules) p m s) (collectAll rules p s) := by
  apply Ascends.limit
  intro n m hle
  exact collect_below (fun _ _ => Below.refl _) p hle s

theorem collectAll_eq (rules : Rules) (p : Parser) (s : State) :
    collectAll rules p s = (do
      let t ← eval rules p s
      if t.isError then
        pure (s.withDiagnosticsOf t, [])
      else
        let (last, values) ← collectAll rules p t
        pure (last, t.result :: values)) := by
  apply collect_eval_ascends.succ.unique
  apply Ascends.bind (Ascends.const _)
  intro t
  apply Ascends.ite
  . apply Ascends.const
  . apply Ascends.bind collect_eval_ascends
    intro a
    apply Ascends.const

theorem eval_many (body : Parser) :
    eval rules (.many body) s = s.unlessError (do
      let (t, values) ← collectAll rules body s
      pure (t.withResult (.seq values))) := by
  apply step_eval_ascends.unique
  apply Ascends.unlessError
  apply Ascends.bind collect_eval_ascends
  intro a
  apply Ascends.const

theorem eval_many1 (body : Parser) :
    eval rules (.many1 body) s = s.unlessError (do
      let collected ← collectAll rules body s
      pure (requireSome
        s!"many_one: unable to match the input parser at least once at index {s.index}"
        collected)) := by
  apply step_eval_ascends.unique
  apply Ascends.unlessError
  apply Ascends.bind collect_eval_ascends
  intro a
  apply Ascends.const

noncomputable def collectAllSeparated (rules : Rules) (separator p : Parser) (last s : State) :
    Effect (State × List Value) :=
  limit fun m => collectSeparated (eval rules) separator p m last s

theorem collectSeparated_eval_ascends {separator : Parser} {last : State} :
    Ascends (fun m => collectSeparated (eval rules) separator p m last s)
      (collectAllSeparated rules separator p last s) := by
  apply Ascends.limit
  intro n m hle
  exact collectSeparated_below (fun _ _ => Below.refl _) separator p hle last s

theorem collectAllSeparated_eq (rules : Rules) (separator p : Parser) (last s : State) :
    collectAllSeparated rules separator p last s = (do
      let t ← eval rules p s
      if t.isError then
        pure (last.withDiagnosticsOf t, [])
      else
        let between ← eval rules separator t
        if between.isError then
          pure (t.withDiagnosticsOf between, [t.result])
        else
          let (last, values) ← collectAllSeparated rules separator p t between
          pure (last, t.result :: values)) := by
  apply collectSeparated_eval_ascends.succ.unique
  apply Ascends.bind (Ascends.const _)
  intro t
  apply Ascends.ite
  . apply Ascends.const
  . apply Ascends.bind (Ascends.const _)
    intro between
    apply Ascends.ite
    . apply Ascends.const
    . apply Ascends.bind collectSeparated_eval_ascends
      intro a
      apply Ascends.const

theorem eval_sepBy (separator body : Parser) :
    eval rules (.sepBy separator body) s = s.unlessError (do
      let (t, values) ← collectAllSeparated rules separator body s s
      pure (t.withResult (.seq values))) := by
  apply step_eval_ascends.unique
  apply Ascends.unlessError
  apply Ascends.bind collectSeparated_eval_ascends
  intro a
  apply Ascends.const

theorem eval_sepBy1 (separator body : Parser) :
    eval rules (.sepBy1 separator body) s = s.unlessError (do
      let collected ← collectAllSeparated rules separator body s s
      pure (requireSome
        s!"sep_by_one: unable to capture any results at index {s.index}" collected)) := by
  apply step_eval_ascends.unique
  apply Ascends.unlessError
  apply Ascends.bind collectSeparated_eval_ascends
  intro a
  apply Ascends.const

end Parser
end Waymark
