import Waymark.Proofs.Iteration
import Waymark.Proofs.Simulation.Limit

/-!
This module contains repetitions with separators as plain ones. `Parser.sepBy_rounds` shows that
after its first value such a repetition does what `many` does with rounds of a separator and a value.
-/

namespace Waymark
namespace Parser

open Effect

variable {rules : Rules} {separator p : Parser} {s t v : State} {j k l : Journal}

section Loop

variable {next next' : State → Effect (State × List Value)}

noncomputable def afterValue (rules : Rules) (separator : Parser)
    (next : State → Effect (State × List Value)) (v : State) : Effect (State × List Value) := do
  let between ← eval rules separator v
  if between.isError then
    pure (v.withDiagnosticsOf between, [])
  else
    next between

noncomputable def valueThen (rules : Rules) (p : Parser)
    (next : State → Effect (State × List Value)) (last s : State) :
    Effect (State × List Value) := do
  let t ← eval rules p s
  if t.isError then
    pure (last.withDiagnosticsOf t, [])
  else
    let (last, values) ← next t
    pure (last, t.result :: values)

theorem afterValue_below (h : ∀ between, Below (next between) (next' between)) (v : State) :
    Below (afterValue rules separator next v) (afterValue rules separator next' v) := by
  apply Below.bind (Below.refl _)
  intro between
  apply Below.ite
  . apply Below.refl
  . exact h between

theorem valueThen_below (h : ∀ t, Below (next t) (next' t)) (last s : State) :
    Below (valueThen rules p next last s) (valueThen rules p next' last s) := by
  apply Below.bind (Below.refl _)
  intro t
  apply Below.ite
  . apply Below.refl
  . apply Below.bind (h t)
    intro a
    apply Below.refl

noncomputable def roundsSeparated (rules : Rules) (separator p : Parser) (n : Nat) (v : State) :
    Effect (State × List Value) :=
  afterValue rules separator (collectSeparated (eval rules) separator p n v) v

theorem collectSeparated_succ (n : Nat) (last s : State) :
    collectSeparated (eval rules) separator p (n + 1) last s =
      valueThen rules p (roundsSeparated rules separator p n) last s := by
  rw [collectSeparated, valueThen]
  apply bind_congr
  intro t
  split
  . rfl
  . rw [roundsSeparated, afterValue, bind_assoc]
    apply bind_congr
    intro between
    split
    . rfl
    . rfl

theorem collect_keepRight_succ (n : Nat) (v : State) :
    collect (eval rules) (.keepRight separator p) (n + 1) v =
      afterValue rules separator
        (valueThen rules p (collect (eval rules) (.keepRight separator p) n) v) v := by
  rw [collect, eval_keepRight, afterValue, bind_assoc]
  apply bind_congr
  intro between
  unfold State.unlessError
  split
  . next herror => rw [pure_bind, if_pos herror]
  . rfl

theorem collect_below_rounds (n : Nat) (v : State) :
    Below (collect (eval rules) (.keepRight separator p) n v)
      (roundsSeparated rules separator p n v) := by
  induction n generalizing v with
  | zero => apply Below.exhausted
  | succ n ih =>
    rw [collect_keepRight_succ]
    apply afterValue_below
    intro between
    rw [collectSeparated_succ]
    exact valueThen_below ih v between

theorem rounds_below_collect (n : Nat) (v : State) :
    Below (roundsSeparated rules separator p n v)
      (collect (eval rules) (.keepRight separator p) (n + 1) v) := by
  induction n generalizing v with
  | zero =>
    rw [collect_keepRight_succ]
    apply afterValue_below
    intro between
    apply Below.exhausted
  | succ n ih =>
    rw [collect_keepRight_succ]
    apply afterValue_below
    intro between
    rw [collectSeparated_succ]
    exact valueThen_below ih v between

theorem afterValue_eq_collectAll (v : State) :
    afterValue rules separator (collectAllSeparated rules separator p v) v =
      collectAll rules (.keepRight separator p) v := by
  have hrounds : Ascends (fun n => roundsSeparated rules separator p n v)
      (afterValue rules separator (collectAllSeparated rules separator p v) v) := by
    apply Ascends.bind (Ascends.const _)
    intro between
    apply Ascends.ite
    . apply Ascends.const
    . exact collectSeparated_eval_ascends
  -- Neither loop is ahead of the other by more than half a round.
  apply Ascends.eq_of_below hrounds collect_eval_ascends
  . intro n
    exact (rounds_below_collect n v).trans (collect_eval_ascends.below (n + 1))
  . intro n
    exact (collect_below_rounds n v).trans (hrounds.below n)

theorem collectAllSeparated_eq_valueThen (last s : State) :
    collectAllSeparated rules separator p last s =
      valueThen rules p (collectAll rules (.keepRight separator p)) last s := by
  rw [collectAllSeparated_eq, valueThen]
  apply bind_congr
  intro t
  split
  . rfl
  . rw [← afterValue_eq_collectAll, afterValue, bind_assoc]
    apply bind_congr
    intro between
    split
    . rfl
    . rfl

theorem valueThen_of_error (hv : Returns rules p s j v k) (herror : v.isError = true)
    (last : State) : valueThen rules p next last s j = .done (last.withDiagnosticsOf v, []) k := by
  rw [valueThen, bind_apply, eval_eq_done_iff.mpr hv]
  dsimp only
  rw [if_pos herror]
  rfl

theorem valueThen_of_live (hv : Returns rules p s j v k) (hlive : v.isError = false)
    (last : State) : valueThen rules p next last s j =
      (next v >>= fun collected => pure (collected.1, v.result :: collected.2)) k := by
  rw [valueThen, bind_apply, eval_eq_done_iff.mpr hv]
  dsimp only
  rw [hlive, if_neg Bool.false_ne_true]

end Loop

theorem eval_sepBy_of_value (hs : s.isError = false) (hv : Returns rules p s j v k)
    (hlive : v.isError = false) : eval rules (.sepBy separator p) s j =
      (collectAll rules (.keepRight separator p) v >>= fun collected =>
        pure (collected.1.withResult (.seq (v.result :: collected.2)))) k := by
  rw [eval_sepBy, State.unlessError_of_live hs, collectAllSeparated_eq_valueThen, bind_apply,
    valueThen_of_live hv hlive, ← bind_apply, bind_assoc]
  rfl

theorem eval_sepBy1_of_value (hs : s.isError = false) (hv : Returns rules p s j v k)
    (hlive : v.isError = false) : eval rules (.sepBy1 separator p) s j =
      eval rules (.sepBy separator p) s j := by
  rw [eval_sepBy_of_value hs hv hlive, eval_sepBy1, State.unlessError_of_live hs,
    collectAllSeparated_eq_valueThen, bind_apply, valueThen_of_live hv hlive, ← bind_apply,
    bind_assoc]
  rfl

theorem returns_sepBy_of_error (hs : s.isError = false) (hv : Returns rules p s j v k)
    (herror : v.isError = true) :
    Returns rules (.sepBy separator p) s j (s.repeated [] v) k := by
  have hnone : s.error = none := by
    rw [← Option.isNone_iff_eq_none, ← Option.isSome_eq_false_iff]
    exact hs
  rw [← eval_eq_done_iff, eval_sepBy, State.unlessError_of_live hs,
    collectAllSeparated_eq_valueThen, bind_apply, valueThen_of_error hv herror]
  unfold State.repeated
  rw [← hnone]
  rfl

theorem returns_sepBy1_of_error (hs : s.isError = false) (hv : Returns rules p s j v k)
    (herror : v.isError = true) :
    Returns rules (.sepBy1 separator p) s j
      ((s.withDiagnosticsOf v).fail
        s!"sep_by_one: unable to capture any results at index {s.index}") k := by
  rw [← eval_eq_done_iff, eval_sepBy1, State.unlessError_of_live hs,
    collectAllSeparated_eq_valueThen, bind_apply, valueThen_of_error hv herror]
  rfl

theorem many_meets_sepBy (hs : s.isError = false) (hv : Returns rules p s j v k)
    (hlive : v.isError = false) :
    ({ journal := Eq, fault := Eq } : Bond).Meets
      (fun u t => ∃ items, u.result = .seq items ∧ t = u.withResult (.seq (v.result :: items)))
      (eval rules (.many (.keepRight separator p)) v k)
      (eval rules (.sepBy separator p) s j) := by
  rw [eval_sepBy_of_value hs hv hlive, eval_many, State.unlessError_of_live hlive, bind_apply,
    bind_apply]
  cases collectAll rules (.keepRight separator p) v k with
  | done collected l => exact .done ⟨collected.2, rfl, rfl⟩ rfl
  | fault cause => exact .fault rfl
  | outOfFuel => exact .outOfFuel

theorem returns_sepBy_of_dangling (hs : s.isError = false) (hv : Returns rules p s j v k)
    (hlive : v.isError = false) {reached : List State} {last between w : State} {k' l' : Journal}
    (hrounds : Iterates rules (.keepRight separator p) v k reached last k')
    (hseparator : Returns rules separator last k' between l') (hbetween : between.isError = false)
    (hvalue : Returns rules p between l' w l) (hw : w.isError = true) :
    Returns rules (.sepBy separator p) s j (last.repeated (v :: reached) w) l := by
  have hround : Returns rules (.keepRight separator p) last k' w l := by
    rw [← eval_eq_done_iff, eval_keepRight, bind_apply, eval_eq_done_iff.mpr hseparator]
    dsimp only
    rw [State.unlessError_of_live hbetween]
    exact eval_eq_done_iff.mpr hvalue
  have hexhausts : Exhausts rules (.keepRight separator p) v k reached last w l :=
    ⟨k', hrounds, hround, hw⟩
  rw [← eval_eq_done_iff, eval_sepBy_of_value hs hv hlive, bind_apply,
    collectAll_of_exhausts hexhausts]
  dsimp only
  rw [hexhausts.withResult_eq hlive]
  rfl

/--
A repetition with separators first runs its parser for a value. If that fails, `sepBy` is the empty
sequence at its start and `sepBy1` fails there, both with the diagnostics of that failure. Else the
two do the same, and what `many` does from the value with rounds of a separator and a value each,
but for the first value in front of the results. So a separator without a value behind it is left.
-/
theorem sepBy_rounds (hs : s.isError = false) (hv : Returns rules p s j v k) :
    (v.isError = true →
      Returns rules (.sepBy separator p) s j
        { s with result := .seq [], error := none, chain := v.chain, mark := v.mark } k ∧
      let message := s!"sep_by_one: unable to capture any results at index {s.index}"
      Returns rules (.sepBy1 separator p) s j
        { s with error := some message, chain := v.chain ++ [message], mark := v.mark } k) ∧
    (v.isError = false →
      ((∀ n, parse rules n (.sepBy1 separator p) s j = .outOfFuel ∧
          parse rules n (.sepBy separator p) s j = .outOfFuel) ∨
        (∃ n cause, parse rules n (.sepBy1 separator p) s j = .fault cause ∧
          parse rules n (.sepBy separator p) s j = .fault cause) ∨
        ∃ t l, Returns rules (.sepBy1 separator p) s j t l ∧
          Returns rules (.sepBy separator p) s j t l) ∧
      ((∀ n, parse rules n (.many (.keepRight separator p)) v k = .outOfFuel ∧
          parse rules n (.sepBy separator p) s j = .outOfFuel) ∨
        (∃ n cause, parse rules n (.many (.keepRight separator p)) v k = .fault cause ∧
          parse rules n (.sepBy separator p) s j = .fault cause) ∨
        ∃ u items l, Returns rules (.many (.keepRight separator p)) v k u l ∧
          u.result = .seq items ∧
          Returns rules (.sepBy separator p) s j (u.withResult (.seq (v.result :: items))) l) ∧
      ∀ reached last k' between l' w l,
        Iterates rules (.keepRight separator p) v k reached last k' →
        Returns rules separator last k' between l' → between.isError = false →
        Returns rules p between l' w l → w.isError = true →
        Returns rules (.sepBy separator p) s j (last.repeated (v :: reached) w) l) := by
  constructor
  . intro herror
    exact ⟨returns_sepBy_of_error hs hv herror, returns_sepBy1_of_error hs hv herror⟩
  . intro hlive
    refine ⟨alike_of_eval_eq (eval_sepBy1_of_value hs hv hlive), ?_, ?_⟩
    . rcases alike_of_meets (many_meets_sepBy hs hv hlive) with h | ⟨n, cause, _, h, h', rfl⟩ | h
      . left
        exact h
      . right
        left
        exact ⟨n, cause, h, h'⟩
      . right
        right
        obtain ⟨u, l, t, l', hu, ht, ⟨items, hitems, rfl⟩, rfl⟩ := h
        exact ⟨u, items, l, hu, hitems, ht⟩
    . intro reached last k' between l' w l hrounds hseparator hbetween hvalue hw
      exact returns_sepBy_of_dangling hs hv hlive hrounds hseparator hbetween hvalue hw

theorem sepBy_rounds_dangling :
    let s : State := { target := "1,2,", registry := 0 }
    s.isError = false ∧ ∃ v k u items l, Returns [] .digits s {} v k ∧ v.isError = false ∧
      Returns [] (.many (.keepRight (.literal ",") .digits)) v k u l ∧ u.result = .seq items ∧
      Returns [] (.sepBy (.literal ",") .digits) s {}
        (u.withResult (.seq (v.result :: items))) l ∧
      items.length = 1 ∧ u.index = 3 := by
  intro s
  have hs : s.isError = false := rfl
  have hvalue : (parse [] 9 .digits s {}).passes (fun v _ => !v.isError) = true := by
    decide +kernel
  have hlist : (parse [] 9 (.sepBy (.literal ",") .digits) s {}).passes (fun t _ =>
      t.index == 3 && t.result.items?.map List.length == some 2) = true := by
    decide +kernel
  obtain ⟨v, k, hv, hlive⟩ := returns_of_passes 9 hvalue
  obtain ⟨t, l, ht, htest⟩ := returns_of_passes 9 hlist
  simp only [Bool.and_eq_true, beq_iff_eq] at htest
  rw [Bool.not_eq_true'] at hlive
  obtain ⟨-, hmany, -⟩ := (sepBy_rounds hs hv).2 hlive
  rcases hmany with h | ⟨n, cause, -, h⟩ | ⟨u, items, l', hu, hitems, ht'⟩
  . exact absurd (fun n => (h n).2) ht.not_outOfFuel
  . exact absurd h (ht.ne_fault n cause)
  . obtain ⟨rfl, rfl⟩ := ht.unique ht'
    have hlength := Option.some.inj htest.2
    exact ⟨hs, v, k, u, items, l, hv, hlive, hu, hitems, ht, Nat.succ.inj hlength, htest.1⟩

end Parser
end Waymark
