import Waymark.Proofs.Alternatives
import Waymark.Proofs.Primitive
import Waymark.Proofs.Simulation.Limit
import Waymark.Proofs.Simulation.Run

/-!
This module contains choices whose alternatives are choices. `Parser.choices_flatten` shows that the
alternatives of an inner choice may as well stand among those of the outer one, since the failure
that an inner choice tells of stands in for all of its alternatives.
-/

namespace Waymark

def Journal.SameButEvents (j k : Journal) : Prop :=
  ∃ events, k = { j with events }

namespace Journal.SameButEvents

variable {j k : Journal}

theorem refl (j : Journal) : j.SameButEvents j :=
  ⟨j.events, rfl⟩

theorem log (h : j.SameButEvents k) (e e' : Event) : (j.log e).SameButEvents (k.log e') := by
  obtain ⟨events, rfl⟩ := h
  exact ⟨_, rfl⟩

theorem log_left (h : j.SameButEvents k) (e : Event) : (j.log e).SameButEvents k := by
  obtain ⟨events, rfl⟩ := h
  exact ⟨_, rfl⟩

theorem record (h : j.SameButEvents k) (id : RegistryId) (key pattern : String) :
    (j.record id key pattern).SameButEvents (k.record id key pattern) := by
  obtain ⟨events, rfl⟩ := h
  exact ⟨_, rfl⟩

theorem countOpened (h : j.SameButEvents k) : j.countOpened.SameButEvents k.countOpened := by
  obtain ⟨events, rfl⟩ := h
  exact ⟨_, rfl⟩

theorem table_eq (h : j.SameButEvents k) (id : RegistryId) : j.table id = k.table id := by
  obtain ⟨events, rfl⟩ := h
  rfl

end Journal.SameButEvents

def Simulation.sameStates : Simulation where
  journal := Journal.SameButEvents
  fault := Eq
  state := Eq
  told := Eq
  table := Eq
  isError_eq h := by rw [h]
  result_eq h := by rw [h]
  rest_eq h := by rw [h]
  isAtEnd_eq h := by rw [h]
  withResult h value := by rw [h]
  fail h ht message := by rw [h, ht]
  told_of_state h := h
  told_further hbest h := by rw [hbest, h]
  withDiagnosticsOf h ht := by rw [h, ht]
  consume := by
    rintro s _ rfl front back -
    cases s.consume_cases (Text.size front) with
    | inl h =>
      obtain ⟨cause, hfault⟩ := h
      rw [hfault]
      exact Bond.Couples.raise rfl
    | inr h =>
      obtain ⟨front, back, -, hpast⟩ := h
      rw [hpast]
      exact Bond.Couples.pure rfl
  miss := by
    rintro s _ rfl expected pattern k k' hk
    exact .done rfl ((hk.record _ _ _).log _ _)
  countOpened h := h.countOpened
  noAlternative := by
    rintro s _ rfl k k' hk n
    exact hk.log _ _
  suggestions := by
    rintro s _ rfl k k' hk
    exact hk.table_eq _

namespace Parser

open Effect

def LooksAtNoEvents : Parser → Prop
  | .transform f => ∀ s, Simulation.sameStates.Couples Eq (f s) (f s)
  | _ => True

def FurthestAt (attempts : List State) (i : Nat) (a : State) : Prop :=
  ∃ before after, attempts = before ++ a :: after ∧ before.length = i ∧
    (∀ b ∈ before, b.mark.tokenIndex < a.mark.tokenIndex) ∧
    ∀ b ∈ after, b.mark.tokenIndex ≤ a.mark.tokenIndex

variable {rules : Rules} {p : Parser} {ps qs rs : List Parser} {s t a b n : State}
  {best best' : Option State} {as bs cs attempts : List State} {i : Nat} {j j' k l : Journal}

theorem accepts_sameStates (hp : p.Throughout rules (fun _ => True) LooksAtNoEvents) :
    Simulation.sameStates.Accepts rules p := by
  refine hp.mono (fun _ _ => trivial) ?_
  intro q hq
  have hchooses : q.ChoosesBy Simulation.sameStates.state Simulation.sameStates.table :=
    ChoosesBy.of_eq (fun _ _ h => h) (fun _ _ h => h) q
  cases q with
  | setState saved =>
    rintro s _ rfl
    rfl
  | chain first next => exact hchooses
  | mapError body f =>
    rintro s _ message _ rfl h h'
    obtain rfl := Option.some.inj (h.symm.trans h')
    rfl
  | contextual body => exact hchooses
  | transform f =>
    rintro s _ rfl
    exact hq s
  | _ => trivial

theorem eval_couples_sameStates (hp : p.Throughout rules (fun _ => True) LooksAtNoEvents)
    (s : State) :
    Simulation.sameStates.Couples Eq (eval rules p s) (eval rules p s) :=
  .of_ascends parse_ascends parse_ascends fun n => Simulation.parse (accepts_sameStates hp) n rfl

theorem AllFail.of_sameButEvents
    (hps : ∀ p ∈ ps, p.Throughout rules (fun _ => True) LooksAtNoEvents)
    (h : AllFail rules s ps j attempts k) (hj : j.SameButEvents j') :
    ∃ k', AllFail rules s ps j' attempts k' := by
  induction h generalizing j' with
  | nil => exact ⟨j', .nil⟩
  | cons h hfailed _ ih =>
    rw [List.forall_mem_cons] at hps
    obtain ⟨_, k', h', rfl, hk⟩ := Simulation.returns (accepts_sameStates hps.1) rfl hj h
    obtain ⟨l, hrest⟩ := ih hps.2 hk
    exact ⟨l, .cons h' hfailed hrest⟩

inductive SameSuccess : Except (Option State) State → Except (Option State) State → Prop where
  | ok {t : State} (hlive : t.isError = false) : SameSuccess (.ok t) (.ok t)
  | error {best best' : Option State} : SameSuccess (.error best) (.error best')

def orElse (run : Parser → State → Effect State) (s : State) (ps : List Parser) :
    Except (Option State) State → Effect (Except (Option State) State)
  | .ok t => pure (.ok t)
  | .error best => firstSuccess run s ps best

theorem firstSuccess_append_orElse {run : Parser → State → Effect State} (ps qs : List Parser)
    (best : Option State) :
    firstSuccess run s (ps ++ qs) best = firstSuccess run s ps best >>= orElse run s qs := by
  induction ps generalizing best with
  | nil => rfl
  | cons p ps ih =>
    rw [List.cons_append, firstSuccess, firstSuccess, bind_assoc]
    apply bind_congr
    intro t
    split
    . exact ih _
    . rfl

theorem firstSuccess_couples
    (hps : ∀ p ∈ ps, p.Throughout rules (fun _ => True) LooksAtNoEvents)
    (best best' : Option State) :
    Simulation.sameStates.Couples SameSuccess (firstSuccess (eval rules) s ps best)
      (firstSuccess (eval rules) s ps best') := by
  induction ps generalizing best best' with
  | nil => exact .pure .error
  | cons p ps ih =>
    rw [List.forall_mem_cons] at hps
    apply Bond.Couples.bind (eval_couples_sameStates hps.1 s)
    rintro t _ rfl
    apply Bond.Couples.ite rfl
    . intro _
      exact ih hps.2 _ _
    . intro hlive
      exact .pure (.ok hlive)

theorem innerChoice_couples (hs : s.isError = false)
    (hqs : ∀ p ∈ qs, p.Throughout rules (fun _ => True) LooksAtNoEvents)
    (hrs : ∀ p ∈ rs, p.Throughout rules (fun _ => True) LooksAtNoEvents)
    (best best' : Option State) :
    Simulation.sameStates.Couples SameSuccess
      (firstSuccess (eval rules) s (.choice qs :: rs) best)
      (firstSuccess (eval rules) s (qs ++ rs) best') := by
  rw [firstSuccess_append_orElse, firstSuccess, eval_choice, State.unlessError_of_live hs,
    bind_assoc]
  apply Bond.Couples.bind (firstSuccess_couples hqs none best')
  rintro found found' ⟨hlive⟩
  . rw [pure_bind, hlive, if_neg Bool.false_ne_true]
    exact .pure (.ok hlive)
  . next failed _ =>
    intro k k' hk
    exact firstSuccess_couples hrs _ _ _ _ (hk.log_left (.noAlternative s.index qs.length))

theorem nested_couples (hs : s.isError = false)
    (hps : ∀ p ∈ ps ++ qs ++ rs, p.Throughout rules (fun _ => True) LooksAtNoEvents) :
    Simulation.sameStates.Couples
      (fun t t' => t.isError = t'.isError ∧ (t.isError = false → t = t'))
      (eval rules (.choice (ps ++ .choice qs :: rs)) s)
      (eval rules (.choice (ps ++ qs ++ rs)) s) := by
  have hfirst : Simulation.sameStates.Couples SameSuccess
      (firstSuccess (eval rules) s (ps ++ .choice qs :: rs) none)
      (firstSuccess (eval rules) s (ps ++ qs ++ rs) none) := by
    simp only [List.forall_mem_append] at hps
    rw [List.append_assoc, firstSuccess_append_orElse, firstSuccess_append_orElse ps]
    apply Bond.Couples.bind (firstSuccess_couples hps.1.1 none none)
    rintro found found' ⟨hlive⟩
    . exact .pure (.ok hlive)
    . exact innerChoice_couples hs hps.1.2 hps.2 _ _
  rw [eval_choice, eval_choice, State.unlessError_of_live hs, State.unlessError_of_live hs]
  apply Bond.Couples.bind hfirst
  rintro found found' ⟨hlive⟩
  . exact .pure ⟨rfl, fun _ => rfl⟩
  . intro k k' hk
    exact .done ⟨rfl, nofun⟩ (hk.log _ _)

theorem AllFail.append (h : AllFail rules s ps j as k) (h' : AllFail rules s qs k bs l) :
    AllFail rules s (ps ++ qs) j (as ++ bs) l := by
  induction h with
  | nil => exact h'
  | cons h hfailed _ ih => exact .cons h hfailed (ih h')

theorem AllFail.of_append (h : AllFail rules s (ps ++ qs) j attempts l) :
    ∃ as bs k, attempts = as ++ bs ∧ AllFail rules s ps j as k ∧ AllFail rules s qs k bs l := by
  induction ps generalizing j attempts with
  | nil => exact ⟨[], attempts, j, rfl, .nil, h⟩
  | cons p ps ih =>
    cases h with
    | cons h hfailed hrest =>
      obtain ⟨as, bs, k, rfl, has, hbs⟩ := ih hrest
      exact ⟨_ :: as, bs, k, rfl, .cons h hfailed has, hbs⟩

def exhaustedBy (s : State) (attempts : List State) : State :=
  noAlternative s (attempts.foldl (fun best t => some (further best t)) none)

theorem AllFail.returns_choice (hs : s.isError = false) (h : AllFail rules s ps j attempts k) :
    Returns rules (.choice ps) s j (exhaustedBy s attempts)
      (k.log (.noAlternative s.index ps.length)) := by
  rw [← eval_eq_done_iff, eval_choice, State.unlessError_of_live hs, bind_eq_done_iff]
  exact ⟨_, k, firstSuccess_eq_done_iff.mpr (.inr ⟨attempts, h, rfl⟩), rfl⟩

theorem allFail_of_returns_choice (hs : s.isError = false)
    (h : Returns rules (.choice ps) s j t l) (hfailed : t.isError = true) :
    ∃ attempts k, AllFail rules s ps j attempts k ∧ t = exhaustedBy s attempts := by
  rw [← eval_eq_done_iff, eval_choice, State.unlessError_of_live hs, bind_eq_done_iff] at h
  obtain ⟨found, k, hfound, h⟩ := h
  rcases firstSuccess_eq_done_iff.mp hfound with
    ⟨_, _, _, _, _, u, _, _, _, hlive, rfl⟩ | ⟨attempts, hall, rfl⟩
  . obtain ⟨rfl, rfl⟩ := Outcome.done.inj h
    rw [hlive] at hfailed
    contradiction
  . obtain ⟨rfl, rfl⟩ := Outcome.done.inj h
    exact ⟨attempts, k, hall, rfl⟩

theorem firstFurthest_iff : FirstFurthest attempts a ↔ ∃ i, FurthestAt attempts i a := by
  constructor
  . rintro ⟨before, after, h⟩
    exact ⟨before.length, before, after, h.1, rfl, h.2⟩
  . rintro ⟨_, before, after, h, -, h'⟩
    exact ⟨before, after, h, h'⟩

theorem append_cons_eq_append_cons {before after : List State}
    (h : as ++ n :: cs = before ++ a :: after) :
    (∃ between, as = before ++ a :: between ∧ after = between ++ n :: cs) ∨
      (as = before ∧ n = a ∧ cs = after) ∨
      ∃ between, before = as ++ n :: between ∧ cs = between ++ a :: after := by
  rcases List.append_eq_append_iff.mp h with
    ⟨_ | ⟨c, between⟩, hbefore, h'⟩ | ⟨_ | ⟨c, between⟩, has, h'⟩
  . obtain ⟨rfl, rfl⟩ := List.cons.inj h'
    exact .inr (.inl ⟨by rw [hbefore, List.append_nil], rfl, rfl⟩)
  . obtain ⟨rfl, rfl⟩ := List.cons.inj h'
    exact .inr (.inr ⟨between, hbefore, rfl⟩)
  . obtain ⟨rfl, rfl⟩ := List.cons.inj h'
    exact .inr (.inl ⟨by rw [has, List.append_nil], rfl, rfl⟩)
  . obtain ⟨rfl, rfl⟩ := List.cons.inj h'
    exact .inl ⟨between, has, rfl⟩

theorem FirstFurthest.expand (hb : FirstFurthest bs b) (hn : n.mark = b.mark)
    (ha : FirstFurthest (as ++ n :: cs) a) :
    ∃ i told, FurthestAt (as ++ bs ++ cs) i told ∧
      if as.length ≤ i ∧ i < as.length + bs.length then a = n ∧ told = b else a = told := by
  have hle (c : State) (hc : c ∈ bs) : c.mark.tokenIndex ≤ n.mark.tokenIndex := by
    rw [hn]
    exact hb.le_of_mem hc
  obtain ⟨before, after, hsplit, hbefore, hafter⟩ := ha
  -- The furthest is told of before the failure that stands in for others, by it, or after it.
  rcases append_cons_eq_append_cons hsplit with
    ⟨between, rfl, rfl⟩ | ⟨rfl, rfl, rfl⟩ | ⟨between, rfl, rfl⟩
  . simp only [List.forall_mem_append, List.forall_mem_cons] at hafter
    obtain ⟨hbetween, hna, hcs⟩ := hafter
    refine ⟨before.length, a, ⟨before, between ++ bs ++ cs, by simp, rfl, hbefore, ?_⟩, ?_⟩
    . simp only [List.forall_mem_append]
      exact ⟨⟨hbetween, fun c hc => Nat.le_trans (hle c hc) hna⟩, hcs⟩
    . rw [if_neg]
      simp only [List.length_append, List.length_cons]
      omega
  . obtain ⟨first, last, rfl, hfirst, hlast⟩ := hb
    rw [hn] at hbefore hafter
    refine ⟨as.length + first.length, b, ⟨as ++ first, last ++ cs, by simp, by simp, ?_, ?_⟩, ?_⟩
    . exact List.forall_mem_append.mpr ⟨hbefore, hfirst⟩
    . exact List.forall_mem_append.mpr ⟨hlast, hafter⟩
    . rw [if_pos]
      . exact ⟨rfl, rfl⟩
      . simp
  . simp only [List.forall_mem_append, List.forall_mem_cons] at hbefore
    obtain ⟨has, hna, hbetween⟩ := hbefore
    refine ⟨(as ++ bs ++ between).length, a,
      ⟨as ++ bs ++ between, after, by simp, rfl, ?_, hafter⟩, ?_⟩
    . simp only [List.forall_mem_append]
      exact ⟨⟨has, fun c hc => Nat.lt_of_le_of_lt (hle c hc) hna⟩, hbetween⟩
    . rw [if_neg]
      simp only [List.length_append]
      omega

theorem exists_firstFurthest (hattempts : attempts ≠ []) : ∃ a, FirstFurthest attempts a := by
  obtain ⟨b, attempts, rfl⟩ := List.exists_cons_of_ne_nil hattempts
  obtain ⟨a, -, ha⟩ := firstFurthest_foldl b attempts
  exact ⟨a, ha⟩

theorem FirstFurthest.exhaustedBy_eq (h : FirstFurthest attempts a) :
    exhaustedBy s attempts = noAlternative s (some a) := by
  obtain ⟨told, htold, heq⟩ := noAlternative_foldl_eq_iff.mp (Eq.refl (exhaustedBy s attempts))
  have hfirst : FirstFurthest attempts told := by
    refine htold.resolve_left ?_
    rintro ⟨rfl, -⟩
    obtain ⟨before, after, hsplit, -⟩ := h
    simp at hsplit
  rw [h.unique hfirst]
  exact heq

theorem exhaustedBy_expand (s : State) (as cs : List State) (hbs : bs ≠ []) :
    ∃ i told, FurthestAt (as ++ bs ++ cs) i told ∧
      exhaustedBy s (as ++ bs ++ cs) = noAlternative s (some told) ∧
      exhaustedBy s (as ++ exhaustedBy s bs :: cs) =
        if as.length ≤ i ∧ i < as.length + bs.length then
          noAlternative s (some (noAlternative s (some told)))
        else
          noAlternative s (some told) := by
  obtain ⟨b, hb⟩ := exists_firstFurthest hbs
  have houter : as ++ exhaustedBy s bs :: cs ≠ [] := by simp
  obtain ⟨a, ha⟩ := exists_firstFurthest houter
  have hmark : (exhaustedBy s bs).mark = b.mark := by
    rw [hb.exhaustedBy_eq]
    rfl
  obtain ⟨i, told, htold, hwhich⟩ := hb.expand hmark ha
  rw [ha.exhaustedBy_eq]
  refine ⟨i, told, htold, (firstFurthest_iff.mpr ⟨i, htold⟩).exhaustedBy_eq, ?_⟩
  split at hwhich
  . next hamong =>
    obtain ⟨rfl, rfl⟩ := hwhich
    rw [if_pos hamong, hb.exhaustedBy_eq]
  . next hapart => rw [if_neg hapart, hwhich]

/--
From a state that has not failed, the alternatives of an inner choice may as well stand among those
of the outer one: neither form ends, or both are at fault, or both return, with the same tables of
suggestions. They return the same state if one succeeds. If one fails so does the other, with the
diagnostics of the same alternative, but the nested form holds the message that nothing matched
twice if this is one of the inner choice.
-/
theorem choices_flatten (hs : s.isError = false) (hqs : qs ≠ [])
    (hparts : ∀ p ∈ ps ++ qs ++ rs, p.Throughout rules (fun _ => True) LooksAtNoEvents)
    (j : Journal) :
    let nested : Parser := .choice (ps ++ .choice qs :: rs)
    let flat : Parser := .choice (ps ++ qs ++ rs)
    (∀ n, parse rules n nested s j = .outOfFuel ∧ parse rules n flat s j = .outOfFuel) ∨
      (∃ n cause, parse rules n nested s j = .fault cause ∧ parse rules n flat s j = .fault cause) ∨
      ∃ t k t' k', Returns rules nested s j t k ∧ Returns rules flat s j t' k' ∧
        k.SameButEvents k' ∧
        ((t.isError = false ∧ t' = t) ∨
          ∃ attempts l i told, AllFail rules s (ps ++ qs ++ rs) j attempts l ∧
            FurthestAt attempts i told ∧
            let message := s!"choice: unable to match with any parser at index {s.index}"
            t' = { s with
              error := some message
              chain := told.chain ++ [message]
              mark := told.mark } ∧
            t = if ps.length ≤ i ∧ i < ps.length + qs.length then
                { t' with chain := t'.chain ++ [message] }
              else
                t') := by
  dsimp only
  rcases alike_of_meets (nested_couples hs hparts j j (.refl j)) with
    h | ⟨n, cause, _, hnested, hflat, rfl⟩ | ⟨t, k, t', k', hnested, hflat, ⟨herror, heq⟩, hk⟩
  . exact .inl h
  . exact .inr (.inl ⟨n, cause, hnested, hflat⟩)
  . refine .inr (.inr ⟨t, k, t', k', hnested, hflat, hk, ?_⟩)
    cases ht : t.isError with
    | false => exact .inl ⟨rfl, (heq ht).symm⟩
    | true =>
      right
      obtain ⟨attempts, l, hall, rfl⟩ := allFail_of_returns_choice hs hflat (by rw [← herror, ht])
      obtain ⟨_, cs, _, rfl, hall', hcs⟩ := hall.of_append
      obtain ⟨as, bs, _, rfl, has, hbs⟩ := hall'.of_append
      -- The alternatives behind an inner choice are run with one event more.
      simp only [List.forall_mem_append] at hparts
      obtain ⟨_, hcs'⟩ := hcs.of_sameButEvents hparts.2 ⟨_, rfl⟩
      have hall' := has.append (.cons (hbs.returns_choice hs) rfl hcs')
      obtain ⟨rfl, -⟩ := hnested.unique (hall'.returns_choice hs)
      have hne : bs ≠ [] := by
        rw [← List.length_pos_iff, hbs.length_eq]
        exact List.length_pos_iff.mpr hqs
      obtain ⟨i, told, htold, hflat', hnested'⟩ := exhaustedBy_expand s as cs hne
      refine ⟨_, l, i, told, hall, htold, hflat', ?_⟩
      rw [hnested', has.length_eq, hbs.length_eq, hflat']
      rfl

theorem choices_flatten_tie :
    let s : State := { target := "ab4", registry := 0 }
    let digit (text : String) : Parser := .sequence [.literal "ab", .literal text]
    let ps : List Parser := [.literal "x"]
    let qs : List Parser := [digit "1", digit "2"]
    let rs : List Parser := [digit "3"]
    s.isError = false ∧ qs ≠ [] ∧
      (∀ p ∈ ps ++ qs ++ rs, p.Throughout [] (fun _ => True) LooksAtNoEvents) ∧
      ∃ t k t' k', Returns [] (.choice (ps ++ .choice qs :: rs)) s {} t k ∧
        Returns [] (.choice (ps ++ qs ++ rs)) s {} t' k' ∧ k.SameButEvents k' ∧
        t.isError = true ∧ t = { t' with chain := t.chain } ∧
        t.chain = t'.chain ++ ["choice: unable to match with any parser at index 0"] ∧
        t'.chain = ["expected \"1\" after \"ab\" at index 2, got \"4\"",
          "choice: unable to match with any parser at index 0"] := by
  intro s digit ps qs rs
  have hs : s.isError = false := rfl
  have hqs : qs ≠ [] := List.cons_ne_nil _ _
  have hparts (p : Parser) (hp : p ∈ ps ++ qs ++ rs) :
      p.Throughout [] (fun _ => True) LooksAtNoEvents := by
    let literals : List Parser :=
      [.literal "ab", .literal "1", .literal "2", .literal "3"]
    refine Throughout.of_list (ps ++ qs ++ rs ++ literals) ?_ ?_ ?_ ?_ ?_
    . exact List.mem_append_left _ hp
    all_goals simp [ps, qs, rs, digit, literals, IsPlain, inner, LooksAtNoEvents]
  let chain : List String := ["expected \"1\" after \"ab\" at index 2, got \"4\"",
    "choice: unable to match with any parser at index 0"]
  have hflat : (parse [] 9 (.choice (ps ++ qs ++ rs)) s {}).passes (fun t _ =>
      t.chain == chain) = true := by
    decide +kernel
  have hnested : (parse [] 9 (.choice (ps ++ .choice qs :: rs)) s {}).passes (fun t _ =>
      t.isError && t.chain == chain ++ ["choice: unable to match with any parser at index 0"]) =
        true := by
    decide +kernel
  obtain ⟨t', k', ht', hchain'⟩ := returns_of_passes 9 hflat
  obtain ⟨t, k, ht, htest⟩ := returns_of_passes 9 hnested
  rw [beq_iff_eq] at hchain'
  rw [Bool.and_eq_true, beq_iff_eq] at htest
  obtain ⟨herror, hchain⟩ := htest
  rcases choices_flatten hs hqs hparts {} with
    h | ⟨n, cause, h, -⟩ | ⟨_, _, _, _, hu, hu', hk, h⟩
  . exact absurd (fun n => (h n).1) ht.not_outOfFuel
  . exact absurd h (ht.ne_fault n cause)
  . obtain ⟨rfl, rfl⟩ := hu.unique ht
    obtain ⟨rfl, rfl⟩ := hu'.unique ht'
    rcases h with ⟨hlive, -⟩ | ⟨_, _, i, told, -, -, -, h⟩
    . rw [hlive] at herror
      exact absurd herror Bool.false_ne_true
    . split at h
      . exact ⟨hs, hqs, hparts, _, _, _, _, hu, hu', hk, herror, by rw [h],
          by rw [hchain, hchain'], hchain'⟩
      . rw [h, hchain'] at hchain
        simp at hchain

end Parser
end Waymark
