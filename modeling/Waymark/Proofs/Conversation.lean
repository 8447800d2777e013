import Waymark.Proofs.Absorption
import Waymark.Proofs.ErrorChain
import Waymark.Proofs.Evaluation

/-!
This module contains the calls that a contextual body makes, whatever it makes of what they return.
`Parser.failure_is_final` shows that after a failure no further call has an effect but to append a
message: bodies may go on, but they cannot take it back.
-/

namespace Waymark

structure Call where
  message? : Option String
  state : State
  journal : Journal

def Call.halts (call : Call) : Bool :=
  call.message?.isSome || call.state.isError

namespace Parser

open Effect

/--
Whether a body makes some calls from a state on and then ends, with a value or without, and what is
returned then. It decides on the next call by what it is shown after the last one.
-/
inductive Converses (rules : Rules) :
    Body → State → Journal → List Call → Option Value → State → Journal → Prop where
  | finish {value : Value} {s t : State} {j : Journal}
      (ht : t = if s.isError then s else s.withResult value) :
      Converses rules (.finish value) s j [] (some value) t j
  | halt {s : State} {j : Journal} : Converses rules .halt s j [] none s j
  | bind {p : Parser} {next : State → Suggestions → Body} {s t u : State} {j k l : Journal}
      {calls : List Call} {ending : Option Value} (h : Returns rules p s j t k)
      (hrest : Converses rules (next t (k.table t.registry)) t k calls ending u l) :
      Converses rules (.bind p next) s j (⟨none, t, k⟩ :: calls) ending u l
  | fail {message : String} {next : State → Suggestions → Body} {s u : State} {j l : Journal}
      {calls : List Call} {ending : Option Value}
      (hrest : Converses rules (next (s.fail message) (j.table s.registry)) (s.fail message) j calls
        ending u l) :
      Converses rules (.fail message next) s j (⟨some message, s.fail message, j⟩ :: calls) ending
        u l

def HandsBack : Parser → Prop
  | .setState _ | .mapError _ _ | .transform _ => False
  | _ => True

theorem HandsBack.bringsNothing {p : Parser} (hp : p.HandsBack) : p.BringsNothing := by
  cases p with
  | setState saved => exact hp.elim
  | transform f => exact hp.elim
  | _ => trivial

variable {rules : Rules} {p : Parser} {body : Body} {s t : State} {j k l : Journal} {call : Call}
  {before calls after : List Call} {ending : Option Value}

theorem eq_of_returns_failed (hp : p.Throughout rules (fun _ => True) HandsBack)
    (hs : s.isError = true) (h : Returns rules p s j t k) :
    t = s ∧ ∃ opened, k = { j with opened } := by
  have hnothing : p.Throughout rules (fun _ => True) BringsNothing :=
    hp.mono (fun _ _ => trivial) fun _ hq => hq.bringsNothing
  obtain ⟨-, hrelabeled, hopened⟩ := returns_refit (fun _ => .refl _) hnothing (.refl p) hs h
  refine ⟨hrelabeled.eq ?_, hopened⟩
  rintro f ⟨inner, hpart⟩
  exact hp _ hpart

theorem converses_of_follow :
    ∀ (body : Body) (s : State) (j : Journal), follow (eval rules) body s j = .done t l →
      ∃ calls ending, Converses rules body s j calls ending t l
  | .finish value, s, j, h => by
    obtain ⟨rfl, rfl⟩ := Outcome.done.inj h
    exact ⟨[], some value, .finish rfl⟩
  | .halt, s, j, h => by
    obtain ⟨rfl, rfl⟩ := Outcome.done.inj h
    exact ⟨[], none, .halt⟩
  | .bind p next, s, j, h => by
    obtain ⟨u, k, hu, h⟩ := bind_eq_done_iff.mp h
    obtain ⟨calls, ending, hrest⟩ := converses_of_follow (next u (k.table u.registry)) u k h
    exact ⟨_, ending, .bind (eval_eq_done_iff.mp hu) hrest⟩
  | .fail message next, s, j, h => by
    obtain ⟨calls, ending, hrest⟩ :=
      converses_of_follow (next (s.fail message) (j.table s.registry)) (s.fail message) j h
    exact ⟨_, ending, .fail hrest⟩

theorem follow_of_converses (h : Converses rules body s j calls ending t l) :
    follow (eval rules) body s j = .done t l := by
  induction h with
  | finish ht =>
    rw [ht]
    rfl
  | halt => rfl
  | bind h _ ih =>
    rw [follow, bind_apply, eval_eq_done_iff.mpr h]
    exact ih
  | fail _ ih => exact ih

theorem contextual_returns_iff {body : State → Suggestions → Body} (hs : s.isError = false) :
    Returns rules (.contextual body) s j t l ↔
      ∃ calls ending, Converses rules (body s (j.table s.registry)) s j calls ending t l := by
  rw [← eval_eq_done_iff, eval_contextual, State.unlessError_of_live hs]
  constructor
  . intro h
    exact converses_of_follow _ s j h
  . rintro ⟨calls, ending, h⟩
    exact follow_of_converses h

theorem Converses.isError_of_halts (h : Converses rules body s j calls ending t l)
    (hcall : call ∈ calls) (hhalts : call.halts = true) : call.state.isError = true := by
  induction h with
  | finish => cases hcall
  | halt => cases hcall
  | bind _ _ ih =>
    cases List.mem_cons.mp hcall with
    | inl hcall =>
      rw [hcall] at hhalts ⊢
      exact hhalts
    | inr hcall => exact ih hcall
  | fail _ ih =>
    cases List.mem_cons.mp hcall with
    | inl hcall =>
      rw [hcall]
      rfl
    | inr hcall => exact ih hcall

def conclude (s : State) (calls : List Call) (ending : Option Value) : State :=
  let last := (calls.map (·.state)).getLastD s
  match ending with
  | none => last
  | some value => last.withResult value

theorem conclude_cons (s : State) (call : Call) (calls : List Call) (ending : Option Value) :
    conclude s (call :: calls) ending = conclude call.state calls ending := by
  unfold conclude
  rw [List.map_cons, List.getLastD_cons]

theorem Converses.eq_conclude (h : Converses rules body s j calls ending t l)
    (hs : s.isError = false) (hcalls : ∀ call ∈ calls, call.halts = false) :
    t = conclude s calls ending ∧ t.isError = false := by
  induction h with
  | finish ht =>
    rw [hs, if_neg Bool.false_ne_true] at ht
    rw [ht]
    exact ⟨rfl, hs⟩
  | halt => exact ⟨rfl, hs⟩
  | bind _ _ ih =>
    rw [List.forall_mem_cons] at hcalls
    rw [conclude_cons]
    exact ih hcalls.1 hcalls.2
  | fail _ _ =>
    rw [List.forall_mem_cons] at hcalls
    exact absurd hcalls.1 Bool.true_eq_false.mp

theorem Converses.split (h : Converses rules body s j (before ++ call :: after) ending t l) :
    ∃ body', Converses rules body' call.state call.journal after ending t l ∧
      ∀ p, body'.Binds (fun _ => True) p → body.Binds (fun _ => True) p := by
  induction before generalizing body s j with
  | nil =>
    cases h with
    | bind _ hrest => exact ⟨_, hrest, fun _ => .bindNext trivial⟩
    | fail hrest => exact ⟨_, hrest, fun _ => .failNext trivial⟩
  | cons first before ih =>
    cases h with
    | bind _ hrest =>
      obtain ⟨body', h, hbinds⟩ := ih hrest
      exact ⟨body', h, fun p hp => .bindNext trivial (hbinds p hp)⟩
    | fail hrest =>
      obtain ⟨body', h, hbinds⟩ := ih hrest
      exact ⟨body', h, fun p hp => .failNext trivial (hbinds p hp)⟩

theorem Converses.endsInError (h : Converses rules body s j calls ending t l)
    (hbinds : ∀ p, body.Binds (fun _ => True) p → p.Throughout rules (fun _ => True) HandsBack)
    (hs : s.EndsInError) : t.EndsInError := by
  induction h with
  | @finish value s t j ht =>
    rw [ht]
    split
    . exact hs
    . exact hs
  | halt => exact hs
  | @bind p next s t u j k l calls ending h _ ih =>
    apply ih
    . intro p hp
      exact hbinds p (.bindNext trivial hp)
    . have hp : p.Throughout rules Passage.history.given Passage.history.node :=
        (hbinds p .bind).mono (fun _ _ => trivial) fun _ hq => hq.bringsNothing
      exact (Passage.returns Passage.history_grafts hp hs trivial h).1
  | fail _ ih =>
    apply ih
    . intro p hp
      exact hbinds p (.failNext trivial hp)
    . exact .fail _ _

structure Final (s : State) (j : Journal) (calls : List Call) (t : State) (l : Journal) : Prop where
  outlasts : s.Outlasts t
  chain_eq : t.chain = s.chain ++ calls.filterMap (·.message?)
  journal : ∃ opened, l = { j with opened }
  calls : ∀ call ∈ calls, call.state.isError = true ∧ ∃ opened, call.journal = { j with opened }

theorem Converses.final (h : Converses rules body s j calls ending t l)
    (hbinds : ∀ p, body.Binds (fun _ => True) p → p.Throughout rules (fun _ => True) HandsBack)
    (hs : s.isError = true) : Final s j calls t l := by
  induction h with
  | finish ht =>
    rw [if_pos hs] at ht
    rw [ht]
    exact ⟨.refl hs, (List.append_nil _).symm, ⟨_, rfl⟩, nofun⟩
  | halt => exact ⟨.refl hs, (List.append_nil _).symm, ⟨_, rfl⟩, nofun⟩
  | bind h _ ih =>
    obtain ⟨rfl, opened, rfl⟩ := eq_of_returns_failed (hbinds _ .bind) hs h
    have hrest := ih (fun p hp => hbinds p (.bindNext trivial hp)) hs
    refine ⟨hrest.outlasts, hrest.chain_eq, hrest.journal, ?_⟩
    rw [List.forall_mem_cons]
    exact ⟨⟨hs, opened, rfl⟩, hrest.calls⟩
  | fail _ ih =>
    have hrest := ih (fun p hp => hbinds p (.failNext trivial hp)) rfl
    refine ⟨hrest.outlasts.of_fail, ?_, hrest.journal, ?_⟩
    . rw [hrest.chain_eq]
      exact List.append_assoc _ _ _
    . rw [List.forall_mem_cons]
      exact ⟨⟨rfl, _, rfl⟩, hrest.calls⟩

/--
From a state that has not failed, a contextual parser returns just if its body comes to an end. It
fails just if a call of the body was a failure; else it returns the state after the last call, with
the value that the body ended with. After a failure every call of the body is answered with one and
leaves no trace in the tables and events, and what is returned is the state right after the failure
with the messages that were flagged later, the last of which is the error.
-/
theorem failure_is_final {body : State → Suggestions → Body} (hs : s.isError = false) (j : Journal)
    (hbinds : ∀ p, (body s (j.table s.registry)).Binds (fun _ => True) p →
      p.Throughout rules (fun _ => True) HandsBack) :
    (∀ t l, Returns rules (.contextual body) s j t l ↔
      ∃ calls ending, Converses rules (body s (j.table s.registry)) s j calls ending t l) ∧
    ∀ calls ending t l, Converses rules (body s (j.table s.registry)) s j calls ending t l →
      (t.isError = true ↔ ∃ call ∈ calls, call.halts = true) ∧
      ((∀ call ∈ calls, call.halts = false) → t = conclude s calls ending) ∧
      ∀ before call after, calls = before ++ call :: after → call.halts = true →
        Final call.state call.journal after t l ∧ t.chain.getLast? = t.error := by
  refine ⟨fun t l => contextual_returns_iff hs, ?_⟩
  intro calls ending t l h
  have hfinal (before : List Call) (call : Call) (after : List Call)
      (hcalls : calls = before ++ call :: after) (hhalts : call.halts = true) :
      Final call.state call.journal after t l := by
    have hcall : call ∈ calls := by
      rw [hcalls]
      exact List.mem_append_right _ List.mem_cons_self
    have herror := h.isError_of_halts hcall hhalts
    subst hcalls
    obtain ⟨body', hrest, hsub⟩ := h.split
    exact hrest.final (fun p hp => hbinds p (hsub p hp)) herror
  refine ⟨⟨?_, ?_⟩, fun hcalls => (h.eq_conclude hs hcalls).1, ?_⟩
  . intro herror
    by_contra hnone
    have hcalls : ∀ call ∈ calls, call.halts = false := by
      intro call hcall
      rw [← Bool.not_eq_true]
      intro hhalts
      exact hnone ⟨call, hcall, hhalts⟩
    rw [(h.eq_conclude hs hcalls).2] at herror
    contradiction
  . rintro ⟨call, hcall, hhalts⟩
    obtain ⟨before, after, hcalls⟩ := List.append_of_mem hcall
    exact (hfinal before call after hcalls hhalts).outlasts.isError
  . intro before call after hcalls hhalts
    have hrest := hfinal before call after hcalls hhalts
    exact ⟨hrest, h.endsInError hbinds (.of_live hs) hrest.outlasts.isError⟩

theorem failure_is_final_carriedOn :
    let body (_ : State) (_ : Suggestions) : Body :=
      .bind .letters fun _ _ => .bind (.literal "=") fun _ _ =>
        .fail "no sign" fun _ _ => .bind .digits fun t _ => .finish t.result
    let s : State := { target := "ab1", registry := 0 }
    s.isError = false ∧
      (∀ p, (body s {}).Binds (fun _ => True) p → p.Throughout [] (fun _ => True) HandsBack) ∧
      ∃ before call after t l, Returns [] (.contextual body) s {} t l ∧
        Converses [] (body s {}) s {} (before ++ call :: after) (some t.result) t l ∧
        before.length = 1 ∧ after.length = 2 ∧ call.halts = true ∧
        Final call.state call.journal after t l ∧ t.index = 2 ∧
        t.chain = ["expected \"=\" after \"ab\" at index 2, got \"1\"", "no sign"] := by
  intro body s
  have hs : s.isError = false := rfl
  have hbinds : ∀ p, (body s {}).Binds (fun _ => True) p →
      p.Throughout [] (fun _ => True) HandsBack := by
    have hprimitive {q : Parser} (hq : q.IsPrimitive) (hnode : q.HandsBack) :
        q.Throughout [] (fun _ => True) HandsBack := Throughout.of_isPrimitive hq hnode
    intro p hp
    cases hp with
    | bind => exact hprimitive trivial trivial
    | bindNext _ hp =>
      cases hp with
      | bind => exact hprimitive trivial trivial
      | bindNext _ hp =>
        cases hp with
        | failNext _ hp =>
          cases hp with
          | bind => exact hprimitive trivial trivial
          | bindNext _ hp => cases hp
  let name : State :=
    { s with index := 2, result := .token "ab", mark := .ofToken "ab" 0 2 }
  let failed : State := name.fail "expected \"=\" after \"ab\" at index 2, got \"1\""
  have hname : (parse [] 1 .letters s {}).passes (fun t k => t == name && k == {}) = true := by
    decide +kernel
  have hfailed : (parse [] 1 (.literal "=") name {}).passes (fun t _ => t == failed) = true := by
    decide +kernel
  obtain ⟨_, _, hletters, htest⟩ := returns_of_passes 1 hname
  simp only [Bool.and_eq_true, beq_iff_eq] at htest
  obtain ⟨rfl, rfl⟩ := htest
  obtain ⟨_, k, hsign, htest⟩ := returns_of_passes 1 hfailed
  obtain rfl := beq_iff_eq.mp htest
  let flagged : State := failed.fail "no sign"
  have hdigits : Returns [] .digits flagged k flagged k := ⟨1, rfl⟩
  have h : Converses [] (body s {}) s {}
      [⟨none, name, {}⟩, ⟨none, failed, k⟩, ⟨some "no sign", flagged, k⟩, ⟨none, flagged, k⟩]
      (some flagged.result) flagged k :=
    .bind hletters (.bind hsign (.fail (.bind hdigits (.finish rfl))))
  obtain ⟨hreturns, hcalls⟩ := failure_is_final hs {} hbinds
  have hcontextual := (hreturns flagged k).mpr ⟨_, _, h⟩
  obtain ⟨-, -, hfinal⟩ := hcalls _ _ flagged k h
  obtain ⟨hfinal, -⟩ := hfinal [⟨none, name, {}⟩] ⟨none, failed, k⟩
    [⟨some "no sign", flagged, k⟩, ⟨none, flagged, k⟩] rfl rfl
  exact ⟨hs, hbinds, [⟨none, name, {}⟩], _, _, flagged, k, hcontextual, h, rfl, rfl, rfl, hfinal,
    rfl, rfl⟩

end Parser
end Waymark
