import Waymark.Proofs.Passage.Run

/-!
This module contains what the chain of a state tells: a run only appends messages to it, also where
it goes back in the text, and the last message of a failed state is its error.
-/

namespace Waymark

namespace State

def EndsInError (s : State) : Prop :=
  s.isError = true → s.chain.getLast? = s.error

variable {s : State}

theorem EndsInError.of_live (h : s.isError = false) : s.EndsInError := by
  intro herror
  rw [h] at herror
  contradiction

theorem EndsInError.fail (s : State) (message : String) : (s.fail message).EndsInError := by
  intro _
  unfold State.fail
  exact List.getLast?_concat

theorem toExcept_of_live (h : s.isError = false) : s.toExcept = .ok s.result := by
  have herror : s.error = none := Option.not_isSome_iff_eq_none.mp (Bool.eq_false_iff.mp h)
  unfold toExcept
  rw [herror]

theorem EndsInError.toExcept (hs : s.EndsInError) (h : s.isError = true) :
    ∃ e, s.toExcept = .error e ∧ e.chain = s.chain ∧ e.chain.getLast? = some e.message ∧
      e.location = s.location := by
  have hlast := hs h
  obtain ⟨message, hmessage⟩ := Option.isSome_iff_exists.mp h
  rw [hmessage] at hlast
  refine ⟨⟨message, s.chain, s.location⟩, ?_, rfl, hlast, rfl⟩
  unfold State.toExcept
  rw [hmessage]

end State

namespace Passage

def history : Passage where
  node := Parser.BringsNothing
  given := State.EndsInError
  leads s t := s.chain <+: t.chain
  journal _ := True
  refl _ := List.prefix_refl _
  trans h h' := h.trans h'
  leads_withResult _ _ := List.prefix_refl _
  leads_fail _ _ := List.prefix_append _ _
  leads_withDiagnosticsOf h := h
  leads_past _ _ _ _ _ := by simp only [State.chain_past, List.prefix_refl]
  leads_setState hnode _ := hnode.elim
  given_withResult h _ := h
  given_fail _ message := .fail _ message
  given_told _ message := .fail _ message
  given_past h hlive _ _ _ := by
    apply State.EndsInError.of_live
    rw [State.isError_past, hlive]
  given_setState hnode _ := hnode.elim
  not_transform hnode := hnode
  countOpened _ := trivial
  noAlternative _ _ _ := trivial
  missed _ _ _ _ _ _ _ _ _ _ := trivial

theorem history_grafts : history.Grafts := by
  intro s t _ hlive _
  exact State.EndsInError.of_live hlive

end Passage

namespace Parser

variable {rules : Rules} {p : Parser}

theorem returns_of_parseText {n : Nat} {target : String} {t : State} {j k : Journal}
    (h : parseText rules n p target j = .done t k) :
    ∃ registry j' k', Returns rules p { target, registry } j' t k' := by
  unfold parseText at h
  obtain ⟨s, j', hs, h⟩ := Effect.bind_eq_done_iff.mp h
  obtain ⟨u, k', hu, h⟩ := Effect.bind_eq_done_iff.mp h
  obtain ⟨_, _, -, h⟩ := Effect.bind_eq_done_iff.mp h
  obtain ⟨rfl, -⟩ := Outcome.done.inj h
  obtain ⟨rfl, -⟩ := Outcome.done.inj hs
  exact ⟨_, _, _, n, hu⟩

/--
A run appends to the chain of the state that it starts from, and if it fails then the last message of
the chain is the error. So the outcome of parsing a text is either an error with the last message of
its chain and the final offset or the result, whatever failures the chain tells of.
-/
theorem chain_grows_to_error (hp : p.Throughout rules (fun _ => True) BringsNothing) :
    (∀ s j t k, s.EndsInError → Returns rules p s j t k →
      s.chain <+: t.chain ∧ (t.isError = true → t.chain ≠ [] ∧ t.chain.getLast? = t.error)) ∧
      ∀ n target j t k, parseText rules n p target j = .done t k →
        (t.isError = true → ∃ e, t.toExcept = .error e ∧ e.chain = t.chain ∧
          e.chain.getLast? = some e.message ∧ e.location.offset = t.index) ∧
        (t.isError = false → t.toExcept = .ok t.result) := by
  have hp' : p.Throughout rules Passage.history.given Passage.history.node :=
    hp.mono (fun _ _ => trivial) fun _ h => h
  constructor
  . intro s j t k hs h
    obtain ⟨hends, hchain, -⟩ := Passage.returns Passage.history_grafts hp' hs trivial h
    refine ⟨hchain, ?_⟩
    intro herror
    have hlast : t.chain.getLast? = t.error := hends herror
    refine ⟨?_, hlast⟩
    intro hnil
    rw [hnil, List.getLast?_nil] at hlast
    unfold State.isError at herror
    rw [← hlast] at herror
    contradiction
  . intro n target j t k h
    obtain ⟨registry, j', k', h⟩ := returns_of_parseText h
    have hs : Passage.history.given { target, registry } := State.EndsInError.of_live rfl
    obtain ⟨hends, -, -⟩ := Passage.returns Passage.history_grafts hp' hs trivial h
    refine ⟨?_, State.toExcept_of_live⟩
    intro herror
    obtain ⟨e, he, hchain, hlast, hlocation⟩ := State.EndsInError.toExcept hends herror
    refine ⟨e, he, hchain, hlast, ?_⟩
    rw [hlocation]
    rfl

theorem chain_grows_to_error_many :
    let p : Parser := .sequence [.many (.literal "a"), .optional (.literal "x"), .literal "b"]
    p.Throughout [] (fun _ => True) BringsNothing ∧
      ∃ t k, parseText [] 6 p "aac" {} = .done t k ∧ t.isError = true ∧ t.chain.length = 2 ∧
        ∃ e, t.toExcept = .error e ∧ e.chain = t.chain ∧ e.chain.getLast? = some e.message ∧
          e.location.offset = t.index := by
  intro p
  have hp : p.Throughout [] (fun _ => True) BringsNothing := by
    refine Throughout.of_list [p, .many (.literal "a"), .optional (.literal "x"), .literal "a",
      .literal "x", .literal "b"] ?_ ?_ ?_ ?_ ?_
    . simp
    . simp [IsPlain, p]
    . simp [inner, p]
    . simp [p]
    . simp [BringsNothing, p]
  obtain ⟨t, k, h, herror, hlength⟩ : ∃ t k, parseText [] 6 p "aac" {} = .done t k ∧
      t.isError = true ∧ t.chain.length = 2 := ⟨_, _, rfl, by decide, by decide⟩
  exact ⟨hp, t, k, h, herror, hlength, ((chain_grows_to_error hp).2 _ _ _ _ _ h).1 herror⟩

end Parser
end Waymark
