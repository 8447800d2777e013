import Waymark.Proofs.Evaluation
import Waymark.Proofs.HighWater
import Waymark.Proofs.Tabulation

/-!
This module contains what the table of a run holds: it grows by the misses of the run, each filed
under its key, and by nothing else. No way of going back in the text takes an entry back.
-/

namespace Waymark

def Event.miss? : Event → Option Miss
  | .missed miss => some miss
  | _ => none

/--
The key that a miss belongs under: the token of the mark, if there is a mark and it ends where the
primitive was run, and otherwise the text of the result.
-/
def Miss.key (miss : Miss) : String :=
  let mark := miss.state.mark
  if (mark.token ≠ "" ∨ mark.tokenIndex ≠ 0) ∧ mark.tokenIndex = miss.state.index then
    mark.token
  else
    miss.state.result.render

def Miss.entry (miss : Miss) : String × String :=
  (miss.key, miss.pattern)

theorem State.suggestionKey_eq_key (s : State) (expected pattern : String) :
    s.suggestionKey = Miss.key ⟨s, expected, pattern⟩ := by
  unfold suggestionKey Miss.key Mark.isEmpty
  simp only [Bool.and_eq_true, Bool.not_eq_true', Bool.and_eq_false_iff, beq_eq_false_iff_ne,
    beq_iff_eq, String.isEmpty_eq_false_iff, ne_eq]

def Journal.Filed (ok : Miss → Prop) (id : RegistryId) (j k : Journal) : Prop :=
  ∃ events, j.Extends k events ∧ (∀ miss ∈ events.filterMap Event.miss?, ok miss) ∧
    k.table id = (j.table id).recordAll ((events.filterMap Event.miss?).map Miss.entry)

namespace Journal.Filed

variable {ok : Miss → Prop} {id : RegistryId} {j k : Journal}

theorem refl (ok : Miss → Prop) (id : RegistryId) (j : Journal) : j.Filed ok id j :=
  ⟨[], .refl j, by simp, rfl⟩

theorem log (h : j.Filed ok id k) {event : Event} (hevent : event.miss? = none) :
    j.Filed ok id (k.log event) := by
  obtain ⟨events, hevents, hok, htable⟩ := h
  have hmisses : (events ++ [event]).filterMap Event.miss? = events.filterMap Event.miss? := by
    rw [List.filterMap_append, List.filterMap_cons_none hevent, List.filterMap_nil, List.append_nil]
  refine ⟨events ++ [event], hevents.log event, ?_, ?_⟩
  . rw [hmisses]
    exact hok
  . rw [hmisses, Journal.table_log]
    exact htable

theorem miss (h : j.Filed ok id k) (miss : Miss) (hmiss : ok miss)
    (hid : miss.state.registry = id) :
    j.Filed ok id
      ((k.record miss.state.registry miss.state.suggestionKey miss.pattern).log (.missed miss)) := by
  obtain ⟨events, hevents, hok, htable⟩ := h
  have hmisses : (events ++ [Event.missed miss]).filterMap Event.miss? =
      events.filterMap Event.miss? ++ [miss] := by
    rw [List.filterMap_append]
    rfl
  refine ⟨events ++ [.missed miss], (hevents.record _ _ _).log _, ?_, ?_⟩
  . intro miss' hmem
    rw [hmisses, List.mem_append, List.mem_singleton] at hmem
    cases hmem with
    | inl hmem => exact hok miss' hmem
    | inr heq =>
      rw [heq]
      exact hmiss
  . rw [hmisses, List.map_append, Suggestions.recordAll_append, ← htable, Journal.table_log, hid,
      Journal.table_record_self, State.suggestionKey_eq_key _ miss.expected miss.pattern]
    rfl

end Journal.Filed

namespace Parser

def MayMiss (rules : Rules) (p : Parser) (miss : Miss) : Prop :=
  ∃ q, Relation.ReflTransGen (Part rules fun _ => True) p q ∧
    q.expects = some (miss.expected, miss.pattern) ∧
    eval rules q miss.state = miss.state.miss miss.expected miss.pattern

end Parser

namespace Passage

def filing (rules : Rules) (p : Parser) (id : RegistryId) (start : Journal) : Passage where
  node q := Relation.ReflTransGen (Parser.Part rules fun _ => True) p q ∧ ∀ f, q ≠ .transform f
  given s := s.registry = id
  leads _ _ := True
  journal := start.Filed (p.MayMiss rules) id
  refl _ := trivial
  trans _ _ := trivial
  leads_withResult _ _ := trivial
  leads_fail _ _ := trivial
  leads_withDiagnosticsOf _ := trivial
  leads_past _ _ _ _ _ := trivial
  leads_setState _ _ := trivial
  given_withResult h _ := h
  given_fail h _ := h
  given_told h _ := h
  given_past h _ _ _ _ := by rw [State.registry_past, h]
  given_setState _ h := h
  not_transform hnode := hnode.2 _ rfl
  countOpened h := h
  noAlternative h _ _ := h.log rfl
  missed hnode _ h _ _ _ hexpects hmiss _ hj := by
    refine hj.miss ⟨_, _, _⟩ ⟨_, hnode.1, hexpects, ?_⟩ h
    exact Parser.eval_eq fun m => hmiss _ _ m

end Passage

namespace Parser

variable {rules : Rules} {p : Parser} {s t : State} {j k : Journal}

/--
Whatever a parser does, the table of its registry afterwards is the table before with the misses of
the run recorded in it, one for each event of a miss; each is one of a primitive of the parser.
-/
theorem table_eq_recordAll_misses
    (hp : p.Throughout rules (fun _ => True) fun q => ∀ f, q ≠ .transform f)
    (h : Returns rules p s j t k) :
    t.registry = s.registry ∧ ∃ events, j.Extends k events ∧
      (∀ miss ∈ events.filterMap Event.miss?, p.MayMiss rules miss) ∧
      k.table s.registry =
        (j.table s.registry).recordAll ((events.filterMap Event.miss?).map Miss.entry) ∧
      ∀ key pattern, pattern ∈ (k.table s.registry).expectedAfter key ↔
        pattern ∈ (j.table s.registry).expectedAfter key ∨
          ∃ miss ∈ events.filterMap Event.miss?, miss.key = key ∧ miss.pattern = pattern := by
  have hnode : p.Throughout rules (fun u => u.registry = s.registry)
      (Passage.filing rules p s.registry j).node := by
    intro q hq
    have hq' := hq.lift id fun _ _ hpart => hpart.mono fun _ _ => trivial
    exact ⟨hq', hp q hq'⟩
  let P := Passage.filing rules p s.registry j
  have hgrafts : P.Grafts := fun _ _ h _ _ => h
  have hstart : P.journal j := Journal.Filed.refl _ _ j
  obtain ⟨hregistry, -, hfiled⟩ := Passage.returns hgrafts hnode rfl hstart h
  obtain ⟨events, hevents, hmisses, htable⟩ := hfiled
  refine ⟨hregistry, events, hevents, hmisses, htable, ?_⟩
  intro key pattern
  rw [htable, Suggestions.mem_expectedAfter_recordAll, List.mem_map]
  simp only [Miss.entry, Prod.mk.injEq]

def lookAhead (p : Parser) : Parser :=
  .chain .getState fun s _ => .keepRight p (.setState s)

theorem throughout_lookAhead {sees : State → Prop}
    (hp : p.Throughout rules sees fun q => ∀ f, q ≠ .transform f) :
    (lookAhead p).Throughout rules sees fun q => ∀ f, q ≠ .transform f := by
  apply Throughout.intro
  . simp [lookAhead]
  . intro q hq
    cases hq with
    | inner hq =>
      obtain rfl := List.mem_singleton.mp hq
      exact Throughout.of_isPrimitive trivial (by simp)
    | @next _ _ saved _ _ _ =>
      apply Throughout.of_inner
      . simp
      . trivial
      . simp
      . simp only [inner, List.forall_mem_cons]
        refine ⟨hp, ?_, by simp⟩
        exact Throughout.of_isPrimitive (p := .setState saved) trivial (by simp)

theorem table_eq_recordAll_misses_keys :
    let p : Parser := .sequence
      [.optional (.literal "x"), .literal "a", lookAhead (.choice [.literal "y", .literal "b"])]
    let s : State := { target := "ab", registry := 0 }
    p.Throughout [] (fun _ => True) (fun q => ∀ f, q ≠ .transform f) ∧
      ∃ t k, Returns [] p s {} t k ∧ t.index = 1 ∧
        k.table 0 = ({} : Suggestions).recordAll [("null", "x"), ("a", "y")] ∧
        (k.table 0).expectedAfter "a" = ["y"] := by
  intro p s
  have hchoice : (choice [.literal "y", .literal "b"]).Throughout [] (fun _ => True)
      fun q => ∀ f, q ≠ .transform f := by
    refine Throughout.of_list [choice [.literal "y", .literal "b"], .literal "y", .literal "b"]
      ?_ ?_ ?_ ?_ ?_
    all_goals simp [IsPlain, inner]
  have hoptional : (optional (.literal "x")).Throughout [] (fun _ => True)
      fun q => ∀ f, q ≠ .transform f := by
    refine Throughout.of_list [.optional (.literal "x"), .literal "x"] ?_ ?_ ?_ ?_ ?_
    all_goals simp [IsPlain, inner]
  have hp : p.Throughout [] (fun _ => True) fun q => ∀ f, q ≠ .transform f := by
    apply Throughout.of_inner
    . simp [p]
    . trivial
    . simp [p]
    . simp only [p, inner, List.forall_mem_cons]
      refine ⟨hoptional, ?_, throughout_lookAhead hchoice, by simp⟩
      exact Throughout.of_isPrimitive (p := .literal "a") trivial (by simp)
  have hpasses : (parse [] 5 p s {}).passes (fun t k => t.index == 1 &&
      (k.events.toList.filterMap Event.miss?).map Miss.entry == [("null", "x"), ("a", "y")]) =
        true := by
    decide +kernel
  obtain ⟨t, k, ht, htest⟩ := returns_of_passes 5 hpasses
  obtain ⟨hindex, hentries⟩ : t.index = 1 ∧
      (k.events.toList.filterMap Event.miss?).map Miss.entry = [("null", "x"), ("a", "y")] := by
    simpa using htest
  obtain ⟨-, events, hevents, -, htable, -⟩ := table_eq_recordAll_misses hp ht
  obtain rfl : k.events.toList = events := hevents
  have htable' : k.table 0 = ({} : Suggestions).recordAll [("null", "x"), ("a", "y")] := by
    rw [← hentries]
    exact htable
  refine ⟨hp, t, k, ht, hindex, htable', ?_⟩
  rw [htable']
  decide

end Parser
end Waymark
