import Waymark.Proofs.CursorSafety

/-!
This module contains the independence of a run from where it stands in its text. Whatever comes
before the text from some offset on moves the offsets that a run returns and marks, and nothing else
of what it returns and files.
-/

namespace Waymark

inductive Mark.Apart (n : Nat) : Mark → Mark → Prop where
  | empty : Apart n {} {}
  | token {token : String} {start stop : Nat} (htoken : token ≠ "") (hstop : 0 < stop) :
      Apart n (.ofToken token (n + start) (n + stop)) (.ofToken token start stop)

namespace Mark.Apart

variable {n : Nat} {m m' best best' : Mark}

theorem tokenIndex_lt_iff (hbest : Apart n best best') (h : Apart n m m') :
    best.tokenIndex < m.tokenIndex ↔ best'.tokenIndex < m'.tokenIndex := by
  cases hbest with
  | empty =>
    cases h with
    | empty => rfl
    | token htoken hstop =>
      dsimp [Mark.ofToken]
      omega
  | token htoken hstop =>
    cases h with
    | empty =>
      dsimp [Mark.ofToken]
      omega
    | token htoken' hstop' =>
      dsimp [Mark.ofToken]
      omega

end Mark.Apart

namespace State

/--
Whether a state is after a text `before` what another one is without it, between two characters.
-/
structure After (before : List Char) (id id' : RegistryId) (s s' : State) : Prop where
  chars_eq : s.target.chars = before ++ s'.target.chars
  onBoundary : s'.OnBoundary
  index_eq : s.index = Text.size before + s'.index
  result_eq : s.result = s'.result
  isError_eq : s.isError = s'.isError
  mark_apart : s.mark.Apart (Text.size before) s'.mark
  length_chain_eq : s.chain.length = s'.chain.length
  registry_eq : s.registry = id
  registry_eq' : s'.registry = id'

namespace After

variable {before : List Char} {id id' : RegistryId} {s s' t t' : State}

theorem split (h : s.After before id id' s') :
    ∃ front, s.target.chars = front ++ s'.rest ∧ Text.size front = s.index := by
  obtain ⟨front, hchars, hsize⟩ := h.onBoundary.split
  refine ⟨before ++ front, ?_, ?_⟩
  . rw [h.chars_eq, hchars, List.append_assoc]
  . rw [Text.size_append, hsize, h.index_eq]

theorem onBoundary_left (h : s.After before id id' s') : s.OnBoundary := by
  obtain ⟨front, hfront⟩ := h.split
  exact ⟨front, s'.rest, hfront⟩

theorem rest_eq (h : s.After before id id' s') : s.rest = s'.rest := by
  obtain ⟨front, hchars, hsize⟩ := h.split
  exact rest_eq_of_split hchars hsize

theorem isAtEnd_eq (h : s.After before id id' s') : s.isAtEnd = s'.isAtEnd := by
  rw [Bool.eq_iff_iff, h.onBoundary_left.isAtEnd_iff, h.onBoundary.isAtEnd_iff, h.rest_eq]

theorem suggestionKey_eq (h : s.After before id id' s') : s.suggestionKey = s'.suggestionKey := by
  have hmark := h.mark_apart
  unfold suggestionKey
  rw [h.index_eq, h.result_eq]
  generalize s.mark = m at hmark
  generalize s'.mark = m' at hmark
  cases hmark with
  | empty => rfl
  | token htoken hstop => simp [Mark.isEmpty, Mark.ofToken, htoken]

theorem withResult (h : s.After before id id' s') (value : Value) :
    (s.withResult value).After before id id' (s'.withResult value) :=
  { h with result_eq := rfl }

theorem fail (h : s.After before id id' s') (message message' : String) :
    (s.fail message).After before id id' (s'.fail message') where
  chars_eq := h.chars_eq
  onBoundary := h.onBoundary
  index_eq := h.index_eq
  result_eq := h.result_eq
  isError_eq := rfl
  mark_apart := h.mark_apart
  length_chain_eq := by simp [State.fail, h.length_chain_eq]
  registry_eq := h.registry_eq
  registry_eq' := h.registry_eq'

theorem withDiagnosticsOf (h : s.After before id id' s') (ht : t.After before id id' t') :
    (s.withDiagnosticsOf t).After before id id' (s'.withDiagnosticsOf t') where
  chars_eq := h.chars_eq
  onBoundary := h.onBoundary
  index_eq := h.index_eq
  result_eq := h.result_eq
  isError_eq := h.isError_eq
  mark_apart := ht.mark_apart
  length_chain_eq := ht.length_chain_eq
  registry_eq := h.registry_eq
  registry_eq' := h.registry_eq'

theorem further (h : s.After before id id' s') (ht : t.After before id id' t') :
    (Parser.further (some s) t).After before id id' (Parser.further (some s') t') := by
  unfold Parser.further
  dsimp
  by_cases hlt : s.mark.tokenIndex < t.mark.tokenIndex
  . rw [if_pos hlt, if_pos ((h.mark_apart.tokenIndex_lt_iff ht.mark_apart).mp hlt)]
    exact ht
  . rw [if_neg hlt, if_neg (mt (h.mark_apart.tokenIndex_lt_iff ht.mark_apart).mpr hlt)]
    exact h

theorem past (h : s.After before id id' s') {front back : List Char}
    (hrest : s.rest = front ++ back) : (s.past front).After before id id' (s'.past front) where
  chars_eq := by rw [target_past, target_past, h.chars_eq]
  onBoundary := h.onBoundary.past (h.rest_eq.symm.trans hrest)
  index_eq := by rw [index_past, index_past, h.index_eq, Nat.add_assoc]
  result_eq := by rw [result_past, result_past]
  isError_eq := by rw [isError_past, isError_past, h.isError_eq]
  mark_apart := by
    rw [mark_past, mark_past]
    cases hfront : Text.isInsignificant front with
    | true => exact h.mark_apart
    | false =>
      -- What moves a mark is not empty, so the mark is not at 0 and not taken for an empty one.
      have hne : front ≠ [] := by
        rintro rfl
        contradiction
      rw [if_neg Bool.false_ne_true, if_neg Bool.false_ne_true, h.index_eq, Nat.add_assoc]
      apply Mark.Apart.token
      . rw [ne_eq, String.ofList_eq_empty_iff]
        exact hne
      . have := mt Text.size_eq_zero_iff.mp hne
        omega
  length_chain_eq := by rw [chain_past, chain_past, h.length_chain_eq]
  registry_eq := by rw [registry_past, h.registry_eq]
  registry_eq' := by rw [registry_past, h.registry_eq']

theorem fresh (before text : String) {i : Nat} (hi : ((text : Input).dropBytes i).isSome = true)
    (value : Value) (id id' : RegistryId) :
    After before.toList id id'
      { target := before ++ text, index := before.utf8ByteSize + i, result := value, registry := id }
      { target := text, index := i, result := value, registry := id' } where
  chars_eq := String.toList_append
  onBoundary := onBoundary_iff_isSome.mpr hi
  index_eq := by rw [← Text.utf8ByteSize_eq_size]
  result_eq := rfl
  isError_eq := rfl
  mark_apart := .empty
  length_chain_eq := rfl
  registry_eq := rfl
  registry_eq' := rfl

end After
end State

def Simulation.relocation (before : List Char) (id id' : RegistryId) : Simulation where
  journal k k' := k.table id = k'.table id'
  fault _ _ := False
  state := State.After before id id'
  told := State.After before id id'
  table := Eq
  isError_eq h := h.isError_eq
  result_eq h := h.result_eq
  rest_eq h := h.rest_eq
  isAtEnd_eq h := h.isAtEnd_eq
  withResult h value := h.withResult value
  fail _ ht _ := ht.fail _ _
  told_of_state h := h
  told_further hbest h := hbest.further h
  withDiagnosticsOf h ht := h.withDiagnosticsOf ht
  consume h _ _ hrest := by
    rw [h.onBoundary_left.consume_eq hrest, h.onBoundary.consume_eq (h.rest_eq.symm.trans hrest)]
    exact Bond.Couples.pure (h.past hrest)
  miss h expected pattern := by
    intro k k' hk
    apply Bond.Meets.done
    . exact h.fail _ _
    . dsimp at hk ⊢
      rw [h.registry_eq, h.registry_eq', h.suggestionKey_eq, Journal.table_record_self,
        Journal.table_record_self, hk]
  countOpened h := h
  noAlternative _ _ _ hj _ := hj
  suggestions h _ _ hj := by
    rw [h.registry_eq, h.registry_eq']
    exact hj

structure State.SameResult (s s' : State) : Prop where
  result_eq : s.result = s'.result
  isError_eq : s.isError = s'.isError

namespace Parser

/--
Whether a parser brings in nothing from outside, and makes what it runs next of no more than the
result, whether the parse has failed, and the suggestions.
-/
def ReadsResult (p : Parser) : Prop :=
  p.BringsNothing ∧ p.ChoosesBy State.SameResult Eq

variable {rules : Rules} {p : Parser}

theorem accepts_relocation (hp : p.Throughout rules (fun _ => True) ReadsResult)
    (before : List Char) (id id' : RegistryId) :
    (Simulation.relocation before id id').Accepts rules p := by
  refine Throughout.mono hp ?_ ?_
  . intro _ _
    trivial
  . rintro q ⟨hbrings, hchooses⟩
    have hstate (s s' : State) (h : s.After before id id' s') : s.SameResult s' :=
      ⟨h.result_eq, h.isError_eq⟩
    have hchooses' := hchooses.mono hstate fun _ _ h => h
    cases q with
    | setState saved => exact hbrings.elim
    | chain first next => exact hchooses'
    | mapError body f =>
      intro s s' message message' h _ _
      exact h.fail _ _
    | contextual body => exact hchooses'
    | transform f => exact hbrings.elim
    | _ => trivial

/--
A run from an offset of a text and one from the same place of the text after another one both go on
forever, or both end, with offsets that are the size of the text before apart and the same result,
failure, marked token and suggestions.
-/
theorem runs_alike_after (hp : p.Throughout rules (fun _ => True) ReadsResult)
    (before text : String) (i : Nat) (hi : ((text : Input).dropBytes i).isSome = true)
    (value : Value) (id id' : RegistryId) (j j' : Journal) (hj : j.table id = {})
    (hj' : j'.table id' = {}) :
    let s : State :=
      { target := before ++ text, index := before.utf8ByteSize + i, result := value, registry := id }
    let s' : State := { target := text, index := i, result := value, registry := id' }
    (∀ n, parse rules n p s j = .outOfFuel ∧ parse rules n p s' j' = .outOfFuel) ∨
      ∃ t k t' k', Returns rules p s j t k ∧ Returns rules p s' j' t' k' ∧
        t.After before.toList id id' t' ∧ k.table id = k'.table id' := by
  intro s s'
  apply Simulation.diverge_or_return _ (accepts_relocation hp before.toList id id')
  . exact State.After.fresh before text hi value id id'
  . exact hj.trans hj'.symm
  . intro _ _ h
    exact h

def stutter : Parser :=
  .choice [.literal "y", .chain .anyChar fun s _ =>
    .sequence [.literal s.result.render, .literal "x"]]

theorem throughout_stutter :
    stutter.Throughout [] (fun _ => True) ReadsResult := by
  unfold stutter
  apply Throughout.intro
  . exact ⟨trivial, trivial⟩
  . intro q hq
    cases hq with
    | inner hq =>
      simp only [inner, List.mem_cons, List.not_mem_nil, or_false] at hq
      rcases hq with rfl | rfl
      . exact Throughout.of_isPrimitive trivial ⟨trivial, trivial⟩
      . apply Throughout.intro
        . refine ⟨trivial, ?_⟩
          intro s s' _ _ h _
          dsimp
          rw [h.result_eq]
        . intro r hr
          cases hr with
          | inner hr =>
            obtain rfl := List.mem_singleton.mp hr
            exact Throughout.of_isPrimitive trivial ⟨trivial, trivial⟩
          | @next _ _ s _ _ _ =>
            refine Throughout.of_list [.sequence [.literal s.result.render, .literal "x"],
              .literal s.result.render, .literal "x"] ?_ ?_ ?_ ?_ ?_
            . simp
            . simp [IsPlain]
            . simp [inner]
            . simp
            . simp [ReadsResult, BringsNothing, ChoosesBy]

theorem runs_alike_after_stutter :
    let s : State := { target := "né,aéé", index := 5, registry := 0 }
    let s' : State := { target := "aéé", index := 1, registry := 7 }
    stutter.Throughout [] (fun _ => True) ReadsResult ∧
      (("aéé" : Input).dropBytes 1).isSome = true ∧ ({} : Journal).table 0 = {} ∧
      ({} : Journal).table 7 = {} ∧
      ∃ t k t' k', Returns [] stutter s {} t k ∧ Returns [] stutter s' {} t' k' ∧
        t'.isError = true ∧ t'.mark = .ofToken "é" 3 5 ∧ k'.table 7 ≠ {} ∧
        t.After "né,".toList 0 7 t' ∧ k.table 0 = k'.table 7 := by
  intro s s'
  have hi : (("aéé" : Input).dropBytes 1).isSome = true := by decide
  have hpasses : (parse [] 5 stutter s' {}).passes (fun t k =>
      t.isError && t.mark == .ofToken "é" 3 5 && k.table 7 != {}) = true := by
    decide +kernel
  obtain ⟨u, l, hu, htest⟩ := returns_of_passes 5 hpasses
  simp only [Bool.and_eq_true, beq_iff_eq, bne_iff_ne] at htest
  obtain ⟨⟨herror, hmark⟩, hfiled⟩ := htest
  have halike := runs_alike_after throughout_stutter "né," "aéé" 1 hi .null 0 7 {} {} rfl rfl
  refine ⟨throughout_stutter, hi, rfl, rfl, ?_⟩
  cases halike with
  | inl h =>
    obtain ⟨n, hn⟩ := hu
    have := (h n).2
    rw [hn] at this
    contradiction
  | inr h =>
    obtain ⟨t, k, t', k', ht, ht', hafter, htable⟩ := h
    obtain ⟨rfl, rfl⟩ := hu.unique ht'
    exact ⟨t, k, u, l, ht, hu, herror, hmark, hfiled, hafter, htable⟩

end Parser
end Waymark
