import Waymark.Proofs.Peg.Soundness
import Waymark.Parser.Fuel

/-!
This module contains parsers that hand on all that they consume: what the tokens in a result spell
is the text between the offset where the parser started and the one where it ended, however often
it went back in between.
-/

namespace Waymark

open Effect

namespace Value

mutual

def tokens : Value → List String
  | .null | .int _ => []
  | .token text => [text]
  | .seq items => tokensOfItems items
  | .record fields => tokensOfFields fields

def tokensOfItems : List Value → List String
  | [] => []
  | v :: vs => tokens v ++ tokensOfItems vs

def tokensOfFields : List (String × Value) → List String
  | [] => []
  | (_, v) :: fields => tokens v ++ tokensOfFields fields

end

def spelling (v : Value) : List Char :=
  v.tokens.flatMap String.toList

@[simp]
theorem spelling_token (text : String) : spelling (.token text) = text.toList := by
  simp [spelling, tokens]

@[simp]
theorem spelling_seq (items : List Value) :
    spelling (.seq items) = items.flatMap spelling := by
  unfold spelling
  rw [tokens]
  induction items with
  | nil => rfl
  | cons v vs ih => rw [tokensOfItems, List.flatMap_append, ih, List.flatMap_cons]

end Value

namespace State

structure Spells (text : List Char) (s t : State) : Prop where
  target_eq : t.target = s.target
  index_eq : t.index = s.index + Text.size text
  rest_eq : s.rest = text ++ t.rest

variable {text text' : List Char} {s t u : State}

theorem Spells.refl : Spells [] s s :=
  ⟨rfl, rfl, rfl⟩

theorem Spells.trans (h : Spells text s t) (h' : Spells text' t u) :
    Spells (text ++ text') s u where
  target_eq := h'.target_eq.trans h.target_eq
  index_eq := by rw [h'.index_eq, h.index_eq, Text.size_append, Nat.add_assoc]
  rest_eq := by rw [h.rest_eq, h'.rest_eq, List.append_assoc]

theorem Spells.congr (h : Spells text s t) (htarget : u.target = t.target)
    (hindex : u.index = t.index) : Spells text s u where
  target_eq := htarget.trans h.target_eq
  index_eq := hindex.trans h.index_eq
  rest_eq := by rw [h.rest_eq, rest_congr htarget hindex]

theorem Spells.onBoundary (h : Spells text s t) (hs : s.OnBoundary) : t.OnBoundary := by
  obtain ⟨front, hchars, hsize⟩ := hs.split
  refine ⟨front ++ text, t.rest, ?_, ?_⟩
  . rw [h.target_eq, hchars, h.rest_eq, List.append_assoc]
  . rw [Text.size_append, hsize, h.index_eq]

theorem Spells.past (hs : s.OnBoundary) {front back : List Char} (hrest : s.rest = front ++ back) :
    Spells front s (s.past front) where
  target_eq := target_past s front
  index_eq := index_past s front
  rest_eq := by rw [hs.rest_past hrest, hrest]

theorem Spells.slice (h : Spells text s t) (hs : s.OnBoundary) :
    s.target.slice s.index (t.index - s.index) = some text := by
  obtain ⟨front, hchars, hsize⟩ := hs.split
  rw [Input.slice_eq, Text.slice_eq_some_iff]
  refine ⟨front, t.rest, ?_, hsize, ?_⟩
  . rw [hchars, h.rest_eq, List.append_assoc]
  . rw [h.index_eq, Nat.add_sub_cancel_left]

end State

namespace Parser

def HandsOnText : Parser → Prop
  | .literal _ | .pattern _ | .eatUntil _ | .anyChar | .endOfInput | .fail _ | .sequence _
  | .choice _ | .many _ | .many1 _ | .optional _ | .mapError _ _ | .deferred _ | .rule _ => True
  | _ => False

def Spelled (s : State) (gathered : State × List Value) : Prop :=
  gathered.1.isError = false → s.Spells (gathered.2.flatMap Value.spelling) gathered.1

def Faithful (run : Parser → State → Effect State) (p : Parser) : Prop :=
  ∀ s : State, s.Ready → Keeps (run p s) fun t =>
    t.isError = false → s.Spells t.result.spelling t

variable {run : Parser → State → Effect State} {rules : Rules} {p : Parser} {ps : List Parser}
  {s t : State}

theorem not_live_of_error {prop : Prop} (h : t.isError = true) : t.isError = false → prop := by
  intro hlive
  rw [h] at hlive
  contradiction

theorem Spelled.nil : Spelled s (s, []) :=
  fun _ => .refl

theorem Spelled.of_error (h : t.isError = true) (values : List Value) : Spelled s (t, values) :=
  not_live_of_error h

theorem Spelled.cons {gathered : State × List Value} (h : s.Spells t.result.spelling t)
    (h' : Spelled t gathered) : Spelled s (gathered.1, t.result :: gathered.2) := by
  intro hlive
  rw [List.flatMap_cons]
  exact h.trans (h' hlive)

theorem Spelled.withSeq {gathered : State × List Value} (h : Spelled s gathered)
    (hlive : gathered.1.isError = false) :
    s.Spells (Value.seq gathered.2).spelling (gathered.1.withResult (.seq gathered.2)) := by
  rw [Value.spelling_seq]
  exact (h hlive).congr rfl rfl

section Primitive

theorem past_spells (hs : s.Ready) {front back : List Char} (hrest : s.rest = front ++ back) :
    Keeps (pure (s.past front)) fun t => t.isError = false → s.Spells t.result.spelling t := by
  apply Keeps.pure
  intro _
  rw [State.result_past, Value.spelling_token, String.toList_ofList]
  exact .past hs.onBoundary hrest

theorem miss_spells (expected pattern : String) :
    Keeps (s.miss expected pattern) fun t => t.isError = false → s.Spells t.result.spelling t := by
  apply Keeps.update
  apply Keeps.update
  apply Keeps.pure
  exact not_live_of_error rfl

theorem primitive_spells (hp : p.HandsOnText) (hprimitive : p.IsPrimitive) (m : Nat) :
    Faithful (step run rules m) p := by
  intro s hs
  have hboundary := hs.onBoundary
  cases p with
  | literal text =>
    apply keeps_unlessError hs
    rcases runLiteral_cases hboundary text with ⟨back, hrest, h⟩ | ⟨-, h⟩
    . rw [h]
      exact past_spells hs hrest
    . rw [h]
      apply miss_spells
  | pattern p =>
    apply keeps_unlessError hs
    rcases runPattern_cases hboundary p with ⟨span, front, back, -, hrest, -, h⟩ | ⟨-, h⟩
    . rw [h]
      exact past_spells hs hrest
    . rw [h]
      apply miss_spells
  | eatUntil terminal =>
    apply keeps_unlessError hs
    rcases runEatUntil_cases hboundary terminal with ⟨span, front, back, -, hrest, -, h⟩ | ⟨-, h⟩
    . rw [h]
      exact past_spells hs hrest
    . rw [h]
      exact past_spells hs (List.append_nil _).symm
  | anyChar =>
    apply keeps_unlessError hs
    rcases runAnyChar_cases hboundary with ⟨c, cs, hrest, h⟩ | ⟨-, h⟩
    . rw [h]
      exact past_spells hs hrest
    . rw [h]
      apply miss_spells
  | endOfInput =>
    apply keeps_unlessError hs
    rcases runEndOfInput_cases hboundary with ⟨-, h⟩ | ⟨-, h⟩
    . rw [h]
      apply Keeps.pure
      intro _
      exact State.Spells.refl.congr rfl rfl
    . rw [h]
      apply miss_spells
  | fail message =>
    apply keeps_unlessError hs
    apply Keeps.pure
    exact not_live_of_error rfl
  | peek | getState | setState _ | succeed _ => exact hp.elim
  | _ => exact hprimitive.elim

end Primitive

theorem runAll_spells (hps : ∀ p ∈ ps, Faithful run p) (hs : s.Ready) :
    Keeps (runAll run ps s) (Spelled s) := by
  induction ps generalizing s with
  | nil => exact Keeps.pure .nil
  | cons p ps ih =>
    apply Keeps.bind (hps p List.mem_cons_self s hs)
    intro t ht
    split
    . next herror => exact Keeps.pure (.of_error herror [])
    . next hlive =>
      rw [Bool.not_eq_true] at hlive
      have hspells := ht hlive
      have ht' : t.Ready := ⟨hlive, hspells.onBoundary hs.onBoundary⟩
      apply Keeps.bind (ih (fun q hq => hps q (List.mem_cons_of_mem p hq)) ht')
      intro a ha
      exact Keeps.pure (ha.cons hspells)

theorem firstSuccess_spells (hps : ∀ p ∈ ps, Faithful run p) (hs : s.Ready)
    (best : Option State) :
    Keeps (firstSuccess run s ps best) fun
      | .ok t => t.isError = false → s.Spells t.result.spelling t
      | .error _ => True := by
  induction ps generalizing best with
  | nil => exact Keeps.pure trivial
  | cons p ps ih =>
    apply Keeps.bind (hps p List.mem_cons_self s hs)
    intro t ht
    split
    . exact ih (fun q hq => hps q (List.mem_cons_of_mem p hq)) _
    . exact Keeps.pure ht

theorem collect_spells (hp : Faithful run p) (m : Nat) (hs : s.Ready) :
    Keeps (collect run p m s) fun a => a.1.isError = false ∧ Spelled s a := by
  induction m generalizing s with
  | zero => apply Keeps.exhausted
  | succ m ih =>
    apply Keeps.bind (hp s hs)
    intro t ht
    split
    . -- The failed attempt leaves nothing behind but what it tells.
      apply Keeps.pure
      exact ⟨hs.live, fun _ => State.Spells.refl.congr rfl rfl⟩
    . next hlive =>
      rw [Bool.not_eq_true] at hlive
      have hspells := ht hlive
      apply Keeps.bind (ih ⟨hlive, hspells.onBoundary hs.onBoundary⟩)
      intro a ha
      exact Keeps.pure ⟨ha.1, ha.2.cons hspells⟩

theorem requireSome_spells {message : String} {collected : State × List Value}
    (h : collected.1.isError = false ∧ Spelled s collected) :
    (requireSome message collected).isError = false →
      s.Spells (requireSome message collected).result.spelling (requireSome message collected) := by
  obtain ⟨last, values⟩ := collected
  cases values with
  | nil => exact not_live_of_error rfl
  | cons value values =>
    intro _
    exact h.2.withSeq h.1

theorem step_spells (hp : p.HandsOnText) (hinner : ∀ q ∈ p.inner, Faithful run q)
    (hrule : ∀ name, p = .rule name → Faithful run (rules.resolve name)) (m : Nat) :
    Faithful (step run rules m) p := by
  intro s hs
  cases p with
  | sequence ps =>
    apply keeps_unlessError hs
    apply Keeps.bind (runAll_spells hinner hs)
    intro a ha
    apply Keeps.unlessError
    . exact not_live_of_error
    . intro hlive
      apply Keeps.pure
      intro _
      exact ha.withSeq hlive
  | choice ps =>
    apply keeps_unlessError hs
    apply Keeps.bind (firstSuccess_spells hinner hs none)
    intro found hfound
    cases found with
    | ok t => exact Keeps.pure hfound
    | error best =>
      apply Keeps.update
      apply Keeps.pure
      exact not_live_of_error rfl
  | many body =>
    apply keeps_unlessError hs
    apply Keeps.bind (collect_spells (hinner body List.mem_cons_self) m hs)
    intro a ha
    apply Keeps.pure
    intro _
    exact ha.2.withSeq ha.1
  | many1 body =>
    apply keeps_unlessError hs
    apply Keeps.bind (collect_spells (hinner body List.mem_cons_self) m hs)
    intro a ha
    exact Keeps.pure (requireSome_spells ha)
  | optional body =>
    apply keeps_unlessError hs
    apply Keeps.bind (hinner body List.mem_cons_self s hs)
    intro t ht
    apply Keeps.pure
    split
    . intro _
      exact State.Spells.refl.congr rfl rfl
    . exact ht
  | mapError body f =>
    apply Keeps.bind (hinner body List.mem_cons_self s hs)
    intro t ht
    split
    . exact Keeps.pure ht
    . apply Keeps.pure
      exact not_live_of_error rfl
  | deferred body =>
    apply Keeps.update
    exact hinner body List.mem_cons_self s hs
  | rule name =>
    apply Keeps.update
    exact hrule name rfl s hs
  | literal _ | pattern _ | eatUntil _ | anyChar | endOfInput | fail _ =>
    exact primitive_spells hp trivial m s hs
  | _ => exact hp.elim

theorem parse_spells (hp : p.Throughout rules (fun _ => True) HandsOnText) (n : Nat) :
    Faithful (parse rules n) p := by
  induction n generalizing p with
  | zero =>
    intro s _
    apply Keeps.exhausted
  | succ n ih =>
    apply step_spells hp.self
    . intro q hq
      exact ih (hp.inner hq)
    . rintro name rfl
      exact ih (hp.part .rule)

/--
A parser that hands on all that it consumes succeeds with a result whose tokens, put one after the
other, are the text from the offset where it started to the one where it ended.
-/
theorem result_spells_consumed (hp : p.Throughout rules (fun _ => True) HandsOnText)
    (hs : s.Ready) {j k : Journal} (h : Returns rules p s j t k) (ht : t.isError = false) :
    t.target = s.target ∧ s.index ≤ t.index ∧
      s.target.slice s.index (t.index - s.index) = some t.result.spelling := by
  obtain ⟨n, hn⟩ := h
  have hspells : s.Spells t.result.spelling t := (parse_spells hp n s hs).of_done hn ht
  refine ⟨hspells.target_eq, ?_, hspells.slice hs.onBoundary⟩
  rw [hspells.index_eq]
  exact Nat.le_add_right _ _

def letterList : Parser :=
  .many (.choice [.sequence [.literal "(", .rule "list", .literal ")"], .literal "é"])

theorem result_spells_consumed_letterList :
    let rules : Rules := [("list", letterList)]
    let s : State := { target := "-(é(é))(é", index := 1, registry := 0 }
    letterList.Throughout rules (fun _ => True) HandsOnText ∧ s.Ready ∧
      ∃ t k, Returns rules letterList s {} t k ∧ t.isError = false ∧ t.index = 9 ∧
        s.target.slice 1 8 = some t.result.spelling := by
  intro rules s
  have hp : letterList.Throughout rules (fun _ => True) HandsOnText := by
    refine Throughout.of_list [letterList,
      .choice [.sequence [.literal "(", .rule "list", .literal ")"], .literal "é"],
      .sequence [.literal "(", .rule "list", .literal ")"], .literal "(", .rule "list",
      .literal ")", .literal "é"] ?_ ?_ ?_ ?_ ?_
    . simp
    . simp [IsPlain, letterList]
    . simp [inner, letterList]
    . simp [Rules.resolve, letterList, rules]
    . simp [HandsOnText, letterList]
  have hs : s.Ready := ⟨rfl, by decide⟩
  have hrun : (parse rules 12 letterList s {}).passes
      (fun t _ => !t.isError && t.index == 9) = true := by
    decide +kernel
  obtain ⟨t, k, h, htest⟩ := returns_of_passes 12 hrun
  simp only [Bool.and_eq_true, Bool.not_eq_true', beq_iff_eq] at htest
  obtain ⟨hlive, hindex⟩ := htest
  obtain ⟨-, -, hslice⟩ := result_spells_consumed hp hs h hlive
  rw [hindex] at hslice
  exact ⟨hp, hs, t, k, h, hlive, hindex, hslice⟩

end Parser
end Waymark
