import Waymark.Proofs.CursorSafety
import Waymark.Proofs.Noninterference
import Waymark.Proofs.Passage.Run

/-!
This module contains what the mark of a state says of its offset. Parsers move the mark along with
the offset, but a repetition goes back to where its last attempt started and keeps the mark of that
attempt. So the mark of a live state is at its offset or before it as long as this is so wherever a
repetition ends; then the mark also never goes back, and what a miss names as the last token does
not end after the place of the miss.
-/

namespace Waymark

namespace State

def MarkBehind (s : State) : Prop :=
  s.isError = false → s.mark.tokenIndex ≤ s.index

instance : DecidablePred MarkBehind := fun s =>
  inferInstanceAs (Decidable (s.isError = false → s.mark.tokenIndex ≤ s.index))

theorem MarkBehind.of_isError {s : State} (h : s.isError = true) : s.MarkBehind := by
  intro hlive
  rw [h] at hlive
  contradiction

theorem MarkBehind.mark_le_past {s : State} (h : s.MarkBehind) (hlive : s.isError = false)
    (text : List Char) : s.mark.tokenIndex ≤ (s.past text).mark.tokenIndex := by
  have hle := h hlive
  rw [mark_past]
  split
  . exact Nat.le_refl _
  . dsimp only [Mark.ofToken]
    omega

theorem MarkBehind.past {s : State} (h : s.MarkBehind) (hlive : s.isError = false)
    (text : List Char) : (s.past text).MarkBehind := by
  have hle := h hlive
  intro _
  rw [mark_past, index_past]
  split
  . omega
  . exact Nat.le_refl _

end State

def Journal.GrownBy (ok : Miss → Prop) (j k : Journal) : Prop :=
  ∃ events, j.Extends k events ∧ ∀ miss, .missed miss ∈ events → ok miss

namespace Journal.GrownBy

variable {ok : Miss → Prop} {j k : Journal}

theorem refl (ok : Miss → Prop) (j : Journal) : j.GrownBy ok j :=
  ⟨[], .refl j, by simp⟩

theorem log (h : j.GrownBy ok k) {event : Event} (hevent : ∀ miss, .missed miss = event → ok miss) :
    j.GrownBy ok (k.log event) := by
  obtain ⟨events, hevents, hok⟩ := h
  refine ⟨_, hevents.log event, ?_⟩
  intro miss hmiss
  rw [List.mem_append, List.mem_singleton] at hmiss
  cases hmiss with
  | inl h => exact hok miss h
  | inr h => exact hevent miss h

theorem record (h : j.GrownBy ok k) (id : RegistryId) (key pattern : String) :
    j.GrownBy ok (k.record id key pattern) := h

end Journal.GrownBy

def Miss.IsTruthful (miss : Miss) : Prop :=
  miss.state.mark.tokenIndex ≤ miss.state.index

namespace Parser

def watched (rules : Rules) (given : State → Prop) (kept : Parser → State → State → Prop)
    [DecidablePred given] [∀ p s t, Decidable (kept p s t)] : Nat → Parser → State → Effect State :=
  checked rules (fun _ => given) kept fun s => .splitCharacter s.index

/--
Whether all states that parsers are given in a run are `given`, and each parser takes its state to
one that it should.
-/
def Upholds (rules : Rules) (given : State → Prop) (kept : Parser → State → State → Prop)
    [DecidablePred given] [∀ p s t, Decidable (kept p s t)] (p : Parser) (s : State) (j : Journal) :
    Prop :=
  ∀ n, watched rules given kept n p s j = parse rules n p s j

def EndsBehind (p : Parser) (_ t : State) : Prop :=
  p.IsRepetition → t.MarkBehind

def TakesMarkOn (_ : Parser) (s t : State) : Prop :=
  t.MarkBehind ∧ s.mark.tokenIndex ≤ t.mark.tokenIndex

instance (p : Parser) (s t : State) : Decidable (EndsBehind p s t) :=
  inferInstanceAs (Decidable (p.IsRepetition → t.MarkBehind))

instance (p : Parser) (s t : State) : Decidable (TakesMarkOn p s t) :=
  inferInstanceAs (Decidable (t.MarkBehind ∧ s.mark.tokenIndex ≤ t.mark.tokenIndex))

end Parser

namespace Passage

def highWater (start : Journal) : Passage where
  node := Parser.BringsNothing
  given := State.MarkBehind
  leads s t := s.mark.tokenIndex ≤ t.mark.tokenIndex
  journal := start.GrownBy Miss.IsTruthful
  refl _ := Nat.le_refl _
  trans h h' := Nat.le_trans h h'
  leads_withResult _ _ := Nat.le_refl _
  leads_fail _ _ := Nat.le_refl _
  leads_withDiagnosticsOf h := h
  leads_past h hlive _ _ _ := h.mark_le_past hlive _
  leads_setState hnode _ := hnode.elim
  given_withResult h _ := h
  given_fail _ _ := .of_isError rfl
  given_told _ _ := .of_isError rfl
  given_past h hlive _ _ _ := h.past hlive _
  given_setState hnode _ := hnode.elim
  not_transform hnode := hnode
  countOpened h := h
  noAlternative h _ _ := h.log nofun
  missed _ _ h hlive _ _ _ _ _ hj := by
    apply (hj.record _ _ _).log
    rintro _ ⟨⟩
    exact h hlive

end Passage

namespace Parser

variable {rules : Rules} {p : Parser} {s : State}

theorem watched_couples (start : Journal) (hp : p.Throughout rules State.MarkBehind BringsNothing)
    (n : Nat) (hs : s.MarkBehind) :
    (Passage.highWater start).Couples (watched rules (fun _ => True) EndsBehind n p s)
      (watched rules State.MarkBehind TakesMarkOn n p s) ((Passage.highWater start).Moves s) := by
  induction n generalizing p s with
  | zero => exact Passage.Couples.exhausted
  | succ n ih =>
    rw [watched, watched, checked, checked, if_pos trivial, if_pos hs]
    have hpart (q : Parser) (hq : Part rules State.MarkBehind p q) :
        (Passage.highWater start).Respects (watched rules (fun _ => True) EndsBehind n)
          (watched rules State.MarkBehind TakesMarkOn n) q := by
      intro t ht
      exact ih (hp.part hq) ht
    apply Passage.Couples.bind (Passage.step hp.self hpart n hs)
    intro t ht
    obtain ⟨hleads, hgiven⟩ := ht
    by_cases ht : t.MarkBehind
    . have hends : EndsBehind p s t := fun _ => ht
      have htakes : TakesMarkOn p s t := ⟨ht, hleads⟩
      rw [if_pos hends, if_pos htakes]
      exact Passage.Couples.pure ⟨ht, hleads⟩
    . have hends : ¬ EndsBehind p s t := by
        intro h
        apply ht
        by_cases hrepetition : p.IsRepetition
        . exact h hrepetition
        . exact hgiven fun h => absurd h hrepetition
      have htakes : ¬ TakesMarkOn p s t := fun h => ht h.1
      rw [if_neg hends, if_neg htakes]
      exact Passage.Couples.raise _

theorem watched_couples_parse (start : Journal)
    (hp : p.Throughout rules State.MarkBehind fun q => q.BringsNothing ∧ ¬ q.IsRepetition) (n : Nat)
    (hs : s.MarkBehind) :
    (Passage.highWater start).Couples (watched rules (fun _ => True) EndsBehind n p s)
      (parse rules n p s) ((Passage.highWater start).Moves s) := by
  induction n generalizing p s with
  | zero => exact Passage.Couples.exhausted
  | succ n ih =>
    have hparse : parse rules (n + 1) p s = step (parse rules n) rules n p s >>= pure := by
      rw [bind_pure, parse]
    rw [watched, checked, if_pos trivial, hparse]
    have hpart (q : Parser) (hq : Part rules State.MarkBehind p q) :
        (Passage.highWater start).Respects (watched rules (fun _ => True) EndsBehind n)
          (parse rules n) q := by
      intro t ht
      exact ih (hp.part hq) ht
    apply Passage.Couples.bind (Passage.step hp.self.1 hpart n hs)
    intro t ht
    have hgiven : t.MarkBehind := ht.2 fun h => absurd h hp.self.2
    have hends : EndsBehind p s t := fun _ => hgiven
    rw [if_pos hends]
    exact Passage.Couples.pure ⟨hgiven, ht.1⟩

/--
No run is at fault from an offset between two characters. In a run in which the mark of no live state
that is the end of a repetition has passed its offset, this is so of all live states that are passed
to a parser or returned by one, and no parser takes the mark back; the reverse holds as well. All
runs without repetitions are such runs, and what they tell of a miss is true.
-/
theorem mark_stays_behind_iff (hp : p.Throughout rules (fun _ => True) BringsNothing)
    (hs : s.OnBoundary) (hmark : s.MarkBehind) (j : Journal) :
    (∀ n cause, parse rules n p s j ≠ .fault cause) ∧
      (Upholds rules (fun _ => True) EndsBehind p s j ↔
        Upholds rules State.MarkBehind TakesMarkOn p s j) ∧
      (p.Throughout rules (fun _ => True) (fun q => ¬ q.IsRepetition) →
        Upholds rules (fun _ => True) EndsBehind p s j) ∧
      (Upholds rules (fun _ => True) EndsBehind p s j →
        ∀ t k, Returns rules p s j t k → j.GrownBy Miss.IsTruthful k) := by
  have hp' : p.Throughout rules State.MarkBehind BringsNothing :=
    hp.mono (fun _ _ => trivial) fun _ h => h
  have hj := Journal.GrownBy.refl Miss.IsTruthful j
  have hwatched (n : Nat) := watched_couples j hp' n hmark
  refine ⟨?_, ?_, ?_, ?_⟩
  . intro n cause
    exact parse_ne_fault_of_bringsNothing hp hs n j cause
  . apply forall_congr'
    intro n
    rw [(hwatched n).eq hj]
  . intro hplain n
    refine (watched_couples_parse j ?_ n hmark).eq hj
    intro q hq
    have hq' := hq.lift id fun _ _ hpart => hpart.mono fun _ _ => trivial
    exact ⟨hp q hq', hplain q hq'⟩
  . rintro hupholds t k ⟨n, hn⟩
    rw [← hupholds n] at hn
    exact ((hwatched n).of_done hj hn).2.2

/--
A repetition whose last attempt came to the second of three letters: the mark is ahead of the state
that it ends with, a miss from there names a token that comes later, and the next token takes the
mark back.
-/
theorem mark_ahead_of_repetition_end :
    let p : Parser := .many (.sequence [.literal "a", .literal "b", .literal "c"])
    let s : State := { target := "abd", registry := 0 }
    p.Throughout [] (fun _ => True) BringsNothing ∧
      ∃ t k, Returns [] p s {} t k ∧ t.isError = false ∧ t.index < t.mark.tokenIndex ∧
        (∃ u l, Returns [] (.literal "x") t k u l ∧
          u.error = some "expected \"x\" after \"b\" at index 0, got \"abd\"") ∧
        ∃ u l, Returns [] .anyChar t k u l ∧ u.isError = false ∧
          u.mark.tokenIndex < t.mark.tokenIndex := by
  intro p s
  have hp : p.Throughout [] (fun _ => True) BringsNothing := by
    refine Throughout.of_list [p, .sequence [.literal "a", .literal "b", .literal "c"],
      .literal "a", .literal "b", .literal "c"] ?_ ?_ ?_ ?_ ?_
    . simp
    . simp [IsPlain, p]
    . simp [inner, p]
    . simp [p]
    . simp [BringsNothing, p]
  refine ⟨hp, _, _, ⟨6, rfl⟩, by decide, by decide, ?_, ?_⟩
  . exact ⟨_, _, ⟨1, rfl⟩, by decide +kernel⟩
  . exact ⟨_, _, ⟨1, rfl⟩, by decide, by decide⟩

theorem mark_stays_behind_iff_choice :
    let p : Parser := .sequence [.literal "ab", .choice [.literal "c", .anyChar]]
    let s : State := { target := "abd", registry := 0 }
    p.Throughout [] (fun _ => True) BringsNothing ∧ s.OnBoundary ∧ s.MarkBehind ∧
      p.Throughout [] (fun _ => True) (fun q => ¬ q.IsRepetition) ∧
      Upholds [] State.MarkBehind TakesMarkOn p s {} := by
  intro p s
  have hparts {node : Parser → Prop} (hnode : ∀ q ∈ [p, .literal "ab",
      .choice [.literal "c", .anyChar], .literal "c", .anyChar], node q) :
      p.Throughout [] (fun _ => True) node := by
    refine Throughout.of_list _ ?_ ?_ ?_ ?_ hnode
    . simp
    . simp [IsPlain, p]
    . simp [inner, p]
    . simp [p]
  have hp : p.Throughout [] (fun _ => True) BringsNothing :=
    hparts (by simp [BringsNothing, p])
  have hplain : p.Throughout [] (fun _ => True) fun q => ¬ q.IsRepetition :=
    hparts (by simp [IsRepetition, p])
  have hs : s.OnBoundary := by decide
  have hmark : s.MarkBehind := by decide
  obtain ⟨-, hiff, hends, -⟩ := mark_stays_behind_iff hp hs hmark {}
  exact ⟨hp, hs, hmark, hplain, hiff.mp (hends hplain)⟩

end Parser
end Waymark
