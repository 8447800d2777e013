import Waymark.Proofs.CursorSafety
import Waymark.Proofs.Evaluation
import Waymark.Proofs.InOrder
import Waymark.Proofs.OneOrMore
import Waymark.Proofs.Primitive

/-!
This module contains parsers that consume. `Parser.consuming` tells from the shape of a parser that
none of its successes is empty, and `Parser.eval_advances` shows that it is right.
-/

namespace Waymark

open Effect

namespace Parser

mutual

/--
Whether it can be seen from a parser that no success of it leaves the offset where it is, when
`known` tells this of the names of rules.
-/
def consuming (known : String → Bool) : Parser → Bool
  | .literal text => !text.isEmpty
  | .pattern p => p == .letters || p == .digits || p == .blanks
  | .anyChar | .fail _ => true
  | .sequence ps => someConsuming known ps
  | .sequenceSepBy separator ps =>
    someConsuming known ps || (separator.consuming known && decide (2 ≤ ps.length))
  | .choice ps => allConsuming known ps
  | .many1 body | .sepBy1 _ body | .map body _ | .mapError body _ | .deferred body =>
    body.consuming known
  | .between opening content closing =>
    opening.consuming known || (content.consuming known || closing.consuming known)
  | .keepLeft left right | .keepRight left right => left.consuming known || right.consuming known
  | .rule name => known name
  | _ => false

def someConsuming (known : String → Bool) : List Parser → Bool
  | [] => false
  | p :: ps => p.consuming known || someConsuming known ps

def allConsuming (known : String → Bool) : List Parser → Bool
  | [] => true
  | p :: ps => p.consuming known && allConsuming known ps

end

def Consistent (rules : Rules) (known : String → Bool) : Prop :=
  ∀ name, known name = true → (rules.resolve name).consuming known = true

structure Advance (consumes : Bool) (s t : State) : Prop extends s.Ahead t where
  progress : consumes = true → t.isError = false → s.index < t.index

variable {known : String → Bool} {run : Parser → State → Effect State} {s t u : State}
  {b c : Bool}

def Advances (known : String → Bool) (run : Parser → State → Effect State) (p : Parser) : Prop :=
  ∀ s : State, s.OnBoundary → Keeps (run p s) (Advance (p.consuming known) s)

theorem Advance.andThen (h : Advance b s t) (ht : t.isError = false) (h' : Advance c t u) :
    Advance (b || c) s u := by
  refine ⟨h.toAhead.trans h'.toAhead, ?_⟩
  intro hconsumes hu
  have hst := h.index_le
  have htu := h'.index_le
  cases Bool.or_eq_true_iff.mp hconsumes with
  | inl hb =>
    have := h.progress hb ht
    omega
  | inr hc =>
    have := h'.progress hc hu
    omega

theorem Advance.of_error (h : s.Ahead t) (ht : t.isError = true) : Advance b s t := by
  refine ⟨h, ?_⟩
  intro _ hlive
  rw [ht] at hlive
  contradiction

theorem Advance.refl (hs : s.OnBoundary) : Advance false s s :=
  ⟨State.Ahead.refl hs, nofun⟩

theorem Advance.congr (h : Advance b s t) (htarget : u.target = t.target)
    (hindex : u.index = t.index) (herror : t.isError = true → u.isError = true) :
    Advance b s u := by
  refine ⟨⟨h.onBoundary.congr htarget hindex, htarget.trans h.target_eq, ?_⟩, ?_⟩
  . have := h.index_le
    rw [hindex]
    exact this
  . intro hb hu
    rw [hindex]
    apply h.progress hb
    cases ht : t.isError with
    | false => rfl
    | true =>
      rw [herror ht] at hu
      contradiction

def Progress (s t : State) : Prop :=
  t.isError = false → s.index < t.index

theorem Progress.of_error (ht : t.isError = true) : Progress s t := by
  intro hlive
  rw [ht] at hlive
  contradiction

theorem Advance.toProgress (h : Advance b s t) (hb : b = true) : Progress s t :=
  h.progress hb

theorem keeps_progress_unlessError {act : Effect State} (h : Keeps act (Progress s)) :
    Keeps (t.unlessError act) (Progress s) :=
  Keeps.unlessError Progress.of_error fun _ => h

section Primitive

theorem past_progress {front : List Char} (hfront : 0 < Text.size front) :
    Keeps (pure (s.past front)) (Progress s) := by
  apply Keeps.pure
  intro _
  rw [State.index_past]
  omega

theorem miss_progress (expected pattern : String) :
    Keeps (s.miss expected pattern) (Progress s) := by
  apply Keeps.update
  apply Keeps.update
  apply Keeps.pure
  exact Progress.of_error rfl

theorem literal_progress (hs : s.OnBoundary) {text : String} (htext : text.isEmpty = false) :
    Keeps (runLiteral text s) (Progress s) := by
  rcases runLiteral_cases hs text with ⟨back, -, h⟩ | ⟨-, h⟩
  . rw [h]
    apply past_progress
    rw [Nat.pos_iff_ne_zero, Ne, Text.size_eq_zero_iff, String.toList_eq_nil_iff]
    intro hnil
    rw [hnil] at htext
    exact absurd htext (by decide)
  . rw [h]
    apply miss_progress

theorem pattern_progress (hs : s.OnBoundary) {source : String} {set : CharSet} :
    Keeps (runPattern (.oneOrMore source set) s) (Progress s) := by
  rcases runPattern_cases hs (.oneOrMore source set) with
    ⟨span, front, back, hfind, -, hstop, h⟩ | ⟨-, h⟩
  . rw [h]
    apply past_progress
    rw [hstop]
    exact Pattern.stop_oneOrMore_pos hfind
  . rw [h]
    apply miss_progress

theorem anyChar_progress (hs : s.OnBoundary) : Keeps (runAnyChar s) (Progress s) := by
  rcases runAnyChar_cases hs with ⟨c, cs, -, h⟩ | ⟨-, h⟩
  . rw [h]
    apply past_progress
    exact c.utf8Size_pos
  . rw [h]
    apply miss_progress

end Primitive

theorem someConsuming_eachAfter (separator : Parser) (ps : List Parser) :
    someConsuming known (eachAfter separator ps) =
      (someConsuming known ps || (separator.consuming known && decide (1 ≤ ps.length))) := by
  induction ps with
  | nil => simp [eachAfter, someConsuming]
  | cons p ps ih =>
    rw [eachAfter, someConsuming, someConsuming, someConsuming, ih, List.length_cons]
    cases separator.consuming known with
    | true => simp
    | false => simp

theorem someConsuming_separated (separator : Parser) (ps : List Parser) :
    someConsuming known (separated separator ps) =
      (someConsuming known ps || (separator.consuming known && decide (2 ≤ ps.length))) := by
  cases ps with
  | nil => simp [separated, someConsuming]
  | cons p ps =>
    rw [separated, someConsuming, someConsuming, someConsuming_eachAfter, List.length_cons,
      Bool.or_assoc]
    congr 3
    simp

theorem advance_of_inOrder {ps : List Parser} (hs : s.OnBoundary)
    (h : InOrder (fun p => Advance (p.consuming known)) ps s t) :
    Advance (someConsuming known ps) s t := by
  induction h with
  | nil value => exact (Advance.refl hs).congr rfl rfl id
  | stop h ht => exact Advance.of_error h.toAhead ht
  | next h ht _ ih => exact h.andThen ht (ih h.onBoundary)

theorem firstSuccess_advances {ps : List Parser} (hps : ∀ p ∈ ps, Advances known run p)
    (hs : s.OnBoundary) (hconsuming : allConsuming known ps = true) (best : Option State) :
    Keeps (firstSuccess run s ps best) fun
      | .ok t => Progress s t
      | .error _ => True := by
  induction ps generalizing best with
  | nil => exact Keeps.pure trivial
  | cons p ps ih =>
    unfold allConsuming at hconsuming
    obtain ⟨hp, hall⟩ := Bool.and_eq_true_iff.mp hconsuming
    apply Keeps.bind (hps p List.mem_cons_self s hs)
    intro t ht
    split
    . exact ih (fun q hq => hps q (List.mem_cons_of_mem p hq)) hall _
    . apply Keeps.pure
      exact ht.toProgress hp

section Loop

structure Gains (last s : State) (collected : State × List Value) : Prop where
  nothing : collected.2 = [] → collected.1.index = last.index
  something : collected.2 ≠ [] → s.index < collected.1.index

theorem Gains.cons {last t : State} {collected : State × List Value} {value : Value}
    (h : Gains t u collected) (hst : s.index < t.index) (htu : t.index ≤ u.index) :
    Gains last s (collected.1, value :: collected.2) := by
  refine ⟨nofun, ?_⟩
  intro _
  dsimp only
  -- With nothing more collected the state is that after the first value.
  cases hvalues : collected.2 with
  | nil =>
    rw [h.nothing hvalues]
    exact hst
  | cons first rest =>
    have := h.something (by rw [hvalues]; exact List.cons_ne_nil _ _)
    omega

theorem Gains.requireSome {collected : State × List Value} (message : String)
    (h : Gains s s collected) : Progress s (requireSome message collected) := by
  obtain ⟨last, values⟩ := collected
  cases values with
  | nil => exact Progress.of_error rfl
  | cons value values =>
    intro _
    exact h.something (List.cons_ne_nil _ _)

theorem collect_gains {p : Parser} (hp : Advances known run p)
    (hconsuming : p.consuming known = true) (m : Nat) (hs : s.OnBoundary) :
    Keeps (collect run p m s) (Gains s s) := by
  induction m generalizing s with
  | zero => apply Keeps.exhausted
  | succ m ih =>
    apply Keeps.bind (hp s hs)
    intro t ht
    split
    . apply Keeps.pure
      refine ⟨fun _ => rfl, ?_⟩
      intro h
      exact absurd rfl h
    . next hlive =>
      apply Keeps.bind (ih ht.onBoundary)
      intro a ha
      apply Keeps.pure
      exact ha.cons (ht.progress hconsuming (Bool.eq_false_iff.mpr hlive)) (Nat.le_refl _)

theorem collectSeparated_gains {separator p : Parser} (hseparator : Advances known run separator)
    (hp : Advances known run p) (hconsuming : p.consuming known = true) (m : Nat) {last : State}
    (hs : s.OnBoundary) : Keeps (collectSeparated run separator p m last s) (Gains last s) := by
  induction m generalizing last s with
  | zero => apply Keeps.exhausted
  | succ m ih =>
    apply Keeps.bind (hp s hs)
    intro t ht
    split
    . apply Keeps.pure
      refine ⟨fun _ => rfl, ?_⟩
      intro h
      exact absurd rfl h
    . next hlive =>
      have hst := ht.progress hconsuming (Bool.eq_false_iff.mpr hlive)
      apply Keeps.bind (hseparator t ht.onBoundary)
      intro between hbetween
      split
      . apply Keeps.pure
        exact ⟨nofun, fun _ => hst⟩
      . apply Keeps.bind (ih hbetween.onBoundary)
        intro a ha
        apply Keeps.pure
        exact ha.cons hst hbetween.index_le

end Loop

variable {rules : Rules} {p : Parser}

theorem step_progress (hknown : Consistent rules known) (m : Nat)
    (hinner : ∀ q ∈ p.inner, Advances known run q)
    (hrule : ∀ name, p = .rule name → Advances known run (rules.resolve name))
    (hp : p.consuming known = true) (hs : s.OnBoundary) :
    Keeps (step run rules m p s) (Progress s) := by
  have hok (p : Parser) (s t : State) (h : Advance (p.consuming known) s t)
      (_ : t.isError = false) : t.OnBoundary := h.onBoundary
  cases p with
  | literal text =>
    apply keeps_progress_unlessError
    apply literal_progress hs
    exact (Bool.not_eq_true' _).mp hp
  | pattern p =>
    apply keeps_progress_unlessError
    simp only [consuming, Bool.or_eq_true, beq_iff_eq] at hp
    rcases hp with (rfl | rfl) | rfl
    . exact pattern_progress hs
    . exact pattern_progress hs
    . exact pattern_progress hs
  | anyChar =>
    apply keeps_progress_unlessError
    exact anyChar_progress hs
  | fail message =>
    apply keeps_progress_unlessError
    apply Keeps.pure
    exact Progress.of_error rfl
  | sequence ps =>
    apply keeps_progress_unlessError
    apply Keeps.mono (gathered_inOrder (runAll_inOrder hok hinner hs))
    intro t ht
    exact (advance_of_inOrder hs ht).toProgress hp
  | sequenceSepBy separator ps =>
    apply keeps_progress_unlessError
    apply Keeps.mono (gathered_inOrder (runSeparated_inOrder hok hinner hs))
    intro t ht
    apply (advance_of_inOrder hs ht).toProgress
    rw [someConsuming_separated]
    exact hp
  | choice ps =>
    apply keeps_progress_unlessError
    apply Keeps.bind (firstSuccess_advances hinner hs hp none)
    intro found hfound
    cases found with
    | ok t => exact Keeps.pure hfound
    | error best =>
      apply Keeps.update
      apply Keeps.pure
      exact Progress.of_error rfl
  | many1 body =>
    apply keeps_progress_unlessError
    apply Keeps.bind (collect_gains (hinner body List.mem_cons_self) hp m hs)
    intro a ha
    apply Keeps.pure
    apply ha.requireSome
  | sepBy1 separator body =>
    apply keeps_progress_unlessError
    apply Keeps.bind (collectSeparated_gains (hinner separator (by simp [inner]))
      (hinner body (by simp [inner])) hp m hs)
    intro a ha
    apply Keeps.pure
    apply ha.requireSome
  | between opening content closing =>
    apply Keeps.mono (between_inOrder hok hinner hs m)
    intro t ht
    apply (advance_of_inOrder hs ht).toProgress
    simp only [someConsuming, Bool.or_false]
    exact hp
  | keepLeft left right =>
    apply Keeps.mono (keepLeft_inOrder hok hinner hs m)
    intro t ht
    apply (advance_of_inOrder hs ht).toProgress
    simp only [someConsuming, Bool.or_false]
    exact hp
  | keepRight left right =>
    apply Keeps.mono (keepRight_inOrder hok hinner hs m)
    intro t ht
    apply (advance_of_inOrder hs ht).toProgress
    simp only [someConsuming, Bool.or_false]
    exact hp
  | map body f =>
    apply Keeps.bind (hinner body List.mem_cons_self s hs)
    intro t ht
    apply keeps_progress_unlessError
    apply Keeps.pure
    exact ht.toProgress hp
  | mapError body f =>
    apply Keeps.bind (hinner body List.mem_cons_self s hs)
    intro t ht
    split
    . apply Keeps.pure
      exact ht.toProgress hp
    . apply Keeps.pure
      exact Progress.of_error rfl
  | deferred body =>
    apply Keeps.update
    apply Keeps.mono (hinner body List.mem_cons_self s hs)
    intro t ht
    exact ht.toProgress hp
  | rule name =>
    apply Keeps.update
    apply Keeps.mono (hrule name rfl s hs)
    intro t ht
    exact ht.toProgress (hknown name hp)
  | _ => exact absurd hp Bool.false_ne_true

theorem parse_advances (hknown : Consistent rules known)
    (hp : p.Throughout rules (fun _ => True) IsPlain) (n : Nat) :
    Advances known (parse rules n) p := by
  induction n generalizing p with
  | zero =>
    intro s _
    apply Keeps.exhausted
  | succ n ih =>
    -- The offset never moves back in any run; only its progress needs the runs of the parts.
    intro s hs
    constructor
    intro j k t ht
    refine ⟨ahead_of_returns hp hs ⟨n + 1, ht⟩, ?_⟩
    intro hconsuming
    apply Keeps.of_done (step_progress hknown n _ _ hconsuming hs) ht
    . intro q hq
      exact ih (hp.inner hq)
    . rintro name rfl
      exact ih (hp.part .rule)

theorem eval_advances (hknown : Consistent rules known)
    (hp : p.Throughout rules (fun _ => True) IsPlain) : Advances known (eval rules) p := by
  intro s hs
  constructor
  intro j k t h
  obtain ⟨n, hn⟩ := eval_eq_done_iff.mp h
  exact (parse_advances hknown hp n s hs).of_done hn

end Parser
end Waymark
