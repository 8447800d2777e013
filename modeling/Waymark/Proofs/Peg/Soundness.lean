import Waymark.Proofs.Parts
import Waymark.Proofs.Peg.Realization
import Waymark.Proofs.Peg.Translation
import Waymark.Proofs.Primitive
import Waymark.Proofs.Triple

/-!
This module contains the proof that parsers only return what the expressions they stand for match:
what holds of the runs of the parts holds of a step of the parser made of them, and so of every run.
-/

namespace Waymark

open Effect Peg State

namespace Parser

variable {names : Meaning} {run : Parser → State → Effect State} {e e₁ e₂ : Expr} {s : State}

def Sound (names : Meaning) (run : Parser → State → Effect State) (p : Parser) : Prop :=
  ∀ s : State, s.Ready → Keeps (run p s) (Realizes names p.expr s)

theorem keeps_unlessError (hs : s.Ready) {act : Effect State} {post : State → Prop}
    (h : Keeps act post) : Keeps (s.unlessError act) post := by
  apply Keeps.unlessError
  . intro herror
    rw [hs.live] at herror
    contradiction
  . intro _
    exact h

section Primitive

theorem keeps_past (hs : s.Ready) {front back : List Char} (hrest : s.rest = front ++ back)
    (h : Matches names e s.rest (some back)) :
    Keeps (pure (s.past front)) (Realizes names e s) := by
  apply Keeps.pure
  apply Realizes.of_leaves
  . rw [State.target_past]
  . refine ⟨?_, hs.onBoundary.past hrest⟩
    rw [State.isError_past, hs.live]
  . rw [hs.onBoundary.rest_past hrest]
    exact h

theorem keeps_miss (hs : s.Ready) (expected pattern : String) (h : Matches names e s.rest none) :
    Keeps (s.miss expected pattern) (Realizes names e s) := by
  apply Keeps.update
  apply Keeps.update
  apply Keeps.pure
  exact .of_fails rfl hs.onBoundary rfl h

theorem keeps_withResult (hs : s.Ready) (value : Value) (h : Matches names e s.rest (some s.rest)) :
    Keeps (pure (s.withResult value)) (Realizes names e s) := by
  apply Keeps.pure
  exact .of_leaves rfl ⟨hs.live, hs.onBoundary⟩ h

theorem keeps_literal (hs : s.Ready) (text : String) :
    Keeps (runLiteral text s) (Realizes names (.text text.toList) s) := by
  rcases runLiteral_cases hs.onBoundary text with ⟨back, hrest, h⟩ | ⟨hmismatch, h⟩
  . rw [h]
    exact keeps_past hs hrest (.text hrest)
  . rw [h]
    exact keeps_miss hs _ _ (.textMiss hmismatch)

theorem keeps_pattern (hs : s.Ready) (p : Pattern) :
    Keeps (runPattern p s) (Realizes names (.pattern p.regex) s) := by
  rcases runPattern_cases hs.onBoundary p with
    ⟨span, front, back, hfind, hrest, hstop, h⟩ | ⟨hfind, h⟩
  . rw [h]
    apply keeps_past hs hrest
    apply Matches.pattern hfind
    rw [Text.dropBytes_eq_some_iff]
    exact ⟨front, hrest, hstop⟩
  . rw [h]
    exact keeps_miss hs _ _ (.patternMiss hfind)

theorem keeps_eatUntil (hs : s.Ready) (terminal : Regex) :
    Keeps (runEatUntil terminal s) (Realizes names (.upTo terminal) s) := by
  rcases runEatUntil_cases hs.onBoundary terminal with
    ⟨span, front, back, hfind, hrest, hstart, h⟩ | ⟨hfind, h⟩
  . rw [h]
    apply keeps_past hs hrest
    apply Matches.upTo hfind
    rw [Text.dropBytes_eq_some_iff]
    exact ⟨front, hrest, hstart⟩
  . rw [h]
    exact keeps_past hs (List.append_nil _).symm (.upToEnd hfind)

theorem keeps_anyChar (hs : s.Ready) : Keeps (runAnyChar s) (Realizes names .any s) := by
  rcases runAnyChar_cases hs.onBoundary with ⟨c, cs, hrest, h⟩ | ⟨hrest, h⟩
  . rw [h]
    apply keeps_past hs hrest
    rw [hrest]
    exact .any
  . rw [h]
    apply keeps_miss hs
    rw [hrest]
    exact .anyEnd

theorem keeps_endOfInput (hs : s.Ready) :
    Keeps (runEndOfInput s) (Realizes names (.not .any) s) := by
  rcases runEndOfInput_cases hs.onBoundary with ⟨hrest, h⟩ | ⟨hrest, h⟩
  . rw [h]
    apply keeps_withResult hs
    rw [hrest]
    exact .not .anyEnd
  . rw [h]
    apply keeps_miss hs
    obtain ⟨c, cs, hcons⟩ := List.exists_cons_of_ne_nil hrest
    rw [hcons]
    exact .notFail .any

theorem keeps_peek (hs : s.Ready) : Keeps (runPeek s) (Realizes names .empty s) := by
  obtain ⟨value, h⟩ := runPeek_eq s
  rw [h]
  exact keeps_withResult hs value .empty

theorem primitive_sound {rules : Rules} {p : Parser} (hplain : IsPlain p)
    (hp : IsPrimitive p) (m : Nat) : Sound names (step run rules m) p := by
  intro s hs
  cases p with
  | literal text =>
    apply keeps_unlessError hs
    exact keeps_literal hs text
  | pattern p =>
    apply keeps_unlessError hs
    exact keeps_pattern hs p
  | eatUntil terminal =>
    apply keeps_unlessError hs
    exact keeps_eatUntil hs terminal
  | anyChar =>
    apply keeps_unlessError hs
    exact keeps_anyChar hs
  | endOfInput =>
    apply keeps_unlessError hs
    exact keeps_endOfInput hs
  | peek =>
    apply keeps_unlessError hs
    exact keeps_peek hs
  | getState =>
    apply Keeps.pure
    exact .of_leaves rfl hs .empty
  | succeed value =>
    apply keeps_unlessError hs
    exact keeps_withResult hs value .empty
  | fail message =>
    apply keeps_unlessError hs
    apply Keeps.pure
    exact .of_fails rfl hs.onBoundary rfl .fail
  | setState saved => exact hplain.elim
  | _ => exact hp.elim

end Primitive

theorem realizes_of_inOrder {ps : List Parser} {t : State} (hs : s.Ready)
    (h : InOrder (fun p => Realizes names p.expr) ps s t) :
    Realizes names (.seqs (exprs ps)) s t := by
  induction h with
  | nil value => exact .of_leaves rfl ⟨hs.live, hs.onBoundary⟩ .empty
  | stop h ht => exact h.seqFail ht
  | next h ht _ ih => exact h.seq ht (ih (h.ready ht))

theorem firstSuccess_keeps {ps : List Parser} (hps : ∀ p ∈ ps, Sound names run p) (hs : s.Ready)
    (best : Option State) :
    Keeps (firstSuccess run s ps best) fun
      | .ok t => Realizes names (.alts (exprs ps)) s t
      | .error _ => Matches names (.alts (exprs ps)) s.rest none := by
  induction ps generalizing best with
  | nil =>
    apply Keeps.pure
    exact .fail
  | cons p ps ih =>
    apply Keeps.bind (hps p List.mem_cons_self s hs)
    intro t ht
    split
    . next hlive =>
      apply Keeps.mono (ih (fun q hq => hps q (List.mem_cons_of_mem p hq)) _)
      intro found hfound
      cases found with
      | ok u => exact ⟨hfound.target_eq, hfound.onBoundary, .altElse (ht.fails hlive) hfound.verdict⟩
      | error _ => exact .altElse (ht.fails hlive) hfound
    . next hlive =>
      rw [Bool.not_eq_true] at hlive
      apply Keeps.pure
      exact .of_leaves ht.target_eq (ht.ready hlive) (.alt (ht.leaves hlive))

section Loop

theorem collect_keeps {p : Parser} (hp : Sound names run p) (m : Nat) (hs : s.Ready) :
    Keeps (collect run p m s) (Gathers names (.plus p.expr) s s) := by
  induction m generalizing s with
  | zero => apply Keeps.exhausted
  | succ m ih =>
    apply Keeps.bind (hp s hs)
    intro t ht
    split
    . next hlive =>
      apply Keeps.pure
      refine ⟨rfl, ⟨hs.live, hs.onBoundary⟩, ?_, ?_⟩
      . intro _
        exact ⟨rfl, .seqFail (ht.fails hlive)⟩
      . intro h
        exact absurd rfl h
    . next hlive =>
      rw [Bool.not_eq_true] at hlive
      apply Keeps.bind (ih (ht.ready hlive))
      intro a ha
      apply Keeps.pure
      refine ⟨ha.target_eq.trans ht.target_eq, ha.ready, ?_, ?_⟩
      . intro h
        exact absurd h (List.cons_ne_nil _ _)
      . intro _
        have hmore := ha.opt.leaves ha.ready.live
        exact .seq (ht.leaves hlive) hmore.star_of_opt_plus

theorem collectSeparated_keeps {separator p : Parser} (hseparator : Sound names run separator)
    (hp : Sound names run p) (m : Nat) {last : State} (hlast : last.Ready)
    (htarget : s.target = last.target) (hs : s.Ready) :
    Keeps (collectSeparated run separator p m last s)
      (Gathers names (.sepBy1 separator.expr p.expr) last s) := by
  induction m generalizing last s with
  | zero => apply Keeps.exhausted
  | succ m ih =>
    apply Keeps.bind (hp s hs)
    intro t ht
    split
    . next hlive =>
      apply Keeps.pure
      refine ⟨rfl, ⟨hlast.live, hlast.onBoundary⟩, ?_, ?_⟩
      . intro _
        exact ⟨rfl, .seqFail (ht.fails hlive)⟩
      . intro h
        exact absurd rfl h
    . next hlive =>
      rw [Bool.not_eq_true] at hlive
      apply Keeps.bind (hseparator t (ht.ready hlive))
      intro between hbetween
      split
      . next hstop =>
        apply Keeps.pure
        refine ⟨ht.target_eq.trans htarget, ⟨hlive, ht.onBoundary⟩, ?_, ?_⟩
        . intro h
          exact absurd h (List.cons_ne_nil _ _)
        . intro _
          exact .seq (ht.leaves hlive) (.starEnd (.seqFail (hbetween.fails hstop)))
      . next hgo =>
        rw [Bool.not_eq_true] at hgo
        apply Keeps.bind (ih (ht.ready hlive) hbetween.target_eq (hbetween.ready hgo))
        intro a ha
        apply Keeps.pure
        refine ⟨ha.target_eq.trans (ht.target_eq.trans htarget), ha.ready, ?_, ?_⟩
        . intro h
          exact absurd h (List.cons_ne_nil _ _)
        . intro _
          apply Matches.seq (ht.leaves hlive)
          cases hvalues : a.2 with
          | nil =>
            -- The separator is given back when no value follows it.
            obtain ⟨hindex, hfails⟩ := ha.nothing hvalues
            rw [rest_congr ha.target_eq hindex]
            exact .starEnd (.seq (hbetween.leaves hgo) hfails.fails_of_seq_star)
          | cons value values =>
            have hsome := ha.something (by rw [hvalues]; exact List.cons_ne_nil _ _)
            cases hsome with
            | seq h₁ h₂ => exact .star (.seq (hbetween.leaves hgo) h₁) h₂

end Loop

variable {rules : Rules} {sees : State → Prop} {p : Parser}

theorem step_sound
    (hnames : ∀ name xs o, Matches names (rules.grammar name) xs o → names name xs o) (m : Nat)
    (hp : IsPlain p) (hparts : ∀ q, Part rules sees p q → Sound names run q) :
    Sound names (step run rules m) p := by
  intro s hs
  have hinner (q : Parser) (hq : q ∈ p.inner) : Sound names run q := hparts q (.inner hq)
  have hready (p : Parser) (s t : State) (h : Realizes names p.expr s t)
      (ht : t.isError = false) : t.Ready := h.ready ht
  cases p with
  | sequence ps =>
    apply keeps_unlessError hs
    apply Keeps.mono (gathered_inOrder (runAll_inOrder hready hinner hs))
    intro t ht
    exact realizes_of_inOrder hs ht
  | sequenceSepBy separator ps =>
    apply keeps_unlessError hs
    apply Keeps.mono (gathered_inOrder (runSeparated_inOrder hready hinner hs))
    intro t ht
    unfold expr
    rw [← seqs_separated]
    exact realizes_of_inOrder hs ht
  | choice ps =>
    apply keeps_unlessError hs
    apply Keeps.bind (firstSuccess_keeps hinner hs none)
    intro found hfound
    cases found with
    | ok t => exact Keeps.pure hfound
    | error best =>
      apply Keeps.update
      apply Keeps.pure
      cases best with
      | none => exact .of_fails rfl hs.onBoundary rfl hfound
      | some t => exact .of_fails rfl hs.onBoundary rfl hfound
  | many body =>
    apply keeps_unlessError hs
    apply Keeps.bind (collect_keeps (hinner body List.mem_cons_self) m hs)
    intro a ha
    apply Keeps.pure
    have hmany := ha.opt.leaves ha.ready.live
    exact .of_leaves ha.target_eq ⟨ha.ready.live, ha.ready.onBoundary⟩ hmany.star_of_opt_plus
  | many1 body =>
    apply keeps_unlessError hs
    apply Keeps.bind (collect_keeps (hinner body List.mem_cons_self) m hs)
    intro a ha
    apply Keeps.pure
    apply ha.requireSome
  | sepBy separator body =>
    apply keeps_unlessError hs
    apply Keeps.bind (collectSeparated_keeps (hinner separator (by simp [inner]))
      (hinner body (by simp [inner])) m hs rfl hs)
    intro a ha
    apply Keeps.pure
    exact ha.opt.congr rfl rfl rfl
  | sepBy1 separator body =>
    apply keeps_unlessError hs
    apply Keeps.bind (collectSeparated_keeps (hinner separator (by simp [inner]))
      (hinner body (by simp [inner])) m hs rfl hs)
    intro a ha
    apply Keeps.pure
    apply ha.requireSome
  | between opening content closing =>
    apply Keeps.mono (between_inOrder hready hinner hs m)
    intro t ht
    exact realizes_of_inOrder hs ht
  | optional body =>
    apply keeps_unlessError hs
    apply Keeps.bind (hinner body List.mem_cons_self s hs)
    intro t ht
    apply Keeps.pure
    split
    . next hlive => exact .of_leaves rfl ⟨hs.live, hs.onBoundary⟩ (.altElse (ht.fails hlive) .empty)
    . next hlive =>
      rw [Bool.not_eq_true] at hlive
      exact .of_leaves ht.target_eq (ht.ready hlive) (.alt (ht.leaves hlive))
  | keepLeft left right =>
    apply Keeps.mono (keepLeft_inOrder hready hinner hs m)
    intro t ht
    exact realizes_of_inOrder hs ht
  | keepRight left right =>
    apply Keeps.mono (keepRight_inOrder hready hinner hs m)
    intro t ht
    exact realizes_of_inOrder hs ht
  | map body f =>
    apply Keeps.bind (hinner body List.mem_cons_self s hs)
    intro t ht
    apply Keeps.unlessError
    . intro _
      exact ht
    . intro _
      apply Keeps.pure
      exact ht.congr rfl rfl rfl
  | mapError body f =>
    apply Keeps.bind (hinner body List.mem_cons_self s hs)
    intro t ht
    split
    . exact Keeps.pure ht
    . next message hmessage =>
      have hfailed : t.isError = true := by
        unfold State.isError
        rw [hmessage]
        rfl
      apply Keeps.pure
      exact ht.congr rfl rfl hfailed.symm
  | deferred body =>
    apply Keeps.update
    exact hinner body List.mem_cons_self s hs
  | rule name =>
    -- A name matches what the expression of its rule matches, which is what the run has shown.
    apply Keeps.update
    apply Keeps.mono (hparts (rules.resolve name) .rule s hs)
    intro t ht
    exact ⟨ht.target_eq, ht.onBoundary, .rule (hnames _ _ _ ht.verdict)⟩
  | setState saved => exact hp.elim
  | chain first next => exact hp.elim
  | contextual body => exact hp.elim
  | transform f => exact hp.elim
  | _ => exact primitive_sound hp trivial m s hs

theorem parse_sound (hp : p.Throughout rules sees IsPlain) (n : Nat) :
    Sound (fun name => Derives rules.grammar (rules.grammar name)) (parse rules n) p := by
  induction n generalizing p with
  | zero =>
    intro s _
    apply Keeps.exhausted
  | succ n ih =>
    apply step_sound _ n hp.self
    . intro q hq
      exact ih (hp.part hq)
    . intro name xs o h
      exact .intro h

end Parser
end Waymark
