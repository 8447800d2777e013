import Waymark.Parser.Run
import Waymark.Proofs.Triple

/-!
This module contains parsers that run one after another up to the first failure, which is what a
sequence, a separated sequence and the combinators of two and three parsers have in common. What
their runs keep, and that they end, is shown here once from the runs of the single parsers.
-/

namespace Waymark

open Effect

namespace Parser

def eachAfter (separator : Parser) : List Parser → List Parser
  | [] => []
  | p :: ps => separator :: p :: eachAfter separator ps

def separated (separator : Parser) : List Parser → List Parser
  | [] => []
  | p :: ps => p :: eachAfter separator ps

inductive InOrder (each : Parser → State → State → Prop) : List Parser → State → State → Prop where
  | nil {s : State} (value : Value) : InOrder each [] s (s.withResult value)
  | stop {p : Parser} {ps : List Parser} {s t : State} (h : each p s t) (ht : t.isError = true) :
      InOrder each (p :: ps) s t
  | next {p : Parser} {ps : List Parser} {s t u : State} (h : each p s t)
      (ht : t.isError = false) (hrest : InOrder each ps t u) : InOrder each (p :: ps) s u

def EndInOrder (run : Parser → State → Effect State) : List Parser → State → Prop
  | [], _ => True
  | p :: ps, s => Ends (run p s) fun t => t.isError = false → EndInOrder run ps t

variable {run : Parser → State → Effect State} {rules : Rules} {separator p q : Parser}
  {ps : List Parser} {s t : State}

theorem mem_of_mem_eachAfter (h : q ∈ eachAfter separator ps) : q ∈ separator :: ps := by
  induction ps with
  | nil => cases h
  | cons p ps ih =>
    simp only [eachAfter, List.mem_cons] at h ih ⊢
    rcases h with h | h | h
    . exact .inl h
    . exact .inr (.inl h)
    . cases ih h with
      | inl h => exact .inl h
      | inr h => exact .inr (.inr h)

theorem mem_of_mem_separated (h : q ∈ separated separator ps) : q ∈ separator :: ps := by
  cases ps with
  | nil => cases h
  | cons p ps =>
    rw [separated, List.mem_cons] at h
    cases h with
    | inl h =>
      rw [h]
      exact List.mem_cons_of_mem separator List.mem_cons_self
    | inr h =>
      have := mem_of_mem_eachAfter h
      simp only [List.mem_cons] at this ⊢
      cases this with
      | inl h => exact .inl h
      | inr h => exact .inr (.inr h)

section Keeps

variable {ok : State → Prop} {each : Parser → State → State → Prop}

theorem InOrder.refl : InOrder each [] s s :=
  .nil s.result

theorem InOrder.single (h : each p s t) : InOrder each [p] s t := by
  cases ht : t.isError with
  | true => exact .stop h ht
  | false => exact .next h ht .refl

theorem InOrder.withResult (h : InOrder each ps s t) (ht : t.isError = false) (value : Value) :
    InOrder each ps s (t.withResult value) := by
  induction h with
  | nil => exact .nil value
  | stop _ herror =>
    rw [ht] at herror
    contradiction
  | next h hlive _ ih => exact .next h hlive (ih ht)

theorem gathered_inOrder {x : Effect (State × List Value)}
    (hx : Keeps x fun a => InOrder each ps s a.1) :
    Keeps (x >>= fun a => a.1.unlessError (pure (a.1.withResult (.seq a.2))))
      (InOrder each ps s) := by
  apply Keeps.bind hx
  intro a ha
  apply Keeps.unlessError
  . intro _
    exact ha
  . intro hlive
    apply Keeps.pure
    exact ha.withResult hlive _

variable (hok : ∀ p s t, each p s t → t.isError = false → ok t)

include hok

theorem runAll_inOrder (hps : ∀ p ∈ ps, ∀ s, ok s → Keeps (run p s) (each p s)) (hs : ok s) :
    Keeps (runAll run ps s) fun a => InOrder each ps s a.1 := by
  induction ps generalizing s with
  | nil =>
    apply Keeps.pure
    exact .refl
  | cons p ps ih =>
    apply Keeps.bind (hps p List.mem_cons_self s hs)
    intro t ht
    split
    . next herror =>
      apply Keeps.pure
      exact .stop ht herror
    . next hlive =>
      rw [Bool.not_eq_true] at hlive
      apply Keeps.bind (ih (fun q hq => hps q (List.mem_cons_of_mem p hq)) (hok p s t ht hlive))
      intro a ha
      apply Keeps.pure
      exact .next ht hlive ha

theorem runAllAfter_inOrder
    (hps : ∀ p ∈ separator :: ps, ∀ s, ok s → Keeps (run p s) (each p s)) (hs : ok s) :
    Keeps (runAllAfter run separator ps s) fun a =>
      InOrder each (eachAfter separator ps) s a.1 := by
  induction ps generalizing s with
  | nil =>
    apply Keeps.pure
    exact .refl
  | cons p ps ih =>
    simp only [List.forall_mem_cons] at hps ih
    obtain ⟨hseparator, hp, hps⟩ := hps
    apply Keeps.bind (hseparator s hs)
    intro between hbetween
    split
    . next herror =>
      apply Keeps.pure
      exact .stop hbetween herror
    . next hlive =>
      rw [Bool.not_eq_true] at hlive
      apply Keeps.bind (hp between (hok separator s between hbetween hlive))
      intro t ht
      split
      . next herror =>
        apply Keeps.pure
        exact .next hbetween hlive (.stop ht herror)
      . next hlive' =>
        rw [Bool.not_eq_true] at hlive'
        apply Keeps.bind (ih ⟨hseparator, hps⟩ (hok p between t ht hlive'))
        intro a ha
        apply Keeps.pure
        exact .next hbetween hlive (.next ht hlive' ha)

theorem runSeparated_inOrder
    (hps : ∀ p ∈ separator :: ps, ∀ s, ok s → Keeps (run p s) (each p s)) (hs : ok s) :
    Keeps (runSeparated run separator ps s) fun a =>
      InOrder each (separated separator ps) s a.1 := by
  cases ps with
  | nil =>
    apply Keeps.pure
    exact .refl
  | cons p ps =>
    have hrest (q : Parser) (hq : q ∈ separator :: ps) : ∀ s, ok s → Keeps (run q s) (each q s) := by
      apply hps
      simp only [List.mem_cons] at hq ⊢
      cases hq with
      | inl h => exact .inl h
      | inr h => exact .inr (.inr h)
    apply Keeps.bind (hps p (List.mem_cons_of_mem separator List.mem_cons_self) s hs)
    intro t ht
    split
    . next herror =>
      apply Keeps.pure
      exact .stop ht herror
    . next hlive =>
      rw [Bool.not_eq_true] at hlive
      apply Keeps.bind (runAllAfter_inOrder hok hrest (hok p s t ht hlive))
      intro a ha
      apply Keeps.pure
      exact .next ht hlive ha

theorem keeps_next {next : State → Effect State} (hp : Keeps (run p s) (each p s))
    (hnext : ∀ t, ok t → Keeps (next t) (InOrder each ps t)) :
    Keeps (run p s >>= fun t => t.unlessError (next t)) (InOrder each (p :: ps) s) := by
  apply Keeps.bind hp
  intro t ht
  apply Keeps.unlessError
  . exact .stop ht
  . intro hlive
    apply Keeps.mono (hnext t (hok p s t ht hlive))
    intro u hu
    exact .next ht hlive hu

theorem between_inOrder {opening content closing : Parser}
    (hps : ∀ p ∈ [opening, content, closing], ∀ s, ok s → Keeps (run p s) (each p s)) (hs : ok s)
    (m : Nat) :
    Keeps (step run rules m (.between opening content closing) s)
      (InOrder each [opening, content, closing] s) := by
  simp only [List.forall_mem_cons] at hps
  obtain ⟨hopening, hcontent, hclosing, -⟩ := hps
  apply keeps_next hok (hopening s hs)
  intro t ht
  apply keeps_next hok (hcontent t ht)
  intro u hu
  apply keeps_next hok (hclosing u hu)
  intro v _
  apply Keeps.pure
  exact .nil u.result

theorem keepLeft_inOrder {left right : Parser}
    (hps : ∀ p ∈ [left, right], ∀ s, ok s → Keeps (run p s) (each p s)) (hs : ok s) (m : Nat) :
    Keeps (step run rules m (.keepLeft left right) s) (InOrder each [left, right] s) := by
  simp only [List.forall_mem_cons] at hps
  obtain ⟨hleft, hright, -⟩ := hps
  apply keeps_next hok (hleft s hs)
  intro t ht
  apply keeps_next hok (hright t ht)
  intro u _
  apply Keeps.pure
  exact .nil t.result

theorem keepRight_inOrder {left right : Parser}
    (hps : ∀ p ∈ [left, right], ∀ s, ok s → Keeps (run p s) (each p s)) (hs : ok s) (m : Nat) :
    Keeps (step run rules m (.keepRight left right) s) (InOrder each [left, right] s) := by
  simp only [List.forall_mem_cons] at hps
  obtain ⟨hleft, hright, -⟩ := hps
  apply keeps_next hok (hleft s hs)
  intro t ht
  apply Keeps.mono (hright t ht)
  intro u hu
  exact .single hu

end Keeps

section Ends

theorem runAll_halts (h : EndInOrder run ps s) : Halts (runAll run ps s) := by
  induction ps generalizing s with
  | nil => exact Ends.pure trivial
  | cons p ps ih =>
    apply Ends.bind h
    intro t ht
    split
    . exact Ends.pure trivial
    . next hlive =>
      apply Ends.bind (ih (ht (Bool.eq_false_iff.mpr hlive)))
      intro a _
      exact Ends.pure trivial

theorem runAllAfter_halts (h : EndInOrder run (eachAfter separator ps) s) :
    Halts (runAllAfter run separator ps s) := by
  induction ps generalizing s with
  | nil => exact Ends.pure trivial
  | cons p ps ih =>
    apply Ends.bind h
    intro between hbetween
    split
    . exact Ends.pure trivial
    . next hlive =>
      apply Ends.bind (hbetween (Bool.eq_false_iff.mpr hlive))
      intro t ht
      split
      . exact Ends.pure trivial
      . next hlive' =>
        apply Ends.bind (ih (ht (Bool.eq_false_iff.mpr hlive')))
        intro a _
        exact Ends.pure trivial

theorem runSeparated_halts (h : EndInOrder run (separated separator ps) s) :
    Halts (runSeparated run separator ps s) := by
  cases ps with
  | nil => exact Ends.pure trivial
  | cons p ps =>
    apply Ends.bind h
    intro t ht
    split
    . exact Ends.pure trivial
    . next hlive =>
      apply Ends.bind (runAllAfter_halts (ht (Bool.eq_false_iff.mpr hlive)))
      intro a _
      exact Ends.pure trivial

end Ends

end Parser
end Waymark
