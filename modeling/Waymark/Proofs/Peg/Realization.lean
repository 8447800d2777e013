import Waymark.Parser.Run
import Waymark.Proofs.Boundary
import Waymark.Proofs.Peg.Expr

/-!
This module contains the states that are right about what an expression matches, and how this is put
together from the parts of the expression.
-/

namespace Waymark

namespace State

structure Ready (s : State) : Prop where
  live : s.isError = false
  onBoundary : s.OnBoundary

def verdict (s : State) : Option (List Char) :=
  if s.isError then none else some s.rest

variable {s : State}

theorem verdict_of_live (h : s.isError = false) : s.verdict = some s.rest := by
  unfold verdict
  rw [if_neg (by rw [h]; exact Bool.false_ne_true)]

theorem verdict_of_error (h : s.isError = true) : s.verdict = none := by
  unfold verdict
  rw [if_pos h]

theorem verdict_congr {t : State} (htarget : t.target = s.target) (hindex : t.index = s.index)
    (herror : t.isError = s.isError) : t.verdict = s.verdict := by
  unfold verdict
  rw [herror, rest_congr htarget hindex]

end State

open State

namespace Peg

structure Realizes (names : Meaning) (e : Expr) (s t : State) : Prop where
  target_eq : t.target = s.target
  onBoundary : t.OnBoundary
  verdict : Matches names e s.rest t.verdict

structure Gathers (names : Meaning) (e : Expr) (last s : State)
    (collected : State × List Value) : Prop where
  target_eq : collected.1.target = last.target
  ready : collected.1.Ready
  nothing : collected.2 = [] → collected.1.index = last.index ∧ Matches names e s.rest none
  something : collected.2 ≠ [] → Matches names e s.rest (some collected.1.rest)

variable {names : Meaning} {e e₁ e₂ : Expr} {s t u : State}

theorem Realizes.fails (h : Realizes names e s t) (ht : t.isError = true) :
    Matches names e s.rest none := by
  rw [← State.verdict_of_error ht]
  exact h.verdict

theorem Realizes.leaves (h : Realizes names e s t) (ht : t.isError = false) :
    Matches names e s.rest (some t.rest) := by
  rw [← State.verdict_of_live ht]
  exact h.verdict

theorem Realizes.ready (h : Realizes names e s t) (ht : t.isError = false) : t.Ready :=
  ⟨ht, h.onBoundary⟩

theorem Realizes.of_fails (htarget : t.target = s.target) (hboundary : t.OnBoundary)
    (ht : t.isError = true) (h : Matches names e s.rest none) : Realizes names e s t := by
  refine ⟨htarget, hboundary, ?_⟩
  rw [State.verdict_of_error ht]
  exact h

theorem Realizes.of_leaves (htarget : t.target = s.target) (ht : t.Ready)
    (h : Matches names e s.rest (some t.rest)) : Realizes names e s t := by
  refine ⟨htarget, ht.onBoundary, ?_⟩
  rw [State.verdict_of_live ht.live]
  exact h

theorem Realizes.congr (h : Realizes names e s t) (htarget : u.target = t.target)
    (hindex : u.index = t.index) (herror : u.isError = t.isError) : Realizes names e s u := by
  refine ⟨htarget.trans h.target_eq, h.onBoundary.congr htarget hindex, ?_⟩
  rw [State.verdict_congr htarget hindex herror]
  exact h.verdict

theorem Realizes.seq (h₁ : Realizes names e₁ s t) (ht : t.isError = false)
    (h₂ : Realizes names e₂ t u) : Realizes names (.seq e₁ e₂) s u where
  target_eq := h₂.target_eq.trans h₁.target_eq
  onBoundary := h₂.onBoundary
  verdict := .seq (h₁.leaves ht) h₂.verdict

theorem Realizes.seqFail (h : Realizes names e₁ s t) (ht : t.isError = true) :
    Realizes names (.seq e₁ e₂) s t :=
  .of_fails h.target_eq h.onBoundary ht (.seqFail (h.fails ht))

theorem Matches.star_ne_none {xs : List Char} : ¬ Matches names (.star e) xs none := by
  intro h
  generalize hstar : Expr.star e = e' at h
  generalize ho : (none : Option (List Char)) = o at h
  induction h with
  | star _ _ _ ih => exact ih hstar ho
  | starEnd => cases ho
  | _ => cases hstar

theorem Matches.fails_of_seq_star {xs : List Char} (h : Matches names (.seq e₁ (.star e₂)) xs none) :
    Matches names e₁ xs none := by
  cases h with
  | seq _ h => exact absurd h Matches.star_ne_none
  | seqFail h => exact h

theorem Matches.star_of_opt_plus {xs : List Char} {o : Option (List Char)}
    (h : Matches names (.opt (.plus e)) xs o) : Matches names (.star e) xs o := by
  cases h with
  | alt h =>
    cases h with
    | seq h₁ h₂ => exact .star h₁ h₂
  | altElse h₁ h₂ =>
    cases h₂
    exact .starEnd (Matches.fails_of_seq_star h₁)

theorem Gathers.opt {collected : State × List Value} (h : Gathers names e s s collected) :
    Realizes names (.opt e) s collected.1 := by
  apply Realizes.of_leaves h.target_eq h.ready
  cases hvalues : collected.2 with
  | nil =>
    obtain ⟨hindex, hfails⟩ := h.nothing hvalues
    rw [rest_congr h.target_eq hindex]
    exact .altElse hfails .empty
  | cons value values =>
    apply Matches.alt
    apply h.something
    rw [hvalues]
    exact List.cons_ne_nil _ _

theorem Gathers.requireSome {collected : State × List Value} (message : String)
    (h : Gathers names e s s collected) :
    Realizes names e s (Parser.requireSome message collected) := by
  obtain ⟨last, values⟩ := collected
  cases values with
  | nil => exact .of_fails h.target_eq h.ready.onBoundary rfl (h.nothing rfl).2
  | cons value values =>
    have hleaves : Realizes names e s last :=
      .of_leaves h.target_eq h.ready (h.something (List.cons_ne_nil _ _))
    exact hleaves.congr rfl rfl rfl

end Peg
end Waymark
