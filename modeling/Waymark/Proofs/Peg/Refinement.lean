import Waymark.Proofs.CursorSafety
import Waymark.Proofs.Peg.Completeness

/-!
This module contains the refinement of parsing expressions by parsers: a parser succeeds, fails and
runs forever exactly where the expression it stands for matches, fails and derives nothing.
-/

namespace Waymark
namespace Parser

open Peg

variable {rules : Rules} {p : Parser} {s t : State} {j k : Journal}

theorem realizes_of_returns {sees : State → Prop} (hp : p.Throughout rules sees IsPlain)
    (hs : s.Ready) (h : Returns rules p s j t k) :
    Realizes (fun name => Derives rules.grammar (rules.grammar name)) p.expr s t :=
  (eval_sound hp s hs).of_done (eval_eq_done_iff.mpr h)

theorem returns_of_derives {sees : State → Prop} {o : Option (List Char)}
    (hp : p.Throughout rules sees IsPlain) (hs : s.Ready)
    (h : Derives rules.grammar p.expr s.rest o) (j : Journal) :
    ∃ t k, Returns rules p s j t k ∧ t.verdict = o := by
  obtain ⟨t, k, hdone, -, hverdict⟩ := (complete hp s o hs (derives_iff.mp h)).done j
  exact ⟨t, k, eval_eq_done_iff.mp hdone, hverdict⟩

/--
From a state that has not failed and whose offset lies between two characters, a parser returns a
success at an offset iff its expression matches and leaves the text from that offset on, it returns
a failure iff its expression fails, and it runs forever iff its expression derives nothing.
-/
theorem refines_expr (hp : p.Throughout rules (fun _ => True) IsPlain) (hs : s.Ready)
    (j : Journal) :
    (∀ i, (∃ t k, Returns rules p s j t k ∧ t.isError = false ∧ t.index = i) ↔
      ∃ rest, s.target.dropBytes i = some rest ∧
        Derives rules.grammar p.expr s.rest (some rest)) ∧
    ((∃ t k, Returns rules p s j t k ∧ t.isError = true) ↔
      Derives rules.grammar p.expr s.rest none) ∧
    ((∀ n, parse rules n p s j = .outOfFuel) ↔ ∀ o, ¬ Derives rules.grammar p.expr s.rest o) := by
  refine ⟨?_, ?_, ?_⟩
  . intro i
    constructor
    . rintro ⟨t, k, ht, hlive, rfl⟩
      have hrealizes := realizes_of_returns hp hs ht
      refine ⟨t.rest, ?_, derives_iff.mpr (hrealizes.leaves hlive)⟩
      rw [← hrealizes.target_eq]
      exact hrealizes.onBoundary.dropBytes
    . rintro ⟨rest, hdrop, hderives⟩
      obtain ⟨t, k, ht, hverdict⟩ := returns_of_derives hp hs hderives j
      obtain ⟨hlive, rfl⟩ := State.verdict_eq_some_iff.mp hverdict
      have hrealizes := realizes_of_returns hp hs ht
      refine ⟨t, k, ht, hlive, ?_⟩
      rw [← hrealizes.target_eq] at hdrop
      exact State.index_eq_of_dropBytes hrealizes.onBoundary.dropBytes hdrop
  . constructor
    . rintro ⟨t, k, ht, herror⟩
      exact derives_iff.mpr ((realizes_of_returns hp hs ht).fails herror)
    . intro hderives
      obtain ⟨t, k, ht, hverdict⟩ := returns_of_derives hp hs hderives j
      exact ⟨t, k, ht, State.verdict_eq_none_iff.mp hverdict⟩
  . constructor
    . intro hforever o hderives
      obtain ⟨t, k, ⟨n, hn⟩, -⟩ := returns_of_derives hp hs hderives j
      rw [hforever n] at hn
      contradiction
    . intro hnone n
      cases hn : parse rules n p s j with
      | done t k =>
        have hrealizes := realizes_of_returns hp hs ⟨n, hn⟩
        exact absurd (derives_iff.mpr hrealizes.verdict) (hnone _)
      | fault cause => exact absurd hn (parse_ne_fault_of_isPlain hp hs.onBoundary n j _)
      | outOfFuel => rfl

def parentheses : Parser :=
  .optional (.between (.literal "(") (.rule "parentheses") (.literal ")"))

theorem throughout_parentheses {sees : State → Prop} :
    parentheses.Throughout [("parentheses", parentheses)] sees IsPlain := by
  refine Throughout.of_list [parentheses, .rule "parentheses",
    .between (.literal "(") (.rule "parentheses") (.literal ")"), .literal "(", .literal ")"]
    ?_ ?_ ?_ ?_ ?_
  . simp
  . simp [IsPlain, parentheses]
  . simp [inner, parentheses]
  . simp [Rules.resolve, parentheses]
  . simp [IsPlain, parentheses]

theorem refines_expr_parentheses :
    let rules : Rules := [("parentheses", parentheses)]
    let s : State := { target := "(())", registry := 0 }
    parentheses.Throughout rules (fun _ => True) IsPlain ∧ s.Ready ∧
      ∃ t k, Returns rules parentheses s {} t k ∧ t.isError = false ∧ t.index = 4 := by
  intro rules s
  have hs : s.Ready := ⟨rfl, by decide⟩
  refine ⟨throughout_parentheses, hs, ?_⟩
  rw [(refines_expr throughout_parentheses hs {}).1 4]
  refine ⟨[], rfl, ?_⟩
  have hnone (rest : List Char) :
      Derives rules.grammar parentheses.expr (')' :: rest) (some (')' :: rest)) := by
    apply derives_iff.mpr
    apply Matches.altElse _ .empty
    apply Matches.seqFail
    apply Matches.textMiss
    simp
  have hpair {inside rest : List Char}
      (h : Derives rules.grammar parentheses.expr inside (some (')' :: rest))) :
      Derives rules.grammar parentheses.expr ('(' :: inside) (some rest) := by
    apply derives_iff.mpr
    apply Matches.alt
    apply Matches.seq
    . exact Matches.text rfl
    . apply Matches.seq
      . exact Matches.rule h
      . apply Matches.seq _ .empty
        exact Matches.text rfl
  exact hpair (hpair (hnone [')']))

end Parser
end Waymark
