import Mathlib.Data.Fintype.Card
import Mathlib.Data.Fintype.EquivFin
import Mathlib.Data.Fintype.Sets
import Waymark.Proofs.Consumption
import Waymark.Proofs.Halting

/-!
This module contains the termination of parsers. A parser comes to an end from every state if its
loops consume in each round and no rule can be entered again before something has been consumed.
What is left of the text and the order in which parsers are entered make up the measure.
-/

namespace Waymark

open Effect

namespace Parser

variable {rules : Rules} {known : String → Bool} {p q separator : Parser} {ps : List Parser}
  {s t : State} {start : Nat}

def leading (known : String → Bool) : List Parser → List Parser
  | [] => []
  | p :: ps => p :: if p.consuming known then [] else leading known ps

def leads (known : String → Bool) : Parser → List Parser
  | .choice ps => ps
  | .sequenceSepBy separator ps => leading known (separated separator ps)
  | .sepBy separator body | .sepBy1 separator body => leading known [body, separator]
  | p => leading known p.inner

/--
The parsers that a parser may run before anything is consumed.
-/
inductive Starts (rules : Rules) (known : String → Bool) : Parser → Parser → Prop where
  | lead {p q : Parser} (h : q ∈ p.leads known) : Starts rules known p q
  | rule {name : String} : Starts rules known (.rule name) (rules.resolve name)

def LoopsConsume (known : String → Bool) : Parser → Prop
  | .many body | .many1 body => body.consuming known = true
  | .sepBy separator body | .sepBy1 separator body =>
    separator.consuming known = true ∨ body.consuming known = true
  | p => p.IsPlain

theorem LoopsConsume.isPlain (h : LoopsConsume known p) : IsPlain p := by
  cases p with
  | setState saved => exact h
  | chain first next => exact h
  | contextual body => exact h
  | transform f => exact h
  | _ => trivial

section Order

theorem mem_of_mem_leading (h : q ∈ leading known ps) : q ∈ ps := by
  induction ps with
  | nil => cases h
  | cons p ps ih =>
    unfold leading at h
    cases List.mem_cons.mp h with
    | inl h =>
      rw [h]
      exact List.mem_cons_self
    | inr h =>
      split at h
      . cases h
      . exact List.mem_cons_of_mem p (ih h)

theorem mem_inner_of_mem_leads (h : q ∈ p.leads known) : q ∈ p.inner := by
  cases p with
  | choice ps => exact h
  | sequenceSepBy separator ps => exact mem_of_mem_separated (mem_of_mem_leading h)
  | sepBy separator body =>
    have := mem_of_mem_leading h
    simp only [inner, List.mem_cons] at this ⊢
    grind
  | sepBy1 separator body =>
    have := mem_of_mem_leading h
    simp only [inner, List.mem_cons] at this ⊢
    grind
  | _ =>
    have hleading : q ∈ leading known _ := h
    exact mem_of_mem_leading hleading

theorem acc_of_rules (p : Parser)
    (h : ∀ name, Relation.ReflTransGen (Starts rules known) p (.rule name) →
      Acc (flip (Starts rules known)) (.rule name)) :
    Acc (flip (Starts rules known)) p := by
  induction p using inner_induction with
  | step p ih =>
    constructor
    intro q hq
    cases hq with
    | lead hq =>
      apply ih q (mem_inner_of_mem_leads hq)
      intro name hname
      exact h name (hname.head (.lead hq))
    | rule =>
      apply (h _ .refl).inv
      exact .rule

theorem acc_fail (message : String) : Acc (flip (Starts rules known)) (.fail message) := by
  apply acc_of_rules
  intro name h
  cases h.cases_head with
  | inl h => cases h
  | inr h =>
    obtain ⟨q, hq, -⟩ := h
    cases hq with
    | lead hq => cases hq

theorem resolve_of_not_mem {name : String} (h : name ∉ rules.map Prod.fst) :
    rules.resolve name = .fail ("undefined rule " ++ name) := by
  have hlookup : rules.lookup name = none := by
    rw [List.lookup_eq_none_iff]
    intro rule hrule
    rw [bne_iff_ne]
    rintro rfl
    exact h (List.mem_map_of_mem hrule)
  unfold Rules.resolve
  rw [hlookup]
  rfl

theorem acc_rule_of_acc_resolve {name : String}
    (h : Acc (flip (Starts rules known)) (rules.resolve name)) :
    Acc (flip (Starts rules known)) (.rule name) := by
  constructor
  intro q hq
  cases hq with
  | lead hq => cases hq
  | rule => exact h

theorem acc_rule_of_not_mem {name : String} (h : name ∉ rules.map Prod.fst) :
    Acc (flip (Starts rules known)) (.rule name) := by
  apply acc_rule_of_acc_resolve
  rw [resolve_of_not_mem h]
  apply acc_fail

theorem acc_rule
    (hacyclic : ∀ name, ¬ Relation.TransGen (Starts rules known) (.rule name) (.rule name))
    (name : String) : Acc (flip (Starts rules known)) (.rule name) := by
  -- The rules are finitely many, so that coming from one to another is well-founded on them.
  let below (a b : { name // name ∈ rules.map Prod.fst }) : Prop :=
    Relation.TransGen (Starts rules known) (.rule b) (.rule a)
  have : IsTrans _ below := ⟨fun a b c hab hbc => hbc.trans hab⟩
  have : Std.Irrefl below := ⟨fun a h => hacyclic a h⟩
  have hwf : WellFounded below := Finite.wellFounded_of_trans_of_irrefl below
  by_cases hname : name ∈ rules.map Prod.fst
  . have hrule (a : { name // name ∈ rules.map Prod.fst }) :
        Acc (flip (Starts rules known)) (.rule a) := by
      induction a using hwf.induction with
      | _ a ih =>
        apply acc_rule_of_acc_resolve
        apply acc_of_rules
        intro name h
        by_cases hname : name ∈ rules.map Prod.fst
        . exact ih ⟨name, hname⟩ (Relation.TransGen.head' .rule h)
        . exact acc_rule_of_not_mem hname
    exact hrule ⟨name, hname⟩
  . exact acc_rule_of_not_mem hname

theorem starts_wellFounded
    (hacyclic : ∀ name, ¬ Relation.TransGen (Starts rules known) (.rule name) (.rule name)) :
    WellFounded (flip (Starts rules known)) := by
  constructor
  intro p
  apply acc_of_rules
  intro name _
  exact acc_rule hacyclic name

end Order

def HaltInOrder (rules : Rules) (known : String → Bool) (start : Nat) (ps : List Parser)
    (s : State) : Prop :=
  ∀ q ∈ ps, ∀ t : State, s.Ahead t → (t.index = start → q ∈ leading known ps) →
    Halts (eval rules q t)

theorem HaltInOrder.next (hp : Advances known (eval rules) p) (hs : s.OnBoundary)
    (hstart : start ≤ s.index) (h : HaltInOrder rules known start (p :: ps) s) :
    Ends (eval rules p s) fun t =>
      t.isError = false → Advance (p.consuming known) s t ∧ HaltInOrder rules known start ps t := by
  have hhalts := h p List.mem_cons_self s (State.Ahead.refl hs) fun _ => List.mem_cons_self
  apply Ends.mono (hhalts.and_keeps (hp s hs))
  rintro t ⟨-, ht⟩ hlive
  refine ⟨ht, ?_⟩
  intro q hq u hu hleading
  apply h q (List.mem_cons_of_mem p hq) u (ht.toAhead.trans hu)
  intro hindex
  unfold leading
  -- A consuming parser has left the offset behind where the others would have to lead.
  cases hconsuming : p.consuming known with
  | true =>
    have hst := ht.progress hconsuming hlive
    have htu := hu.index_le
    omega
  | false => exact List.mem_cons_of_mem p (hleading hindex)

theorem HaltInOrder.endInOrder (hps : ∀ p ∈ ps, Advances known (eval rules) p)
    (hs : s.OnBoundary) (hstart : start ≤ s.index) (h : HaltInOrder rules known start ps s) :
    EndInOrder (eval rules) ps s := by
  induction ps generalizing s with
  | nil => trivial
  | cons p ps ih =>
    apply Ends.mono (h.next (hps p List.mem_cons_self) hs hstart)
    intro t ht hlive
    obtain ⟨hst, hrest⟩ := ht hlive
    apply ih (fun q hq => hps q (List.mem_cons_of_mem p hq)) hst.onBoundary _ hrest
    exact Nat.le_trans hstart hst.index_le

theorem firstSuccess_halts_of_each (h : ∀ p ∈ ps, Halts (eval rules p s)) (best : Option State) :
    Halts (firstSuccess (eval rules) s ps best) := by
  induction ps generalizing best with
  | nil => exact Ends.pure trivial
  | cons p ps ih =>
    apply firstSuccess_cons_halts
    apply Ends.mono (h p List.mem_cons_self)
    intro t _ _
    exact ih fun q hq => h q (List.mem_cons_of_mem p hq)

section Loop

theorem collectAll_halts_of_consuming (hp : Advances known (eval rules) p)
    (hconsuming : p.consuming known = true) (hs : s.OnBoundary)
    (h : ∀ t : State, s.Ahead t → Halts (eval rules p t)) : Halts (collectAll rules p s) := by
  -- Each round takes something of what is left of the text.
  induction hleft : s.size - s.index using Nat.strong_induction_on generalizing s with
  | _ left ih =>
    apply collectAll_halts
    apply Ends.mono ((h s (State.Ahead.refl hs)).and_keeps (hp s hs))
    rintro t ⟨-, ht⟩ hlive
    have hlt := State.Ahead.left_lt ht.toAhead (ht.progress hconsuming hlive)
    rw [hleft] at hlt
    apply ih _ hlt ht.onBoundary _ rfl
    intro u hu
    exact h u (ht.toAhead.trans hu)

theorem collectAllSeparated_halts_of_consuming (hseparator : Advances known (eval rules) separator)
    (hp : Advances known (eval rules) p)
    (hconsuming : separator.consuming known = true ∨ p.consuming known = true)
    (hs : s.OnBoundary) (h : HaltInOrder rules known s.index [p, separator] s) (last : State) :
    Halts (collectAllSeparated rules separator p last s) := by
  induction hleft : s.size - s.index using Nat.strong_induction_on generalizing s last with
  | _ left ih =>
    apply collectAllSeparated_halts
    apply Ends.mono (h.next hp hs (Nat.le_refl _))
    intro t ht hlive
    obtain ⟨hst, hrest⟩ := ht hlive
    apply Ends.mono (hrest.next hseparator hst.onBoundary hst.index_le)
    intro between hbetween hgo
    obtain ⟨htb, -⟩ := hbetween hgo
    -- The value and the separator together have consumed, whichever of them did.
    have hround := hst.andThen hlive htb
    have hprogress := hround.progress (Bool.or_eq_true_iff.mpr hconsuming.symm) hgo
    have hlt := State.Ahead.left_lt hround.toAhead hprogress
    rw [hleft] at hlt
    apply ih _ hlt hround.onBoundary _ _ rfl
    intro q hq u hu _
    apply h q hq u (hround.toAhead.trans hu)
    intro hindex
    have := hu.index_le
    omega

end Loop

theorem halts_of_inner (hp : LoopsConsume known p) (hs : s.OnBoundary)
    (hadvances : ∀ q ∈ p.inner, Advances known (eval rules) q)
    (hinner : ∀ q ∈ p.inner, ∀ t : State, s.Ahead t → (t.index = s.index → q ∈ p.leads known) →
      Halts (eval rules q t))
    (hrule : ∀ name, p = .rule name → Halts (eval rules (rules.resolve name) s)) :
    Halts (eval rules p s) := by
  have hrefl := State.Ahead.refl hs
  cases p with
  | sequence ps =>
    apply sequence_halts
    intro _
    exact HaltInOrder.endInOrder hadvances hs (Nat.le_refl _) hinner
  | sequenceSepBy separator ps =>
    apply sequenceSepBy_halts
    intro _
    apply HaltInOrder.endInOrder _ hs (Nat.le_refl _)
    . intro q hq
      exact hinner q (mem_of_mem_separated hq)
    . intro q hq
      exact hadvances q (mem_of_mem_separated hq)
  | choice ps =>
    apply choice_halts
    intro _
    apply firstSuccess_halts_of_each
    intro q hq
    exact hinner q hq s hrefl fun _ => hq
  | many body =>
    apply many_halts
    intro _
    apply collectAll_halts_of_consuming (hadvances body List.mem_cons_self) hp hs
    intro t ht
    exact hinner body List.mem_cons_self t ht fun _ => List.mem_cons_self
  | many1 body =>
    apply many1_halts
    intro _
    apply collectAll_halts_of_consuming (hadvances body List.mem_cons_self) hp hs
    intro t ht
    exact hinner body List.mem_cons_self t ht fun _ => List.mem_cons_self
  | sepBy separator body =>
    apply sepBy_halts
    intro _
    apply collectAllSeparated_halts_of_consuming (hadvances separator (by simp [inner]))
      (hadvances body (by simp [inner])) hp hs
    intro q hq t ht hleads
    apply hinner q _ t ht hleads
    simp only [inner, List.mem_cons] at hq ⊢
    grind
  | sepBy1 separator body =>
    apply sepBy1_halts
    intro _
    apply collectAllSeparated_halts_of_consuming (hadvances separator (by simp [inner]))
      (hadvances body (by simp [inner])) hp hs
    intro q hq t ht hleads
    apply hinner q _ t ht hleads
    simp only [inner, List.mem_cons] at hq ⊢
    grind
  | between opening content closing =>
    apply between_halts
    exact HaltInOrder.endInOrder hadvances hs (Nat.le_refl _) hinner
  | optional body =>
    apply optional_halts
    intro _
    exact hinner body List.mem_cons_self s hrefl fun _ => List.mem_cons_self
  | keepLeft left right =>
    apply keepLeft_halts
    exact HaltInOrder.endInOrder hadvances hs (Nat.le_refl _) hinner
  | keepRight left right =>
    apply keepRight_halts
    exact HaltInOrder.endInOrder hadvances hs (Nat.le_refl _) hinner
  | map body f =>
    apply map_halts
    exact hinner body List.mem_cons_self s hrefl fun _ => List.mem_cons_self
  | mapError body f =>
    apply mapError_halts
    exact hinner body List.mem_cons_self s hrefl fun _ => List.mem_cons_self
  | deferred body =>
    apply deferred_halts
    exact hinner body List.mem_cons_self s hrefl fun _ => List.mem_cons_self
  | rule name =>
    apply rule_halts
    exact hrule name rfl
  | setState saved => exact hp.elim
  | chain first next => exact hp.elim
  | contextual body => exact hp.elim
  | transform f => exact hp.elim
  | _ => exact primitive_halts trivial hs

/--
A parser comes to an end from every state whose offset lies between two characters, if its loops
consume in each round and no rule can be entered again before anything is consumed.
-/
theorem terminates (hknown : Consistent rules known)
    (hacyclic : ∀ name, ¬ Relation.TransGen (Starts rules known) (.rule name) (.rule name))
    (hp : p.Throughout rules (fun _ => True) (LoopsConsume known)) (hs : s.OnBoundary)
    (j : Journal) : ∃ t k, Returns rules p s j t k := by
  -- First on what is left of the text, then on what a parser enters at one offset.
  have hhalts : Halts (eval rules p s) := by
    induction hleft : s.size - s.index using Nat.strong_induction_on generalizing p s with
    | _ left ihleft =>
      induction p using (starts_wellFounded hacyclic).induction generalizing s with
      | _ p ih =>
        apply halts_of_inner hp.self hs
        . intro q hq
          apply eval_advances hknown
          exact (hp.inner hq).mono (fun _ _ => trivial) fun _ h => h.isPlain
        . intro q hq t ht hleads
          by_cases hindex : t.index = s.index
          . apply ih q (.lead (hleads hindex)) (hp.inner hq) ht.onBoundary
            unfold State.size at hleft ⊢
            rw [ht.target_eq, hindex]
            exact hleft
          . have hlt := State.Ahead.left_lt ht (by have := ht.index_le; omega)
            rw [hleft] at hlt
            exact ihleft _ hlt (hp.inner hq) ht.onBoundary rfl
        . rintro name rfl
          exact ih _ .rule (hp.part .rule) hs hleft
  obtain ⟨t, k, hdone, -⟩ := hhalts.done j
  exact ⟨t, k, eval_eq_done_iff.mp hdone⟩

def nestedList : Parser :=
  .between (.literal "[") (.sepBy (.literal ",") (.choice [.digits, .rule "list"])) (.literal "]")

theorem entered_of_nestedList {known : String → Bool} {name : String}
    (h : Relation.TransGen (Starts [("list", nestedList)] known) (.rule name) q) :
    q = nestedList ∨ q = .literal "[" ∨ q = .fail ("undefined rule " ++ name) := by
  induction h with
  | single h =>
    cases h with
    | lead h => cases h
    | rule =>
      by_cases hname : name = "list"
      . left
        rw [hname]
        rfl
      . right
        right
        apply resolve_of_not_mem
        simp [hname]
  | tail _ h ih =>
    rcases ih with rfl | rfl | rfl
    . cases h with
      | lead h =>
        right
        left
        exact List.mem_singleton.mp h
    . cases h with
      | lead h => cases h
    . cases h with
      | lead h => cases h

theorem terminates_nestedList :
    let rules : Rules := [("list", nestedList)]
    let known (name : String) : Bool := name == "list"
    let s : State := { target := "[1,[2,3],[]]", index := 0, registry := 0 }
    Consistent rules known ∧
      (∀ name, ¬ Relation.TransGen (Starts rules known) (.rule name) (.rule name)) ∧
      nestedList.Throughout rules (fun _ => True) (LoopsConsume known) ∧ s.OnBoundary ∧
      ∃ t k, Returns rules nestedList s {} t k := by
  intro rules known s
  have hknown : Consistent rules known := by
    intro name hname
    obtain rfl := beq_iff_eq.mp hname
    rfl
  have hacyclic (name : String) :
      ¬ Relation.TransGen (Starts rules known) (.rule name) (.rule name) := by
    intro h
    rcases entered_of_nestedList h with h | h | h
    . cases h
    . cases h
    . cases h
  have hp : nestedList.Throughout rules (fun _ => True) (LoopsConsume known) := by
    refine Throughout.of_list [nestedList, .literal "[",
      .sepBy (.literal ",") (.choice [.digits, .rule "list"]), .literal ",",
      .choice [.digits, .rule "list"], .digits, .rule "list", .literal "]"] ?_ ?_ ?_ ?_ ?_
    . simp
    . simp [IsPlain, nestedList, digits]
    . simp [inner, nestedList, digits]
    . simp [Rules.resolve, nestedList, digits, rules]
    . simp [LoopsConsume, IsPlain, nestedList, digits, consuming]
  have hs : s.OnBoundary := by decide
  exact ⟨hknown, hacyclic, hp, hs, terminates hknown hacyclic hp hs {}⟩

end Parser
end Waymark
