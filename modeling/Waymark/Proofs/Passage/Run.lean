import Waymark.Parser.Fuel
import Waymark.Proofs.Passage

/-!
This module contains the proof that a passage holds of whole runs: what holds of the runs of the
parts holds of a step of the parser made of them, and so of every run. The step is shown of two runs
at once, which may differ in how they run the parts.
-/

namespace Waymark
namespace Passage

variable {P : Passage} {s t : State}

inductive Ended (P : Passage) (s : State) : State → Prop where
  | intro {last attempt : State} (hgiven : P.given last) (hlive : last.isError = false)
      (hlast : P.leads s last) (hattempt : P.leads last attempt) :
      Ended P s (last.withDiagnosticsOf attempt)

theorem Ended.trans {u : State} (hleads : P.leads s t) (h : P.Ended t u) : P.Ended s u := by
  cases h with
  | intro hgiven hlive hlast hattempt =>
    exact .intro hgiven hlive (P.trans hleads hlast) hattempt

theorem Ended.leads (h : P.Ended s t) : P.leads s t := by
  cases h with
  | intro _ _ hlast hattempt => exact P.trans hlast (P.leads_withDiagnosticsOf hattempt)

theorem Ended.withResult (h : P.Ended s t) (value : Value) :
    P.leads s (t.withResult value) ∧ (P.Grafts → P.given (t.withResult value)) := by
  constructor
  . exact P.trans h.leads (P.leads_withResult t value)
  . intro hgrafts
    cases h with
    | intro hgiven hlive _ hattempt =>
      exact P.given_withResult (hgrafts _ _ hgiven hlive hattempt) value

theorem Ended.requireSome {collected : State × List Value} (h : P.Ended s collected.1)
    (message : String) :
    P.leads s (Parser.requireSome message collected) ∧
      (P.Grafts → P.given (Parser.requireSome message collected)) := by
  obtain ⟨t, values⟩ := collected
  cases values with
  | nil =>
    constructor
    . exact P.trans h.leads (P.leads_fail t message)
    . intro _
      cases h with
      | intro hgiven _ _ _ => exact P.given_told hgiven message
  | cons value values => exact h.withResult _

inductive Chosen (P : Passage) (s : State) : Except (Option State) State → Prop where
  | ok {t : State} (h : P.Moves s t) : Chosen P s (.ok t)
  | error {best : Option State} (h : ∀ t, best = some t → P.leads s t) : Chosen P s (.error best)

theorem leads_further {best : Option State} (hbest : ∀ u, best = some u → P.leads s u)
    (h : P.leads s t) : P.leads s (Parser.further best t) := by
  unfold Parser.further
  split
  . exact h
  . next u =>
    split
    . exact h
    . exact hbest u rfl

theorem moves_noAlternative (hs : P.given s) {best : Option State}
    (hbest : ∀ t, best = some t → P.leads s t) : P.Moves s (Parser.noAlternative s best) := by
  cases best with
  | none => exact (Moves.refl hs).fail _
  | some t =>
    refine ⟨P.given_told hs _, ?_⟩
    exact P.trans (P.leads_withDiagnosticsOf (hbest t rfl)) (P.leads_fail _ _)

section Parts

variable {run run' : Parser → State → Effect State} {rules : Rules} {p separator : Parser}
  {ps : List Parser}

def Respects (P : Passage) (run run' : Parser → State → Effect State) (p : Parser) : Prop :=
  ∀ s, P.given s → P.Couples (run p s) (run' p s) (P.Moves s)

theorem proceed (hp : P.Respects run run' p) (hs : P.given s) {k k' : State → Effect State}
    (hk : ∀ t, P.Moves s t → t.isError = false → P.Couples (k t) (k' t) (P.Moves t)) :
    P.Couples (run p s >>= fun t => t.unlessError (k t))
      (run' p s >>= fun t => t.unlessError (k' t)) (P.Moves s) := by
  apply Couples.bind (hp s hs)
  intro t ht
  apply Couples.unlessError
  . intro _
    exact ht
  . intro hlive
    apply Couples.mono (hk t ht hlive)
    intro u hu
    exact hu.trans ht.2

theorem runAll (hps : ∀ p ∈ ps, P.Respects run run' p) (hs : P.given s) :
    P.Couples (Parser.runAll run ps s) (Parser.runAll run' ps s) fun a => P.Moves s a.1 := by
  induction ps generalizing s with
  | nil => exact Couples.pure (Moves.refl hs)
  | cons p ps ih =>
    apply Couples.bind (hps p List.mem_cons_self s hs)
    intro t ht
    apply Bond.Couples.ite rfl
    . intro _
      exact Couples.pure ht
    . intro _
      apply Couples.bind (ih (fun q hq => hps q (List.mem_cons_of_mem p hq)) ht.1)
      intro a ha
      apply Couples.pure
      exact ha.trans ht.2

theorem runAllAfter (hps : ∀ p ∈ separator :: ps, P.Respects run run' p) (hs : P.given s) :
    P.Couples (Parser.runAllAfter run separator ps s) (Parser.runAllAfter run' separator ps s)
      fun a => P.Moves s a.1 := by
  induction ps generalizing s with
  | nil => exact Couples.pure (Moves.refl hs)
  | cons p ps ih =>
    simp only [List.forall_mem_cons] at hps ih
    obtain ⟨hseparator, hp, hps⟩ := hps
    apply Couples.bind (hseparator s hs)
    intro between hbetween
    apply Bond.Couples.ite rfl
    . intro _
      exact Couples.pure hbetween
    . intro _
      apply Couples.bind (hp between hbetween.1)
      intro t ht
      have hst := ht.trans hbetween.2
      apply Bond.Couples.ite rfl
      . intro _
        exact Couples.pure hst
      . intro _
        apply Couples.bind (ih ⟨hseparator, hps⟩ ht.1)
        intro a ha
        apply Couples.pure
        exact ha.trans hst.2

theorem runSeparated (hps : ∀ p ∈ separator :: ps, P.Respects run run' p) (hs : P.given s) :
    P.Couples (Parser.runSeparated run separator ps s) (Parser.runSeparated run' separator ps s)
      fun a => P.Moves s a.1 := by
  cases ps with
  | nil => exact Couples.pure (Moves.refl hs)
  | cons p ps =>
    simp only [List.forall_mem_cons] at hps
    obtain ⟨hseparator, hp, hps⟩ := hps
    apply Couples.bind (hp s hs)
    intro t ht
    apply Bond.Couples.ite rfl
    . intro _
      exact Couples.pure ht
    . intro _
      have hrest : ∀ q ∈ separator :: ps, P.Respects run run' q := by
        simp only [List.forall_mem_cons]
        exact ⟨hseparator, hps⟩
      apply Couples.bind (runAllAfter hrest ht.1)
      intro a ha
      apply Couples.pure
      exact ha.trans ht.2

theorem firstSuccess (hps : ∀ p ∈ ps, P.Respects run run' p) (hs : P.given s)
    {best : Option State} (hbest : ∀ t, best = some t → P.leads s t) :
    P.Couples (Parser.firstSuccess run s ps best) (Parser.firstSuccess run' s ps best)
      (P.Chosen s) := by
  induction ps generalizing best with
  | nil => exact Couples.pure (.error hbest)
  | cons p ps ih =>
    apply Couples.bind (hps p List.mem_cons_self s hs)
    intro t ht
    apply Bond.Couples.ite rfl
    . intro _
      apply ih fun q hq => hps q (List.mem_cons_of_mem p hq)
      rintro _ ⟨⟩
      exact leads_further hbest ht.2
    . intro _
      exact Couples.pure (.ok ht)

theorem collect (hp : P.Respects run run' p) (n : Nat) (hs : P.given s)
    (hlive : s.isError = false) :
    P.Couples (Parser.collect run p n s) (Parser.collect run' p n s) fun a => P.Ended s a.1 := by
  induction n generalizing s with
  | zero => exact Couples.exhausted
  | succ n ih =>
    apply Couples.bind (hp s hs)
    intro t ht
    apply Bond.Couples.ite rfl
    . intro _
      apply Couples.pure
      exact .intro hs hlive (P.refl s) ht.2
    . intro hlive'
      apply Couples.bind (ih ht.1 hlive')
      intro a ha
      apply Couples.pure
      exact ha.trans ht.2

theorem collectSeparated (hseparator : P.Respects run run' separator)
    (hp : P.Respects run run' p) (n : Nat) {last : State} (hlast : P.given last)
    (hlive : last.isError = false) (hleads : P.leads last s) (hs : P.given s) :
    P.Couples (Parser.collectSeparated run separator p n last s)
      (Parser.collectSeparated run' separator p n last s) fun a => P.Ended last a.1 := by
  induction n generalizing last s with
  | zero => exact Couples.exhausted
  | succ n ih =>
    apply Couples.bind (hp s hs)
    intro t ht
    have hlt := P.trans hleads ht.2
    apply Bond.Couples.ite rfl
    . intro _
      apply Couples.pure
      exact .intro hlast hlive (P.refl last) hlt
    . intro hlive'
      apply Couples.bind (hseparator t ht.1)
      intro u hu
      apply Bond.Couples.ite rfl
      . intro _
        apply Couples.pure
        exact .intro ht.1 hlive' hlt hu.2
      . intro _
        apply Couples.bind (ih ht.1 hlive' hu.2 hu.1)
        intro a ha
        apply Couples.pure
        exact ha.trans hlt

theorem repetition {x y : Effect (State × List Value)} {finish : State × List Value → State}
    (hs : P.given s) (hx : s.isError = false → P.Couples x y fun a => P.Ended s a.1)
    (hfinish : ∀ a, P.Ended s a.1 → P.leads s (finish a) ∧ (P.Grafts → P.given (finish a))) :
    P.Couples (s.unlessError (x >>= fun a => pure (finish a)))
      (s.unlessError (y >>= fun a => pure (finish a))) fun t =>
        P.leads s t ∧ (P.Grafts → P.given t) := by
  apply Couples.unlessError
  . intro _
    exact ⟨P.refl s, fun _ => hs⟩
  . intro hlive
    apply Couples.bind (hx hlive)
    intro a ha
    exact Couples.pure (hfinish a ha)

theorem follow : ∀ {body : Body} (_ : ∀ p, body.Binds P.given p → P.Respects run run' p)
    {s : State} (_ : P.given s),
    P.Couples (Parser.follow run body s) (Parser.follow run' body s) (P.Moves s)
  | .finish value, _, s, hs => by
    apply Couples.pure
    split
    . exact Moves.refl hs
    . exact (Moves.refl hs).withResult value
  | .halt, _, s, hs => by
    apply Couples.pure (Moves.refl hs)
  | .bind p next, hparts, s, hs => by
    apply Couples.bind (hparts p .bind s hs)
    intro t ht
    apply Couples.bind (Couples.suggestions t)
    intro table _
    apply Couples.mono (follow (fun q hq => hparts q (.bindNext ht.1 hq)) ht.1)
    intro u hu
    exact hu.trans ht.2
  | .fail message next, hparts, s, hs => by
    have ht : P.Moves s (s.fail message) := (Moves.refl hs).fail message
    apply Couples.bind (Couples.suggestions _)
    intro table _
    apply Couples.mono (follow (fun q hq => hparts q (.failNext ht.1 hq)) ht.1)
    intro u hu
    exact hu.trans ht.2

theorem deed (hnode : P.node p) (hs : P.given s) (hlive : s.isError = false) {act : Effect State}
    (hact : ∀ run rules n, Parser.step run rules n p s = s.unlessError act)
    (h : Parser.Deed p s act) : P.Couples act act (P.Moves s) := by
  have hact' : s.unlessError act = act := by
    unfold State.unlessError
    rw [hlive]
    rfl
  cases h with
  | fault cause => exact Couples.raise cause
  | past hrest => exact Couples.pure ⟨P.given_past hs hlive hrest, P.leads_past hs hlive hrest⟩
  | withResult value => exact Couples.pure ((Moves.refl hs).withResult value)
  | @miss expected pattern hexpects =>
    rintro j _ ⟨rfl, hj⟩
    apply Bond.Meets.done
    . exact ⟨rfl, (Moves.refl hs).fail _⟩
    . refine ⟨rfl, P.missed hnode hs hlive hexpects ?_ hj⟩
      intro run rules n
      rw [hact, hact']

theorem primitive (hnode : P.node p) (hp : p.IsPrimitive) (hs : P.given s) (n : Nat) :
    P.Couples (Parser.step run rules n p s) (Parser.step run' rules n p s) (P.Moves s) := by
  have hdeed {act : Effect State}
      (hact : ∀ run rules n, Parser.step run rules n p s = s.unlessError act)
      (h : Parser.Deed p s act) : P.Couples (s.unlessError act) (s.unlessError act) (P.Moves s) := by
    apply Couples.unlessError
    . intro _
      exact Moves.refl hs
    . intro hlive
      exact deed hnode hs hlive hact h
  have hmoves {t : State} (ht : P.Moves s t) :
      P.Couples (s.unlessError (pure t)) (s.unlessError (pure t)) (P.Moves s) := by
    apply Couples.unlessError
    . intro _
      exact Moves.refl hs
    . intro _
      exact Couples.pure ht
  cases p with
  | literal text => exact hdeed (fun _ _ _ => rfl) (.literal text)
  | pattern p => exact hdeed (fun _ _ _ => rfl) (.pattern p)
  | eatUntil terminal => exact hdeed (fun _ _ _ => rfl) (.eatUntil terminal)
  | anyChar => exact hdeed (fun _ _ _ => rfl) .anyChar
  | endOfInput => exact hdeed (fun _ _ _ => rfl) .endOfInput
  | peek => exact hdeed (fun _ _ _ => rfl) .peek
  | getState => exact Couples.pure (Moves.refl hs)
  | setState saved => exact Couples.pure ⟨P.given_setState hnode hs, P.leads_setState hnode hs⟩
  | succeed value => exact hmoves ((Moves.refl hs).withResult value)
  | fail message => exact hmoves ((Moves.refl hs).fail message)
  | _ => exact hp.elim

theorem step (hnode : P.node p)
    (hpart : ∀ q, Parser.Part rules P.given p q → P.Respects run run' q) (n : Nat)
    (hs : P.given s) :
    P.Couples (Parser.step run rules n p s) (Parser.step run' rules n p s) fun t =>
      P.leads s t ∧ ((p.IsRepetition → P.Grafts) → P.given t) := by
  have hinner (q : Parser) (hq : q ∈ p.inner) : P.Respects run run' q := hpart q (.inner hq)
  have hmoves {x y : Effect State} (h : P.Couples x y (P.Moves s)) :
      P.Couples x y fun t => P.leads s t ∧ ((p.IsRepetition → P.Grafts) → P.given t) :=
    h.mono fun t ht => ⟨ht.2, fun _ => ht.1⟩
  have hrepetition {x y : Effect State} (hp : p.IsRepetition)
      (h : P.Couples x y fun t => P.leads s t ∧ (P.Grafts → P.given t)) :
      P.Couples x y fun t => P.leads s t ∧ ((p.IsRepetition → P.Grafts) → P.given t) :=
    h.mono fun t ht => ⟨ht.1, fun hgrafts => ht.2 (hgrafts hp)⟩
  have herror (_ : s.isError = true) : P.Moves s s := Moves.refl hs
  cases p with
  | sequence ps =>
    apply hmoves
    apply Couples.unlessError herror
    intro _
    apply Couples.bind (runAll hinner hs)
    intro a ha
    apply Couples.unlessError
    . intro _
      exact ha
    . intro _
      exact Couples.pure (ha.withResult _)
  | sequenceSepBy separator ps =>
    apply hmoves
    apply Couples.unlessError herror
    intro _
    apply Couples.bind (runSeparated hinner hs)
    intro a ha
    apply Couples.unlessError
    . intro _
      exact ha
    . intro _
      exact Couples.pure (ha.withResult _)
  | choice ps =>
    apply hmoves
    apply Couples.unlessError herror
    intro _
    apply Couples.bind (firstSuccess hinner hs (by simp))
    intro a ha
    cases ha with
    | ok ht => exact Couples.pure ht
    | error hbest =>
      apply Couples.bind (Couples.update fun j hj => P.noAlternative hj s.index ps.length)
      intro _ _
      exact Couples.pure (moves_noAlternative hs hbest)
  | many body =>
    apply hrepetition trivial
    apply repetition hs (collect (hinner body List.mem_cons_self) n hs)
    intro a ha
    exact ha.withResult (.seq a.2)
  | many1 body =>
    apply hrepetition trivial
    apply repetition hs (collect (hinner body List.mem_cons_self) n hs)
    intro a ha
    exact ha.requireSome _
  | sepBy separator body =>
    simp only [Parser.inner, List.forall_mem_cons] at hinner
    obtain ⟨hseparator, hbody, -⟩ := hinner
    apply hrepetition trivial
    apply repetition hs fun hlive => collectSeparated hseparator hbody n hs hlive (P.refl s) hs
    intro a ha
    exact ha.withResult (.seq a.2)
  | sepBy1 separator body =>
    simp only [Parser.inner, List.forall_mem_cons] at hinner
    obtain ⟨hseparator, hbody, -⟩ := hinner
    apply hrepetition trivial
    apply repetition hs fun hlive => collectSeparated hseparator hbody n hs hlive (P.refl s) hs
    intro a ha
    exact ha.requireSome _
  | between opening content closing =>
    simp only [Parser.inner, List.forall_mem_cons] at hinner
    obtain ⟨hopening, hcontent, hclosing, -⟩ := hinner
    apply hmoves
    apply proceed hopening hs
    intro t ht _
    apply proceed hcontent ht.1
    intro u hu _
    apply proceed hclosing hu.1
    intro v hv _
    exact Couples.pure ((Moves.refl hv.1).withResult u.result)
  | optional body =>
    apply hmoves
    apply Couples.unlessError herror
    intro _
    apply Couples.bind (hinner body List.mem_cons_self s hs)
    intro t ht
    apply Couples.pure
    split
    . exact (Moves.refl hs).withResult .null
    . exact ht
  | keepLeft left right =>
    simp only [Parser.inner, List.forall_mem_cons] at hinner
    obtain ⟨hleft, hright, -⟩ := hinner
    apply hmoves
    apply proceed hleft hs
    intro t ht _
    apply proceed hright ht.1
    intro u hu _
    exact Couples.pure ((Moves.refl hu.1).withResult t.result)
  | keepRight left right =>
    simp only [Parser.inner, List.forall_mem_cons] at hinner
    obtain ⟨hleft, hright, -⟩ := hinner
    apply hmoves
    apply proceed hleft hs
    intro t ht _
    exact hright t ht.1
  | map body f =>
    apply hmoves
    apply proceed (hinner body List.mem_cons_self) hs
    intro t ht _
    exact Couples.pure ((Moves.refl ht.1).withResult (f t.result))
  | chain first next =>
    apply hmoves
    apply proceed (hinner first List.mem_cons_self) hs
    intro t ht hlive
    apply Couples.bind (Couples.suggestions t)
    intro table _
    exact hpart (next t table) (.next ht.1 hlive) t ht.1
  | mapError body f =>
    apply hmoves
    apply Couples.bind (hinner body List.mem_cons_self s hs)
    intro t ht
    cases t.error with
    | none => exact Couples.pure ht
    | some message => exact Couples.pure (ht.fail _)
  | deferred body =>
    apply hmoves
    apply Couples.bind (Couples.update fun j hj => P.countOpened hj)
    intro _ _
    exact hinner body List.mem_cons_self s hs
  | rule name =>
    apply hmoves
    apply Couples.bind (Couples.update fun j hj => P.countOpened hj)
    intro _ _
    exact hpart _ .rule s hs
  | contextual body =>
    apply hmoves
    apply Couples.unlessError herror
    intro hlive
    apply Couples.bind (Couples.suggestions s)
    intro table _
    apply follow _ hs
    intro q hq
    exact hpart q (.contextual hs hlive hq)
  | transform f => exact absurd hnode P.not_transform
  | _ => exact hmoves (primitive hnode trivial hs n)

end Parts

variable {rules : Rules} {p : Parser}

theorem parse (hgrafts : P.Grafts) (hp : p.Throughout rules P.given P.node) (n : Nat)
    (hs : P.given s) :
    P.Couples (Parser.parse rules n p s) (Parser.parse rules n p s) (P.Moves s) := by
  induction n generalizing p s with
  | zero => exact Couples.exhausted
  | succ n ih =>
    have hpart (q : Parser) (hq : Parser.Part rules P.given p q) :
        P.Respects (Parser.parse rules n) (Parser.parse rules n) q := by
      intro t ht
      exact ih (hp.part hq) ht
    apply Couples.mono (step hp.self hpart n hs)
    intro t ht
    exact ⟨ht.2 fun _ => hgrafts, ht.1⟩

theorem returns (hgrafts : P.Grafts) (hp : p.Throughout rules P.given P.node) (hs : P.given s)
    {j k : Journal} (hj : P.journal j) (h : Parser.Returns rules p s j t k) :
    P.given t ∧ P.leads s t ∧ P.journal k := by
  obtain ⟨n, hn⟩ := h
  obtain ⟨-, ht, hk⟩ := (parse hgrafts hp n hs).of_done hj hn
  exact ⟨ht.1, ht.2, hk⟩

end Passage
end Waymark
