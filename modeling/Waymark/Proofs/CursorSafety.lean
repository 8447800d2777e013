import Waymark.Proofs.Invariant

/-!
This module contains the safety of the offset. As long as no state with an offset inside a character
is brought in from outside, no run is at fault and every state that occurs in it has its offset
between two characters; without any state from outside the offset never moves back. The condition is
on the states that a run comes to, since a binder may make a saved state of the state it is shown.
`Parser.runsOnly_of_throughout` reads it off a parser all of whose saved states are good.
-/

namespace Waymark
namespace Invariant

def onBoundary : Invariant where
  holds := State.OnBoundary
  withResult h _ := h
  fail h _ := h
  withDiagnosticsOf h _ := h
  consume h _ _ hrest := ⟨_, h.consume_eq hrest, h.past hrest⟩

def ahead (start : State) : Invariant where
  holds := start.Ahead
  withResult h _ := ⟨h.onBoundary, h.target_eq, h.index_le⟩
  fail h _ := ⟨h.onBoundary, h.target_eq, h.index_le⟩
  withDiagnosticsOf h _ := ⟨h.onBoundary, h.target_eq, h.index_le⟩
  consume h _ _ hrest := ⟨_, h.onBoundary.consume_eq hrest, h.past hrest⟩

instance : DecidablePred onBoundary.holds :=
  inferInstanceAs (DecidablePred State.OnBoundary)

instance (start : State) : DecidablePred (ahead start).holds := fun s =>
  decidable_of_iff (s.OnBoundary ∧ s.target = start.target ∧ start.index ≤ s.index)
    ⟨fun h => ⟨h.1, h.2.1, h.2.2⟩, fun h => ⟨h.onBoundary, h.target_eq, h.index_le⟩⟩

end Invariant

namespace Parser

def KeepsBoundary (p : Parser) : Prop :=
  (∀ f, p ≠ .transform f) ∧ ∀ saved, p = .setState saved → saved.OnBoundary

def bringsNothing : Parser → Bool
  | .setState _ | .transform _ => false
  | _ => true

def keepsBoundary : Parser → Bool
  | .setState saved => saved.OnBoundary
  | p => p.bringsNothing

theorem bringsNothing_iff {p : Parser} : p.bringsNothing = true ↔ p.BringsNothing := by
  cases p
  all_goals simp [bringsNothing, BringsNothing]

theorem keepsBoundary_iff {p : Parser} : p.keepsBoundary = true ↔ p.KeepsBoundary := by
  cases p
  all_goals simp [keepsBoundary, bringsNothing, KeepsBoundary]

instance : DecidablePred BringsNothing := fun _ => decidable_of_iff _ bringsNothing_iff

instance : DecidablePred KeepsBoundary := fun _ => decidable_of_iff _ keepsBoundary_iff

variable {rules : Rules} {p : Parser} {s : State}

theorem KeepsBoundary.allows (hp : p.KeepsBoundary) : Invariant.onBoundary.Allows p := by
  refine ⟨hp.1, ?_⟩
  intro saved hsaved _ _
  exact (hp.2 saved hsaved).congr rfl rfl

theorem BringsNothing.allows (hp : p.BringsNothing) (I : Invariant) : I.Allows p := by
  constructor
  . rintro f rfl
    exact hp
  . rintro saved rfl
    exact hp.elim

theorem BringsNothing.keepsBoundary (hp : p.BringsNothing) : p.KeepsBoundary := by
  constructor
  . rintro f rfl
    exact hp
  . rintro saved rfl
    exact hp.elim

theorem IsPlain.bringsNothing (hp : p.IsPlain) : p.BringsNothing := by
  cases p with
  | setState saved => exact hp.elim
  | transform f => exact hp.elim
  | _ => trivial

theorem runsOnly_of_throughout (hp : p.Throughout rules State.OnBoundary KeepsBoundary)
    (hs : s.OnBoundary) (j : Journal) : p.RunsOnly rules KeepsBoundary s j :=
  Invariant.runsOnly (I := .onBoundary) (fun _ => KeepsBoundary.allows) hp hs j

theorem parse_ne_fault_of_bringsNothing (hp : p.Throughout rules (fun _ => True) BringsNothing)
    (hs : s.OnBoundary) (n : Nat) (j : Journal) (cause : Fault) :
    parse rules n p s j ≠ .fault cause := by
  have hp' : p.Throughout rules State.OnBoundary KeepsBoundary :=
    hp.mono (fun _ _ => trivial) fun _ hq => hq.keepsBoundary
  obtain ⟨hfault, -, -⟩ := Invariant.onBoundary.always_holds (fun _ => KeepsBoundary.allows) hs
    (runsOnly_of_throughout hp' hs j)
  exact hfault n cause

theorem parse_ne_fault_of_isPlain (hp : p.Throughout rules (fun _ => True) IsPlain)
    (hs : s.OnBoundary) (n : Nat) (j : Journal) (cause : Fault) :
    parse rules n p s j ≠ .fault cause :=
  parse_ne_fault_of_bringsNothing (hp.mono (fun _ h => h) fun _ hq => hq.bringsNothing) hs n j cause

theorem ahead_of_returns (hp : p.Throughout rules (fun _ => True) IsPlain) (hs : s.OnBoundary)
    {t : State} {j k : Journal} (h : Returns rules p s j t k) : s.Ahead t := by
  have hp' : p.Throughout rules s.Ahead BringsNothing :=
    hp.mono (fun _ _ => trivial) fun _ hq => hq.bringsNothing
  have hallows (q : Parser) (hq : q.BringsNothing) : (Invariant.ahead s).Allows q := hq.allows _
  have hstart := State.Ahead.refl hs
  obtain ⟨-, -, hahead⟩ := (Invariant.ahead s).always_holds hallows hstart
    (Invariant.runsOnly hallows hp' hstart j)
  exact hahead t k h

/--
From an offset between two characters, a run that only comes to such states from outside as have
their offset between two characters is not at fault, and all states that parsers are given or return
in it have theirs there. If it comes to no states from outside then the text stays the same and the
offset does not move back.
-/
theorem stays_on_boundary {j : Journal} (hs : s.OnBoundary)
    (hp : p.RunsOnly rules KeepsBoundary s j) :
    (∀ n cause, parse rules n p s j ≠ .fault cause) ∧
      p.Always rules (fun q t => q.KeepsBoundary ∧ t.OnBoundary) (fun _ _ => State.OnBoundary) s j ∧
      (∀ t k, Returns rules p s j t k → t.OnBoundary ∧ t.index ≤ t.size) ∧
      (p.RunsOnly rules BringsNothing s j →
        ∀ t k, Returns rules p s j t k → t.target = s.target ∧ s.index ≤ t.index) := by
  obtain ⟨hfault, halways, hreturns⟩ :=
    Invariant.onBoundary.always_holds (fun _ => KeepsBoundary.allows) hs hp
  refine ⟨hfault, halways, ?_, ?_⟩
  . intro t k ht
    have h : t.OnBoundary := hreturns t k ht
    exact ⟨h, h.index_le_size⟩
  . intro hnothing t k ht
    obtain ⟨-, -, hahead⟩ := (Invariant.ahead s).always_holds
      (fun _ hq => BringsNothing.allows hq _) (State.Ahead.refl hs) hnothing
    have h : s.Ahead t := hahead t k ht
    exact ⟨h.target_eq, h.index_le⟩

theorem stays_on_boundary_rewind :
    let rewind (t : State) : State := { t with index := t.mark.parserIndex }
    let p : Parser := .chain (.literal "é") fun t _ => .setState (rewind t)
    let s : State := { target := "né", index := 1, registry := 0 }
    s.OnBoundary ∧ p.RunsOnly [] KeepsBoundary s {} ∧
      ∃ t k, Returns [] p s {} t k ∧ t.index = 1 ∧ t.OnBoundary := by
  intro rewind p s
  have hs : s.OnBoundary := by decide
  have hliteral : (parse [] 1 (.literal "é") s {}).passes
      (fun t _ => decide (rewind t).OnBoundary) = true := by
    decide +kernel
  obtain ⟨u, l, hu, hrewind⟩ := returns_of_passes 1 hliteral
  have hfirst : (literal "é").RunsOnly [] KeepsBoundary s {} :=
    .of_isPrimitive (p := .literal "é") trivial ⟨nofun, nofun⟩
  have hp : p.RunsOnly [] KeepsBoundary s {} := by
    apply RunsOnly.chain ⟨nofun, nofun⟩ hfirst
    intro t k ht _
    obtain ⟨rfl, rfl⟩ := ht.unique hu
    have hset : KeepsBoundary (.setState (rewind t)) :=
      keepsBoundary_iff.mp hrewind
    exact .of_isPrimitive (p := .setState (rewind t)) trivial hset
  have hpasses : (parse [] 2 p s {}).passes (fun t _ => t.index == 1) = true := by
    decide +kernel
  obtain ⟨t, k, ht, hindex⟩ := returns_of_passes 2 hpasses
  obtain ⟨-, -, hreturns, -⟩ := stays_on_boundary hs hp
  exact ⟨hs, hp, t, k, ht, beq_iff_eq.mp hindex, (hreturns t k ht).1⟩

end Parser
end Waymark
