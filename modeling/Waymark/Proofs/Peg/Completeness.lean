import Waymark.Proofs.Halting
import Waymark.Proofs.Peg.Soundness

/-!
This module contains the proof that parsers come to an end wherever the expressions they stand for
derive something. The parts of an expression are followed first, and then, by induction on the
derivation, the names in it.
-/

namespace Waymark

open Effect Peg

namespace Peg

variable {names : Meaning} {e : Expr} {xs : List Char} {o : Option (List Char)}

theorem Matches.star_induction {motive : List Char → Prop}
    (stop : ∀ xs, Matches names e xs none → motive xs)
    (again : ∀ xs ys, Matches names e xs (some ys) → motive ys → motive xs)
    (h : Matches names (.star e) xs o) : motive xs := by
  -- Only the two rules of a repetition derive anything from one.
  generalize hstar : Expr.star e = e' at h
  induction h with
  | star h₁ _ _ ih =>
    cases hstar
    exact again _ _ h₁ (ih rfl)
  | starEnd h =>
    cases hstar
    exact stop _ h
  | _ => cases hstar

theorem Matches.star_of_plus (h : Matches names (.plus e) xs o) :
    ∃ o', Matches names (.star e) xs o' := by
  cases h with
  | seq h₁ h₂ => exact ⟨_, .star h₁ h₂⟩
  | seqFail h => exact ⟨_, .starEnd h⟩

theorem Matches.of_opt (h : Matches names (.opt e) xs o) : ∃ o', Matches names e xs o' := by
  cases h with
  | alt h => exact ⟨_, h⟩
  | altElse h _ => exact ⟨_, h⟩

end Peg

namespace State

variable {s : State} {xs : List Char}

theorem verdict_eq_none_iff : s.verdict = none ↔ s.isError = true := by
  unfold verdict
  split
  . next h => simp [h]
  . next h => simp [h]

theorem verdict_eq_some_iff : s.verdict = some xs ↔ s.isError = false ∧ s.rest = xs := by
  unfold verdict
  split
  . next h => simp [h]
  . next h => simp [h]

end State

namespace Parser

variable {names : Meaning} {rules : Rules} {e : Expr} {s : State} {p separator : Parser}
  {ps : List Parser} {o : Option (List Char)}

def Complete (names : Meaning) (rules : Rules) (p : Parser) : Prop :=
  ∀ (s : State) (o : Option (List Char)), s.Ready → Matches names p.expr s.rest o →
    Ends (eval rules p s) fun t => t.OnBoundary ∧ t.verdict = o

theorem Complete.andThen (hp : Complete names rules p) (hs : s.Ready)
    (h : Matches names (.seq p.expr e) s.rest o) :
    Ends (eval rules p s) fun t => t.isError = false → t.Ready ∧ Matches names e t.rest o := by
  cases h with
  | seq h₁ h₂ =>
    apply Ends.mono (hp s _ hs h₁)
    rintro t ⟨hboundary, hverdict⟩ hlive
    obtain ⟨-, hrest⟩ := State.verdict_eq_some_iff.mp hverdict
    rw [hrest]
    exact ⟨⟨hlive, hboundary⟩, h₂⟩
  | seqFail h =>
    apply Ends.mono (hp s _ hs h)
    rintro t ⟨-, hverdict⟩ hlive
    rw [State.verdict_eq_none_iff, hlive] at hverdict
    contradiction

theorem Complete.orElse (hp : Complete names rules p) (hs : s.Ready)
    (h : Matches names (.alt p.expr e) s.rest o) :
    Ends (eval rules p s) fun t => t.isError = true → Matches names e s.rest o := by
  cases h with
  | alt h =>
    apply Ends.mono (hp s _ hs h)
    rintro t ⟨-, hverdict⟩ herror
    obtain ⟨hlive, -⟩ := State.verdict_eq_some_iff.mp hverdict
    rw [herror] at hlive
    contradiction
  | altElse h₁ h₂ =>
    apply Ends.mono (hp s _ hs h₁)
    intro t _ _
    exact h₂

theorem Complete.halts (hp : Complete names rules p) (hs : s.Ready)
    (h : Matches names p.expr s.rest o) : Halts (eval rules p s) :=
  Ends.mono (hp s o hs h) fun _ _ => trivial

theorem endInOrder_of_seqs (hps : ∀ p ∈ ps, Complete names rules p) (hs : s.Ready)
    (h : Matches names (.seqs (exprs ps)) s.rest o) : EndInOrder (eval rules) ps s := by
  induction ps generalizing s with
  | nil => trivial
  | cons p ps ih =>
    apply Ends.mono ((hps p List.mem_cons_self).andThen hs h)
    intro t ht hlive
    obtain ⟨hready, hmatches⟩ := ht hlive
    exact ih (fun q hq => hps q (List.mem_cons_of_mem p hq)) hready hmatches

theorem firstSuccess_halts (hps : ∀ p ∈ ps, Complete names rules p) (hs : s.Ready)
    (h : Matches names (.alts (exprs ps)) s.rest o) (best : Option State) :
    Halts (firstSuccess (eval rules) s ps best) := by
  induction ps generalizing best with
  | nil => exact Ends.pure trivial
  | cons p ps ih =>
    apply firstSuccess_cons_halts
    apply Ends.mono ((hps p List.mem_cons_self).orElse hs h)
    intro t ht herror
    exact ih (fun q hq => hps q (List.mem_cons_of_mem p hq)) (ht herror)

section Loop

theorem collectAll_halts_of_star (hp : Complete names rules p) (hs : s.Ready)
    (h : Matches names (.star p.expr) s.rest o) : Halts (collectAll rules p s) := by
  apply h.star_induction
    (motive := fun xs => ∀ s : State, s.Ready → s.rest = xs → Halts (collectAll rules p s))
    _ _ s hs rfl
  . rintro _ h s hs rfl
    apply collectAll_halts
    apply Ends.mono (hp s _ hs h)
    rintro t ⟨-, hverdict⟩ hlive
    rw [State.verdict_eq_none_iff, hlive] at hverdict
    contradiction
  . rintro _ ys h ih s hs rfl
    apply collectAll_halts
    apply Ends.mono (hp s _ hs h)
    rintro t ⟨hboundary, hverdict⟩ hlive
    exact ih t ⟨hlive, hboundary⟩ (State.verdict_eq_some_iff.mp hverdict).2

theorem separator_ends_of_star (hseparator : Complete names rules separator)
    (hp : Complete names rules p) (hs : s.Ready)
    (h : Matches names (.star (.seq separator.expr p.expr)) s.rest o) :
    Ends (eval rules separator s) fun between =>
      between.isError = false → Halts (collectAllSeparated rules separator p s between) := by
  -- The induction is on the rounds that match from here on, over all states that stand there.
  apply h.star_induction
    (motive := fun xs => ∀ s : State, s.Ready → s.rest = xs →
      Ends (eval rules separator s) fun between =>
        between.isError = false → Halts (collectAllSeparated rules separator p s between))
    _ _ s hs rfl
  . rintro _ h s hs rfl
    apply Ends.mono (hseparator.andThen hs h)
    intro between hbetween hlive
    obtain ⟨hready, hfails⟩ := hbetween hlive
    apply collectAllSeparated_halts
    apply Ends.mono (hp between _ hready hfails)
    rintro t ⟨-, hverdict⟩ hlive'
    rw [State.verdict_eq_none_iff, hlive'] at hverdict
    contradiction
  . rintro _ ys h ih s hs rfl
    apply Ends.mono (hseparator.andThen hs h)
    intro between hbetween hlive
    obtain ⟨hready, hmatches⟩ := hbetween hlive
    apply collectAllSeparated_halts
    apply Ends.mono (hp between _ hready hmatches)
    rintro t ⟨hboundary, hverdict⟩ hlive'
    exact ih t ⟨hlive', hboundary⟩ (State.verdict_eq_some_iff.mp hverdict).2

theorem collectAllSeparated_halts_of_sepBy1 {last : State}
    (hseparator : Complete names rules separator) (hp : Complete names rules p) (hs : s.Ready)
    (h : Matches names (.sepBy1 separator.expr p.expr) s.rest o) :
    Halts (collectAllSeparated rules separator p last s) := by
  apply collectAllSeparated_halts
  apply Ends.mono (hp.andThen hs h)
  intro t ht hlive
  obtain ⟨hready, hmatches⟩ := ht hlive
  exact separator_ends_of_star hseparator hp hready hmatches

end Loop

theorem step_halts (hp : IsPlain p) (hinner : ∀ q ∈ p.inner, Complete names rules q)
    (hrule : ∀ name, p = .rule name → ∀ o, names name s.rest o →
      Halts (eval rules (rules.resolve name) s))
    (hs : s.Ready) (h : Matches names p.expr s.rest o) : Halts (eval rules p s) := by
  cases p with
  | sequence ps =>
    apply sequence_halts
    intro _
    exact endInOrder_of_seqs hinner hs h
  | sequenceSepBy separator ps =>
    apply sequenceSepBy_halts
    intro _
    unfold expr at h
    rw [← seqs_separated] at h
    apply endInOrder_of_seqs _ hs h
    intro q hq
    exact hinner q (mem_of_mem_separated hq)
  | choice ps =>
    apply choice_halts
    intro _
    exact firstSuccess_halts hinner hs h none
  | many body =>
    apply many_halts
    intro _
    exact collectAll_halts_of_star (hinner body List.mem_cons_self) hs h
  | many1 body =>
    apply many1_halts
    intro _
    obtain ⟨o', hstar⟩ := Matches.star_of_plus h
    exact collectAll_halts_of_star (hinner body List.mem_cons_self) hs hstar
  | sepBy separator body =>
    apply sepBy_halts
    intro _
    obtain ⟨o', hsome⟩ := Matches.of_opt h
    exact collectAllSeparated_halts_of_sepBy1 (hinner separator (by simp [inner]))
      (hinner body (by simp [inner])) hs hsome
  | sepBy1 separator body =>
    apply sepBy1_halts
    intro _
    exact collectAllSeparated_halts_of_sepBy1 (hinner separator (by simp [inner]))
      (hinner body (by simp [inner])) hs h
  | between opening content closing =>
    apply between_halts
    exact endInOrder_of_seqs hinner hs h
  | optional body =>
    apply optional_halts
    intro _
    obtain ⟨o', hbody⟩ := Matches.of_opt h
    exact (hinner body List.mem_cons_self).halts hs hbody
  | keepLeft left right =>
    apply keepLeft_halts
    exact endInOrder_of_seqs hinner hs h
  | keepRight left right =>
    apply keepRight_halts
    exact endInOrder_of_seqs hinner hs h
  | map body f =>
    apply map_halts
    exact (hinner body List.mem_cons_self).halts hs h
  | mapError body f =>
    apply mapError_halts
    exact (hinner body List.mem_cons_self).halts hs h
  | deferred body =>
    apply deferred_halts
    exact (hinner body List.mem_cons_self).halts hs h
  | rule name =>
    apply rule_halts
    cases h with
    | rule h => exact hrule name rfl o h
  | chain first next => exact hp.elim
  | setState saved => exact hp.elim
  | contextual body => exact hp.elim
  | transform f => exact hp.elim
  | _ => exact primitive_halts trivial hs.onBoundary

variable {sees : State → Prop}

theorem eval_sound (hp : p.Throughout rules sees IsPlain) :
    Sound (fun name => Derives rules.grammar (rules.grammar name)) (eval rules) p := by
  intro s hs
  constructor
  intro j k t h
  obtain ⟨n, hn⟩ := eval_eq_done_iff.mp h
  exact (parse_sound hp n s hs).of_done hn

theorem complete_of_names
    (hnames : ∀ name xs o, names name xs o → Derives rules.grammar (rules.grammar name) xs o)
    (hrule : ∀ name (s : State) o, (rules.resolve name).Throughout rules sees IsPlain →
      s.Ready → names name s.rest o → Halts (eval rules (rules.resolve name) s))
    (hp : p.Throughout rules sees IsPlain) : Complete names rules p := by
  induction p using inner_induction with
  | step p ih =>
    intro s o hs h
    -- It is enough that the parser ends: what it ends with is right, and only one outcome is.
    have hhalts : Halts (eval rules p s) := by
      apply step_halts hp.self _ _ hs h
      . intro q hq
        exact ih q hq (hp.inner hq)
      . rintro name rfl o' ho'
        exact hrule name s o' (hp.part .rule) hs ho'
    apply Ends.mono (hhalts.and_keeps (eval_sound hp s hs))
    rintro t ⟨-, ht⟩
    refine ⟨ht.onBoundary, ?_⟩
    apply Matches.unique _ ht.verdict h
    intro name xs o o' ho ho'
    exact ho.unique (hnames name xs o' ho')

theorem halts_of_derives {xs : List Char} (h : Derives rules.grammar e xs o) (hexpr : p.expr = e)
    (hp : p.Throughout rules sees IsPlain) (hs : s.Ready) (hrest : s.rest = xs) :
    Halts (eval rules p s) := by
  apply h.names_induction
    (motive := fun e xs _ => ∀ (p : Parser) (s : State), p.expr = e →
      p.Throughout rules sees IsPlain → s.Ready → s.rest = xs → Halts (eval rules p s))
    _ p s hexpr hp hs hrest
  -- In a match, each name comes with its derivation and with the end of the runs of its rule.
  rintro _ _ o h p s rfl hp hs rfl
  apply Complete.halts _ hs h
  apply complete_of_names _ _ hp
  . rintro name xs o ⟨h, -⟩
    exact h
  . rintro name s o hp hs ⟨-, ih⟩
    exact ih _ s rfl hp hs rfl

theorem complete (hp : p.Throughout rules sees IsPlain) :
    Complete (fun name => Derives rules.grammar (rules.grammar name)) rules p := by
  apply complete_of_names _ _ hp
  . intro name xs o h
    exact h
  . intro name s o hp hs h
    exact halts_of_derives h rfl hp hs rfl

end Parser
end Waymark
