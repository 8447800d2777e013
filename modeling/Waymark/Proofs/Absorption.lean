import Mathlib.Data.List.Forall2
import Waymark.Parser.DoBlock
import Waymark.Parser.Fuel
import Waymark.Proofs.Simulation

/-!
This module contains what parsers do with a state that has failed: they hand it back as it is, but
for the messages that `mapError` appends. What maps, binders and bodies would do with results has no
influence on that, which is shown by putting any others in their place.
-/

namespace Waymark

namespace State

def relabel (s : State) (f : String → Nat → String) : State :=
  match s.error with
  | none => s
  | some message => s.fail (f message s.index)

def Relabeled (mapper : (String → Nat → String) → Prop) (s t : State) : Prop :=
  ∃ fs : List (String → Nat → String), (∀ f ∈ fs, mapper f) ∧ t = fs.foldl relabel s

structure Outlasts (s t : State) : Prop where
  isError : t.isError = true
  target_eq : t.target = s.target
  index_eq : t.index = s.index
  result_eq : t.result = s.result
  mark_eq : t.mark = s.mark
  registry_eq : t.registry = s.registry
  chain : s.chain <+: t.chain

variable {mapper mapper' : (String → Nat → String) → Prop} {s t : State}

theorem Outlasts.refl (hs : s.isError = true) : s.Outlasts s :=
  ⟨hs, rfl, rfl, rfl, rfl, rfl, List.prefix_refl _⟩

theorem Outlasts.of_fail {message : String} (h : (s.fail message).Outlasts t) : s.Outlasts t :=
  ⟨h.isError, h.target_eq, h.index_eq, h.result_eq, h.mark_eq, h.registry_eq,
    (List.prefix_append _ _).trans h.chain⟩

theorem Outlasts.relabel (h : s.Outlasts t) (f : String → Nat → String) :
    s.Outlasts (t.relabel f) := by
  unfold State.relabel
  split
  . exact h
  . refine ⟨rfl, h.target_eq, h.index_eq, h.result_eq, h.mark_eq, h.registry_eq, ?_⟩
    exact h.chain.trans (List.prefix_append _ _)

theorem Outlasts.foldl_relabel (h : s.Outlasts t) (fs : List (String → Nat → String)) :
    s.Outlasts (fs.foldl State.relabel t) := by
  induction fs generalizing t with
  | nil => exact h
  | cons f fs ih => exact ih (h.relabel f)

theorem Relabeled.refl : s.Relabeled mapper s :=
  ⟨[], by simp, rfl⟩

theorem Relabeled.outlasts (hs : s.isError = true) (h : s.Relabeled mapper t) : s.Outlasts t := by
  obtain ⟨fs, -, rfl⟩ := h
  exact (Outlasts.refl hs).foldl_relabel fs

theorem Relabeled.mono (h : s.Relabeled mapper t) (hmapper : ∀ f, mapper f → mapper' f) :
    s.Relabeled mapper' t := by
  obtain ⟨fs, hfs, ht⟩ := h
  exact ⟨fs, fun f hf => hmapper f (hfs f hf), ht⟩

theorem Relabeled.relabel (h : s.Relabeled mapper t) {f : String → Nat → String} (hf : mapper f) :
    s.Relabeled mapper (t.relabel f) := by
  obtain ⟨fs, hfs, rfl⟩ := h
  refine ⟨fs ++ [f], ?_, ?_⟩
  . intro g hg
    rw [List.mem_append, List.mem_singleton] at hg
    cases hg with
    | inl hg => exact hfs g hg
    | inr hg =>
      rw [hg]
      exact hf
  . rw [List.foldl_append]
    rfl

theorem Relabeled.eq (h : s.Relabeled mapper t) (hmapper : ∀ f, ¬ mapper f) : t = s := by
  obtain ⟨fs, hfs, rfl⟩ := h
  cases fs with
  | nil => rfl
  | cons f fs => exact absurd (hfs f List.mem_cons_self) (hmapper f)

end State

namespace Parser

/--
Whether two parsers are the same but for what maps do with results, and what binders and bodies make
of states.
-/
inductive Refit : Parser → Parser → Prop where
  | primitive {p : Parser} (hp : p.IsPrimitive) : Refit p p
  | sequence {ps qs : List Parser} (h : List.Forall₂ Refit ps qs) :
      Refit (.sequence ps) (.sequence qs)
  | sequenceSepBy {separator separator' : Parser} {ps qs : List Parser}
      (hseparator : Refit separator separator') (h : List.Forall₂ Refit ps qs) :
      Refit (.sequenceSepBy separator ps) (.sequenceSepBy separator' qs)
  | choice {ps qs : List Parser} (h : List.Forall₂ Refit ps qs) : Refit (.choice ps) (.choice qs)
  | many {p q : Parser} (h : Refit p q) : Refit (.many p) (.many q)
  | many1 {p q : Parser} (h : Refit p q) : Refit (.many1 p) (.many1 q)
  | sepBy {separator separator' p q : Parser} (hseparator : Refit separator separator')
      (h : Refit p q) : Refit (.sepBy separator p) (.sepBy separator' q)
  | sepBy1 {separator separator' p q : Parser} (hseparator : Refit separator separator')
      (h : Refit p q) : Refit (.sepBy1 separator p) (.sepBy1 separator' q)
  | between {opening opening' content content' closing closing' : Parser}
      (hopening : Refit opening opening') (hcontent : Refit content content')
      (hclosing : Refit closing closing') :
      Refit (.between opening content closing) (.between opening' content' closing')
  | optional {p q : Parser} (h : Refit p q) : Refit (.optional p) (.optional q)
  | keepLeft {left left' right right' : Parser} (hleft : Refit left left')
      (hright : Refit right right') : Refit (.keepLeft left right) (.keepLeft left' right')
  | keepRight {left left' right right' : Parser} (hleft : Refit left left')
      (hright : Refit right right') : Refit (.keepRight left right) (.keepRight left' right')
  | map {p q : Parser} (h : Refit p q) (f g : Value → Value) : Refit (.map p f) (.map q g)
  | chain {p q : Parser} (h : Refit p q) (next next' : State → Suggestions → Parser) :
      Refit (.chain p next) (.chain q next')
  | mapError {p q : Parser} (h : Refit p q) (f : String → Nat → String) :
      Refit (.mapError p f) (.mapError q f)
  | deferred {p q : Parser} (h : Refit p q) : Refit (.deferred p) (.deferred q)
  | rule (name : String) : Refit (.rule name) (.rule name)
  | contextual (body body' : State → Suggestions → Body) :
      Refit (.contextual body) (.contextual body')
  | transform (f : State → Effect State) : Refit (.transform f) (.transform f)

def ReturnsFailed : Parser → Prop
  | .setState _ | .between _ _ _ | .keepLeft _ _ | .keepRight _ _ | .map _ _ | .chain _ _
  | .mapError _ _ | .deferred _ | .rule _ | .transform _ => False
  | _ => True

def HasMapper (rules : Rules) (p : Parser) (f : String → Nat → String) : Prop :=
  ∃ body, Relation.ReflTransGen (Part rules fun _ => True) p (.mapError body f)

variable {rules rules' : Rules} {p p' q : Parser} {s t : State} {j k : Journal}

theorem Refit.refl (p : Parser) : Refit p p := by
  induction p using inner_induction with
  | step p ih =>
    cases p with
    | sequence ps => exact .sequence (List.forall₂_same.mpr ih)
    | choice ps => exact .choice (List.forall₂_same.mpr ih)
    | sequenceSepBy separator ps =>
      simp only [inner, List.forall_mem_cons] at ih
      exact .sequenceSepBy ih.1 (List.forall₂_same.mpr ih.2)
    | rule name => exact .rule name
    | contextual body => exact .contextual body body
    | transform f => exact .transform f
    | many body => exact .many (ih body List.mem_cons_self)
    | many1 body => exact .many1 (ih body List.mem_cons_self)
    | optional body => exact .optional (ih body List.mem_cons_self)
    | map body f => exact .map (ih body List.mem_cons_self) f f
    | mapError body f => exact .mapError (ih body List.mem_cons_self) f
    | deferred body => exact .deferred (ih body List.mem_cons_self)
    | chain first next => exact .chain (ih first List.mem_cons_self) next next
    | sepBy separator body =>
      simp only [inner, List.forall_mem_cons] at ih
      exact .sepBy ih.1 ih.2.1
    | sepBy1 separator body =>
      simp only [inner, List.forall_mem_cons] at ih
      exact .sepBy1 ih.1 ih.2.1
    | between opening content closing =>
      simp only [inner, List.forall_mem_cons] at ih
      exact .between ih.1 ih.2.1 ih.2.2.1
    | keepLeft left right =>
      simp only [inner, List.forall_mem_cons] at ih
      exact .keepLeft ih.1 ih.2.1
    | keepRight left right =>
      simp only [inner, List.forall_mem_cons] at ih
      exact .keepRight ih.1 ih.2.1
    | _ => exact .primitive trivial

theorem HasMapper.of_part (hpart : Part rules (fun _ => True) p q) (f : String → Nat → String)
    (h : q.HasMapper rules f) : p.HasMapper rules f := by
  obtain ⟨body, hbody⟩ := h
  exact ⟨body, hbody.head hpart⟩

theorem step_eq_pure_of_isError (hp : p.ReturnsFailed) (hs : s.isError = true)
    (run : Parser → State → Effect State) (rules : Rules) (n : Nat) :
    step run rules n p s = pure s := by
  cases p
  all_goals first
    | exact hp.elim
    | exact State.unlessError_of_isError hs _
    | rfl

theorem step_mapError (run : Parser → State → Effect State) (rules : Rules) (n : Nat)
    (body : Parser) (f : String → Nat → String) (s : State) :
    step run rules n (.mapError body f) s = (do
      let t ← run body s
      pure (t.relabel f)) := by
  dsimp only [step]
  apply bind_congr
  intro t
  unfold State.relabel
  cases t.error <;> rfl

def sameRecords (start : Journal) : Bond where
  journal j j' := j = j' ∧ ∃ opened, j = { start with opened }
  fault := Eq

theorem countOpened_couples (start : Journal) :
    (sameRecords start).Couples (fun _ _ => True) (Effect.update (·.countOpened))
      (Effect.update (·.countOpened)) := by
  apply Bond.Couples.update
  rintro j _ ⟨rfl, opened, rfl⟩
  exact ⟨rfl, opened + 1, rfl⟩

theorem parse_couples_of_isError (hrules : ∀ name, Refit (rules.resolve name) (rules'.resolve name))
    (hp : p.Throughout rules (fun _ => True) BringsNothing) (h : Refit p p')
    (hs : s.isError = true) (start : Journal) (n : Nat) :
    (sameRecords start).Couples (fun t t' => t = t' ∧ s.Relabeled (p.HasMapper rules) t)
      (parse rules n p s) (parse rules' n p' s) := by
  -- On the fuel: a failed state only ever reaches the first of the parts of a parser.
  induction n generalizing p p' with
  | zero => exact Bond.Couples.exhausted
  | succ n ih =>
    have hreturn (hp : p.ReturnsFailed) (hp' : p'.ReturnsFailed) :
        (sameRecords start).Couples (fun t t' => t = t' ∧ s.Relabeled (p.HasMapper rules) t)
          (parse rules (n + 1) p s) (parse rules' (n + 1) p' s) := by
      rw [parse, parse, step_eq_pure_of_isError hp hs, step_eq_pure_of_isError hp' hs]
      exact Bond.Couples.pure ⟨rfl, .refl⟩
    have hpart {q q' : Parser} (hq : Part rules (fun _ => True) p q) (h : Refit q q') :
        (sameRecords start).Couples (fun t t' => t = t' ∧ s.Relabeled (p.HasMapper rules) t)
          (parse rules n q s) (parse rules' n q' s) := by
      rw [← bind_pure (parse rules n q s), ← bind_pure (parse rules' n q' s)]
      apply Bond.Couples.bind (ih (hp.part hq) h)
      rintro t _ ⟨rfl, ht⟩
      exact Bond.Couples.pure ⟨rfl, ht.mono (HasMapper.of_part hq)⟩
    have hfirst {q q' : Parser} (hq : Part rules (fun _ => True) p q) (h : Refit q q')
        (next next' : State → Effect State) :
        (sameRecords start).Couples (fun t t' => t = t' ∧ s.Relabeled (p.HasMapper rules) t)
          (parse rules n q s >>= fun t => t.unlessError (next t))
          (parse rules' n q' s >>= fun t => t.unlessError (next' t)) := by
      apply Bond.Couples.bind (hpart hq h)
      rintro t _ ⟨rfl, ht⟩
      have hfailed := (ht.outlasts hs).isError
      rw [State.unlessError_of_isError hfailed, State.unlessError_of_isError hfailed]
      exact Bond.Couples.pure ⟨rfl, ht⟩
    have hnode := hp.self
    cases h with
    | primitive hprimitive =>
      cases p with
      | setState saved => exact hnode.elim
      | literal _ | pattern _ | eatUntil _ | anyChar | endOfInput | peek | getState | succeed _
      | fail _ => exact hreturn trivial trivial
      | _ => exact hprimitive.elim
    | between hopening _ _ => exact hfirst (.inner List.mem_cons_self) hopening _ _
    | keepLeft hleft _ => exact hfirst (.inner List.mem_cons_self) hleft _ _
    | keepRight hleft _ => exact hfirst (.inner List.mem_cons_self) hleft _ _
    | map h _ _ => exact hfirst (.inner List.mem_cons_self) h _ _
    | chain h _ _ => exact hfirst (.inner List.mem_cons_self) h _ _
    | @mapError body body' h f =>
      have hmapper : HasMapper rules (.mapError body f) f := ⟨body, .refl⟩
      rw [parse, parse, step_mapError, step_mapError]
      apply Bond.Couples.bind (hpart (.inner List.mem_cons_self) h)
      rintro t _ ⟨rfl, ht⟩
      exact Bond.Couples.pure ⟨rfl, ht.relabel hmapper⟩
    | deferred h =>
      apply Bond.Couples.bind (countOpened_couples start)
      intro _ _ _
      exact hpart (.inner List.mem_cons_self) h
    | rule name =>
      apply Bond.Couples.bind (countOpened_couples start)
      intro _ _ _
      exact hpart .rule (hrules name)
    | transform f => exact hnode.elim
    | _ => exact hreturn trivial trivial

theorem returns_refit (hrules : ∀ name, Refit (rules.resolve name) (rules'.resolve name))
    (hp : p.Throughout rules (fun _ => True) BringsNothing) (h : Refit p p')
    (hs : s.isError = true) (ht : Returns rules p s j t k) :
    Returns rules' p' s j t k ∧ s.Relabeled (p.HasMapper rules) t ∧
      ∃ opened, k = { j with opened } := by
  obtain ⟨n, hn⟩ := ht
  have hmeets := parse_couples_of_isError hrules hp h hs j n j j ⟨rfl, j.opened, rfl⟩
  rw [hn] at hmeets
  generalize hn' : parse rules' n p' s j = outcome at hmeets
  cases hmeets with
  | done ht hk =>
    obtain ⟨rfl, ht⟩ := ht
    obtain ⟨rfl, hk⟩ := hk
    exact ⟨⟨n, hn'⟩, ht, hk⟩

theorem returns_of_returnsFailed (hp : p.ReturnsFailed) (hs : s.isError = true) :
    Returns rules p s j s j := by
  refine ⟨1, ?_⟩
  rw [parse, step_eq_pure_of_isError hp hs]
  rfl

theorem returns_doBlock_of_isError (hs : s.isError = true) (steps : List Step)
    (finish : Bindings → Value) : Returns rules (doBlock steps finish) s j s j := by
  refine ⟨2, ?_⟩
  have hget : parse rules 1 .getState s = pure s := rfl
  unfold doBlock
  rw [parse, step, hget, pure_bind, State.unlessError_of_isError hs]
  rfl

/--
A failed state is handed back as it is but for the messages that error mappers append to it, nothing
is filed or noted on the way, and no map, binder or body is asked. Sequences, choices, repetitions,
optional parsers, blocks and contextual parsers do not even look at what they are made of.
-/
theorem hands_back_failed (hs : s.isError = true) (j : Journal) :
    (∀ rules p t k, p.Throughout rules (fun _ => True) BringsNothing → Returns rules p s j t k →
      s.Outlasts t ∧ s.Relabeled (p.HasMapper rules) t ∧ (∃ opened, k = { j with opened }) ∧
        ((∀ f, ¬ p.HasMapper rules f) → t = s) ∧
        ∀ rules' p', (∀ name, Refit (rules.resolve name) (rules'.resolve name)) → Refit p p' →
          Returns rules' p' s j t k) ∧
      (∀ rules p, p.ReturnsFailed → Returns rules p s j s j) ∧
      ∀ rules steps finish, Returns rules (doBlock steps finish) s j s j := by
  refine ⟨?_, ?_, ?_⟩
  . intro rules p t k hp h
    have hrefl (name : String) : Refit (rules.resolve name) (rules.resolve name) := .refl _
    obtain ⟨-, ht, hk⟩ := returns_refit hrefl hp (.refl p) hs h
    refine ⟨ht.outlasts hs, ht, hk, ht.eq, ?_⟩
    intro rules' p' hrules hrefit
    exact (returns_refit hrules hp hrefit hs h).1
  . intro rules p hp
    exact returns_of_returnsFailed hp hs
  . intro rules steps finish
    exact returns_doBlock_of_isError hs steps finish

theorem hands_back_failed_mapError :
    let f (message : String) (_ : Nat) : String := "number: " ++ message
    let p : Parser := .mapError (.map .digits fun _ => .null) f
    let p' : Parser := .mapError (.map .digits fun value => .seq [value]) f
    let s : State := ({ target := "ab", registry := 0 } : State).fail "lost"
    s.isError = true ∧ p.Throughout [] (fun _ => True) BringsNothing ∧
      ∃ t k, Returns [] p s {} t k ∧ t.chain = ["lost", "number: lost"] ∧ Returns [] p' s {} t k := by
  intro f p p' s
  have hs : s.isError = true := rfl
  have hp : p.Throughout [] (fun _ => True) BringsNothing := by
    refine Throughout.of_list [p, .map .digits fun _ => .null, .digits] ?_ ?_ ?_ ?_ ?_
    . simp
    . simp [IsPlain, p, digits]
    . simp [inner, p, digits]
    . simp [p, digits]
    . simp [BringsNothing, p, digits]
  have hrefit : Refit p p' := .mapError (.map (.refl digits) _ _) f
  obtain ⟨t, k, h, hchain⟩ : ∃ t k, Returns [] p s {} t k ∧ t.chain = ["lost", "number: lost"] :=
    ⟨_, _, ⟨3, rfl⟩, by decide⟩
  obtain ⟨-, -, -, -, hsame⟩ := (hands_back_failed hs {}).1 [] p t k hp h
  exact ⟨hs, hp, t, k, h, hchain, hsame [] p' (fun _ => .refl _) hrefit⟩

end Parser
end Waymark
