import Waymark.Parser.DoBlock
import Waymark.Proofs.CharacterRun
import Waymark.Proofs.Evaluation
import Waymark.Proofs.Language
import Waymark.Proofs.Peg.Realization
import Waymark.Proofs.Primitive
import Waymark.Proofs.Triple

/-!
This module contains what it means that a parser recognizes a language, and that the language of a
parser is made of the languages of its parts. Recognition is said of texts below a length, so that
grammars which refer to themselves can be treated by induction on it.
-/

namespace Waymark

open Effect

namespace State

structure Answers (L : Language Value) (more : Char → Bool) (text : List Char) (t : State) :
    Prop where
  live (h : t.isError = false) : t.OnBoundary ∧ L.Takes more text t.rest t.result
  failed (h : t.isError = true) : L.Lacks more text

variable {L : Language Value} {K : Value → Language Value} {more mid : Char → Bool}
  {text : List Char} {s t : State} {x : Effect State} {k : State → Effect State}

theorem Answers.of_takes (ht : t.Ready) (h : L.Takes more text t.rest t.result) :
    t.Answers L more text := by
  refine ⟨fun _ => ⟨ht.onBoundary, h⟩, ?_⟩
  intro herror
  rw [ht.live] at herror
  contradiction

theorem Answers.of_lacks (ht : t.isError = true) (h : L.Lacks more text) :
    t.Answers L more text := by
  refine ⟨?_, fun _ => h⟩
  intro hlive
  rw [ht] at hlive
  contradiction

theorem Answers.takes (h : t.Answers L more text) (ht : t.isError = false) :
    L.Takes more text t.rest t.result :=
  (h.live ht).2

theorem Answers.ready (h : t.Answers L more text) (ht : t.isError = false) : t.Ready :=
  ⟨ht, (h.live ht).1⟩

theorem Answers.withResult (ht : t.Ready) {v : Value} (h : L.Takes more text t.rest v) :
    (t.withResult v).Answers L more text :=
  .of_takes ⟨ht.live, ht.onBoundary⟩ h

theorem ends_withResult (ht : t.Ready) (v : Value) :
    Ends (pure (t.withResult v)) (Answers (.succeed v) more t.rest) := by
  apply Ends.pure
  exact .withResult ht (Language.takes_succeed v more t.rest)

theorem ends_miss (h : L.Lacks more text) (expected pattern : String) :
    Ends (s.miss expected pattern) (Answers L more text) := by
  apply Ends.update
  apply Ends.update
  apply Ends.pure
  exact .of_lacks rfl h

theorem ends_past (hs : s.Ready) {front back : List Char} (hrest : s.rest = front ++ back)
    (h : L.Takes more s.rest back (.token (String.ofList front))) :
    Ends (pure (s.past front)) (Answers L more s.rest) := by
  apply Ends.pure
  apply Answers.of_takes
  . refine ⟨?_, hs.onBoundary.past hrest⟩
    rw [isError_past, hs.live]
  . rw [hs.onBoundary.rest_past hrest, result_past]
    exact h

theorem ends_takeWhile (hs : s.Ready) (f : Char → Bool)
    (h : L.Takes more s.rest (s.rest.dropWhile f)
      (.token (String.ofList (s.rest.takeWhile f)))) :
    Ends (s.consume (Text.size (s.rest.takeWhile f))) (Answers L more s.rest) := by
  have hrest : s.rest = s.rest.takeWhile f ++ s.rest.dropWhile f :=
    List.takeWhile_append_dropWhile.symm
  rw [hs.onBoundary.consume_eq hrest]
  exact ends_past hs hrest h

theorem ends_andThen (hx : Ends x (Answers L mid text))
    (hk : ∀ t : State, t.Ready → L.Takes mid text t.rest t.result →
      Ends (k t) (Answers (K t.result) more t.rest))
    (hK : ∀ a, (K a).Shields more mid) :
    Ends (x >>= fun t => t.unlessError (k t)) (Answers (L.bind K) more text) := by
  apply Ends.bind hx
  intro t ht
  apply Ends.unlessError
  . intro herror
    exact .of_lacks herror ((ht.failed herror).bind hK)
  . intro hlive
    have htakes := ht.takes hlive
    apply Ends.mono (hk t (ht.ready hlive) htakes)
    intro u hu
    constructor
    . intro hu'
      exact ⟨(hu.live hu').1, htakes.bind (hu.takes hu') hK⟩
    . intro hu'
      exact htakes.bind_lacks (hu.failed hu') hK

theorem ends_map (hx : Ends x (Answers L more text)) (f : Value → Value) :
    Ends (x >>= fun t => t.unlessError (pure (t.withResult (f t.result))))
      (Answers (L.map f) more text) := by
  apply ends_andThen hx
  . intro t ht _
    exact ends_withResult ht (f t.result)
  . intro _
    exact Language.shields_succeed fun _ hc => hc

end State

namespace Parser

open State Waymark.Language

/--
Whether a parser takes the texts of a language, and no others, from what it is run on, as long as
that is shorter than a bound. It comes to an end in any case.
-/
def Recognizes (rules : Rules) (bound : Nat) (p : Parser) (L : Language Value)
    (more : Char → Bool) : Prop :=
  ∀ s : State, s.Ready → s.rest.length < bound → Ends (eval rules p s) (Answers L more s.rest)

variable {rules : Rules} {bound : Nat} {p q separator : Parser} {L L' S : Language Value}
  {more mid mid' first first' : Char → Bool}

theorem recognizes_zero (p : Parser) (L : Language Value) (more : Char → Bool) :
    Recognizes rules 0 p L more := by
  intro s _ hlt
  exact absurd hlt (Nat.not_lt_zero _)

theorem Recognizes.next (hp : Recognizes rules bound p L' more) {text : List Char} {v : Value}
    {t : State} (ht : t.Ready) (htakes : L.Takes mid text t.rest v) (hlt : text.length < bound) :
    Ends (eval rules p t) (Answers L' more t.rest) :=
  hp t ht (Nat.lt_of_le_of_lt htakes.length_le hlt)

section Primitive

theorem recognizes_literal (w : String) (more : Char → Bool) :
    Recognizes rules bound (.literal w) (.word w) more := by
  intro s hs _
  have heval : eval rules (.literal w) s = s.unlessError (runLiteral w s) := eval_eq fun _ => rfl
  rw [heval, unlessError_of_live hs.live]
  rcases runLiteral_cases hs.onBoundary w with ⟨back, hrest, h⟩ | ⟨hmiss, h⟩
  . rw [h]
    apply ends_past hs hrest
    rw [String.ofList_toList]
    exact takes_word hrest more
  . rw [h]
    exact ends_miss (lacks_word hmiss more) _ _

theorem recognizes_run {p : Pattern} {set : CharSet} {f : Char → Bool}
    (hp : p.regex.program = Regex.Program.run set 2) (hset : ∀ c, set.contains c = f c)
    (hmore : ∀ c, f c = true → more c = true) :
    Recognizes rules bound (.pattern p) (.run f) more := by
  intro s hs _
  have heval : eval rules (.pattern p) s = s.unlessError (runPattern p s) := eval_eq fun _ => rfl
  rw [heval, unlessError_of_live hs.live, runPattern, Pattern.matchSize?_required hp, funext hset]
  by_cases hrun : s.rest.takeWhile f = []
  . rw [if_pos hrun]
    exact ends_miss (lacks_run hrun more) _ _
  . rw [if_neg hrun]
    exact ends_takeWhile hs f (takes_run hrun hmore)

theorem recognizes_optionalWhitespace (hmore : ∀ c, Text.isBlank c = true → more c = true) :
    Recognizes rules bound .optionalWhitespace .blanks more := by
  intro s hs _
  have hp : Pattern.optionalBlanks.regex.program = Regex.Program.run Character.blank 1 := rfl
  have heval : eval rules .optionalWhitespace s = s.unlessError (runPattern .optionalBlanks s) :=
    eval_eq fun _ => rfl
  rw [heval, unlessError_of_live hs.live, runPattern, Pattern.matchSize?_optional hp,
    funext CharSet.contains_blank]
  exact ends_takeWhile hs Text.isBlank (takes_blanks hmore)

end Primitive

section Combinator

theorem Recognizes.keepLeft {K : Language Value} (hp : Recognizes rules bound p L mid)
    (hq : Recognizes rules bound q K more) (hK : K.Shields more mid) :
    Recognizes rules bound (.keepLeft p q) (L.bind fun a => K.map fun _ => a) more := by
  intro s hs hlt
  rw [eval_keepLeft]
  apply ends_andThen (hp s hs hlt)
  . intro t ht htakes
    exact ends_map (hq.next ht htakes hlt) fun _ => t.result
  . intro _
    exact hK.map

theorem Recognizes.token (hp : Recognizes rules bound p L mid)
    (hblank : ∀ c, Text.isBlank c = true → mid c = false)
    (hmid : ∀ c, mid c = true → more c = true)
    (hmore : ∀ c, Text.isBlank c = true → more c = true) :
    Recognizes rules bound (.token p) L.lexeme more :=
  hp.keepLeft (recognizes_optionalWhitespace hmore) (Language.shields_blanks hblank hmid)

theorem recognizes_runToken {p : Pattern} {set : CharSet} {f : Char → Bool}
    (hp : p.regex.program = Regex.Program.run set 2) (hset : ∀ c, set.contains c = f c)
    (hblank : ∀ c, f c = true → Text.isBlank c = false) :
    Recognizes rules bound (.token (.pattern p)) (.lexeme (.run f)) (union f Text.isBlank) :=
  (recognizes_run hp hset fun _ hc => hc).token (eq_false_symm hblank) (union_left Text.isBlank)
    (union_right f)

theorem recognizes_digits : Recognizes rules bound (.token .digits) (.lexeme (.run Char.isDigit))
    (union Char.isDigit Text.isBlank) :=
  recognizes_runToken rfl CharSet.contains_digits fun _ => Text.isBlank_of_isDigit

theorem recognizes_letters : Recognizes rules bound (.token .letters) (.lexeme (.run Char.isAlpha))
    (union Char.isAlpha Text.isBlank) :=
  recognizes_runToken rfl CharSet.contains_letters fun _ => Text.isBlank_of_isAlpha

theorem recognizes_symbol (w : String) (hmore : ∀ c, Text.isBlank c = true → more c = true) :
    Recognizes rules bound (.token (.literal w)) (.lexeme (.word w)) more :=
  (recognizes_literal w fun _ => false).token (fun _ _ => rfl) nofun hmore

theorem recognizes_sign (w : String) :
    Recognizes rules bound (.token (.literal w)) (.lexeme (.word w)) Text.isBlank :=
  recognizes_symbol w fun _ hc => hc

theorem Recognizes.map (hp : Recognizes rules bound p L more) (f : Value → Value) :
    Recognizes rules bound (.map p f) (L.map f) more := by
  intro s hs hlt
  rw [eval_map]
  exact ends_map (hp s hs hlt) f

theorem Recognizes.chain {next : State → Suggestions → Parser} {K : Value → Language Value}
    (hp : Recognizes rules bound p L mid)
    (hnext : ∀ t table, Recognizes rules bound (next t table) (K t.result) more)
    (hK : ∀ a, (K a).Shields more mid) :
    Recognizes rules bound (.chain p next) (L.bind K) more := by
  intro s hs hlt
  rw [eval_chain]
  apply ends_andThen (hp s hs hlt)
  . intro t ht htakes
    constructor
    intro j
    exact ((hnext t _).next ht htakes hlt).done j
  . exact hK

theorem Recognizes.rule {name : String} (hp : Recognizes rules bound (rules.resolve name) L more) :
    Recognizes rules bound (.rule name) L more := by
  intro s hs hlt
  rw [eval_rule]
  exact Ends.update (hp s hs hlt)

theorem Recognizes.between {O C : Language Value} {opening closing : Parser}
    {more₁ more₂ more₃ : Char → Bool} (hopening : Recognizes rules (bound + 1) opening O more₁)
    (hp : Recognizes rules bound p L more₂)
    (hclosing : Recognizes rules (bound + 1) closing C more₃)
    (hO : O.Starts first) (hL : L.Shields more₂ more₁) (hC : C.Shields more₃ more₂) :
    Recognizes rules (bound + 1) (.between opening p closing) (enclosed O L C) more₃ := by
  intro s hs hlt
  rw [eval_between]
  apply ends_andThen (hopening s hs hlt)
  . intro t ht htakes
    have hle := htakes.length_le
    -- The opening takes something, so that the content is run on a shorter text.
    have hshorter := htakes.length_lt hO
    apply ends_andThen (hp t ht (by omega))
    . intro u hu hutakes
      exact ends_map (hclosing.next hu hutakes (by omega)) fun _ => u.result
    . intro _
      exact hC.map
  . intro _
    exact hL.bind fun _ => hC.map

theorem eval_sequence_pair (s : State) :
    eval rules (.sequence [p, q]) s = s.unlessError (do
      let t ← eval rules p s
      t.unlessError do
        let u ← eval rules q t
        u.unlessError (pure (u.withResult (.seq [t.result, u.result])))) := by
  rw [eval_sequence_eq_finishWith]
  simp only [runAll_cons_finishWith, runAll_nil_finishWith, unlessError_finishWith]
  rfl

theorem Recognizes.sequence (hp : Recognizes rules bound p L mid)
    (hq : Recognizes rules bound q L' more) (hL' : L'.Shields more mid) :
    Recognizes rules bound (.sequence [p, q]) (pair L L') more := by
  intro s hs hlt
  rw [eval_sequence_pair, unlessError_of_live hs.live]
  apply ends_andThen (hp s hs hlt)
  . intro t ht htakes
    exact ends_map (hq.next ht htakes hlt) fun w => .seq [t.result, w]
  . intro _
    exact hL'.map

theorem Recognizes.choice (hp : Recognizes rules bound p L more)
    (hq : Recognizes rules bound q L' more) (hL : L.Starts first) (hL' : L'.Starts first')
    (hfirst : ∀ c, first c = true → first' c = false) :
    Recognizes rules bound (.choice [p, q]) (L.either L') more := by
  intro s hs hlt
  have hfound : Ends (firstSuccess (eval rules) s [p, q] none) fun r =>
      (∀ t, r = .ok t → t.Answers (L.either L') more s.rest) ∧
        ∀ best, r = .error best → (L.either L').Lacks more s.rest := by
    apply Ends.bind (hp s hs hlt)
    intro t ht
    split
    . next herror =>
      apply Ends.bind (hq s hs hlt)
      intro u hu
      split
      . next herror' =>
        apply Ends.pure
        exact ⟨nofun, fun _ _ => (ht.failed herror).either (hu.failed herror')⟩
      . next hlive =>
        rw [Bool.not_eq_true] at hlive
        apply Ends.pure
        refine ⟨?_, nofun⟩
        rintro _ ⟨⟩
        exact .of_takes (hu.ready hlive) ((ht.failed herror).either_right (hu.takes hlive))
    . next hlive =>
      rw [Bool.not_eq_true] at hlive
      apply Ends.pure
      refine ⟨?_, nofun⟩
      rintro _ ⟨⟩
      exact .of_takes (ht.ready hlive) ((ht.takes hlive).either_left hL hL' hfirst)
  rw [eval_choice, unlessError_of_live hs.live]
  apply Ends.bind hfound
  rintro (best | t) ⟨hok, herror⟩
  . apply Ends.update
    apply Ends.pure
    exact .of_lacks rfl (herror best rfl)
  . exact Ends.pure (hok t rfl)

end Combinator

section Loop

structure Collects (L : Language Value) (more : Char → Bool) (text : List Char)
    (collected : State × List Value) : Prop where
  ready : collected.1.Ready
  takes : (Many L).Takes more text collected.1.rest collected.2

theorem Collects.cons {text : List Char} {t : State} {collected : State × List Value}
    (h : Collects L (union mid first) t.rest collected) (ht : L.Takes mid text t.rest t.result)
    (hL : L.Repeats first mid) :
    Collects L (union mid first) text (collected.1, t.result :: collected.2) :=
  ⟨h.ready, ht.many_cons h.takes hL⟩

theorem collects_nil {text : List Char} {s t : State} (hs : s.Ready) (hrest : s.rest = text)
    (h : L.Lacks mid text) (hL : L.Repeats first mid) :
    Collects L (union mid first) text (s.withDiagnosticsOf t, []) := by
  refine ⟨⟨hs.live, hs.onBoundary.congr rfl rfl⟩, ?_⟩
  have hkeep : (s.withDiagnosticsOf t).rest = text := hrest
  rw [hkeep]
  exact h.many_nil hL

theorem collectAll_collects (hp : Recognizes rules bound p L mid) (hL : L.Repeats first mid)
    {s : State} (hs : s.Ready) (hlt : s.rest.length < bound) :
    Ends (collectAll rules p s) (Collects L (union mid first) s.rest) := by
  -- Each round leaves a shorter text.
  induction hlength : s.rest.length using Nat.strong_induction_on generalizing s with
  | _ length ih =>
    rw [collectAll_eq]
    apply Ends.bind (hp s hs hlt)
    intro t ht
    split
    . next herror =>
      apply Ends.pure
      exact collects_nil hs rfl (ht.failed herror) hL
    . next hlive =>
      rw [Bool.not_eq_true] at hlive
      have htakes := ht.takes hlive
      have hshorter := htakes.length_lt hL.starts
      apply Ends.bind (ih _ (hlength ▸ hshorter) (ht.ready hlive) (by omega) rfl)
      intro collected hcollected
      apply Ends.pure
      exact hcollected.cons htakes hL

theorem Recognizes.many (hp : Recognizes rules bound p L mid) (hL : L.Repeats first mid) :
    Recognizes rules bound (.many p) ((Many L).map .seq) (union mid first) := by
  intro s hs hlt
  rw [eval_many, unlessError_of_live hs.live]
  apply Ends.bind (collectAll_collects hp hL hs hlt)
  intro collected h
  apply Ends.pure
  exact .withResult h.ready h.takes.map

theorem ends_afterValue (hS : Recognizes rules bound separator S mid')
    (hround : (S.bind fun _ => L).Repeats first mid) (hL : L.Shields mid mid') {t : State}
    (ht : t.Ready) (hlt : t.rest.length < bound)
    (hnext : ∀ (between : State) (b : Value), between.Ready → S.Takes mid' t.rest between.rest b →
      Ends (collectAllSeparated rules separator p t between)
        (Collects (S.bind fun _ => L) (union mid first) t.rest)) :
    Ends (do
      let between ← eval rules separator t
      if between.isError then
        pure (t.withDiagnosticsOf between, [t.result])
      else
        let (last, values) ← collectAllSeparated rules separator p t between
        pure (last, t.result :: values))
      fun collected => ∃ values, collected.2 = t.result :: values ∧
        Collects (S.bind fun _ => L) (union mid first) t.rest (collected.1, values) := by
  apply Ends.bind (hS t ht hlt)
  intro between hbetween
  split
  . next herror =>
    apply Ends.pure
    exact ⟨[], rfl, collects_nil ht rfl ((hbetween.failed herror).bind fun _ => hL) hround⟩
  . next hlive =>
    rw [Bool.not_eq_true] at hlive
    apply Ends.bind (hnext between _ (hbetween.ready hlive) (hbetween.takes hlive))
    intro collected h
    apply Ends.pure
    exact ⟨collected.2, rfl, h⟩

theorem collectAllSeparated_collects (hS : Recognizes rules bound separator S mid')
    (hp : Recognizes rules bound p L mid) (hround : (S.bind fun _ => L).Repeats first mid)
    (hL : L.Shields mid mid') {last s : State} {b : Value} (hlast : last.Ready) (hs : s.Ready)
    (hlt : last.rest.length < bound) (hseparator : S.Takes mid' last.rest s.rest b) :
    Ends (collectAllSeparated rules separator p last s)
      (Collects (S.bind fun _ => L) (union mid first) last.rest) := by
  induction hlength : last.rest.length using Nat.strong_induction_on generalizing last s b with
  | _ length ih =>
    have hle := hseparator.length_le
    rw [collectAllSeparated_eq]
    apply Ends.bind (hp s hs (by omega))
    intro t ht
    split
    . next herror =>
      -- A separator with no value behind it is given back.
      apply Ends.pure
      exact collects_nil hlast rfl (hseparator.bind_lacks (ht.failed herror) fun _ => hL) hround
    . next hlive =>
      rw [Bool.not_eq_true] at hlive
      have htakes : (S.bind fun _ => L).Takes mid last.rest t.rest t.result :=
        hseparator.bind (ht.takes hlive) fun _ => hL
      have hshorter := htakes.length_lt hround.starts
      have hready := ht.ready hlive
      apply Ends.mono (ends_afterValue hS hround hL hready (by omega) ?_)
      . rintro ⟨final, _⟩ ⟨values, rfl, h⟩
        exact h.cons htakes hround
      . intro between b' hbetween hseparator'
        exact ih _ (hlength ▸ hshorter) hready hbetween (by omega) hseparator' rfl

theorem collectAllSeparated_separated (hS : Recognizes rules bound separator S mid')
    (hp : Recognizes rules bound p L mid) (hround : (S.bind fun _ => L).Repeats first mid)
    (hL : L.Shields mid mid') {s : State} (hs : s.Ready) (hlt : s.rest.length < bound) :
    Ends (collectAllSeparated rules separator p s s) fun collected => collected.1.Ready ∧
      ((collected.2 = [] ∧ collected.1.rest = s.rest ∧
          (S.separated L).Lacks (union mid first) s.rest) ∨
        collected.2 ≠ [] ∧
          (S.separated L).Takes (union mid first) s.rest collected.1.rest collected.2) := by
  have hshields (a : Value) : ((Many (S.bind fun _ => L)).map (a :: ·)).Shields
      (union mid first) mid := hround.shields.map
  rw [collectAllSeparated_eq]
  apply Ends.bind (hp s hs hlt)
  intro t ht
  split
  . next herror =>
    apply Ends.pure
    exact ⟨⟨hs.live, hs.onBoundary.congr rfl rfl⟩,
      .inl ⟨rfl, rfl, (ht.failed herror).bind hshields⟩⟩
  . next hlive =>
    rw [Bool.not_eq_true] at hlive
    have htakes := ht.takes hlive
    have hlt' := Nat.lt_of_le_of_lt htakes.length_le hlt
    have hready := ht.ready hlive
    apply Ends.mono (ends_afterValue hS hround hL hready hlt' ?_)
    . rintro ⟨final, _⟩ ⟨values, rfl, h⟩
      exact ⟨h.ready, .inr ⟨List.cons_ne_nil _ _, htakes.bind h.takes.map hshields⟩⟩
    . intro between b hbetween hseparator
      exact collectAllSeparated_collects hS hp hround hL hready hbetween hlt' hseparator

theorem Recognizes.sepBy1 (hS : Recognizes rules bound separator S mid')
    (hp : Recognizes rules bound p L mid) (hround : (S.bind fun _ => L).Repeats first mid)
    (hL : L.Shields mid mid') :
    Recognizes rules bound (.sepBy1 separator p) ((S.separated L).map .seq) (union mid first) := by
  intro s hs hlt
  rw [eval_sepBy1, unlessError_of_live hs.live]
  apply Ends.bind (collectAllSeparated_separated hS hp hround hL hs hlt)
  rintro ⟨last, values⟩ ⟨hready, ⟨rfl, -, hlacks⟩ | ⟨hne, htakes⟩⟩
  . apply Ends.pure
    exact .of_lacks rfl hlacks.map
  . obtain ⟨value, values, rfl⟩ := List.exists_cons_of_ne_nil hne
    apply Ends.pure
    exact .withResult hready htakes.map

theorem Recognizes.sepBy (hS : Recognizes rules bound separator S mid')
    (hp : Recognizes rules bound p L mid) (hround : (S.bind fun _ => L).Repeats first mid)
    (hL : L.Shields mid mid') (hstarts : L.Starts first')
    (hmid : ∀ c, first' c = true → mid c = true) :
    Recognizes rules bound (.sepBy separator p)
      (((S.separated L).either (.succeed [])).map .seq) (union mid first) := by
  intro s hs hlt
  rw [eval_sepBy, unlessError_of_live hs.live]
  apply Ends.bind (collectAllSeparated_separated hS hp hround hL hs hlt)
  rintro ⟨last, values⟩ ⟨hready, ⟨rfl, hrest, hlacks⟩ | ⟨-, htakes⟩⟩
  . apply Ends.pure
    apply Answers.withResult hready
    rw [hrest]
    exact (hlacks.either_right (takes_succeed [] _ s.rest)).map
  . apply Ends.pure
    apply Answers.withResult hready
    exact (htakes.either_succeed hstarts.bind (fun c hc => union_left first c (hmid c hc)) []).map

end Loop

section Block

variable {finish : Bindings → Value} {steps : List Step} {bindings : Bindings}

theorem recognizes_finish (finish : Bindings → Value) (bindings : Bindings)
    (more : Char → Bool) :
    Recognizes rules bound (ofSteps finish [] bindings) (.succeed (finish bindings)) more := by
  intro s hs _
  rw [Parser.ofSteps, eval_succeed, unlessError_of_live hs.live]
  exact ends_withResult hs _

theorem Recognizes.ofSteps {step : Step} {K : Value → Language Value}
    (hp : Recognizes rules bound (step.make bindings) L mid)
    (hsteps : ∀ v,
      Recognizes rules bound (ofSteps finish steps (bindings.bind step.name v)) (K v) more)
    (hK : ∀ a, (K a).Shields more mid) :
    Recognizes rules bound (ofSteps finish (step :: steps) bindings) (L.bind K) more :=
  hp.chain (fun t _ => hsteps t.result) hK

theorem Recognizes.doBlock (h : Recognizes rules bound (Parser.ofSteps finish steps []) L more) :
    Recognizes rules bound (doBlock steps finish) L more := by
  intro s hs hlt
  rw [Parser.doBlock, eval_chain, eval_getState, pure_bind, unlessError_of_live hs.live]
  constructor
  intro j
  exact (h s hs hlt).done j

end Block

section Whole

structure Decides (L : Language Value) (text : List Char) (t : State) : Prop where
  sound (h : t.isError = false) : L text t.result
  complete (v : Value) (h : L text v) : t.isError = false ∧ t.result = v

theorem Decides.of_error {text : List Char} {t : State} (ht : t.isError = true)
    (h : ∀ v, ¬ L text v) : Decides L text t := by
  constructor
  . intro hlive
    rw [ht] at hlive
    contradiction
  . intro v hv
    exact absurd hv (h v)

theorem Recognizes.ends_whole (h : Recognizes rules bound p L more) {s : State} (hs : s.Ready)
    (hlt : s.rest.length < bound) :
    Ends (eval rules (.keepLeft p .endOfInput) s) (Decides L s.rest) := by
  rw [eval_keepLeft]
  apply Ends.bind (h s hs hlt)
  intro t ht
  apply Ends.unlessError
  . intro herror
    apply Decides.of_error herror
    intro v hv
    exact ht.failed herror _ _ _ (List.append_nil _).symm hv Avoids.nil
  . intro hlive
    obtain ⟨hboundary, htakes⟩ := ht.live hlive
    have heval : eval rules .endOfInput t = t.unlessError (runEndOfInput t) :=
      eval_eq fun _ => rfl
    rw [heval, unlessError_of_live hlive]
    rcases runEndOfInput_cases hboundary with ⟨hrest, hend⟩ | ⟨hrest, hend⟩
    . have hlive' : (t.withResult .null).isError = false := hlive
      rw [hend, pure_bind, unlessError_of_live hlive']
      apply Ends.pure
      constructor
      . intro _
        obtain ⟨front, htext, hfront⟩ := htakes.split
        rw [htext, hrest, List.append_nil]
        exact hfront
      . intro v hv
        obtain ⟨-, rfl⟩ := htakes.only (List.append_nil _).symm hv Avoids.nil
        exact ⟨hlive, rfl⟩
    . have hmiss : Ends (t.miss "end of input" "$") fun u => u.isError = true :=
        Ends.update (Ends.update (Ends.pure rfl))
      rw [hend]
      apply Ends.bind hmiss
      intro u hu
      rw [unlessError_of_isError hu]
      apply Ends.pure
      apply Decides.of_error hu
      intro v hv
      exact hrest (htakes.only (List.append_nil _).symm hv Avoids.nil).1.symm

theorem Recognizes.ends_parseText (h : ∀ bound, Recognizes rules bound p L more) (text : String)
    (j : Journal) :
    ∃ t k, (∃ n, parseText rules n (.keepLeft p .endOfInput) text j = .done t k) ∧
      Decides L text.toList t := by
  let s : State := { target := text, registry := j.freshRegistry.1 }
  have hsplit : s.target.chars = [] ++ text.toList := rfl
  have hs : s.Ready := ⟨rfl, [], text.toList, hsplit, rfl⟩
  have hrest : s.rest = text.toList := rest_eq_of_split hsplit rfl
  have hends := (h (s.rest.length + 1)).ends_whole hs (Nat.lt_succ_self _)
  obtain ⟨t, k, hdone, ht⟩ := hends.done j.freshRegistry.2
  obtain ⟨n, hn⟩ := eval_eq_done_iff.mp hdone
  rw [hrest] at ht
  refine ⟨t, k.log (.finished t.index t.isError s.size), ⟨n, ?_⟩, ht⟩
  apply bind_eq_done_iff.mpr
  refine ⟨s, _, rfl, ?_⟩
  apply bind_eq_done_iff.mpr
  exact ⟨t, k, hn, rfl⟩

end Whole

end Parser
end Waymark
