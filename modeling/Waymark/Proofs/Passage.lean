import Waymark.Proofs.Boundary
import Waymark.Proofs.Simulation

/-!
This module contains what is said of a run by comparing the state that a parser is given with the
one that it returns. A `Passage` is an order on states that every way of making a state follows,
together with a property of the states that parsers are given and one of the journals on the way.
-/

namespace Waymark

namespace Parser

def expects : Parser → Option (String × String)
  | .literal text => some (Text.quote text, text)
  | .pattern p => some ("/" ++ p.source ++ "/", p.source)
  | .anyChar => some ("any character", ".")
  | .endOfInput => some ("end of input", "$")
  | _ => none

def IsRepetition : Parser → Prop
  | .many _ | .many1 _ | .sepBy _ _ | .sepBy1 _ _ => True
  | _ => False

instance : DecidablePred IsRepetition := fun p => by
  cases p
  all_goals
    unfold IsRepetition
    infer_instance

inductive Deed (p : Parser) (s : State) : Effect State → Prop where
  | fault (cause : Fault) : Deed p s (Effect.raise cause)
  | past {front back : List Char} (hrest : s.rest = front ++ back) : Deed p s (pure (s.past front))
  | withResult (value : Value) : Deed p s (pure (s.withResult value))
  | miss {expected pattern : String} (h : p.expects = some (expected, pattern)) :
      Deed p s (s.miss expected pattern)

namespace Deed

variable {p : Parser} {s : State}

theorem consume (size : Nat) : Deed p s (s.consume size) := by
  cases s.consume_cases size with
  | inl h =>
    obtain ⟨cause, hfault⟩ := h
    rw [hfault]
    exact .fault cause
  | inr h =>
    obtain ⟨front, back, hrest, hpast⟩ := h
    rw [hpast]
    exact .past hrest

theorem literal (text : String) : Deed (.literal text) s (runLiteral text s) := by
  unfold runLiteral
  split
  . exact .miss rfl
  . split
    . exact consume _
    . exact .miss rfl

theorem pattern (p : Pattern) : Deed (.pattern p) s (runPattern p s) := by
  unfold runPattern
  split
  . exact consume _
  . exact .miss rfl

theorem eatUntil (terminal : Regex) : Deed (.eatUntil terminal) s (runEatUntil terminal s) := by
  unfold runEatUntil
  split
  . exact consume _
  . exact consume _

theorem anyChar : Deed .anyChar s (runAnyChar s) := by
  unfold runAnyChar
  split
  . exact consume _
  . exact .miss rfl

theorem endOfInput : Deed .endOfInput s (runEndOfInput s) := by
  unfold runEndOfInput
  split
  . exact .withResult .null
  . exact .miss rfl

theorem peek : Deed .peek s (runPeek s) := by
  unfold runPeek
  split
  . exact .withResult _
  . exact .withResult .null

end Deed

end Parser

/--
An order on states, from the one that a parser is given to the one that it returns, with a property
`given` of these states and one of the journals. Every way of making a state keeps them, but for the
ends of repetitions, where only the order is kept. `node` is what is known of the parsers that run.
-/
structure Passage where
  node : Parser → Prop
  given : State → Prop
  leads : State → State → Prop
  journal : Journal → Prop
  refl (s : State) : leads s s
  trans {s t u : State} (h : leads s t) (h' : leads t u) : leads s u
  leads_withResult (s : State) (value : Value) : leads s (s.withResult value)
  leads_fail (s : State) (message : String) : leads s (s.fail message)
  leads_withDiagnosticsOf {s t : State} (h : leads s t) : leads s (s.withDiagnosticsOf t)
  leads_past {s : State} (h : given s) (hlive : s.isError = false) {front back : List Char}
    (hrest : s.rest = front ++ back) : leads s (s.past front)
  leads_setState {saved s : State} (hnode : node (.setState saved)) (h : given s) :
    leads s (saved.withRegistryOf s)
  given_withResult {s : State} (h : given s) (value : Value) : given (s.withResult value)
  given_fail {s : State} (h : given s) (message : String) : given (s.fail message)
  given_told {s t : State} (h : given s) (message : String) :
    given ((s.withDiagnosticsOf t).fail message)
  given_past {s : State} (h : given s) (hlive : s.isError = false) {front back : List Char}
    (hrest : s.rest = front ++ back) : given (s.past front)
  given_setState {saved s : State} (hnode : node (.setState saved)) (h : given s) :
    given (saved.withRegistryOf s)
  not_transform {f : State → Effect State} : ¬ node (.transform f)
  countOpened {j : Journal} (h : journal j) : journal j.countOpened
  noAlternative {j : Journal} (h : journal j) (index alternatives : Nat) :
    journal (j.log (.noAlternative index alternatives))
  missed {p : Parser} (hnode : node p) {s : State} (h : given s) (hlive : s.isError = false)
    {expected pattern : String} (hexpects : p.expects = some (expected, pattern))
    (hmiss : ∀ run rules n, Parser.step run rules n p s = s.miss expected pattern) {j : Journal}
    (hj : journal j) :
    journal ((j.record s.registry s.suggestionKey pattern).log (.missed ⟨s, expected, pattern⟩))

namespace Passage

variable {α β : Type} (P : Passage)

def bond : Bond where
  journal j j' := j = j' ∧ P.journal j
  fault := Eq

def Couples (x y : Effect α) (post : α → Prop) : Prop :=
  P.bond.Couples (fun a a' => a = a' ∧ post a) x y

def Moves (s t : State) : Prop :=
  P.given t ∧ P.leads s t

def Grafts : Prop :=
  ∀ s t, P.given s → s.isError = false → P.leads s t → P.given (s.withDiagnosticsOf t)

variable {P} {x y : Effect α} {f g : α → Effect β} {post post' : α → Prop} {post₂ : β → Prop}
  {s t u : State}

namespace Couples

theorem pure {a : α} (h : post a) : P.Couples (pure a) (pure a) post :=
  Bond.Couples.pure ⟨rfl, h⟩

theorem exhausted : P.Couples (Effect.exhausted : Effect α) Effect.exhausted post :=
  Bond.Couples.exhausted

theorem raise (cause : Fault) : P.Couples (Effect.raise cause : Effect α) (Effect.raise cause) post :=
  Bond.Couples.raise rfl

theorem bind (hx : P.Couples x y post) (hf : ∀ a, post a → P.Couples (f a) (g a) post₂) :
    P.Couples (x >>= f) (y >>= g) post₂ := by
  apply Bond.Couples.bind hx
  rintro a _ ⟨rfl, ha⟩
  exact hf a ha

theorem mono (hx : P.Couples x y post) (hpost : ∀ a, post a → post' a) : P.Couples x y post' := by
  rw [← bind_pure x, ← bind_pure y]
  apply bind hx
  intro a ha
  exact pure (hpost a ha)

theorem update {f : Journal → Journal} (h : ∀ j, P.journal j → P.journal (f j)) :
    P.Couples (Effect.update f) (Effect.update f) fun _ => True := by
  rintro j _ ⟨rfl, hj⟩
  exact .done ⟨rfl, trivial⟩ ⟨rfl, h j hj⟩

theorem suggestions (s : State) : P.Couples s.suggestions s.suggestions fun _ => True := by
  rintro j _ ⟨rfl, hj⟩
  exact .done ⟨rfl, trivial⟩ ⟨rfl, hj⟩

theorem unlessError {x y : Effect State} {post : State → Prop}
    (herror : s.isError = true → post s) (hxy : s.isError = false → P.Couples x y post) :
    P.Couples (s.unlessError x) (s.unlessError y) post := by
  apply Bond.Couples.ite rfl
  . intro hs
    exact pure (herror hs)
  . exact hxy

theorem of_done {j k : Journal} {a : α} (h : P.Couples x y post) (hj : P.journal j)
    (hx : x j = .done a k) : y j = .done a k ∧ post a ∧ P.journal k := by
  have hmeets := h j j ⟨rfl, hj⟩
  rw [hx] at hmeets
  generalize hy : y j = outcome at hmeets
  cases hmeets with
  | done ha hk =>
    obtain ⟨rfl, ha⟩ := ha
    obtain ⟨rfl, hk⟩ := hk
    exact ⟨rfl, ha, hk⟩

theorem eq {j : Journal} (h : P.Couples x y post) (hj : P.journal j) : x j = y j := by
  apply (h j j ⟨rfl, hj⟩).eq
  . exact fun _ _ h => h.1
  . exact fun _ _ h => h.1
  . exact fun _ _ h => h

end Couples

theorem Moves.refl (hs : P.given s) : P.Moves s s :=
  ⟨hs, P.refl s⟩

theorem Moves.trans (h : P.leads s t) (h' : P.Moves t u) : P.Moves s u :=
  ⟨h'.1, P.trans h h'.2⟩

theorem Moves.withResult (h : P.Moves s t) (value : Value) : P.Moves s (t.withResult value) :=
  ⟨P.given_withResult h.1 value, P.trans h.2 (P.leads_withResult t value)⟩

theorem Moves.fail (h : P.Moves s t) (message : String) : P.Moves s (t.fail message) :=
  ⟨P.given_fail h.1 message, P.trans h.2 (P.leads_fail t message)⟩

end Passage
end Waymark
