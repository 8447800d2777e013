import Waymark.Parser.Run
import Waymark.Proofs.Parts

/-!
This module contains the comparison of two runs of one parser from related states. A `Simulation`
says how the states and journals are related and why each way in which a parser makes a state of
others keeps them related; then the runs end in the same way, and if they end with states these are
related again.
-/

namespace Waymark

structure Bond where
  journal : Journal → Journal → Prop
  fault : Fault → Fault → Prop

namespace Bond

variable {α β α' β' : Type}

inductive Meets (b : Bond) (value : α → α' → Prop) : Outcome α → Outcome α' → Prop where
  | done {a : α} {a' : α'} {j j' : Journal} (hvalue : value a a') (hjournal : b.journal j j') :
      Meets b value (.done a j) (.done a' j')
  | fault {c c' : Fault} (h : b.fault c c') : Meets b value (.fault c) (.fault c')
  | outOfFuel : Meets b value .outOfFuel .outOfFuel

def Couples (b : Bond) (value : α → α' → Prop) (x : Effect α) (y : Effect α') : Prop :=
  ∀ j j', b.journal j j' → b.Meets value (x j) (y j')

variable {b : Bond} {value : α → α' → Prop} {value' : β → β' → Prop}

theorem Meets.eq {same : α → α → Prop} {x y : Outcome α} (h : b.Meets same x y)
    (hvalue : ∀ a a', same a a' → a = a') (hjournal : ∀ j j', b.journal j j' → j = j')
    (hfault : ∀ c c', b.fault c c' → c = c') : x = y := by
  cases h with
  | done ha hj => rw [hvalue _ _ ha, hjournal _ _ hj]
  | fault hc => rw [hfault _ _ hc]
  | outOfFuel => rfl

theorem Couples.pure {a : α} {a' : α'} (h : value a a') :
    b.Couples value (Pure.pure a) (Pure.pure a') := by
  intro j j' hj
  exact .done h hj

theorem Couples.exhausted : b.Couples value Effect.exhausted Effect.exhausted := by
  intro j j' _
  exact .outOfFuel

theorem Couples.raise {c c' : Fault} (h : b.fault c c') :
    b.Couples value (Effect.raise c) (Effect.raise c') := by
  intro j j' _
  exact .fault h

theorem Couples.update {f f' : Journal → Journal}
    (h : ∀ j j', b.journal j j' → b.journal (f j) (f' j')) :
    b.Couples (fun _ _ => True) (Effect.update f) (Effect.update f') := by
  intro j j' hj
  exact .done trivial (h j j' hj)

theorem Couples.bind {x : Effect α} {y : Effect α'} {f : α → Effect β} {g : α' → Effect β'}
    (hx : b.Couples value x y) (hf : ∀ a a', value a a' → b.Couples value' (f a) (g a')) :
    b.Couples value' (x >>= f) (y >>= g) := by
  intro j j' hj
  have h := hx j j' hj
  rw [Effect.bind_apply, Effect.bind_apply]
  generalize x j = ox at h
  generalize y j' = oy at h
  cases h with
  | done hvalue hjournal => exact hf _ _ hvalue _ _ hjournal
  | fault h => exact .fault h
  | outOfFuel => exact .outOfFuel

theorem Couples.ite {c c' : Bool} {x₁ x₂ : Effect α} {y₁ y₂ : Effect α'} (hc : c = c')
    (h₁ : c = true → b.Couples value x₁ y₁) (h₂ : c = false → b.Couples value x₂ y₂) :
    b.Couples value (if c then x₁ else x₂) (if c' then y₁ else y₂) := by
  subst hc
  cases c with
  | true => exact h₁ rfl
  | false => exact h₂ rfl

end Bond

def Indifferent {α : Type} (state : State → State → Prop)
    (table : Suggestions → Suggestions → Prop) (next : State → Suggestions → α) : Prop :=
  ∀ s s' suggestions suggestions', state s s' → table suggestions suggestions' →
    next s suggestions = next s' suggestions'

inductive Body.Unswayed (state : State → State → Prop) (table : Suggestions → Suggestions → Prop) :
    Body → Prop where
  | finish {value : Value} : Unswayed state table (.finish value)
  | halt : Unswayed state table .halt
  | bind {p : Parser} {next : State → Suggestions → Body} (h : Indifferent state table next)
      (hnext : ∀ s suggestions, Unswayed state table (next s suggestions)) :
      Unswayed state table (.bind p next)
  | fail {message : String} {next : State → Suggestions → Body}
      (h : Indifferent state table next)
      (hnext : ∀ s suggestions, Unswayed state table (next s suggestions)) :
      Unswayed state table (.fail message next)

def Parser.ChoosesBy (state : State → State → Prop) (table : Suggestions → Suggestions → Prop) :
    Parser → Prop
  | .chain _ next => Indifferent state table next
  | .contextual body =>
    Indifferent state table body ∧ ∀ s suggestions, (body s suggestions).Unswayed state table
  | _ => True

section Mono

variable {state state' : State → State → Prop} {table table' : Suggestions → Suggestions → Prop}
  (hstate : ∀ s s', state s s' → state' s s') (htable : ∀ t t', table t t' → table' t t')

include hstate htable

theorem Indifferent.mono {α : Type} {next : State → Suggestions → α}
    (h : Indifferent state' table' next) : Indifferent state table next := by
  intro s s' suggestions suggestions' hs ht
  exact h s s' suggestions suggestions' (hstate s s' hs) (htable suggestions suggestions' ht)

theorem Body.Unswayed.mono {body : Body} (h : body.Unswayed state' table') :
    body.Unswayed state table := by
  induction h with
  | finish => exact .finish
  | halt => exact .halt
  | bind h _ ih => exact .bind (h.mono hstate htable) ih
  | fail h _ ih => exact .fail (h.mono hstate htable) ih

theorem Parser.ChoosesBy.mono {p : Parser} (h : p.ChoosesBy state' table') :
    p.ChoosesBy state table := by
  cases p with
  | chain first next => exact Indifferent.mono hstate htable h
  | contextual body =>
    refine ⟨h.1.mono hstate htable, ?_⟩
    intro s suggestions
    exact (h.2 s suggestions).mono hstate htable
  | _ => trivial

end Mono

section Equal

variable {state : State → State → Prop} {table : Suggestions → Suggestions → Prop}
  (hstate : ∀ s s', state s s' → s = s') (htable : ∀ t t', table t t' → t = t')

include hstate htable

theorem Indifferent.of_eq {α : Type} (next : State → Suggestions → α) :
    Indifferent state table next := by
  intro s s' suggestions suggestions' h h'
  rw [hstate s s' h, htable suggestions suggestions' h']

theorem Body.Unswayed.of_eq : ∀ body : Body, body.Unswayed state table
  | .finish _ => .finish
  | .halt => .halt
  | .bind _ next => .bind (.of_eq hstate htable next) fun s suggestions => of_eq (next s suggestions)
  | .fail _ next => .fail (.of_eq hstate htable next) fun s suggestions => of_eq (next s suggestions)

theorem Parser.ChoosesBy.of_eq (p : Parser) : p.ChoosesBy state table := by
  cases p with
  | chain first next => exact Indifferent.of_eq hstate htable next
  | contextual body =>
    refine ⟨Indifferent.of_eq hstate htable body, ?_⟩
    intro s suggestions
    exact Body.Unswayed.of_eq hstate htable (body s suggestions)
  | _ => trivial

end Equal

/--
A relation between the states of two runs that every transition of a parser keeps. `told` relates
the failed alternatives of a choice, of which only the diagnostics are used, and `table` the
suggestions that binders are shown.
-/
structure Simulation extends Bond where
  state : State → State → Prop
  told : State → State → Prop
  table : Suggestions → Suggestions → Prop
  isError_eq {s s' : State} (h : state s s') : s.isError = s'.isError
  result_eq {s s' : State} (h : state s s') : s.result = s'.result
  rest_eq {s s' : State} (h : state s s') : s.rest = s'.rest
  isAtEnd_eq {s s' : State} (h : state s s') : s.isAtEnd = s'.isAtEnd
  withResult {s s' : State} (h : state s s') (value : Value) :
    state (s.withResult value) (s'.withResult value)
  fail {s s' t t' : State} (h : state s s') (ht : state t t') (message : Nat → String) :
    state (t.fail (message s.index)) (t'.fail (message s'.index))
  told_of_state {t t' : State} (h : state t t') : told t t'
  told_further {best best' t t' : State} (hbest : told best best') (h : state t t') :
    told (Parser.further (some best) t) (Parser.further (some best') t')
  withDiagnosticsOf {s s' t t' : State} (h : state s s') (ht : told t t') :
    state (s.withDiagnosticsOf t) (s'.withDiagnosticsOf t')
  consume {s s' : State} (h : state s s') {front back : List Char} (hrest : s.rest = front ++ back) :
    toBond.Couples state (s.consume (Text.size front)) (s'.consume (Text.size front))
  miss {s s' : State} (h : state s s') (expected pattern : String) :
    toBond.Couples state (s.miss expected pattern) (s'.miss expected pattern)
  countOpened {j j' : Journal} (h : journal j j') : journal j.countOpened j'.countOpened
  noAlternative {s s' : State} (h : state s s') {j j' : Journal} (hj : journal j j') (n : Nat) :
    journal (j.log (.noAlternative s.index n)) (j'.log (.noAlternative s'.index n))
  suggestions {s s' : State} (h : state s s') {j j' : Journal} (hj : journal j j') :
    table (j.table s.registry) (j'.table s'.registry)

namespace Simulation

variable (σ : Simulation)

def Admits : Parser → Prop
  | .setState saved =>
    ∀ s s', σ.state s s' → σ.state (saved.withRegistryOf s) (saved.withRegistryOf s')
  | .chain _ next => Indifferent σ.state σ.table next
  | .mapError _ f =>
    ∀ s s' message message', σ.state s s' → s.error = some message → s'.error = some message' →
      σ.state (s.fail (f message s.index)) (s'.fail (f message' s'.index))
  | .contextual body => Indifferent σ.state σ.table body ∧ ∀ s table, (body s table).Unswayed σ.state σ.table
  | .transform f => ∀ s s', σ.state s s' → σ.Couples σ.state (f s) (f s')
  | _ => True

def Sees (s : State) : Prop :=
  ∃ s', σ.state s s'

def Accepts (rules : Rules) (p : Parser) : Prop :=
  p.Throughout rules σ.Sees σ.Admits

end Simulation
end Waymark
