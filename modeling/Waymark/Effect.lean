import Waymark.Journal

/-!
This module contains the effects of a running parser. An effect reads and extends the journal; it
ends with a value, or it breaks off at a fault, or it needs more steps than it was given.
-/

namespace Waymark

inductive Outcome (α : Type) where
  | done (value : α) (journal : Journal)
  | fault (cause : Fault)
  | outOfFuel

def Effect (α : Type) : Type := Journal → Outcome α

namespace Effect

variable {α β : Type}

def andThen (x : Effect α) (f : α → Effect β) : Effect β := fun j =>
  match x j with
  | .done value j' => f value j'
  | .fault cause => .fault cause
  | .outOfFuel => .outOfFuel

instance : Monad Effect where
  pure value := fun j => .done value j
  bind := andThen

def raise (cause : Fault) : Effect α := fun _ => .fault cause

def exhausted : Effect α := fun _ => .outOfFuel

def update (f : Journal → Journal) : Effect Unit := fun j => .done () (f j)

def consult (f : Journal → α) : Effect α := fun j => .done (f j) j

def ofExcept : Except Fault α → Effect α
  | .ok value => pure value
  | .error cause => raise cause

theorem bind_apply (x : Effect α) (f : α → Effect β) (j : Journal) :
    (x >>= f) j =
      match x j with
      | .done value j' => f value j'
      | .fault cause => .fault cause
      | .outOfFuel => .outOfFuel := rfl

theorem bind_eq_done_iff {x : Effect α} {f : α → Effect β} {j k : Journal} {value : β} :
    (x >>= f) j = .done value k ↔ ∃ a j', x j = .done a j' ∧ f a j' = .done value k := by
  rw [bind_apply]
  cases x j with
  | done a j' =>
    constructor
    . exact fun h => ⟨a, j', rfl, h⟩
    . rintro ⟨b, k', hb, h⟩
      obtain ⟨rfl, rfl⟩ := Outcome.done.inj hb
      exact h
  | fault cause => simp
  | outOfFuel => simp

theorem bind_pure_self (x : Effect α) : (x >>= fun a => pure a) = x := by
  funext j
  rw [bind_apply]
  cases x j <;> rfl

theorem bind_bind {γ : Type} (x : Effect α) (f : α → Effect β) (g : β → Effect γ) :
    (x >>= f >>= g) = x >>= fun a => f a >>= g := by
  funext j
  simp only [bind_apply]
  cases x j <;> rfl

instance : LawfulMonad Effect :=
  LawfulMonad.mk' Effect bind_pure_self (fun _ _ => rfl) bind_bind

end Effect

namespace State

def start (target : String) : Effect State := fun j =>
  let (registry, j) := j.freshRegistry
  .done { target, registry } j

def suggestions (s : State) : Effect Suggestions :=
  Effect.consult (·.table s.registry)

end State

end Waymark
