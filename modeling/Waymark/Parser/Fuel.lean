import Waymark.Parser.Run

/-!
This module contains the proof that the answer of a parser does not depend on its fuel: more fuel
keeps every answer. So the answers of parsers can be spoken of without fuel, as `Parser.Returns`
does.
-/

namespace Waymark
namespace Effect

variable {α β : Type}

def Below (x y : Effect α) : Prop :=
  ∀ j, x j = .outOfFuel ∨ x j = y j

theorem Below.refl (x : Effect α) : Below x x := by
  intro j
  right
  rfl

theorem Below.exhausted (x : Effect α) : Below exhausted x := by
  intro j
  left
  rfl

theorem Below.trans {x y z : Effect α} (h : Below x y) (h' : Below y z) : Below x z := by
  intro j
  cases h j with
  | inl h =>
    left
    exact h
  | inr h =>
    rw [h]
    exact h' j

theorem Below.bind {x y : Effect α} {f g : α → Effect β} (hx : Below x y)
    (hf : ∀ a, Below (f a) (g a)) : Below (x >>= f) (y >>= g) := by
  intro j
  rw [bind_apply, bind_apply]
  cases hx j with
  | inl h =>
    left
    rw [h]
  | inr h =>
    rw [← h]
    cases x j with
    | done a j' => exact hf a j'
    | fault cause =>
      right
      rfl
    | outOfFuel =>
      left
      rfl

theorem Below.eq_done {x y : Effect α} (h : Below x y) {j k : Journal} {value : α}
    (hx : x j = .done value k) : y j = .done value k := by
  cases h j with
  | inl h' =>
    rw [hx] at h'
    contradiction
  | inr h' =>
    rw [← h', hx]

theorem Below.eq_fault {x y : Effect α} (h : Below x y) {j : Journal} {cause : Fault}
    (hx : x j = .fault cause) : y j = .fault cause := by
  cases h j with
  | inl h' =>
    rw [hx] at h'
    contradiction
  | inr h' =>
    rw [← h', hx]

theorem Below.ite {c : Prop} [Decidable c] {x y x' y' : Effect α} (h : Below x x')
    (h' : Below y y') : Below (if c then x else y) (if c then x' else y') := by
  split
  . exact h
  . exact h'

theorem Below.unlessError {s : State} {x y : Effect State} (h : Below x y) :
    Below (s.unlessError x) (s.unlessError y) := by
  unfold State.unlessError
  apply Below.ite
  . apply Below.refl
  . exact h

end Effect

def Outcome.passes {α : Type} (test : α → Journal → Bool) : Outcome α → Bool
  | .done value journal => test value journal
  | _ => false

namespace Parser

open Effect

variable {run run' : Parser → State → Effect State}

theorem runAll_below (h : ∀ p s, Below (run p s) (run' p s)) (ps : List Parser) (s : State) :
    Below (runAll run ps s) (runAll run' ps s) := by
  induction ps generalizing s with
  | nil => apply Below.refl
  | cons p ps ih =>
    apply Below.bind (h p s)
    intro t
    apply Below.ite
    . apply Below.refl
    . apply Below.bind (ih t)
      intro a
      apply Below.refl

theorem runAllAfter_below (h : ∀ p s, Below (run p s) (run' p s)) (separator : Parser)
    (ps : List Parser) (s : State) :
    Below (runAllAfter run separator ps s) (runAllAfter run' separator ps s) := by
  induction ps generalizing s with
  | nil => apply Below.refl
  | cons p ps ih =>
    apply Below.bind (h separator s)
    intro between
    apply Below.ite
    . apply Below.refl
    . apply Below.bind (h p between)
      intro t
      apply Below.ite
      . apply Below.refl
      . apply Below.bind (ih t)
        intro a
        apply Below.refl

theorem runSeparated_below (h : ∀ p s, Below (run p s) (run' p s)) (separator : Parser)
    (ps : List Parser) (s : State) :
    Below (runSeparated run separator ps s) (runSeparated run' separator ps s) := by
  cases ps with
  | nil => apply Below.refl
  | cons p ps =>
    apply Below.bind (h p s)
    intro t
    apply Below.ite
    . apply Below.refl
    . apply Below.bind (runAllAfter_below h separator ps t)
      intro a
      apply Below.refl

theorem firstSuccess_below (h : ∀ p s, Below (run p s) (run' p s)) (s : State)
    (ps : List Parser) (best : Option State) :
    Below (firstSuccess run s ps best) (firstSuccess run' s ps best) := by
  induction ps generalizing best with
  | nil => apply Below.refl
  | cons p ps ih =>
    apply Below.bind (h p s)
    intro t
    apply Below.ite
    . apply ih
    . apply Below.refl

theorem collect_below (h : ∀ p s, Below (run p s) (run' p s)) (p : Parser) {n m : Nat}
    (hle : n ≤ m) (s : State) : Below (collect run p n s) (collect run' p m s) := by
  induction n generalizing m s with
  | zero => apply Below.exhausted
  | succ n ih =>
    obtain ⟨m, rfl⟩ : ∃ k, m = k + 1 := ⟨m - 1, by omega⟩
    apply Below.bind (h p s)
    intro t
    apply Below.ite
    . apply Below.refl
    . apply Below.bind (ih (by omega) t)
      intro a
      apply Below.refl

theorem collectSeparated_below (h : ∀ p s, Below (run p s) (run' p s)) (separator p : Parser)
    {n m : Nat} (hle : n ≤ m) (last s : State) :
    Below (collectSeparated run separator p n last s)
      (collectSeparated run' separator p m last s) := by
  induction n generalizing m last s with
  | zero => apply Below.exhausted
  | succ n ih =>
    obtain ⟨m, rfl⟩ : ∃ k, m = k + 1 := ⟨m - 1, by omega⟩
    apply Below.bind (h p s)
    intro t
    apply Below.ite
    . apply Below.refl
    . apply Below.bind (h separator t)
      intro between
      apply Below.ite
      . apply Below.refl
      . apply Below.bind (ih (by omega) t between)
        intro a
        apply Below.refl

theorem follow_below (h : ∀ p s, Below (run p s) (run' p s)) :
    ∀ (body : Body) (s : State), Below (follow run body s) (follow run' body s)
  | .finish _, _ => by apply Below.refl
  | .halt, _ => by apply Below.refl
  | .bind p next, s => by
    apply Below.bind (h p s)
    intro t
    apply Below.bind (Below.refl _)
    intro table
    apply follow_below h
  | .fail message next, s => by
    apply Below.bind (Below.refl _)
    intro table
    apply follow_below h

theorem step_below (h : ∀ p s, Below (run p s) (run' p s)) (rules : Rules) {n m : Nat}
    (hle : n ≤ m) (p : Parser) (s : State) :
    Below (step run rules n p s) (step run' rules m p s) := by
  cases p with
  | sequence ps =>
    apply Below.unlessError
    apply Below.bind (runAll_below h ps s)
    intro a
    apply Below.refl
  | sequenceSepBy separator ps =>
    apply Below.unlessError
    apply Below.bind (runSeparated_below h separator ps s)
    intro a
    apply Below.refl
  | choice ps =>
    apply Below.unlessError
    apply Below.bind (firstSuccess_below h s ps none)
    intro a
    apply Below.refl
  | many body =>
    apply Below.unlessError
    apply Below.bind (collect_below h body hle s)
    intro a
    apply Below.refl
  | many1 body =>
    apply Below.unlessError
    apply Below.bind (collect_below h body hle s)
    intro a
    apply Below.refl
  | sepBy separator body =>
    apply Below.unlessError
    apply Below.bind (collectSeparated_below h separator body hle s s)
    intro a
    apply Below.refl
  | sepBy1 separator body =>
    apply Below.unlessError
    apply Below.bind (collectSeparated_below h separator body hle s s)
    intro a
    apply Below.refl
  | between opening content closing =>
    apply Below.bind (h opening s)
    intro t
    apply Below.unlessError
    apply Below.bind (h content t)
    intro u
    apply Below.unlessError
    apply Below.bind (h closing u)
    intro v
    apply Below.refl
  | optional body =>
    apply Below.unlessError
    apply Below.bind (h body s)
    intro t
    apply Below.refl
  | keepLeft left right =>
    apply Below.bind (h left s)
    intro t
    apply Below.unlessError
    apply Below.bind (h right t)
    intro u
    apply Below.refl
  | keepRight left right =>
    apply Below.bind (h left s)
    intro t
    apply Below.unlessError
    apply h
  | map body f =>
    apply Below.bind (h body s)
    intro t
    apply Below.refl
  | chain first next =>
    apply Below.bind (h first s)
    intro t
    apply Below.unlessError
    apply Below.bind (Below.refl _)
    intro table
    apply h
  | mapError body f =>
    apply Below.bind (h body s)
    intro t
    apply Below.refl
  | deferred body =>
    apply Below.bind (Below.refl _)
    intro _
    apply h
  | rule name =>
    apply Below.bind (Below.refl _)
    intro _
    apply h
  | contextual body =>
    apply Below.unlessError
    apply Below.bind (Below.refl _)
    intro table
    apply follow_below h
  | _ => apply Below.refl

theorem parse_below (rules : Rules) {n m : Nat} (hle : n ≤ m) (p : Parser) (s : State) :
    Below (parse rules n p s) (parse rules m p s) := by
  induction n generalizing m p s with
  | zero => apply Below.exhausted
  | succ n ih =>
    obtain ⟨m, rfl⟩ : ∃ k, m = k + 1 := ⟨m - 1, by omega⟩
    apply step_below
    . intro q t
      apply ih
      omega
    . omega

def Returns (rules : Rules) (p : Parser) (s : State) (j : Journal) (t : State) (k : Journal) :
    Prop :=
  ∃ n, parse rules n p s j = .done t k

theorem Returns.unique {rules : Rules} {p : Parser} {s t t' : State} {j k k' : Journal}
    (h : Returns rules p s j t k) (h' : Returns rules p s j t' k') : t = t' ∧ k = k' := by
  obtain ⟨n, hn⟩ := h
  obtain ⟨m, hm⟩ := h'
  have h₁ := (parse_below rules (Nat.le_max_left n m) p s).eq_done hn
  have h₂ := (parse_below rules (Nat.le_max_right n m) p s).eq_done hm
  rw [h₁] at h₂
  exact Outcome.done.inj h₂

theorem Returns.not_outOfFuel {rules : Rules} {p : Parser} {s t : State} {j k : Journal}
    (h : Returns rules p s j t k) : ¬ ∀ n, parse rules n p s j = .outOfFuel := by
  obtain ⟨n, hn⟩ := h
  intro hout
  rw [hout n] at hn
  contradiction

theorem Returns.ne_fault {rules : Rules} {p : Parser} {s t : State} {j k : Journal}
    (h : Returns rules p s j t k) (m : Nat) (cause : Fault) :
    parse rules m p s j ≠ .fault cause := by
  obtain ⟨n, hn⟩ := h
  intro hfault
  have h₁ := (parse_below rules (Nat.le_max_left n m) p s).eq_done hn
  rw [(parse_below rules (Nat.le_max_right n m) p s).eq_fault hfault] at h₁
  contradiction

theorem returns_of_passes {rules : Rules} {p : Parser} {s : State} {j : Journal}
    {test : State → Journal → Bool} (n : Nat) (h : (parse rules n p s j).passes test = true) :
    ∃ t k, Returns rules p s j t k ∧ test t k = true := by
  cases hn : parse rules n p s j with
  | done t k =>
    rw [hn] at h
    exact ⟨t, k, ⟨n, hn⟩, h⟩
  | fault cause =>
    rw [hn] at h
    contradiction
  | outOfFuel =>
    rw [hn] at h
    contradiction

end Parser
end Waymark
