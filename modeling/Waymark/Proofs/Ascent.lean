import Waymark.Parser.Fuel

/-!
This module contains what effects come to when they are given more and more fuel: from each journal
on they stay out of fuel or settle on one outcome.
-/

namespace Waymark
namespace Effect

variable {α β : Type}

structure Ascends (x : Nat → Effect α) (y : Effect α) : Prop where
  below (n : Nat) : Below (x n) y
  settles (j : Journal) : ∃ n, ∀ m, n ≤ m → x m j = y j

noncomputable def limit (x : Nat → Effect α) : Effect α := fun j =>
  open Classical in
  if h : ∃ n, x n j ≠ .outOfFuel then x h.choose j else .outOfFuel

theorem Ascends.limit {x : Nat → Effect α} (hx : ∀ n m, n ≤ m → Below (x n) (x m)) :
    Ascends x (limit x) := by
  -- Once it is not out of fuel, no further fuel changes an outcome.
  have hsettled (j : Journal) (n : Nat) (hn : x n j ≠ .outOfFuel) (m : Nat) (hm : n ≤ m) :
      x m j = x n j := by
    cases hx n m hm j with
    | inl h => exact absurd h hn
    | inr h => exact h.symm
  constructor
  . intro n j
    unfold Effect.limit
    split
    . next h =>
      cases Nat.le_total n h.choose with
      | inl hle => exact hx n _ hle j
      | inr hle =>
        right
        exact hsettled j _ h.choose_spec n hle
    . next h =>
      left
      apply Classical.byContradiction
      intro hn
      exact h ⟨n, hn⟩
  . intro j
    unfold Effect.limit
    split
    . next h => exact ⟨h.choose, hsettled j _ h.choose_spec⟩
    . next h =>
      refine ⟨0, ?_⟩
      intro m _
      apply Classical.byContradiction
      intro hm
      exact h ⟨m, hm⟩

namespace Ascends

variable {x x' : Nat → Effect α} {y y' : Effect α}

theorem unique (h : Ascends x y) (h' : Ascends x y') : y = y' := by
  funext j
  obtain ⟨n, hn⟩ := h.settles j
  obtain ⟨n', hn'⟩ := h'.settles j
  rw [← hn (max n n') (by omega), ← hn' (max n n') (by omega)]

theorem eq_of_below (h : Ascends x y) (h' : Ascends x' y') (hx : ∀ n, Below (x n) y')
    (hx' : ∀ n, Below (x' n) y) : y = y' := by
  funext j
  obtain ⟨n, hn⟩ := h.settles j
  obtain ⟨n', hn'⟩ := h'.settles j
  rw [← hn n (Nat.le_refl n)]
  cases hx n j with
  | inr hdone => exact hdone
  | inl hout =>
    rw [← hn' n' (Nat.le_refl n')]
    cases hx' n' j with
    | inl hout' => rw [hout, hout']
    | inr hdone => rw [hdone, hn n (Nat.le_refl n)]

theorem const (y : Effect α) : Ascends (fun _ => y) y := by
  constructor
  . intro _
    apply Below.refl
  . intro j
    exact ⟨0, fun _ _ => rfl⟩

theorem between {z : Nat → Effect α} (h : Ascends x y) (hx : ∀ n, Below (x n) (z n))
    (hz : ∀ n, Below (z n) y) : Ascends z y := by
  constructor
  . exact hz
  . intro j
    obtain ⟨n, hn⟩ := h.settles j
    refine ⟨n, ?_⟩
    intro m hm
    cases hz m j with
    | inl hout =>
      cases hx m j with
      | inl h => rw [hout, ← hn m hm, h]
      | inr h => rw [← h, hn m hm]
    | inr h => exact h

theorem succ (h : Ascends x y) : Ascends (fun n => x (n + 1)) y := by
  constructor
  . intro n
    apply h.below
  . intro j
    obtain ⟨n, hn⟩ := h.settles j
    refine ⟨n, ?_⟩
    intro m hm
    apply hn
    omega

theorem bind {f : Nat → α → Effect β} {g : α → Effect β} (h : Ascends x y)
    (hf : ∀ a, Ascends (fun n => f n a) (g a)) : Ascends (fun n => x n >>= f n) (y >>= g) := by
  constructor
  . intro n
    apply Below.bind (h.below n)
    intro a
    exact (hf a).below n
  . intro j
    obtain ⟨n, hn⟩ := h.settles j
    cases hy : y j with
    | done a k =>
      obtain ⟨n', hn'⟩ := (hf a).settles k
      refine ⟨max n n', ?_⟩
      intro m hm
      rw [bind_apply, bind_apply, hn m (by omega), hy]
      apply hn'
      omega
    | fault cause =>
      refine ⟨n, ?_⟩
      intro m hm
      rw [bind_apply, bind_apply, hn m hm, hy]
    | outOfFuel =>
      refine ⟨n, ?_⟩
      intro m hm
      rw [bind_apply, bind_apply, hn m hm, hy]

theorem ite {c : Prop} [Decidable c] (h : Ascends x y) (h' : Ascends x' y') :
    Ascends (fun n => if c then x n else x' n) (if c then y else y') := by
  split
  . exact h
  . exact h'

theorem unlessError {s : State} {x : Nat → Effect State} {y : Effect State} (h : Ascends x y) :
    Ascends (fun n => s.unlessError (x n)) (s.unlessError y) := by
  unfold State.unlessError
  apply Ascends.ite
  . apply Ascends.const
  . exact h

theorem diagonal {x : Nat → Nat → Effect α} {z : Nat → Effect α}
    (hx : ∀ m, Ascends (fun n => x n m) (z m)) (hz : Ascends z y)
    (hmono : ∀ n m m', m ≤ m' → Below (x n m) (x n m')) : Ascends (fun n => x n n) y := by
  constructor
  . intro n
    exact ((hx n).below n).trans (hz.below n)
  . intro j
    obtain ⟨m, hm⟩ := hz.settles j
    obtain ⟨n, hn⟩ := (hx m).settles j
    refine ⟨max n m, ?_⟩
    intro l hl
    cases hmono l m l (by omega) j with
    | inl h =>
      -- Where fewer rounds settle on being out of fuel, no number of rounds ends.
      rw [hn l (by omega), hm m (by omega)] at h
      cases (hx l).below l j with
      | inl h' => rw [h', h]
      | inr h' => rw [h', hm l (by omega)]
    | inr h => rw [← h, hn l (by omega), hm m (by omega)]

end Ascends
end Effect
end Waymark
