import Waymark.Parser.Primitive

/-!
This module contains what it means that the offset of a state lies between two characters of its
text, and what consuming a span does to such a state.
-/

namespace Waymark
namespace State

def OnBoundary (s : State) : Prop :=
  ∃ front back, s.target.chars = front ++ back ∧ Text.size front = s.index

theorem dropBytes_eq_some_iff {s : State} {back : List Char} :
    s.target.dropBytes s.index = some back ↔
      ∃ front, s.target.chars = front ++ back ∧ Text.size front = s.index := by
  rw [Input.dropBytes_eq, Text.dropBytes_eq_some_iff]

theorem onBoundary_iff_isSome {s : State} :
    s.OnBoundary ↔ (s.target.dropBytes s.index).isSome = true := by
  rw [Option.isSome_iff_exists]
  unfold OnBoundary
  rw [exists_comm]
  simp only [dropBytes_eq_some_iff]

instance : DecidablePred OnBoundary := fun _ => decidable_of_iff' _ onBoundary_iff_isSome

theorem OnBoundary.dropBytes {s : State} (h : s.OnBoundary) :
    s.target.dropBytes s.index = some s.rest := by
  unfold rest
  obtain ⟨back, hback⟩ := Option.isSome_iff_exists.mp (onBoundary_iff_isSome.mp h)
  rw [hback]
  rfl

theorem OnBoundary.split {s : State} (h : s.OnBoundary) :
    ∃ front, s.target.chars = front ++ s.rest ∧ Text.size front = s.index :=
  dropBytes_eq_some_iff.mp h.dropBytes

theorem rest_eq_of_split {s : State} {front back : List Char}
    (hchars : s.target.chars = front ++ back) (hsize : Text.size front = s.index) :
    s.rest = back := by
  unfold rest
  rw [dropBytes_eq_some_iff.mpr ⟨front, hchars, hsize⟩]
  rfl

theorem OnBoundary.size_eq {s : State} (h : s.OnBoundary) :
    s.size = s.index + Text.size s.rest := by
  obtain ⟨front, hchars, hsize⟩ := h.split
  unfold size
  rw [Input.size_eq, hchars, Text.size_append, hsize]

theorem OnBoundary.index_le_size {s : State} (h : s.OnBoundary) : s.index ≤ s.size := by
  rw [h.size_eq]
  omega

theorem OnBoundary.isAtEnd_iff {s : State} (h : s.OnBoundary) : s.isAtEnd = true ↔ s.rest = [] := by
  unfold isAtEnd
  rw [decide_eq_true_iff, h.size_eq, ← Text.size_eq_zero_iff]
  omega

theorem OnBoundary.congr {s t : State} (h : s.OnBoundary) (htarget : t.target = s.target)
    (hindex : t.index = s.index) : t.OnBoundary := by
  unfold OnBoundary
  rw [htarget, hindex]
  exact h

theorem rest_congr {s t : State} (htarget : t.target = s.target) (hindex : t.index = s.index) :
    t.rest = s.rest := by
  unfold rest
  rw [htarget, hindex]

theorem index_eq_of_dropBytes {s : State} {i : Nat} {back : List Char}
    (h : s.target.dropBytes s.index = some back) (h' : s.target.dropBytes i = some back) :
    s.index = i := by
  rw [Input.dropBytes_eq, Text.dropBytes_eq_some_iff] at h h'
  obtain ⟨front, hchars, hsize⟩ := h
  obtain ⟨front', hchars', hsize'⟩ := h'
  rw [hchars] at hchars'
  rw [← hsize, ← hsize', List.append_cancel_right hchars']

structure Ahead (start s : State) : Prop where
  onBoundary : s.OnBoundary
  target_eq : s.target = start.target
  index_le : start.index ≤ s.index

theorem Ahead.refl {s : State} (h : s.OnBoundary) : s.Ahead s :=
  ⟨h, rfl, Nat.le_refl _⟩

theorem Ahead.trans {s t u : State} (h : s.Ahead t) (h' : t.Ahead u) : s.Ahead u :=
  ⟨h'.onBoundary, h'.target_eq.trans h.target_eq, Nat.le_trans h.index_le h'.index_le⟩

theorem Ahead.left_lt {s t : State} (h : s.Ahead t) (hlt : s.index < t.index) :
    t.size - t.index < s.size - s.index := by
  have hsize : t.size = s.size := by
    unfold size
    rw [h.target_eq]
  have := h.onBoundary.index_le_size
  omega

def past (s : State) (text : List Char) : State :=
  let token := String.ofList text
  let stop := s.index + Text.size text
  let moved := { s with index := stop, result := .token token }
  if Text.isInsignificant text then moved else moved.withMark (.ofToken token s.index stop)

@[simp]
theorem target_past (s : State) (text : List Char) : (s.past text).target = s.target := by
  unfold past
  dsimp
  split <;> rfl

@[simp]
theorem index_past (s : State) (text : List Char) :
    (s.past text).index = s.index + Text.size text := by
  unfold past
  dsimp
  split <;> rfl

@[simp]
theorem result_past (s : State) (text : List Char) :
    (s.past text).result = .token (String.ofList text) := by
  unfold past
  dsimp
  split <;> rfl

@[simp]
theorem isError_past (s : State) (text : List Char) : (s.past text).isError = s.isError := by
  unfold past
  dsimp
  split <;> rfl

@[simp]
theorem chain_past (s : State) (text : List Char) : (s.past text).chain = s.chain := by
  unfold past
  dsimp
  split <;> rfl

@[simp]
theorem registry_past (s : State) (text : List Char) : (s.past text).registry = s.registry := by
  unfold past
  dsimp
  split <;> rfl

theorem mark_past (s : State) (text : List Char) :
    (s.past text).mark =
      if Text.isInsignificant text then s.mark
      else .ofToken (String.ofList text) s.index (s.index + Text.size text) := by
  unfold past
  dsimp
  split <;> rfl

theorem OnBoundary.split_past {s : State} (h : s.OnBoundary) {front back : List Char}
    (hrest : s.rest = front ++ back) :
    ∃ before, (s.past front).target.chars = before ++ back ∧
      Text.size before = (s.past front).index := by
  obtain ⟨before, hchars, hsize⟩ := h.split
  refine ⟨before ++ front, ?_, ?_⟩
  . rw [target_past, hchars, hrest, List.append_assoc]
  . rw [index_past, Text.size_append, hsize]

theorem OnBoundary.past {s : State} (h : s.OnBoundary) {front back : List Char}
    (hrest : s.rest = front ++ back) : (s.past front).OnBoundary := by
  obtain ⟨before, hbefore⟩ := h.split_past hrest
  exact ⟨before, back, hbefore⟩

theorem OnBoundary.rest_past {s : State} (h : s.OnBoundary) {front back : List Char}
    (hrest : s.rest = front ++ back) : (s.past front).rest = back := by
  obtain ⟨before, hchars, hsize⟩ := h.split_past hrest
  exact rest_eq_of_split hchars hsize

theorem Ahead.past {start s : State} (h : start.Ahead s) {front back : List Char}
    (hrest : s.rest = front ++ back) : start.Ahead (s.past front) := by
  refine ⟨h.onBoundary.past hrest, ?_, ?_⟩
  . rw [target_past, h.target_eq]
  . have := h.index_le
    rw [index_past]
    omega

theorem OnBoundary.consume_eq {s : State} (h : s.OnBoundary) {front back : List Char}
    (hrest : s.rest = front ++ back) : s.consume (Text.size front) = pure (s.past front) := by
  have hslice : s.target.slice s.index (Text.size front) = some front := by
    obtain ⟨before, hchars, hsize⟩ := h.split
    rw [Input.slice_eq, Text.slice_eq_some_iff]
    refine ⟨before, back, ?_, hsize, rfl⟩
    rw [hchars, hrest, List.append_assoc]
  have hle : s.index + Text.size front ≤ s.size := by
    rw [h.size_eq, hrest, Text.size_append]
    omega
  unfold State.consume
  rw [hslice]
  simp only [advance, if_pos hle, Effect.ofExcept, pure_bind]
  rfl

theorem consume_cases (s : State) (size : Nat) :
    (∃ cause, s.consume size = Effect.raise cause) ∨
      ∃ front back, s.rest = front ++ back ∧ s.consume size = pure (s.past front) := by
  cases hslice : s.target.slice s.index size with
  | none =>
    left
    refine ⟨.splitCharacter s.index, ?_⟩
    unfold consume
    rw [hslice]
  | some front =>
    right
    rw [Input.slice_eq, Text.slice_eq_some_iff] at hslice
    obtain ⟨before, back, hchars, hbefore, hfront⟩ := hslice
    rw [List.append_assoc] at hchars
    have hs : s.OnBoundary := ⟨before, front ++ back, hchars, hbefore⟩
    have hrest : s.rest = front ++ back := rest_eq_of_split hchars hbefore
    refine ⟨front, back, hrest, ?_⟩
    rw [← hfront]
    exact hs.consume_eq hrest

end State
end Waymark
