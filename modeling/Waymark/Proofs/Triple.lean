import Waymark.Parser.Primitive

/-!
This module contains what effects end with: `Effect.Keeps` says that every end has a property, and
`Effect.Ends` that there is such an end from every journal.
-/

namespace Waymark
namespace Effect

variable {α β : Type}

structure Keeps (x : Effect α) (post : α → Prop) : Prop where
  of_done {j k : Journal} {a : α} (h : x j = .done a k) : post a

structure Ends (x : Effect α) (post : α → Prop) : Prop where
  done (j : Journal) : ∃ a k, x j = .done a k ∧ post a

variable {x : Effect α} {f : α → Effect β} {post post' : α → Prop} {post₂ : β → Prop}

abbrev Halts (x : Effect α) : Prop :=
  Ends x fun _ => True

theorem Keeps.pure {a : α} (h : post a) : Keeps (pure a) post := by
  constructor
  rintro j k _ ⟨⟩
  exact h

theorem Keeps.exhausted : Keeps exhausted post := by
  constructor
  rintro j k a ⟨⟩

theorem Keeps.bind (hx : Keeps x post) (hf : ∀ a, post a → Keeps (f a) post₂) :
    Keeps (x >>= f) post₂ := by
  constructor
  intro j k b h
  obtain ⟨a, j', ha, hb⟩ := bind_eq_done_iff.mp h
  exact (hf a (hx.of_done ha)).of_done hb

theorem Keeps.mono (hx : Keeps x post) (hpost : ∀ a, post a → post' a) : Keeps x post' := by
  constructor
  intro j k a h
  exact hpost a (hx.of_done h)

theorem Keeps.update {g : Journal → Journal} {y : Effect β} (hy : Keeps y post₂) :
    Keeps (update g >>= fun _ => y) post₂ := by
  constructor
  intro j k b h
  exact hy.of_done h

theorem Keeps.unlessError {s : State} {act : Effect State} {post : State → Prop}
    (herror : s.isError = true → post s) (h : s.isError = false → Keeps act post) :
    Keeps (s.unlessError act) post := by
  unfold State.unlessError
  split
  . next hs => exact Keeps.pure (herror hs)
  . next hs =>
    rw [Bool.not_eq_true] at hs
    exact h hs

theorem Ends.pure {a : α} (h : post a) : Ends (pure a) post := by
  constructor
  intro j
  exact ⟨a, j, rfl, h⟩

theorem Ends.bind (hx : Ends x post) (hf : ∀ a, post a → Ends (f a) post₂) :
    Ends (x >>= f) post₂ := by
  constructor
  intro j
  obtain ⟨a, j', ha, hpost⟩ := hx.done j
  obtain ⟨b, k, hb, hpost₂⟩ := (hf a hpost).done j'
  exact ⟨b, k, bind_eq_done_iff.mpr ⟨a, j', ha, hb⟩, hpost₂⟩

theorem Ends.mono (hx : Ends x post) (hpost : ∀ a, post a → post' a) : Ends x post' := by
  constructor
  intro j
  obtain ⟨a, k, ha, h⟩ := hx.done j
  exact ⟨a, k, ha, hpost a h⟩

theorem Ends.update {g : Journal → Journal} {y : Effect β} (hy : Ends y post₂) :
    Ends (update g >>= fun _ => y) post₂ := by
  constructor
  intro j
  exact hy.done (g j)

theorem Ends.unlessError {s : State} {act : Effect State} {post : State → Prop}
    (herror : s.isError = true → post s) (h : s.isError = false → Ends act post) :
    Ends (s.unlessError act) post := by
  unfold State.unlessError
  split
  . next hs => exact Ends.pure (herror hs)
  . next hs =>
    rw [Bool.not_eq_true] at hs
    exact h hs

theorem Ends.and_keeps (hx : Ends x post) (hx' : Keeps x post') :
    Ends x fun a => post a ∧ post' a := by
  constructor
  intro j
  obtain ⟨a, k, ha, h⟩ := hx.done j
  exact ⟨a, k, ha, h, hx'.of_done ha⟩

end Effect
end Waymark
