/-!
This module contains what has been read together with how deeply it is nested: the greatest number
of constructs around one of its innermost parts, itself included.
-/

namespace Waymark
namespace Regex

structure Nested (α : Type) where
  value : α
  depth : Nat
  deriving DecidableEq, Inhabited

def depthLimit : Nat := 250

namespace Nested

variable {α β : Type}

def flat (a : α) : Nested α :=
  ⟨a, 0⟩

def wrap (f : α → β) (a : Nested α) : Nested β :=
  ⟨f a.value, a.depth + 1⟩

def join (f : α → α → β) (a b : Nested α) : Nested β :=
  ⟨f a.value b.value, max a.depth b.depth + 1⟩

def rowDepth (parts : List (Nested α)) : Nat :=
  let deepest := (parts.map depth).foldl max 0
  if parts.length ≤ 1 then deepest else deepest + 1

end Nested

end Regex
end Waymark
