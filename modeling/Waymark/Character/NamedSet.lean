import Waymark.Character.CharSet

/-!
This module contains sets of characters that have names.
-/

namespace Waymark
namespace Character

structure NamedSet where
  names : List String
  set : CharSet
  deriving DecidableEq, Inhabited

def NamedSet.find? (sets : List NamedSet) (name : String) : Option CharSet :=
  (sets.find? fun named => named.names.contains name).map (·.set)

end Character
end Waymark
