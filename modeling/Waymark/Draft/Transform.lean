import Waymark.Draft

/-!
This module contains the plain steps on states that a drafted grammar can name. They act on failed
states as on others.
-/

namespace Waymark

inductive Transform where
  | advance
  | failTwice
  | forgetMark
  | setOne
  deriving DecidableEq, Inhabited

namespace Transform

def apply (t : Transform) (s : State) : Effect State :=
  match t with
  | .advance => Effect.ofExcept (s.advance (s.index + 1) (.int (Int64.ofNat s.index)))
  | .failTwice => pure ((s.fail "one").fail "two")
  | .forgetMark => pure (s.withMark {})
  | .setOne => pure (s.withResult (.int 1))

end Transform

def Draft.transform (t : Transform) : Draft :=
  .ok (.transform t.apply)

end Waymark
