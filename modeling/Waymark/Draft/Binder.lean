import Waymark.Draft

/-!
This module contains the ways in which a drafted grammar can choose the parser that follows another,
from the state that the other one has reached.
-/

namespace Waymark

inductive Binder where
  | fixed (p : Parser)
  | switch (s : Switch)
  | length
  | again
  | index
  | jump (offset : Nat)
  | complain
  deriving Inhabited

namespace Binder

def next (binder : Binder) (s : State) (_ : Suggestions) : Parser :=
  match binder with
  | .fixed p => p
  | .switch cases => cases.select s.result
  | .length =>
    match s.result.asText?.bind fun text => readUnsigned64? text.toList with
    | some n => (Draft.pattern (".\x7b" ++ toString n ++ "\x7d")).late
    | none => .fail "length is not a number"
  | .again => .literal s.result.render
  | .index => .setState (s.withResult (.int (Int64.ofNat s.index)))
  | .jump offset => (Draft.setState (s.advance offset s.result)).late
  | .complain => .fail ("got " ++ s.result.render)

end Binder

def Draft.chain (first : Draft) (binder : Binder) : Draft :=
  return .chain (← first) binder.next

end Waymark
