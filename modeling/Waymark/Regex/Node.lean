import Waymark.Character.Derived

/-!
This module contains regular expressions as trees, and the conditions on a place in a text that they
can ask for. In an alternation the left side is preferred, and a greedy repetition prefers another
round to none.
-/

namespace Waymark
namespace Regex

inductive WordEdge where
  | boundary
  | interior
  | start
  | stop
  | startHalf
  | stopHalf
  deriving DecidableEq, Inhabited

inductive Assertion where
  | textStart
  | textEnd
  | lineStart (crlf : Bool)
  | lineEnd (crlf : Bool)
  | word (edge : WordEdge) (ascii : Bool)
  deriving DecidableEq, Inhabited

def wordBeside (ascii : Bool) : Option Char → Bool
  | none => false
  | some c => Character.word.contains c && (!ascii || c ≤ '\x7f')

def Assertion.holds (prev next : Option Char) : Assertion → Bool
  | .textStart => prev.isNone
  | .textEnd => next.isNone
  | .lineStart false => prev.isNone || prev == some '\n'
  | .lineStart true =>
    prev.isNone || prev == some '\n' || (prev == some '\r' && next != some '\n')
  | .lineEnd false => next.isNone || next == some '\n'
  | .lineEnd true =>
    next.isNone || next == some '\r' || (next == some '\n' && prev != some '\r')
  | .word edge ascii =>
    let before := wordBeside ascii prev
    let after := wordBeside ascii next
    match edge with
    | .boundary => before != after
    | .interior => before == after
    | .start => !before && after
    | .stop => before && !after
    | .startHalf => !before
    | .stopHalf => !after

inductive Node where
  | empty
  | set (s : CharSet)
  | assert (a : Assertion)
  | cat (a b : Node)
  | alt (a b : Node)
  | repeat (body : Node) (min : Nat) (max : Option Nat) (greedy : Bool)
  | group (name : Option String) (body : Node)
  deriving DecidableEq, Inhabited

namespace Node

def nullable : Node → Bool
  | .empty => true
  | .set _ => false
  | .assert _ => true
  | .cat a b => a.nullable && b.nullable
  | .alt a b => a.nullable || b.nullable
  | .repeat body min _ _ => min == 0 || body.nullable
  | .group _ body => body.nullable

def groupNames : Node → List String
  | .empty | .set _ | .assert _ => []
  | .cat a b | .alt a b => a.groupNames ++ b.groupNames
  | .repeat body _ _ _ => body.groupNames
  | .group name body => name.toList ++ body.groupNames

def vacuous : Node → Bool
  | .empty => true
  | .set _ => false
  | .assert _ => true
  | .cat a b => a.vacuous && b.vacuous
  | .alt a b => a.vacuous && b.vacuous
  | .repeat body _ max _ => max == some 0 || body.vacuous
  | .group _ body => body.vacuous

def rounds (body : Node) (min : Nat) (max : Option Nat) (greedy : Bool) : Node :=
  -- After a round that matches the empty text another one adds nothing.
  if body.vacuous then
    .repeat body (min.min 1) (some ((max.map (·.min 1)).getD 1)) greedy
  else
    .repeat body min max greedy

end Node

end Regex
end Waymark
