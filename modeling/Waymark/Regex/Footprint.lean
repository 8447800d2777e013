import Waymark.Regex.ByteRanges
import Waymark.Regex.Node

/-!
This module contains the footprint of regular expressions: the storage that the two automata of an
expression take, one that reads the bytes of a text forward and one that reads them backward.
Counted repetitions are written out, so that a short expression can have a large footprint.

A state takes `stateSize` bytes, and `transitionSize` more for each range of bytes that it reads or
`branchSize` for each state that it branches to.
-/

namespace Waymark
namespace Regex

inductive Direction where
  | forward
  | backward
  deriving DecidableEq, Inhabited

def stateSize : Nat := 32

def transitionSize : Nat := 8

def branchSize : Nat := 4

def CharSet.footprint (direction : Direction) (s : CharSet) : Nat :=
  let ranges := s.toRanges
  let single := match ranges with
    | [(first, last)] => first == last
    | _ => false
  if single then
    stateSize * (ByteRanges.ofRanges ranges).flatten.length
  else if ranges.all (·.2 ≤ 0x7f) then
    2 * stateSize + transitionSize * ranges.length
  else
    let forms := ByteRanges.ofRanges ranges
    match direction with
    -- Forward, equal states are shared; backward, only the beginnings of encoded forms are.
    | .forward =>
      let states := (ByteRanges.automaton 4 forms []).2
      stateSize * (states.length + 1) + transitionSize * states.flatten.length
    | .backward => stateSize * (ByteRanges.beginnings forms + 2) + branchSize * forms.length

structure Footprint where
  isEmpty : Bool
  branches : Nat
  bytes : Nat
  set : Option CharSet
  deriving DecidableEq, Inhabited

namespace Footprint

def empty : Footprint :=
  ⟨true, 1, stateSize, none⟩

def ofBytes (bytes : Nat) : Footprint :=
  ⟨false, 1, bytes, none⟩

def ofSet (direction : Direction) (s : CharSet) : Footprint :=
  ⟨false, 1, CharSet.footprint direction s, some s⟩

def alone (direction : Direction) (a : Footprint) : Nat :=
  if a.branches ≤ 1 then
    a.bytes
  else
    match a.set with
    | some s => CharSet.footprint direction s
    | none => 2 * stateSize + branchSize * a.branches + a.bytes

def cat (direction : Direction) (a b : Footprint) : Footprint :=
  if a.isEmpty then b
  else if b.isEmpty then a
  else ofBytes (a.alone direction + b.alone direction)

def alt (a b : Footprint) : Footprint :=
  let set := match a.set, b.set with
    | some s, some t => some (CharSet.union s t)
    | _, _ => none
  ⟨false, a.branches + b.branches, a.bytes + b.bytes, set⟩

def rounds (direction : Direction) (body : Footprint) (nullable : Bool) (min : Nat)
    (max : Option Nat) : Footprint :=
  let round := body.alone direction
  let branch := stateSize + 2 * branchSize
  match min, max with
  | _, some 0 => empty
  | 1, some 1 => body
  | 0, some 1 => ofBytes (round + branch + stateSize)
  | 0, none => ofBytes (round + if nullable then 2 * branch + stateSize else branch)
  | min, none => ofBytes (min * round + branch)
  | min, some max =>
    if min = max then
      ofBytes (min * round)
    else
      let start := if min = 0 then stateSize else min * round
      ofBytes (start + (max - min) * (round + branch) + stateSize)

def group (direction : Direction) (body : Footprint) : Footprint :=
  match direction with
  | .forward => ofBytes (body.alone direction + 2 * stateSize)
  | .backward => ofBytes (body.alone direction)

end Footprint

namespace Node

def footprint (direction : Direction) : Node → Footprint
  | .empty => .empty
  | .set s => .ofSet direction s
  | .assert _ => .ofBytes stateSize
  | .cat a b => .cat direction (a.footprint direction) (b.footprint direction)
  | .alt a b => .alt (a.footprint direction) (b.footprint direction)
  | .repeat body min max _ => .rounds direction (body.footprint direction) body.nullable min max
  | .group _ body => .group direction (body.footprint direction)

def bound (a : Assertion) (direction : Direction) : Node → Bool
  | .empty | .set _ => false
  | .assert b => a == b
  | .cat x y =>
    match direction with
    | .forward => x.bound a direction || (x.vacuous && y.bound a direction)
    | .backward => y.bound a direction || (y.vacuous && x.bound a direction)
  | .alt x y => x.bound a direction && y.bound a direction
  | .repeat body min _ _ => 0 < min && body.bound a direction
  | .group _ body => body.bound a direction

def automatonBytes (direction : Direction) (node : Node) : Nat :=
  let anywhere := 3 * stateSize + 2 * branchSize + transitionSize
  match direction with
  | .forward =>
    let start := if node.bound .textStart direction then stateSize else anywhere
    start + 3 * stateSize + (node.footprint direction).alone direction
  | .backward =>
    let start := if node.bound .textEnd direction then stateSize else anywhere
    start + stateSize + (node.footprint direction).alone direction

def footprintLimit : Nat :=
  10 * 1024 * 1024

def fits (node : Node) : Bool :=
  node.automatonBytes .forward ≤ footprintLimit && node.automatonBytes .backward ≤ footprintLimit

end Node

end Regex
end Waymark
