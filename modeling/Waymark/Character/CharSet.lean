import Waymark.Character.Case
import Waymark.Character.Ranges

/-!
This module contains sets of characters as expressions, and their membership test.
-/

namespace Waymark

inductive CharSet where
  | empty
  | range (first last : Char)
  | table (ranges : Ranges)
  | union (a b : CharSet)
  | inter (a b : CharSet)
  | diff (a b : CharSet)
  | symmDiff (a b : CharSet)
  | compl (a : CharSet)
  | foldCase (a : CharSet)
  deriving DecidableEq, Inhabited

namespace CharSet

def contains : CharSet → Char → Bool
  | .empty, _ => false
  | .range first last, c => first ≤ c && c ≤ last
  | .table ranges, c => ranges.contains c
  | .union a b, c => a.contains c || b.contains c
  | .inter a b, c => a.contains c && b.contains c
  | .diff a b, c => a.contains c && !b.contains c
  | .symmDiff a b, c => a.contains c != b.contains c
  | .compl a, c => !a.contains c
  | .foldCase a, c => (Character.caseVariants c).any fun d => a.contains d

def single (c : Char) : CharSet :=
  .range c c

def unionAll : List CharSet → CharSet
  | [] => .empty
  | [a] => a
  | a :: rest => .union a (unionAll rest)

def ofRanges (ranges : List (Char × Char)) : CharSet :=
  unionAll (ranges.map fun range => .range range.1 range.2)

def any : CharSet :=
  .compl .empty

def ascii : CharSet :=
  .range '\x00' '\x7f'

def foldRanges (ranges : Ranges) : Ranges :=
  let pairs := Character.caseRuns.flatMap Character.CaseRun.pairs
  pairs.foldl (fun folded (a, b) =>
    let folded := if ranges.covers a && !folded.covers b then folded.join [(b, b)] else folded
    if ranges.covers b && !folded.covers a then folded.join [(a, a)] else folded) ranges

def toRanges : CharSet → Ranges
  | .empty => []
  | .range first last => if first ≤ last then [(first.toNat, last.toNat)] else []
  | .table ranges => ranges
  | .union a b => a.toRanges.join b.toRanges
  | .inter a b => (a.toRanges.complement.join b.toRanges.complement).complement
  | .diff a b => (a.toRanges.complement.join b.toRanges).complement
  | .symmDiff a b =>
    let a := a.toRanges
    let b := b.toRanges
    (a.complement.join b).complement.join (b.complement.join a).complement
  | .compl a => a.toRanges.complement
  | .foldCase a => foldRanges a.toRanges

end CharSet

end Waymark
