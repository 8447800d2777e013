/-!
This module contains sets of characters given by ranges of code points, the form in which the tables
of character properties are written.
-/

namespace Waymark

abbrev Ranges := List (Nat × Nat)

namespace Ranges

def covers (ranges : Ranges) (n : Nat) : Bool :=
  ranges.any fun range => range.1 ≤ n && n ≤ range.2

def contains (ranges : Ranges) (c : Char) : Bool :=
  ranges.covers c.toNat

def put (range : Nat × Nat) : Ranges → Ranges
  | [] => [range]
  | next :: rest =>
    if next.1 ≤ range.2 + 1 ∧ range.1 ≤ next.2 + 1 then
      put (min range.1 next.1, max range.2 next.2) rest
    else
      range :: next :: rest

def merge : Nat → Ranges → Ranges → Ranges
  | 0, a, b => a ++ b
  | _ + 1, [], b => b
  | _ + 1, a, [] => a
  | fuel + 1, x :: a, y :: b =>
    if x.1 ≤ y.1 then x :: merge fuel a (y :: b) else y :: merge fuel (x :: a) b

def join (a b : Ranges) : Ranges :=
  -- Each step of the merge takes one range, so their number is fuel enough.
  (merge (a.length + b.length) a b).foldr put []

def gaps (start : Nat) : Ranges → Ranges
  | [] => if start ≤ 0x10ffff then [(start, 0x10ffff)] else []
  | range :: rest =>
    if start < range.1 then
      (start, range.1 - 1) :: gaps (max start (range.2 + 1)) rest
    else
      gaps (max start (range.2 + 1)) rest

def complement (ranges : Ranges) : Ranges :=
  ranges.gaps 0

theorem contains_eq_true_iff {ranges : Ranges} {c : Char} :
    contains ranges c = true ↔
      ∃ range ∈ ranges, range.1 ≤ c.toNat ∧ c.toNat ≤ range.2 := by
  simp [contains, covers, List.any_eq_true]

end Ranges

end Waymark
