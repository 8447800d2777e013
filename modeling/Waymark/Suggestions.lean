import Waymark.Ascending

/-!
This module contains the table of what was expected where: for every text that came last, the
patterns that were tried after it and missed. Texts and patterns are in ascending order, and each
text has at least one pattern.
-/

namespace Waymark

structure Suggestions where
  entries : List (String × List String) := []
  deriving DecidableEq, Inhabited

namespace Suggestions

def patterns? (table : Suggestions) (key : String) : Option (List String) :=
  table.entries.lookup key

def expectedAfter (table : Suggestions) (key : String) : List String :=
  (table.patterns? key).getD []

def record (table : Suggestions) (key pattern : String) : Suggestions :=
  ⟨Ascending.put key (Ascending.insert pattern (table.expectedAfter key)) table.entries⟩

def size (table : Suggestions) : Nat :=
  table.entries.length

def isEmpty (table : Suggestions) : Bool :=
  table.entries.isEmpty

theorem expectedAfter_record_self (table : Suggestions) (key pattern : String) :
    (table.record key pattern).expectedAfter key =
      Ascending.insert pattern (table.expectedAfter key) := by
  simp [expectedAfter, patterns?, record]

theorem expectedAfter_record_of_ne (table : Suggestions) {key key' : String} (h : key' ≠ key)
    (pattern : String) :
    (table.record key pattern).expectedAfter key' = table.expectedAfter key' := by
  simp [expectedAfter, patterns?, record, Ascending.lookup_put_of_ne h]

theorem mem_expectedAfter_record {table : Suggestions} {key key' pattern pattern' : String} :
    pattern ∈ (table.record key' pattern').expectedAfter key ↔
      pattern ∈ table.expectedAfter key ∨ key' = key ∧ pattern' = pattern := by
  by_cases h : key = key'
  . rw [h, expectedAfter_record_self, Ascending.mem_insert, or_comm, eq_comm]
    simp
  . rw [expectedAfter_record_of_ne table h]
    constructor
    . exact .inl
    . rintro (hmem | ⟨hkey, -⟩)
      . exact hmem
      . exact absurd hkey.symm h

end Suggestions

end Waymark
