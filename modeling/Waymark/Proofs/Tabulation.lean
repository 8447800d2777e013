import Mathlib.Data.Finset.Card
import Mathlib.Data.List.Sort
import Waymark.Proofs.Utf8
import Waymark.Suggestions

/-!
This module contains what recording makes of a table: its keys and the patterns of each key stay in
ascending order. `Suggestions.recordAll_canonical` says that there is only one such table for a set
of records, so that neither their order nor their number has an influence.
-/

namespace Waymark

namespace Ascending

variable {α β : Type} [LinearOrder α]

theorem pairwise_insert {xs : List α} (x : α) (h : xs.Pairwise (· < ·)) :
    (insert x xs).Pairwise (· < ·) := by
  induction xs with
  | nil => exact List.pairwise_singleton _ x
  | cons y ys ih =>
    obtain ⟨hy, hys⟩ := List.pairwise_cons.mp h
    rw [insert]
    split
    . exact h
    . next hne =>
      split
      . next hlt =>
        apply List.pairwise_cons.mpr
        constructor
        . intro z hz
          rcases List.mem_cons.mp hz with rfl | hz
          . exact hlt
          . exact hlt.trans (hy z hz)
        . exact h
      . next hlt =>
        apply List.pairwise_cons.mpr
        constructor
        . intro z hz
          rcases mem_insert.mp hz with rfl | hz
          . exact lt_of_le_of_ne (not_lt.mp hlt) (Ne.symm hne)
          . exact hy z hz
        . exact ih hys

theorem pairwise_put {table : List (α × β)} (key : α) (value : β)
    (h : table.Pairwise fun a b => a.1 < b.1) :
    (put key value table).Pairwise fun a b => a.1 < b.1 := by
  rw [← List.pairwise_map] at h ⊢
  rw [map_fst_put]
  exact pairwise_insert key h

theorem lookup_eq_some_iff {table : List (α × β)} (h : table.Pairwise fun a b => a.1 < b.1)
    {key : α} {value : β} : table.lookup key = some value ↔ (key, value) ∈ table := by
  induction table with
  | nil => simp
  | cons first rest ih =>
    obtain ⟨k, v⟩ := first
    obtain ⟨hfirst, hrest⟩ := List.pairwise_cons.mp h
    rw [List.lookup_cons, List.mem_cons, Prod.mk.injEq]
    by_cases heq : key = k
    . have hnot : (key, value) ∉ rest := fun hmem => (hfirst _ hmem).ne' heq
      simp [heq ▸ hnot, heq, eq_comm]
    . simp [heq, beq_eq_false_iff_ne.mpr heq, ih hrest]

theorem ext {table table' : List (α × β)} (h : table.Pairwise fun a b => a.1 < b.1)
    (h' : table'.Pairwise fun a b => a.1 < b.1) (hmem : ∀ entry, entry ∈ table ↔ entry ∈ table') :
    table = table' := by
  have hirrefl : Std.Irrefl fun a b : α × β => a.1 < b.1 := ⟨fun a => lt_irrefl a.1⟩
  have hantisymm : Std.Antisymm fun a b : α × β => a.1 < b.1 :=
    ⟨fun _ _ hab hba => absurd hba hab.asymm⟩
  exact h.eq_of_mem_iff h' hmem

end Ascending

namespace Suggestions

open Text

def recordAll (table : Suggestions) (records : List (String × String)) : Suggestions :=
  records.foldl (fun table entry => table.record entry.1 entry.2) table

theorem recordAll_append (table : Suggestions) (records records' : List (String × String)) :
    table.recordAll (records ++ records') = (table.recordAll records).recordAll records' :=
  List.foldl_append

structure IsSorted (table : Suggestions) : Prop where
  keys : table.entries.Pairwise fun a b => a.1 < b.1
  patterns : ∀ entry ∈ table.entries, entry.2.Pairwise (· < ·)
  ne_nil : ∀ entry ∈ table.entries, entry.2 ≠ []

variable {table table' : Suggestions} {records records' : List (String × String)}

theorem IsSorted.expectedAfter (h : table.IsSorted) (key : String) :
    (table.expectedAfter key).Pairwise (· < ·) := by
  unfold Suggestions.expectedAfter patterns?
  cases hkey : table.entries.lookup key with
  | none => exact List.Pairwise.nil
  | some patterns => exact h.patterns _ ((Ascending.lookup_eq_some_iff h.keys).mp hkey)

theorem isSorted_empty : ({} : Suggestions).IsSorted :=
  ⟨List.Pairwise.nil, nofun, nofun⟩

theorem IsSorted.record (h : table.IsSorted) (key pattern : String) :
    (table.record key pattern).IsSorted := by
  refine ⟨Ascending.pairwise_put key _ h.keys, ?_, ?_⟩
  . intro entry hentry
    rcases Ascending.mem_put hentry with rfl | hentry
    . exact Ascending.pairwise_insert pattern (h.expectedAfter key)
    . exact h.patterns entry hentry
  . intro entry hentry
    rcases Ascending.mem_put hentry with rfl | hentry
    . exact List.ne_nil_of_mem (Ascending.mem_insert.mpr (.inl rfl))
    . exact h.ne_nil entry hentry

theorem IsSorted.recordAll (h : table.IsSorted) (records : List (String × String)) :
    (table.recordAll records).IsSorted := by
  unfold Suggestions.recordAll
  induction records generalizing table with
  | nil => exact h
  | cons entry records ih => exact ih (h.record entry.1 entry.2)

theorem mem_expectedAfter_recordAll {key pattern : String} :
    pattern ∈ (table.recordAll records).expectedAfter key ↔
      pattern ∈ table.expectedAfter key ∨ (key, pattern) ∈ records := by
  unfold recordAll
  induction records generalizing table with
  | nil => simp
  | cons entry records ih =>
    rw [List.foldl_cons, ih, mem_expectedAfter_record, List.mem_cons, Prod.mk.injEq, or_assoc,
      eq_comm, @eq_comm _ pattern]

theorem IsSorted.mem_entries_iff (h : table.IsSorted) {entry : String × List String} :
    entry ∈ table.entries ↔ entry.2 ≠ [] ∧ table.expectedAfter entry.1 = entry.2 := by
  have hlookup : table.entries.lookup entry.1 = some entry.2 ↔ entry ∈ table.entries :=
    Ascending.lookup_eq_some_iff h.keys
  unfold Suggestions.expectedAfter patterns?
  constructor
  . intro hentry
    rw [hlookup.mpr hentry]
    exact ⟨h.ne_nil entry hentry, rfl⟩
  . rintro ⟨hne, hexpected⟩
    cases hkey : table.entries.lookup entry.1 with
    | none =>
      rw [hkey] at hexpected
      exact absurd hexpected.symm hne
    | some patterns =>
      rw [hkey, Option.getD_some] at hexpected
      rw [hexpected] at hkey
      exact hlookup.mp hkey

theorem IsSorted.ext (h : table.IsSorted) (h' : table'.IsSorted)
    (hmem : ∀ key pattern,
      pattern ∈ table.expectedAfter key ↔ pattern ∈ table'.expectedAfter key) :
    table = table' := by
  have hexpected (key : String) : table.expectedAfter key = table'.expectedAfter key :=
    (h.expectedAfter key).eq_of_mem_iff (h'.expectedAfter key) (hmem key)
  have hentries : table.entries = table'.entries := by
    apply Ascending.ext h.keys h'.keys
    intro entry
    rw [h.mem_entries_iff, h'.mem_entries_iff, hexpected]
  cases table
  cases table'
  exact congrArg Suggestions.mk hentries

theorem expectedAfter_empty (key : String) : ({} : Suggestions).expectedAfter key = [] := rfl

theorem mem_expectedAfter_recordAll_empty {key pattern : String} :
    pattern ∈ (({} : Suggestions).recordAll records).expectedAfter key ↔
      (key, pattern) ∈ records := by
  rw [mem_expectedAfter_recordAll, expectedAfter_empty]
  simp

theorem expectedAfter_recordAll_empty_eq_nil_iff {key : String} :
    (({} : Suggestions).recordAll records).expectedAfter key = [] ↔ key ∉ records.map (·.1) := by
  simp [List.eq_nil_iff_forall_not_mem, mem_expectedAfter_recordAll_empty]

theorem IsSorted.mem_keys_iff (h : table.IsSorted) {key : String} :
    key ∈ table.entries.map (·.1) ↔ table.expectedAfter key ≠ [] := by
  rw [List.mem_map]
  constructor
  . rintro ⟨entry, hentry, rfl⟩
    obtain ⟨hne, hexpected⟩ := h.mem_entries_iff.mp hentry
    rwa [hexpected]
  . intro hne
    exact ⟨(key, table.expectedAfter key), h.mem_entries_iff.mpr ⟨hne, rfl⟩, rfl⟩

theorem size_recordAll_empty (records : List (String × String)) :
    (({} : Suggestions).recordAll records).size = (records.map (·.1)).toFinset.card := by
  have hsorted := isSorted_empty.recordAll records
  have hnodup : ((({} : Suggestions).recordAll records).entries.map (·.1)).Nodup :=
    (List.pairwise_map.mpr hsorted.keys).imp ne_of_lt
  rw [size, ← List.length_map (·.1), ← List.toFinset_card_of_nodup hnodup]
  congr 1
  apply List.toFinset.ext
  intro key
  rw [hsorted.mem_keys_iff, Ne, expectedAfter_recordAll_empty_eq_nil_iff, not_not]

theorem recordAll_empty_eq_iff :
    ({} : Suggestions).recordAll records = ({} : Suggestions).recordAll records' ↔
      ∀ entry, entry ∈ records ↔ entry ∈ records' := by
  constructor
  . intro h entry
    rw [← mem_expectedAfter_recordAll_empty, h, mem_expectedAfter_recordAll_empty]
  . intro h
    apply (isSorted_empty.recordAll records).ext (isSorted_empty.recordAll records')
    intro key pattern
    rw [mem_expectedAfter_recordAll_empty, h, mem_expectedAfter_recordAll_empty]

/--
Recording some patterns in an empty table gives the sorted table of them. Its keys are in ascending
order of their bytes, and so are the patterns of each key, which are those recorded for it. What is
expected after a key are its patterns, or nothing if there are none, and the size is the number of
keys. There is only one table for a set of records.
-/
theorem recordAll_canonical (records : List (String × String)) :
    let table := ({} : Suggestions).recordAll records
    (table.entries.Pairwise fun a b => bytes a.1 < bytes b.1) ∧
      (∀ entry ∈ table.entries,
        entry.2 ≠ [] ∧ (entry.2.Pairwise fun a b => bytes a < bytes b) ∧
          table.expectedAfter entry.1 = entry.2) ∧
      (∀ key pattern, (∃ entry ∈ table.entries, entry.1 = key ∧ pattern ∈ entry.2) ↔
        (key, pattern) ∈ records) ∧
      (∀ key, table.expectedAfter key = [] ↔ key ∉ records.map (·.1)) ∧
      table.size = (records.map (·.1)).toFinset.card ∧
      ∀ records', table = ({} : Suggestions).recordAll records' ↔
        ∀ entry, entry ∈ records ↔ entry ∈ records' := by
  intro table
  have hsorted : table.IsSorted := isSorted_empty.recordAll records
  refine ⟨?_, ?_, ?_, ?_, size_recordAll_empty records, fun _ => recordAll_empty_eq_iff⟩
  . exact hsorted.keys.imp bytes_lt_bytes_iff.mpr
  . intro entry hentry
    refine ⟨hsorted.ne_nil entry hentry, ?_, (hsorted.mem_entries_iff.mp hentry).2⟩
    exact (hsorted.patterns entry hentry).imp bytes_lt_bytes_iff.mpr
  . intro key pattern
    rw [← mem_expectedAfter_recordAll_empty]
    constructor
    . rintro ⟨entry, hentry, rfl, hpattern⟩
      rwa [(hsorted.mem_entries_iff.mp hentry).2]
    . intro hpattern
      refine ⟨(key, table.expectedAfter key), ?_, rfl, hpattern⟩
      exact hsorted.mem_entries_iff.mpr ⟨List.ne_nil_of_mem hpattern, rfl⟩
  . exact fun key => expectedAfter_recordAll_empty_eq_nil_iff

example :
    ({} : Suggestions).recordAll [("let", "="), ("é", "x"), ("let", "[a-z]+"), ("let", "=")] =
      ⟨[("let", ["=", "[a-z]+"]), ("é", ["x"])]⟩ := by
  decide

end Suggestions
end Waymark
