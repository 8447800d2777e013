import Waymark.State
import Waymark.Suggestions

/-!
This module contains what a run keeps outside the state that it threads: the tables of suggestions,
which no backtracking takes back, and the events in the order in which they happened.
-/

namespace Waymark

/--
A miss of a primitive parser: the state it was run on, what it expected in a readable form, and the
pattern that is filed in the table.
-/
structure Miss where
  state : State
  expected : String
  pattern : String
  deriving DecidableEq, Inhabited

inductive Event where
  | missed (miss : Miss)
  | noAlternative (index alternatives : Nat)
  | finished (index : Nat) (failed : Bool) (size : Nat)
  deriving DecidableEq, Inhabited

structure Journal where
  tables : List (RegistryId × Suggestions) := []
  nextRegistry : RegistryId := 0
  events : Array Event := #[]
  opened : Nat := 0
  deriving DecidableEq, Inhabited

namespace Journal

def table (j : Journal) (id : RegistryId) : Suggestions :=
  (j.tables.lookup id).getD {}

def record (j : Journal) (id : RegistryId) (key pattern : String) : Journal :=
  { j with tables := Ascending.put id ((j.table id).record key pattern) j.tables }

def log (j : Journal) (event : Event) : Journal :=
  { j with events := j.events.push event }

def countOpened (j : Journal) : Journal :=
  { j with opened := j.opened + 1 }

def freshRegistry (j : Journal) : RegistryId × Journal :=
  (j.nextRegistry,
    { j with
      tables := Ascending.put j.nextRegistry {} j.tables
      nextRegistry := j.nextRegistry + 1 })

@[simp]
theorem table_record_self (j : Journal) (id : RegistryId) (key pattern : String) :
    (j.record id key pattern).table id = (j.table id).record key pattern := by
  simp [table, record]

theorem table_record_of_ne (j : Journal) {id id' : RegistryId} (h : id' ≠ id)
    (key pattern : String) : (j.record id key pattern).table id' = j.table id' := by
  simp [table, record, Ascending.lookup_put_of_ne h]

@[simp]
theorem table_log (j : Journal) (event : Event) (id : RegistryId) :
    (j.log event).table id = j.table id := rfl

@[simp]
theorem events_log (j : Journal) (event : Event) :
    (j.log event).events.toList = j.events.toList ++ [event] := by
  simp [log]

end Journal

end Waymark
