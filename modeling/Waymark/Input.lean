import Waymark.Text.Suffixes

/-!
This module contains the texts that are parsed. A text is kept with a table of what follows each of
its offsets, so that a step of a parse does not walk over what has been consumed before it.
-/

namespace Waymark

structure Input where
  text : String
  suffixes : Array (Option (List Char)) := Text.suffixes #[] text.toList
  suffixes_eq : suffixes = Text.suffixes #[] text.toList := by rfl

namespace Input

theorem ext {a b : Input} (h : a.text = b.text) : a = b := by
  obtain ⟨text, suffixes, rfl⟩ := a
  obtain ⟨text', suffixes', rfl⟩ := b
  cases h
  rfl

instance : DecidableEq Input := fun a b =>
  if h : a.text = b.text then .isTrue (ext h) else .isFalse fun hab => h (hab ▸ rfl)

instance : Inhabited Input :=
  ⟨{ text := "" }⟩

instance : Coe String Input :=
  ⟨fun text => { text }⟩

def chars (input : Input) : List Char :=
  input.text.toList

def size (input : Input) : Nat :=
  input.text.utf8ByteSize

def dropBytes (input : Input) (n : Nat) : Option (List Char) :=
  (input.suffixes[n]?).join

def slice (input : Input) (start len : Nat) : Option (List Char) := do
  let rest ← input.dropBytes start
  let (text, _) ← Text.splitBytes len rest
  return text

theorem size_eq (input : Input) : input.size = Text.size input.chars :=
  Text.utf8ByteSize_eq_size input.text

theorem dropBytes_eq (input : Input) (n : Nat) :
    input.dropBytes n = Text.dropBytes n input.chars := by
  have h := Text.join_getElem?_suffixes #[] input.chars n
  rw [Array.size_empty, Nat.zero_add] at h
  rw [dropBytes, input.suffixes_eq, ← h, chars]

theorem slice_eq (input : Input) (start len : Nat) :
    input.slice start len = Text.slice start len input.chars := by
  rw [slice, dropBytes_eq, Text.slice]

end Input

end Waymark
