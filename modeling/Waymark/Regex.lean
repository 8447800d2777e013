import Waymark.Regex.Footprint
import Waymark.Regex.Reading
import Waymark.Regex.Search
import Waymark.Text.Bytes

/-!
This module contains regular expressions as values: the text they were written as and the program
that they are searched with.
-/

namespace Waymark

structure Regex where
  source : String
  program : Regex.Program
  deriving DecidableEq, Inhabited

namespace Regex

def read (source : String) : Except SyntaxError Regex := do
  let node ← Node.read source
  if node.fits then return ⟨source, .ofNode node⟩ else .error .tooLarge

structure Span where
  start : Nat
  stop : Nat
  deriving DecidableEq, Inhabited

def find? (re : Regex) (text : List Char) : Option Span :=
  (re.program.find text).map fun (before, length) =>
    ⟨Text.size (text.take before), Text.size (text.take (before + length))⟩

theorem eq_append_of_find? {re : Regex} {text : List Char} {span : Span}
    (h : re.find? text = some span) :
    ∃ before found after, text = before ++ found ++ after ∧
      span.start = Text.size before ∧ span.stop = Text.size (before ++ found) := by
  simp only [find?, Option.map_eq_some_iff, Prod.exists] at h
  obtain ⟨before, length, -, rfl⟩ := h
  refine ⟨text.take before, (text.drop before).take length, text.drop (before + length), ?_, rfl,
    ?_⟩
  . rw [← List.take_add, List.take_append_drop]
  . rw [← List.take_add]

end Regex

end Waymark
