import Waymark.Proofs.Boundary

/-!
This module contains what the primitives do from an offset between two characters: each of them
either goes past a front part of the unconsumed text or misses, and says of that text which it is.
-/

namespace Waymark
namespace Parser

variable {s : State}

theorem runLiteral_cases (hs : s.OnBoundary) (text : String) :
    (∃ back, s.rest = text.toList ++ back ∧ runLiteral text s = pure (s.past text.toList)) ∨
      (¬ text.toList <+: s.rest ∧ runLiteral text s = s.miss (Text.quote text) text) := by
  unfold runLiteral
  split
  . next h =>
    right
    simp only [Bool.and_eq_true, Bool.not_eq_true', hs.isAtEnd_iff] at h
    obtain ⟨htext, hrest⟩ := h
    refine ⟨?_, rfl⟩
    -- Nothing but the empty text begins what is left at the end.
    rw [hrest, List.prefix_nil, String.toList_eq_nil_iff]
    intro hnil
    rw [hnil] at htext
    exact absurd htext (by decide)
  . split
    . next h =>
      left
      obtain ⟨back, hback⟩ := List.isPrefixOf_iff_prefix.mp h
      exact ⟨back, hback.symm, hs.consume_eq hback.symm⟩
    . next h =>
      right
      rw [List.isPrefixOf_iff_prefix] at h
      exact ⟨h, rfl⟩

theorem runPattern_cases (hs : s.OnBoundary) (p : Pattern) :
    (∃ span front back, p.regex.find? s.rest = some span ∧ s.rest = front ++ back ∧
        Text.size front = span.stop ∧ runPattern p s = pure (s.past front)) ∨
      (p.regex.find? s.rest = none ∧
        runPattern p s = s.miss ("/" ++ p.source ++ "/") p.source) := by
  unfold runPattern Pattern.matchSize?
  cases hfind : p.regex.find? s.rest with
  | none =>
    right
    exact ⟨rfl, rfl⟩
  | some span =>
    left
    obtain ⟨before, found, after, hrest, -, hstop⟩ := Regex.eq_append_of_find? hfind
    refine ⟨span, before ++ found, after, rfl, hrest, hstop.symm, ?_⟩
    rw [← hs.consume_eq hrest, ← hstop]
    rfl

theorem runEatUntil_cases (hs : s.OnBoundary) (terminal : Regex) :
    (∃ span front back, terminal.find? s.rest = some span ∧ s.rest = front ++ back ∧
        Text.size front = span.start ∧ runEatUntil terminal s = pure (s.past front)) ∨
      (terminal.find? s.rest = none ∧ runEatUntil terminal s = pure (s.past s.rest)) := by
  unfold runEatUntil
  cases hfind : terminal.find? s.rest with
  | none =>
    right
    exact ⟨rfl, hs.consume_eq (List.append_nil _).symm⟩
  | some span =>
    left
    obtain ⟨before, found, after, hrest, hstart, -⟩ := Regex.eq_append_of_find? hfind
    rw [List.append_assoc] at hrest
    refine ⟨span, before, found ++ after, rfl, hrest, hstart.symm, ?_⟩
    rw [← hs.consume_eq hrest, ← hstart]

theorem runAnyChar_cases (hs : s.OnBoundary) :
    (∃ c cs, s.rest = c :: cs ∧ runAnyChar s = pure (s.past [c])) ∨
      (s.rest = [] ∧ runAnyChar s = s.miss "any character" ".") := by
  unfold runAnyChar
  cases hrest : s.rest with
  | nil =>
    right
    exact ⟨rfl, rfl⟩
  | cons c cs =>
    left
    have hsize : c.utf8Size = Text.size [c] := rfl
    refine ⟨c, cs, rfl, ?_⟩
    rw [← hs.consume_eq hrest, ← hsize]

theorem runEndOfInput_cases (hs : s.OnBoundary) :
    (s.rest = [] ∧ runEndOfInput s = pure (s.withResult .null)) ∨
      (s.rest ≠ [] ∧ runEndOfInput s = s.miss "end of input" "$") := by
  unfold runEndOfInput
  split
  . next h =>
    left
    exact ⟨hs.isAtEnd_iff.mp h, rfl⟩
  . next h =>
    right
    rw [hs.isAtEnd_iff] at h
    exact ⟨h, rfl⟩

theorem runPeek_eq (s : State) : ∃ value, runPeek s = pure (s.withResult value) := by
  unfold runPeek
  split
  . exact ⟨_, rfl⟩
  . exact ⟨_, rfl⟩

end Parser
end Waymark
