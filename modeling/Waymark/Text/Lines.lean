/-!
This module contains the lines of a text. Line feeds stand between lines, so a text has one line
more than it has line feeds, and after a trailing line feed comes an empty line.
-/

namespace Waymark
namespace Text

def lines : List Char → List (List Char)
  | [] => [[]]
  | c :: cs =>
    if c = '\n' then
      [] :: lines cs
    else
      match lines cs with
      | [] => [[c]]
      | line :: rest => (c :: line) :: rest

@[simp]
theorem lines_nil : lines [] = [[]] := rfl

@[simp]
theorem lines_newline (cs : List Char) : lines ('\n' :: cs) = [] :: lines cs := rfl

theorem lines_ne_nil (cs : List Char) : lines cs ≠ [] := by
  cases cs with
  | nil => simp
  | cons c cs =>
    rw [lines]
    split
    . simp
    . split <;> simp

theorem lines_cons_of_ne {c : Char} (h : c ≠ '\n') (cs : List Char) :
    ∃ line rest, lines cs = line :: rest ∧ lines (c :: cs) = (c :: line) :: rest := by
  rcases hcs : lines cs with _ | ⟨line, rest⟩
  . exact absurd hcs (lines_ne_nil cs)
  . exact ⟨line, rest, rfl, by rw [lines, if_neg h, hcs]⟩

theorem lines_eq_splitOn (cs : List Char) : lines cs = cs.splitOn '\n' := by
  induction cs with
  | nil => simp
  | cons c cs ih =>
    rw [List.splitOn_cons_eq_if_modifyHead, ← ih]
    by_cases h : c = '\n'
    . rw [h, lines_newline, if_pos (beq_self_eq_true '\n')]
    . obtain ⟨line, rest, hcs, hlines⟩ := lines_cons_of_ne h cs
      rw [hlines, hcs, if_neg (by simp [h]), List.modifyHead_cons]

theorem newline_not_mem_of_mem_lines {cs line : List Char} (h : line ∈ lines cs) :
    '\n' ∉ line := by
  induction cs generalizing line with
  | nil =>
    rw [lines_nil, List.mem_singleton] at h
    simp [h]
  | cons c cs ih =>
    by_cases hc : c = '\n'
    . rw [hc, lines_newline, List.mem_cons] at h
      rcases h with rfl | h
      . simp
      . exact ih h
    . obtain ⟨first, rest, hcs, hlines⟩ := lines_cons_of_ne hc cs
      rw [hlines, List.mem_cons] at h
      rcases h with rfl | h
      . have hfirst : '\n' ∉ first := ih (by simp [hcs])
        simp [hfirst, Ne.symm hc]
      . exact ih (by simp [hcs, h])

end Text
end Waymark
