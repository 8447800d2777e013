import Waymark.Proofs.CharacterRun

/-!
This module contains the proof that the patterns of one or more letters, digits or blanks never
match the empty text.
-/

namespace Waymark

namespace Regex.Program

def oneOrMore (s : CharSet) : Program :=
  ⟨#[.accept, .branch 2 0, .consume s 1, .check .textStart 2], 3⟩

end Regex.Program

namespace Pattern

def oneOrMore (source : String) (s : CharSet) : Pattern :=
  ofNode source (.repeat (.set s) 1 none true)

theorem program_oneOrMore (source : String) (s : CharSet) :
    (oneOrMore source s).regex.program = Regex.Program.oneOrMore s := rfl

theorem stop_oneOrMore_pos {source : String} {s : CharSet} {text : List Char} {span : Regex.Span}
    (h : (oneOrMore source s).regex.find? text = some span) : 0 < span.stop := by
  have hsize := matchSize?_required (program_oneOrMore source s) text
  rw [matchSize?, h, Option.map_some] at hsize
  split at hsize
  . contradiction
  . next hrun =>
    rw [Option.some.inj hsize, Nat.pos_iff_ne_zero, Ne, Text.size_eq_zero_iff]
    exact hrun

end Pattern
end Waymark
