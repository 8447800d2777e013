import Waymark.Pattern

/-!
This module contains the proof that the patterns of runs of characters match as many characters as
there are: once past the start of a run, a search has one thread that goes on and one that accepts,
and the one that goes on is preferred for as long as it can.
-/

namespace Waymark

namespace Regex.Program

def run (s : CharSet) (first : Nat) : Program :=
  ⟨#[.accept, .branch 2 0, .consume s 1, .check .textStart first], 3⟩

variable {s : CharSet} {first : Nat}

theorem closure_run (prev next : Option Char) :
    closure (run s first).code prev next [⟨1, 0⟩] = [⟨2, 0⟩, ⟨0, 0⟩] := rfl

theorem follow_run (c : Char) :
    follow (run s first).code c ⟨2, 0⟩ = if s.contains c then some ⟨1, 0⟩ else none := rfl

theorem search_run {text : List Char} {prev : Option Char} {place : Nat} {threads : List Thread}
    (hthreads : ∀ next, closure (run s first).code prev next threads = [⟨2, 0⟩, ⟨0, 0⟩]) :
    search (run s first) text prev place false threads =
      some (0, place + (text.takeWhile s.contains).length) := by
  have hfound : [Thread.mk 2 0, ⟨0, 0⟩].find? (accepts (run s first).code) = some ⟨0, 0⟩ := rfl
  have hlive : ([Thread.mk 2 0, ⟨0, 0⟩].takeWhile fun t => !accepts (run s first).code t) =
      [⟨2, 0⟩] := rfl
  induction text generalizing prev place threads with
  | nil =>
    simp only [search, hthreads, hfound]
    rfl
  | cons c cs ih =>
    simp only [search, hthreads, hfound, hlive, List.filterMap_cons, follow_run]
    by_cases hc : s.contains c = true
    . simp only [hc, if_true, List.filterMap_nil, List.isEmpty_cons, Bool.and_false,
        Bool.false_and, Bool.false_eq_true, if_false, List.takeWhile_cons, List.length_cons]
      rw [ih fun _ => closure_run _ _]
      simp only [Option.orElse_eq_orElse, Option.orElse_eq_or, Option.some_or, Option.some.injEq,
        Prod.mk.injEq, true_and]
      omega
    . simp only [hc, if_false, List.filterMap_nil, List.isEmpty_nil, Bool.false_and,
        Bool.not_false, Bool.and_true, if_true, Option.map_some, List.takeWhile_cons,
        Bool.false_eq_true, List.length_nil, Nat.add_zero]

theorem search_run_optional (text : List Char) :
    search (run s 1) text none 0 false [⟨3, 0⟩] =
      some (0, (text.takeWhile s.contains).length) := by
  rw [search_run fun _ => rfl, Nat.zero_add]

theorem search_run_required (text : List Char) :
    search (run s 2) text none 0 false [⟨3, 0⟩] =
      if text.takeWhile s.contains = [] then none
      else some (0, (text.takeWhile s.contains).length) := by
  have hreached (next : Option Char) :
      closure (run s 2).code none next [⟨3, 0⟩] = [⟨2, 0⟩] := rfl
  have hfound : [Thread.mk 2 0].find? (accepts (run s 2).code) = none := rfl
  have hlive : ([Thread.mk 2 0].takeWhile fun t => !accepts (run s 2).code t) = [⟨2, 0⟩] := rfl
  cases text with
  | nil => rfl
  | cons c cs =>
    simp only [search, hreached, hfound, hlive, List.filterMap_cons, follow_run]
    by_cases hc : s.contains c = true
    . simp only [hc, if_true, List.filterMap_nil, List.isEmpty_cons, Bool.and_false,
        Bool.false_and, Bool.false_eq_true, if_false, List.takeWhile_cons, List.length_cons]
      rw [search_run fun _ => closure_run _ _]
      simp [Nat.add_comm]
    . simp [hc]

end Regex.Program

namespace Pattern

variable {s : CharSet} {p : Pattern} {first : Nat}

theorem matchSize?_run (hp : p.regex.program = Regex.Program.run s first) (text : List Char) :
    p.matchSize? text =
      (Regex.Program.search (.run s first) text none 0 false [⟨3, 0⟩]).map fun (start, stop) =>
        Text.size (text.take (start + (stop - start))) := by
  have hanchored : (Regex.Program.run s first).isAnchored = true := rfl
  have hstart : (Regex.Program.run s first).start = 3 := rfl
  simp only [matchSize?, Regex.find?, Regex.Program.find, hp, hanchored, hstart, Bool.not_true,
    Option.map_map]
  rfl

theorem take_length_takeWhile (f : Char → Bool) (text : List Char) :
    text.take (text.takeWhile f).length = text.takeWhile f :=
  (List.prefix_iff_eq_take.mp (List.takeWhile_prefix f)).symm

theorem matchSize?_optional (hp : p.regex.program = Regex.Program.run s 1) (text : List Char) :
    p.matchSize? text = some (Text.size (text.takeWhile s.contains)) := by
  rw [matchSize?_run hp, Regex.Program.search_run_optional, Option.map_some]
  dsimp only
  rw [Nat.sub_zero, Nat.zero_add, take_length_takeWhile]

theorem matchSize?_required (hp : p.regex.program = Regex.Program.run s 2) (text : List Char) :
    p.matchSize? text =
      if text.takeWhile s.contains = [] then none
      else some (Text.size (text.takeWhile s.contains)) := by
  rw [matchSize?_run hp, Regex.Program.search_run_required]
  split
  . rfl
  . rw [Option.map_some]
    dsimp only
    rw [Nat.sub_zero, Nat.zero_add, take_length_takeWhile]

end Pattern

namespace Text

theorem isAlpha_iff {c : Char} :
    c.isAlpha = true ↔ 'A' ≤ c ∧ c ≤ 'Z' ∨ 'a' ≤ c ∧ c ≤ 'z' := by
  apply Bool.or_eq_true_iff.trans
  apply or_congr decide_eq_true_iff
  exact Bool.and_eq_true_iff.trans (and_congr decide_eq_true_iff decide_eq_true_iff)

theorem toNat_of_isBlank {c : Char} (h : isBlank c = true) : c.toNat ≤ 0x20 ∨ 0x7f < c.toNat := by
  obtain ⟨range, hrange, hfirst, hlast⟩ := Ranges.contains_eq_true_iff.mp h
  simp only [blankRanges, List.mem_cons, List.not_mem_nil, or_false] at hrange
  rcases hrange with rfl | rfl | rfl | rfl | rfl | rfl | rfl | rfl | rfl | rfl <;> omega

theorem isBlank_of_isDigit {c : Char} (h : c.isDigit = true) : isBlank c = false := by
  rw [Bool.eq_false_iff]
  intro hblank
  have := toNat_of_isBlank hblank
  have hdigit : 48 ≤ c.toNat ∧ c.toNat ≤ 57 :=
    (Bool.and_eq_true_iff.mp h).imp of_decide_eq_true of_decide_eq_true
  omega

theorem isBlank_of_isAlpha {c : Char} (h : c.isAlpha = true) : isBlank c = false := by
  rw [Bool.eq_false_iff]
  intro hblank
  have := toNat_of_isBlank hblank
  have hletter : 65 ≤ c.toNat ∧ c.toNat ≤ 90 ∨ 97 ≤ c.toNat ∧ c.toNat ≤ 122 := isAlpha_iff.mp h
  omega

end Text

namespace CharSet

theorem contains_digits (c : Char) : (CharSet.range '0' '9').contains c = c.isDigit := by
  rw [Bool.eq_iff_iff]
  simp [contains, Char.isDigit, Char.le_def]

theorem contains_letters (c : Char) :
    (CharSet.union (.range 'A' 'Z') (.range 'a' 'z')).contains c = c.isAlpha := by
  rw [Bool.eq_iff_iff, Text.isAlpha_iff]
  simp [contains]

theorem contains_blank (c : Char) : Character.blank.contains c = Text.isBlank c := rfl

end CharSet

end Waymark
