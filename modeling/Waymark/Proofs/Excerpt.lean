import Waymark.Proofs.Places

/-!
This module contains what a reader is shown of a text around a place.
`Location.contextLines_point_at_byte` says that these are the lines up to two before and after that
of the place, and that the pointer stands where the line of the place shows the byte at the place.
-/

namespace Waymark

theorem zipIdx_eq_map_range' {α : Type} (xs : List α) (default : α) (n : Nat) :
    xs.zipIdx n = (List.range' n xs.length).map fun i => (xs.getD (i - n) default, i) := by
  apply List.ext_getElem
  . simp
  . intro i hi _
    rw [List.length_zipIdx] at hi
    simp [hi]

theorem range'_window {first current last n : Nat} (hfirst : 1 ≤ first) (hcurrent : first ≤ current)
    (hlast : current ≤ last) (hn : last ≤ n) :
    List.range' 1 n = List.range' 1 (first - 1) ++ (List.range' first (current - first) ++
      current :: List.range' (current + 1) (last - current)) ++ List.range' (last + 1) (n - last) := by
  have hsplit {i j k : Nat} (hij : i ≤ j) (hjk : j ≤ k) :
      List.range' i (k - i) = List.range' i (j - i) ++ List.range' j (k - j) := by
    have hlength : k - i = (j - i) + (k - j) := by omega
    have hstart : i + (j - i) = j := by omega
    rw [hlength, ← List.range'_append_1, hstart]
  have hcons : current :: List.range' (current + 1) (last - current) =
      List.range' current (last + 1 - current) := by
    rw [Nat.succ_sub hlast, List.range'_succ]
  have hend : n - last = n + 1 - (last + 1) := by omega
  rw [hcons, ← hsplit hcurrent (by omega), ← hsplit hfirst (by omega), hend,
    ← hsplit (by omega) (by omega), Nat.add_sub_cancel]

namespace Text

theorem utf8ByteSize_eq_length {text : String} (h : ∀ c ∈ text.toList, c.utf8Size = 1) :
    text.utf8ByteSize = text.length := by
  rw [utf8ByteSize_eq_size, ← String.length_toList]
  generalize text.toList = cs at h ⊢
  induction cs with
  | nil => rfl
  | cons c cs ih =>
    rw [size_cons, h c List.mem_cons_self, ih fun c hc => h c (List.mem_cons_of_mem _ hc),
      List.length_cons, Nat.add_comm]

theorem utf8ByteSize_toString (n : Nat) : (toString n).utf8ByteSize = (toString n).length := by
  apply utf8ByteSize_eq_length
  intro c hc
  rw [Nat.toString_eq_repr, Nat.toList_repr] at hc
  have hdigit := Nat.isDigit_of_mem_toDigits (by decide) (by decide) hc
  simp only [Char.isDigit, Bool.and_eq_true, decide_eq_true_eq] at hdigit
  rw [Char.utf8Size_eq_one_iff]
  exact UInt32.le_trans hdigit.2 (by decide)

theorem takeWhile_drop_encode {line rest : List Char} {n : Nat}
    (hline : '\n' ∉ line) (hn : n ≤ size line)
    (hrest : (encode rest).takeWhile (· ≠ '\n'.toUInt8) = []) :
    ((encode (line ++ rest)).drop n).takeWhile (· ≠ '\n'.toUInt8) = (encode line).drop n := by
  rw [encode_append, List.drop_append_of_le_length (by rwa [length_encode]),
    List.takeWhile_append_of_pos, hrest, List.append_nil]
  intro byte hbyte
  rw [decide_eq_true_iff]
  rintro rfl
  exact hline (newline_mem_encode_iff.mp (List.mem_of_mem_drop hbyte))

end Text

namespace Location

open Text

theorem utf8ByteSize_gutter (current number : Nat) :
    (gutter current number).utf8ByteSize = (gutter current number).length := by
  unfold gutter
  rw [String.utf8ByteSize_append, String.utf8ByteSize_append, String.length_append,
    String.length_append, utf8ByteSize_toString]
  split
  all_goals rfl

def shownLine (code : String) (current number : Nat) : String :=
  (if number = current then "  > " else "    ") ++ toString number ++ " | " ++
    (splitLines code).getD (number - 1) ""

variable {code : String} {offset : Nat}

theorem gutter_append (code : String) (current number : Nat) :
    gutter current number ++ String.ofList ((lines code.toList).getD (number - 1) []) =
      shownLine code current number := by
  rw [shownLine, splitLines_eq, ← String.ofList_nil, List.getD_map, gutter]

def shownFor (code : String) (current : Position) (number : Nat) : List String :=
  if number + 2 < current.line ∨ current.line + 2 < number then
    []
  else if number = current.line then
    [shownLine code current.line number,
      pointer ((gutter current.line number).length + current.byteOffset)]
  else
    [shownLine code current.line number]

theorem contextLines_eq_flatMap (code : String) (offset : Nat) :
    (Location.mk code offset).contextLines =
      (List.range' 1 (splitLines code).length).flatMap
        (shownFor code (Location.mk code offset).position) := by
  unfold contextLines shownFor
  dsimp only
  rw [zipIdx_eq_map_range' _ [], List.flatMap_map, splitLines_eq, List.length_map]
  simp only [gutter_append]

theorem flatMap_shownFor_far {current : Position} {numbers : List Nat}
    (h : ∀ number ∈ numbers, number + 2 < current.line ∨ current.line + 2 < number) :
    numbers.flatMap (shownFor code current) = [] := by
  rw [List.flatMap_eq_nil_iff]
  intro number hnumber
  rw [shownFor, if_pos (h number hnumber)]

theorem flatMap_shownFor_near {current : Position} {numbers : List Nat}
    (h : ∀ number ∈ numbers,
      number ≠ current.line ∧ current.line ≤ number + 2 ∧ number ≤ current.line + 2) :
    numbers.flatMap (shownFor code current) = numbers.map (shownLine code current.line) := by
  rw [List.map_eq_flatMap]
  apply List.flatMap_congr
  intro number hnumber
  obtain ⟨hne, hle, hle'⟩ := h number hnumber
  rw [shownFor, if_neg (by omega), if_neg hne]

theorem flatMap_shownFor (code : String) {current : Position} {first last n : Nat}
    (hpos : 1 ≤ current.line) (hle : current.line ≤ n) (hfirst : first = max 1 (current.line - 2))
    (hlast : last = min n (current.line + 2)) :
    (List.range' 1 n).flatMap (shownFor code current) =
      (List.range' first (current.line - first)).map (shownLine code current.line) ++
        shownLine code current.line current.line ::
          pointer ((gutter current.line current.line).length + current.byteOffset) ::
            (List.range' (current.line + 1) (last - current.line)).map
              (shownLine code current.line) := by
  have hcurrent : shownFor code current current.line = [shownLine code current.line current.line,
      pointer ((gutter current.line current.line).length + current.byteOffset)] := by
    rw [shownFor, if_neg (by omega), if_pos rfl]
  -- Nothing is shown of the numbers before and after the window.
  have hone : 1 ≤ first := by omega
  have hbelow : first ≤ current.line := by omega
  have habove : current.line ≤ last := by omega
  have hend : last ≤ n := by omega
  rw [range'_window hone hbelow habove hend]
  simp only [List.flatMap_append, List.flatMap_cons]
  rw [flatMap_shownFor_far, flatMap_shownFor_near, flatMap_shownFor_near, flatMap_shownFor_far,
    hcurrent]
  . simp
  all_goals
    intro number hnumber
    rw [List.mem_range'_1] at hnumber
    omega

theorem bytes_shownLine {line : List Char} {before after : List (List Char)}
    (h : lines code.toList = before ++ line :: after) (current : Nat) :
    bytes (shownLine code current (before.length + 1)) =
      bytes (gutter current (before.length + 1)) ++ encode line := by
  rw [← gutter_append, bytes_append, bytes_ofList, h, Nat.add_sub_cancel,
    List.getD_append_right _ _ _ _ (Nat.le_refl _), Nat.sub_self, List.getD_cons_zero]

theorem drop_bytes {line : List Char} {before after : List (List Char)} {b : Nat}
    (h : lines code.toList = before ++ line :: after) (hb : b ≤ size line) :
    ((bytes code).drop (size (terminated before) + b)).takeWhile (· ≠ '\n'.toUInt8) =
      (encode line).drop b := by
  have hcode : code.toList = _ := eq_append_of_lines_eq h
  have hmem : line ∈ lines code.toList := by simp [h]
  have hline : '\n' ∉ line := newline_not_mem_of_mem_lines hmem
  rw [bytes_eq_encode, hcode, encode_append, ← length_encode, List.drop_length_add_append]
  apply takeWhile_drop_encode hline hb
  cases after with
  | nil => rfl
  | cons next after => rfl

theorem bytes_pointer (column : Nat) : (bytes (pointer column))[column]? = some '^'.toUInt8 := by
  have hblank : String.utf8EncodeChar ' ' = [' '.toUInt8] := by decide
  have hspaces : encode (List.replicate column ' ') = List.replicate column ' '.toUInt8 := by
    induction column with
    | zero => rfl
    | succ column ih => rw [List.replicate_succ, encode_cons, ih, hblank]; rfl
  rw [pointer, bytes_append, bytes_ofList, hspaces, List.getElem?_append_right (by simp),
    List.length_replicate, Nat.sub_self]
  decide

/--
The lines around a place are those with numbers up to two less or two more, with their numbers and
contents, and the line of the place is marked. Behind it comes the pointer, which stands where this
line shows the byte at the place, and at its end if there is a line feed or nothing at the place: to
its right the line shows what is between the place and the next line feed.
-/
theorem contextLines_point_at_byte (h : offset ≤ code.utf8ByteSize) :
    let lines := splitLines code
    let current := 1 + ((bytes code).take offset).count '\n'.toUInt8
    let first := max 1 (current - 2)
    let last := min lines.length (current + 2)
    let shown (number : Nat) : String :=
      (if number = current then "  > " else "    ") ++ toString number ++ " | " ++
        lines.getD (number - 1) ""
    current ≤ lines.length ∧ ∃ pointer column,
      (Location.mk code offset).contextLines =
        (List.range' first (current - first)).map shown ++ shown current :: pointer ::
          (List.range' (current + 1) (last - current)).map shown ∧
      pointer = String.ofList (List.replicate column ' ') ++ "^--- here" ∧
      (bytes pointer)[column]? = some '^'.toUInt8 ∧
      column ≤ (bytes (shown current)).length ∧
      (bytes (shown current)).drop column =
        ((bytes code).drop offset).takeWhile (· ≠ '\n'.toUInt8) ∧
      (bytes (shown current))[column]? = (bytes code)[offset]?.filter (· ≠ '\n'.toUInt8) := by
  obtain ⟨before, line, after, b, hlines, hb, hoffset, hposition⟩ := exists_lines_eq h
  obtain ⟨hpos, hle, -⟩ := (position_isIn h).1
  have hcontext := flatMap_shownFor code hpos hle rfl rfl
  rw [← contextLines_eq_flatMap] at hcontext
  rw [← line_position]
  rw [hposition] at hcontext hle ⊢
  intro lines current first last shown
  have hwidth : (gutter current current).length = (bytes (gutter current current)).length := by
    rw [length_bytes, utf8ByteSize_gutter]
  have hshown : bytes (shown current) = bytes (gutter current current) ++ encode line :=
    bytes_shownLine hlines current
  have hdrop : (bytes (shown current)).drop ((gutter current current).length + b) =
      ((bytes code).drop offset).takeWhile (· ≠ '\n'.toUInt8) := by
    rw [hshown, hwidth, List.drop_length_add_append, hoffset, drop_bytes hlines hb]
  refine ⟨hle, _, _, hcontext, rfl, bytes_pointer _, ?_, hdrop, ?_⟩
  . rw [hshown, List.length_append, length_encode, hwidth]
    exact Nat.add_le_add_left hb _
  -- The byte at the place is the first of what is to the right of the pointer.
  . have hhead := congrArg List.head? hdrop
    rwa [List.head?_takeWhile, List.head?_drop, List.head?_drop] at hhead

theorem contextLines_point_at_byte_middle :
    let code := "a\nb\nc\né<\ne\nf\ng"
    8 ≤ code.utf8ByteSize ∧ ∃ pointer column,
      (Location.mk code 8).contextLines =
        ["    2 | b", "    3 | c", "  > 4 | é<", pointer, "    5 | e", "    6 | f"] ∧
      pointer = String.ofList (List.replicate column ' ') ++ "^--- here" ∧
      (bytes "  > 4 | é<")[column]? = some '<'.toUInt8 := by
  intro code
  have h : 8 ≤ code.utf8ByteSize := by decide
  have hlines : splitLines code = ["a", "b", "c", "é<", "e", "f", "g"] := by
    rw [splitLines_eq]
    decide
  have hcount : ((bytes code).take 8).count '\n'.toUInt8 = 3 := by decide
  obtain ⟨-, pointer, column, hcontext, hpointer, -, -, -, hbyte⟩ := contextLines_point_at_byte h
  rw [hlines, hcount] at hcontext hbyte
  exact ⟨h, pointer, column, hcontext, hpointer, hbyte⟩

end Location
end Waymark
