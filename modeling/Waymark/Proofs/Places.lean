import Mathlib.Algebra.GroupWithZero.Nat
import Mathlib.Data.List.GetD
import Waymark.Location
import Waymark.Proofs.Utf8

/-!
This module contains the positions of a text and the offsets that they stand for.
`Location.position_decomposes` says that lines and byte offsets on them are a way to write the
offsets of a text down: each offset has one position, no two have the same, and they are in the same
order.
-/

namespace Waymark

namespace Text

def splitLines (text : String) : List String :=
  (text.split '\n').toList.map String.Slice.copy

theorem splitLines_eq (text : String) :
    splitLines text = (lines text.toList).map String.ofList := by
  rw [splitLines, String.toList_split_char, lines_eq_splitOn]

def terminated (lines : List (List Char)) : List Char :=
  lines.flatMap (· ++ ['\n'])

theorem terminated_cons (line : List Char) (lines : List (List Char)) :
    terminated (line :: lines) = line ++ '\n' :: terminated lines := by
  simp [terminated]

theorem size_terminated (lines : List (List Char)) :
    size (terminated lines) = (lines.map (size · + 1)).sum := by
  induction lines with
  | nil => rfl
  | cons line lines ih =>
    rw [terminated_cons, size_append, size_cons, ih, utf8Size_newline, List.map_cons,
      List.sum_cons]
    omega

theorem intercalate_newline_cons (line : List Char) (after : List (List Char)) :
    ['\n'].intercalate (line :: after) = line ++ after.flatMap ('\n' :: ·) := by
  induction after generalizing line with
  | nil => simp
  | cons next after ih =>
    rw [List.intercalate_cons_cons, ih, List.flatMap_cons]
    simp

theorem intercalate_newline_append (before : List (List Char)) (line : List Char)
    (after : List (List Char)) :
    ['\n'].intercalate (before ++ line :: after) =
      terminated before ++ (line ++ after.flatMap ('\n' :: ·)) := by
  induction before with
  | nil => simp [terminated, intercalate_newline_cons]
  | cons first before ih =>
    rw [List.cons_append, List.intercalate_cons_of_ne_nil (by simp), ih, terminated_cons]
    simp

variable {cs line : List Char} {before after : List (List Char)}

theorem eq_append_of_lines_eq (h : lines cs = before ++ line :: after) :
    cs = terminated before ++ (line ++ after.flatMap ('\n' :: ·)) := by
  rw [← intercalate_newline_append, ← h, lines_eq_splitOn, List.intercalate_splitOn]

theorem exists_eq_append {lines : List (List Char)} (hne : lines ≠ []) {n : Nat}
    (h : n ≤ size (['\n'].intercalate lines)) :
    ∃ before line after b, lines = before ++ line :: after ∧ b ≤ size line ∧
      n = size (terminated before) + b := by
  induction lines generalizing n with
  | nil => exact absurd rfl hne
  | cons line after ih =>
    by_cases hline : n ≤ size line
    . exact ⟨[], line, after, n, rfl, hline, by simp [terminated]⟩
    -- Past the first line there is its line feed, so another line follows that has the offset.
    . have hafter : after ≠ [] := by
        rintro rfl
        rw [List.intercalate_singleton] at h
        exact hline h
      rw [List.intercalate_cons_of_ne_nil hafter, size_append, size_append, size_cons, size_nil,
        utf8Size_newline] at h
      have hle : n - (size line + 1) ≤ size (['\n'].intercalate after) := by omega
      obtain ⟨before, line', after', b, rfl, hb, hn⟩ := ih hafter hle
      refine ⟨line :: before, line', after', b, rfl, hb, ?_⟩
      rw [terminated_cons, size_append, size_cons, utf8Size_newline]
      omega

theorem exists_lines_eq {n : Nat} (h : n ≤ size cs) :
    ∃ before line after b, lines cs = before ++ line :: after ∧ b ≤ size line ∧
      n = size (terminated before) + b := by
  apply exists_eq_append (lines_ne_nil cs)
  rwa [lines_eq_splitOn, List.intercalate_splitOn]

end Text

namespace Position

open Text

structure IsIn (p : Position) (lines : List String) : Prop where
  one_le_line : 1 ≤ p.line
  line_le : p.line ≤ lines.length
  byteOffset_le : p.byteOffset ≤ (lines.getD (p.line - 1) "").utf8ByteSize

def offsetIn (p : Position) (lines : List String) : Nat :=
  ((lines.take (p.line - 1)).map (·.utf8ByteSize + 1)).sum + p.byteOffset

section Order

variable {p q : Position} {lines : List String}

theorem IsIn.offsetIn_lt (hp : p.IsIn lines) (h : p.line < q.line) :
    p.offsetIn lines < q.offsetIn lines := by
  obtain ⟨hline, hle, hoffset⟩ := hp
  have hlt : p.line - 1 < lines.length := by omega
  rw [List.getD_eq_getElem _ _ hlt] at hoffset
  -- The lines before that of `q` begin with those before that of `p` and the line of `p` itself.
  have htake : lines.take (q.line - 1) = lines.take (p.line - 1) ++ lines[p.line - 1] ::
      (lines.drop p.line).take (q.line - p.line - 1) := by
    have hq : q.line - 1 = (p.line - 1) + (q.line - p.line - 1 + 1) := by omega
    have hp : p.line - 1 + 1 = p.line := by omega
    rw [hq, List.take_add, List.drop_eq_getElem_cons hlt, List.take_succ_cons, hp]
  unfold offsetIn
  rw [htake, List.map_append, List.sum_append, List.map_cons, List.sum_cons]
  omega

theorem IsIn.offsetIn_lt_iff (hp : p.IsIn lines) (hq : q.IsIn lines) :
    p.offsetIn lines < q.offsetIn lines ↔
      p.line < q.line ∨ p.line = q.line ∧ p.byteOffset < q.byteOffset := by
  rcases Nat.lt_trichotomy p.line q.line with h | h | h
  . have := hp.offsetIn_lt h
    omega
  . unfold offsetIn
    rw [h]
    omega
  . have := hq.offsetIn_lt h
    omega

end Order

section Lines

variable {p : Position} {code : String} {line : List Char} {before after : List (List Char)}

theorem isIn_splitLines (h : lines code.toList = before ++ line :: after)
    (hline : p.line = before.length + 1) (hoffset : p.byteOffset ≤ size line) :
    p.IsIn (splitLines code) ∧
      p.offsetIn (splitLines code) = size (terminated before) + p.byteOffset := by
  have hlines : splitLines code =
      before.map String.ofList ++ String.ofList line :: after.map String.ofList := by
    rw [splitLines_eq, h, List.map_append, List.map_cons]
  have hindex : p.line - 1 = (before.map String.ofList).length := by
    rw [List.length_map]
    omega
  refine ⟨⟨?_, ?_, ?_⟩, ?_⟩
  . omega
  . rw [hlines, List.length_append, List.length_cons]
    omega
  . rw [hlines, hindex, List.getD_append_right _ _ _ _ (Nat.le_refl _), Nat.sub_self,
      List.getD_cons_zero, utf8ByteSize_ofList]
    exact hoffset
  . rw [offsetIn, hlines, hindex, List.take_left, List.map_map, size_terminated]
    simp [Function.comp_def, utf8ByteSize_ofList]

theorem IsIn.exists_lines_eq (h : p.IsIn (splitLines code)) :
    ∃ before line after, lines code.toList = before ++ line :: after ∧
      p.line = before.length + 1 ∧ p.byteOffset ≤ size line := by
  obtain ⟨hline, hle, hoffset⟩ := h
  rw [splitLines_eq, List.length_map] at hle
  have hlt : p.line - 1 < (lines code.toList).length := by omega
  rw [splitLines_eq, ← String.ofList_nil, List.getD_map, List.getD_eq_getElem _ _ hlt,
    utf8ByteSize_ofList] at hoffset
  refine ⟨(lines code.toList).take (p.line - 1), (lines code.toList)[p.line - 1],
    (lines code.toList).drop (p.line - 1 + 1), ?_, ?_, hoffset⟩
  . rw [List.getElem_cons_drop, List.take_append_drop]
  . rw [List.length_take]
    omega

end Lines

section Advance

variable {line rest : List Char} {n : Nat}

theorem advance_of_le_size (hline : '\n' ∉ line) (hn : n ≤ size line) (start : Position) :
    start.advance n (line ++ rest) = ⟨start.line, start.byteOffset + n⟩ := by
  induction line generalizing n start with
  | nil =>
    obtain rfl := Nat.eq_zero_of_le_zero hn
    rw [List.nil_append]
    cases rest with
    | nil => rfl
    | cons c cs => rw [advance, if_pos c.utf8Size_pos]
  | cons c cs ih =>
    rw [List.cons_append, advance]
    split
    . rfl
    . obtain ⟨hc, hcs⟩ := List.ne_and_not_mem_of_not_mem_cons hline
      rw [size_cons] at hn
      rw [if_neg hc.symm, ih hcs (by omega)]
      dsimp only
      congr 1
      omega

theorem advance_newline (hline : '\n' ∉ line) (start : Position) :
    start.advance (size line + 1 + n) (line ++ '\n' :: rest) =
      advance ⟨start.line + 1, 0⟩ n rest := by
  induction line generalizing start with
  | nil =>
    have hpassed : ¬size [] + 1 + n < '\n'.utf8Size := by
      rw [utf8Size_newline]
      omega
    rw [List.nil_append, advance, if_neg hpassed, if_pos rfl, utf8Size_newline, size_nil]
    congr 1
    omega
  | cons c cs ih =>
    obtain ⟨hc, hcs⟩ := List.ne_and_not_mem_of_not_mem_cons hline
    have hsize : size (c :: cs) + 1 + n - c.utf8Size = size cs + 1 + n := by
      rw [size_cons]
      omega
    have hpassed : ¬size (c :: cs) + 1 + n < c.utf8Size := by
      rw [size_cons]
      omega
    rw [List.cons_append, advance, if_neg hpassed, if_neg hc.symm, hsize, ih hcs]

theorem advance_terminated {before : List (List Char)} (hbefore : ∀ line ∈ before, '\n' ∉ line)
    (m : Nat) :
    advance ⟨m, 0⟩ (size (terminated before) + n) (terminated before ++ rest) =
      advance ⟨m + before.length, 0⟩ n rest := by
  induction before generalizing m with
  | nil => simp [terminated]
  | cons line before ih =>
    obtain ⟨hline, hrest⟩ := List.forall_mem_cons.mp hbefore
    have hsize : size (terminated (line :: before)) + n =
        size line + 1 + (size (terminated before) + n) := by
      rw [terminated_cons, size_append, size_cons, utf8Size_newline]
      omega
    rw [hsize, terminated_cons, List.append_assoc, List.cons_append, advance_newline hline,
      ih hrest, List.length_cons, Nat.add_assoc, Nat.add_comm 1]

theorem line_advance (start : Position) (n : Nat) (cs : List Char) :
    (start.advance n cs).line = start.line + ((encode cs).take n).count '\n'.toUInt8 := by
  induction cs generalizing start n with
  | nil => simp [advance]
  | cons c cs ih =>
    have hlength := String.length_utf8EncodeChar c
    rw [advance]
    split
    . next hn =>
      rw [encode_cons, List.take_append_of_le_length (by omega), count_newline_take_of_lt hn,
        Nat.add_zero]
    . next hn =>
      have htake : (encode (c :: cs)).take n =
          String.utf8EncodeChar c ++ (encode cs).take (n - c.utf8Size) := by
        rw [encode_cons, List.take_append, hlength, List.take_of_length_le (by omega)]
      rw [htake, List.count_append, count_newline_utf8EncodeChar]
      split
      . rw [ih, Nat.add_assoc]
      . rw [ih, Nat.zero_add]

end Advance

end Position

namespace Location

open Text

variable {code : String} {offset : Nat}

theorem position_of_lines_eq {line : List Char} {before after : List (List Char)} {b : Nat}
    (h : lines code.toList = before ++ line :: after) (hb : b ≤ size line) :
    (Location.mk code (size (terminated before) + b)).position = ⟨before.length + 1, b⟩ := by
  have hno (line : List Char) (hmem : line ∈ lines code.toList) : '\n' ∉ line :=
    newline_not_mem_of_mem_lines hmem
  rw [h] at hno
  have hbefore : ∀ line ∈ before, '\n' ∉ line := fun l hl => hno l (List.mem_append_left _ hl)
  have hline : '\n' ∉ line := hno line (by simp)
  have hcode : code.toList = _ := eq_append_of_lines_eq h
  rw [position, hcode, Position.advance_terminated hbefore, Position.advance_of_le_size hline hb]
  rw [Nat.add_comm 1, Nat.zero_add]

theorem exists_lines_eq (h : offset ≤ code.utf8ByteSize) :
    ∃ before line after b, lines code.toList = before ++ line :: after ∧ b ≤ size line ∧
      offset = size (terminated before) + b ∧
      (Location.mk code offset).position = ⟨before.length + 1, b⟩ := by
  rw [utf8ByteSize_eq_size] at h
  obtain ⟨before, line, after, b, hlines, hb, rfl⟩ := Text.exists_lines_eq h
  exact ⟨before, line, after, b, hlines, hb, rfl, position_of_lines_eq hlines hb⟩

theorem line_position (code : String) (offset : Nat) :
    (Location.mk code offset).position.line =
      1 + ((bytes code).take offset).count '\n'.toUInt8 := by
  rw [bytes_eq_encode]
  exact Position.line_advance ⟨1, 0⟩ offset code.toList

theorem position_isIn (h : offset ≤ code.utf8ByteSize) :
    (Location.mk code offset).position.IsIn (splitLines code) ∧
      (Location.mk code offset).position.offsetIn (splitLines code) = offset := by
  obtain ⟨before, line, after, b, hlines, hb, hoffset, hposition⟩ := exists_lines_eq h
  rw [hposition]
  obtain ⟨hin, hsum⟩ := Position.isIn_splitLines (p := ⟨before.length + 1, b⟩) hlines rfl hb
  exact ⟨hin, hsum.trans hoffset.symm⟩

theorem position_offsetIn {p : Position} (h : p.IsIn (splitLines code)) :
    p.offsetIn (splitLines code) ≤ code.utf8ByteSize ∧
      (Location.mk code (p.offsetIn (splitLines code))).position = p := by
  obtain ⟨before, line, after, hlines, hline, hb⟩ := h.exists_lines_eq
  obtain ⟨-, hoffset⟩ := Position.isIn_splitLines hlines hline hb
  rw [hoffset]
  constructor
  . have hcode : code.toList = _ := eq_append_of_lines_eq hlines
    rw [utf8ByteSize_eq_size, hcode, size_append, size_append]
    omega
  . rw [position_of_lines_eq hlines hb, ← hline]

/--
The position of an offset is one of the text and stands for this offset, and its line is numbered by
the line feeds before it. Every position of the text is that of the offset it stands for. So no two
offsets have one position, and a greater offset is on a later line or further on in the same line.
-/
theorem position_decomposes (h : offset ≤ code.utf8ByteSize) :
    let lines := splitLines code
    let place := (Location.mk code offset).position
    place.IsIn lines ∧ place.offsetIn lines = offset ∧
      place.line = 1 + ((bytes code).take offset).count '\n'.toUInt8 ∧
      (∀ p : Position, p.IsIn lines → p.offsetIn lines ≤ code.utf8ByteSize ∧
        (Location.mk code (p.offsetIn lines)).position = p) ∧
      ∀ offset' ≤ code.utf8ByteSize,
        let place' := (Location.mk code offset').position
        (place = place' ↔ offset = offset') ∧
          (offset < offset' ↔ place.line < place'.line ∨
            place.line = place'.line ∧ place.byteOffset < place'.byteOffset) := by
  intro lines place
  obtain ⟨hin, hoffset⟩ := position_isIn h
  refine ⟨hin, hoffset, line_position code offset, fun p hp => position_offsetIn hp, ?_⟩
  intro offset' h' place'
  obtain ⟨hin', hoffset'⟩ := position_isIn h'
  constructor
  . constructor
    . intro heq
      rw [← hoffset, ← hoffset']
      exact congrArg (·.offsetIn lines) heq
    . rintro rfl
      rfl
  . have hlt := hin.offsetIn_lt_iff hin'
    rwa [hoffset, hoffset'] at hlt

theorem position_decomposes_inside :
    let code := "a\n\né\n"
    let place := (Location.mk code 4).position
    4 ≤ code.utf8ByteSize ∧ 6 ≤ code.utf8ByteSize ∧ place = ⟨3, 1⟩ ∧
      place.offsetIn (splitLines code) = 4 ∧
      (4 < 6 ↔ place.line < (Location.mk code 6).position.line ∨
        place.line = (Location.mk code 6).position.line ∧
          place.byteOffset < (Location.mk code 6).position.byteOffset) := by
  intro code place
  have h : 4 ≤ code.utf8ByteSize := by decide
  have h' : 6 ≤ code.utf8ByteSize := by decide
  obtain ⟨-, hoffset, -, -, horder⟩ := position_decomposes h
  exact ⟨h, h', by decide, hoffset, (horder 6 h').2⟩

end Location
end Waymark
