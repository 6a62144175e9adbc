import Sentrits.Found.Utf8Cuts
import Sentrits.Session.TerminalMultiplexer

/-!
# The text of a row of cells

What is written of a cell are its code points as UTF-8, one blank if it has none; what is not a
Unicode scalar is written as the replacement character. So the text of a row is valid, whatever the
library puts into its cells.

* `appendUtf8_eq`: a code point is written as one character, or not at all.
* `cellChars`, `rowChars`: the characters of a cell and of a row.
* `cellsToUtf8Line_eq`: **the line of a row** is its characters without the blanks at its end.

Source: `src/session/terminal_multiplexer.cpp`.
-/

namespace Sentrits.Session

open Found Found.Bytes

/-! ### Code points -/

/-- The character that a code point is written as, if it is written. -/
def scalarChar (codepoint : UInt32) : Option Char :=
  let scalar := normalizeUnicodeScalar codepoint
  if scalar = 0 then none else some (Char.ofNat scalar.toNat)

/-- What a code point is taken for is a Unicode scalar. -/
theorem isValidChar_normalizeUnicodeScalar (codepoint : UInt32) :
    (normalizeUnicodeScalar codepoint).toNat.isValidChar := by
  unfold normalizeUnicodeScalar
  split_ifs with hzero hinvalid
  · exact Or.inl (by decide)
  · exact Or.inr (by decide)
  · simp only [not_or, not_and, gt_iff_lt, UInt32.lt_iff_toNat_lt, UInt32.le_iff_toNat_le]
      at hinvalid
    have hbig : codepoint.toNat ≤ 0x10ffff := by simpa using hinvalid.1
    have hsurrogate : 0xd800 ≤ codepoint.toNat → ¬codepoint.toNat ≤ 0xdfff := by
      simpa using hinvalid.2
    unfold Nat.isValidChar
    omega

/-- A normalised code point is a character. -/
theorem val_ofNat_normalizeUnicodeScalar (codepoint : UInt32) :
    (Char.ofNat (normalizeUnicodeScalar codepoint).toNat).val =
      normalizeUnicodeScalar codepoint := by
  have hvalid := isValidChar_normalizeUnicodeScalar codepoint
  unfold Char.ofNat
  rw [dif_pos hvalid]
  apply UInt32.toNat_inj.mp
  rfl

/-- **A code point is written as one character**, or not at all. -/
theorem appendUtf8_eq (codepoint : UInt32) :
    appendUtf8 codepoint = encode (scalarChar codepoint).toList := by
  unfold appendUtf8 scalarChar
  dsimp only
  by_cases hzero : normalizeUnicodeScalar codepoint = 0
  · rw [if_pos hzero, if_pos hzero]
    rfl
  · rw [if_neg hzero, if_neg hzero, Option.toList_some]
    have hval := val_ofNat_normalizeUnicodeScalar codepoint
    unfold encode
    rw [List.flatMap_singleton, String.utf8EncodeChar_eq_utf8EncodeCharFast]
    unfold String.utf8EncodeCharFast
    dsimp only
    rw [hval]
    split_ifs
    · rfl
    · simp [UInt8.or_comm]
    · simp [UInt8.or_comm]
    · simp [UInt8.or_comm]

/-! ### Cells -/

/-- What is written of a cell.
Source: the loop of `terminal_multiplexer.cpp` `CellsToUtf8Line` over the code points. -/
def cellText (cell : VTermScreenCell) : Bytes :=
  let chars := cell.chars.takeWhile (· ≠ 0)
  if chars = [] then [0x20] else chars.flatMap appendUtf8

/-- The characters of a cell. -/
def cellChars (cell : VTermScreenCell) : List Char :=
  let chars := cell.chars.takeWhile (· ≠ 0)
  if chars = [] then [' '] else chars.filterMap scalarChar

/-- What is written of a cell is its characters. -/
theorem cellText_eq (cell : VTermScreenCell) : cellText cell = encode (cellChars cell) := by
  unfold cellText cellChars
  dsimp only
  split_ifs
  · decide
  · induction cell.chars.takeWhile (· ≠ 0) with
    | nil => rfl
    | cons codepoint codepoints ih =>
        rw [List.flatMap_cons, ih, appendUtf8_eq]
        rcases hscalar : scalarChar codepoint with _ | ch
        · rw [List.filterMap_cons_none hscalar]
          rfl
        · rw [List.filterMap_cons_some hscalar, Option.toList_some, ← encode_append,
            List.singleton_append]

/-- The characters of a row; a cell without width has none. -/
def rowChars (cells : List VTermScreenCell) : List Char :=
  (cells.filter (·.width ≠ 0)).flatMap cellChars

/-- The characters of two parts of a row. -/
theorem rowChars_append (front back : List VTermScreenCell) :
    rowChars (front ++ back) = rowChars front ++ rowChars back := by
  unfold rowChars
  rw [List.filter_append, List.flatMap_append]

/-! ### The line of a row -/

/-- The characters without the blanks at their end. -/
def trimBlanks (chars : List Char) : List Char := chars.rdropWhile (· == ' ')

/-- The last byte of a character is a blank only if the character is. -/
theorem eq_blank_of_getLast? {ch : Char} (h : (String.utf8EncodeChar ch).getLast? = some 0x20) :
    ch = ' ' := by
  obtain ⟨front, hfront⟩ := List.getLast?_eq_some_iff.mp h
  obtain rfl := eq_nil_of_utf8EncodeChar (by decide) hfront
  have hencode : encode [ch] = encode [' '] := by
    unfold encode
    rw [List.flatMap_singleton, hfront]
    decide
  exact (List.cons.inj (encode_injective hencode)).1

/-- Blanks at the end of some text are blanks at the end of its bytes. -/
theorem rdropWhile_encode (chars : List Char) :
    (encode chars).rdropWhile (· == 0x20) = encode (trimBlanks chars) := by
  unfold trimBlanks
  induction chars using List.reverseRecOn with
  | nil => rfl
  | append_singleton chars ch ih =>
      rw [encode_append]
      by_cases hblank : ch = ' '
      · subst hblank
        have hbyte : encode [' '] = [0x20] := by decide
        rw [hbyte, List.rdropWhile_concat_pos _ _ _ (by decide),
          List.rdropWhile_concat_pos _ _ _ (by decide), ih]
      · rw [List.rdropWhile_concat_neg _ _ _ (by simpa using hblank), encode_append,
          List.rdropWhile_eq_self_iff]
        intro hne hlast
        have hlast' : (encode chars ++ encode [ch]).getLast? = some 0x20 := by
          rw [List.getLast?_eq_some_getLast hne]
          exact congrArg some (by simpa using hlast)
        have hencode : encode [ch] = String.utf8EncodeChar ch := List.flatMap_singleton _ _
        rw [hencode, List.getLast?_append_of_ne_nil _ String.utf8EncodeChar_ne_nil] at hlast'
        exact hblank (eq_blank_of_getLast? hlast')

/-- **The line of a row** is its characters without the blanks at its end. -/
theorem cellsToUtf8Line_eq (cells : List VTermScreenCell) :
    cellsToUtf8Line cells = encode (trimBlanks (rowChars cells)) := by
  rw [← rdropWhile_encode]
  unfold cellsToUtf8Line
  congr 1
  induction cells with
  | nil => rfl
  | cons cell cells ih =>
      have hcons : rowChars (cell :: cells) = rowChars [cell] ++ rowChars cells :=
        rowChars_append [cell] cells
      rw [List.flatMap_cons, ih, hcons, encode_append]
      congr 1
      unfold rowChars
      by_cases hwidth : cell.width = 0
      · rw [if_pos hwidth, List.filter_cons_of_neg (by simpa using hwidth)]
        rfl
      · rw [if_neg hwidth, List.filter_cons_of_pos (by simpa using hwidth)]
        exact (cellText_eq cell).trans (congrArg encode (List.flatMap_singleton _ _).symm)

/-- Two lines are the same text, apart from blanks at their ends. -/
def SameText (left right : Bytes) : Prop :=
  left.rdropWhile (· == 0x20) = right.rdropWhile (· == 0x20)

instance (left right : Bytes) : Decidable (SameText left right) :=
  inferInstanceAs (Decidable (_ = _))

/-- Two lines are the same text when they are so without the blanks at their ends. -/
theorem sameText_encode_iff {left right : List Char} :
    SameText (encode left) (encode right) ↔ trimBlanks left = trimBlanks right := by
  unfold SameText
  rw [rdropWhile_encode, rdropWhile_encode]
  exact ⟨encode_injective, congrArg encode⟩

/-- What is trimmed stays as it is. -/
theorem trimBlanks_trimBlanks (chars : List Char) :
    trimBlanks (trimBlanks chars) = trimBlanks chars := by
  exact List.rdropWhile_idempotent _ _

/-- The line of a row is text. -/
theorem isText_cellsToUtf8Line (cells : List VTermScreenCell) : IsText (cellsToUtf8Line cells) := by
  rw [cellsToUtf8Line_eq]
  exact isText_encode _

end Sentrits.Session
