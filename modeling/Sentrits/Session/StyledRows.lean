import Sentrits.Session.CellText

/-!
# Rows that are drawn with their style

A row is drawn cell by cell, with an escape sequence where the style changes. The library keeps a
character that is two columns wide in one cell and marks the cell behind it as a gap; the loops
leave out cells without width, which a gap is not.

* `styledRow`, `buildStyledVisibleRow`: a row with its escape sequences.
* `shownText_styledRow`: what is shown of a row is the text of the cells that have a width.
* `LibvtermRow`: a row as the library keeps it.
* `renderedOnce_iff`: **every character of a row is written once exactly when** none is two columns
  wide.

Source: `src/session/terminal_multiplexer.cpp`.
-/

namespace Sentrits.Session

open Found Found.Bytes

/-! ### Styles -/

/-- Source: `terminal_multiplexer.cpp` `HasAnyStyle`. -/
def hasAnyStyle (cell : VTermScreenCell) : Bool :=
  cell.attrs.bold || cell.attrs.underline != .off || cell.attrs.italic || cell.attrs.blink ||
    cell.attrs.reverse || cell.attrs.conceal || cell.attrs.strike || !cell.fg.defaultFg ||
    !cell.bg.defaultBg

/-- Source: `terminal_multiplexer.cpp` `SameStyle`. -/
def sameStyle (left right : VTermScreenCell) : Bool :=
  left.attrs.bold == right.attrs.bold && left.attrs.underline == right.attrs.underline &&
    left.attrs.italic == right.attrs.italic && left.attrs.blink == right.attrs.blink &&
    left.attrs.reverse == right.attrs.reverse && left.attrs.conceal == right.attrs.conceal &&
    left.attrs.strike == right.attrs.strike && left.fg == right.fg && left.bg == right.bg

/-- A number in decimal. -/
def numberText (value : ℕ) : Bytes := utf8 (toString value)

/-- Source: `terminal_multiplexer.cpp` `AppendColorSgr`. -/
def appendColorSgr (color : VTermColor) (foreground : Bool) : Bytes :=
  if (foreground && color.defaultFg) || (!foreground && color.defaultBg) then []
  else
    match color.value with
    | .indexed idx => utf8 (if foreground then ";38;5;" else ";48;5;") ++ numberText idx.toNat
    | .rgb red green blue =>
        utf8 (if foreground then ";38;2;" else ";48;2;") ++ numberText red.toNat ++ utf8 ";" ++
          numberText green.toNat ++ utf8 ";" ++ numberText blue.toNat

/-- Source: the `switch` of `terminal_multiplexer.cpp` `AppendFullStyleSgr`. -/
def underlineSgr : Underline → Bytes
  | .off => []
  | .single => utf8 ";4"
  | .double => utf8 ";21"
  | .curly => utf8 ";4:3"

/-- The parameters of the sequence that sets the style of a cell. -/
def styleParameters (cell : VTermScreenCell) : Bytes :=
  utf8 "0" ++ (if cell.attrs.bold then utf8 ";1" else []) ++
    (if cell.attrs.italic then utf8 ";3" else []) ++ underlineSgr cell.attrs.underline ++
    (if cell.attrs.blink then utf8 ";5" else []) ++
    (if cell.attrs.reverse then utf8 ";7" else []) ++
    (if cell.attrs.conceal then utf8 ";8" else []) ++
    (if cell.attrs.strike then utf8 ";9" else []) ++ appendColorSgr cell.fg true ++
    appendColorSgr cell.bg false

/-- Source: `terminal_multiplexer.cpp` `AppendFullStyleSgr`. -/
def appendFullStyleSgr (cell : VTermScreenCell) : Bytes :=
  csi "" ++ styleParameters cell ++ utf8 "m"

/-- The sequence that takes all styles back. -/
def resetSgr : Bytes := csi "0m"

/-! ### Rows -/

/-- What a row is put together from: sequences that set a style, and text. -/
inductive RowPiece
  | sgr (bytes : Bytes)
  | text (bytes : Bytes)
  deriving DecidableEq

/-- The bytes of a piece. -/
def RowPiece.bytes : RowPiece → Bytes
  | .sgr bytes => bytes
  | .text bytes => bytes

/-- What a terminal shows of a piece. -/
def RowPiece.shown : RowPiece → Bytes
  | .sgr _ => []
  | .text bytes => bytes

/-- The bytes of a row. -/
def rowBytes (pieces : List RowPiece) : Bytes := pieces.flatMap RowPiece.bytes

/-- What a terminal shows of a row. -/
def shownText (pieces : List RowPiece) : Bytes := pieces.flatMap RowPiece.shown

/-- What is written where the style changes. -/
def styleChange (active : Option VTermScreenCell) (cell : VTermScreenCell) : List RowPiece :=
  if hasAnyStyle cell then [.sgr (appendFullStyleSgr cell)]
  else if active.isSome then [.sgr resetSgr]
  else []

/-- The loop of `BuildStyledVisibleRow` over the cells it reads; the cell is the one whose style is
active, if there is one yet. -/
def styledLoop : Option VTermScreenCell → List VTermScreenCell → List RowPiece
  | active, [] => if active.isSome then [.sgr resetSgr] else []
  | active, cell :: cells =>
      if cell.width = 0 then styledLoop active cells
      else if active.any (sameStyle · cell) then .text (cellText cell) :: styledLoop active cells
      else styleChange active cell ++ .text (cellText cell) :: styledLoop (some cell) cells

/-- The cells of a row as they are drawn. -/
def styledRow (cells : List VTermScreenCell) : List RowPiece := styledLoop none cells

namespace Multiplexer

variable {σ : Type}

/-- The cells of a row of the screen. -/
def rowCells (v : VTerm σ) (m : Multiplexer σ) (row : ℕ) : List VTermScreenCell :=
  (List.range m.terminalSize.columns.toNat).map (v.cell m.screen row)

/-- The pieces of a row between two columns. -/
def styledVisibleRow (v : VTerm σ) (m : Multiplexer σ) (rowIndex startColumn maxColumns : ℕ) :
    List RowPiece :=
  if m.terminalSize.rows.toNat ≤ rowIndex ∨ maxColumns = 0 then []
  else
    let endColumn := min m.terminalSize.columns.toNat (startColumn + maxColumns)
    styledRow
      ((List.range' startColumn (endColumn - startColumn)).map (v.cell m.screen rowIndex))

/-- Source: `terminal_multiplexer.cpp` `TerminalMultiplexer::Impl::BuildStyledVisibleRow`. -/
def buildStyledVisibleRow (v : VTerm σ) (m : Multiplexer σ) (rowIndex startColumn maxColumns : ℕ) :
    Bytes :=
  rowBytes (styledVisibleRow v m rowIndex startColumn maxColumns)

/-- What is drawn of a row of the screen are its cells from the first column on. -/
theorem styledVisibleRow_eq (v : VTerm σ) {m : Multiplexer σ} {rowIndex : ℕ}
    (hrow : rowIndex < m.terminalSize.rows.toNat) (startColumn maxColumns : ℕ) :
    styledVisibleRow v m rowIndex startColumn maxColumns =
      styledRow (((rowCells v m rowIndex).drop startColumn).take maxColumns) := by
  have hcells : ((rowCells v m rowIndex).drop startColumn).take maxColumns =
      (List.range' startColumn
        (min m.terminalSize.columns.toNat (startColumn + maxColumns) - startColumn)).map
          (v.cell m.screen rowIndex) := by
    unfold rowCells
    rw [← List.map_drop, ← List.map_take, List.range_eq_range', List.drop_range', Nat.mul_one,
      Nat.zero_add]
    rcases le_total maxColumns (m.terminalSize.columns.toNat - startColumn) with hle | hle
    · rw [List.take_range'_of_length_ge hle]
      congr 2
      omega
    · rw [List.take_range'_of_length_le hle]
      congr 2
      omega
  unfold styledVisibleRow
  rw [hcells]
  split_ifs with hnone
  · have hzero : min m.terminalSize.columns.toNat (startColumn + maxColumns) - startColumn = 0 := by
      omega
    rw [hzero]
    rfl
  · rfl

end Multiplexer

/-! ### What is shown -/

/-- What two pieces show, one after the other. -/
theorem shownText_append (front back : List RowPiece) :
    shownText (front ++ back) = shownText front ++ shownText back := by
  exact List.flatMap_append

/-- A change of style shows nothing. -/
theorem shownText_styleChange (active : Option VTermScreenCell) (cell : VTermScreenCell) :
    shownText (styleChange active cell) = [] := by
  unfold styleChange
  split_ifs <;> rfl

/-- **A styled row shows the characters of the row.** -/
theorem shownText_styledLoop (active : Option VTermScreenCell) (cells : List VTermScreenCell) :
    shownText (styledLoop active cells) = encode (rowChars cells) := by
  induction cells generalizing active with
  | nil =>
      unfold styledLoop
      split_ifs <;> rfl
  | cons cell cells ih =>
      have hcons : rowChars (cell :: cells) = rowChars [cell] ++ rowChars cells :=
        rowChars_append [cell] cells
      have htext : ∀ pieces, shownText (.text (cellText cell) :: pieces) =
          cellText cell ++ shownText pieces := fun _ => List.flatMap_cons
      unfold styledLoop
      rw [hcons, encode_append]
      by_cases hwidth : cell.width = 0
      · have hnone : rowChars [cell] = [] := by simp [rowChars, hwidth]
        rw [if_pos hwidth, ih, hnone]
        rfl
      · have hone : rowChars [cell] = cellChars cell := by simp [rowChars, hwidth]
        rw [if_neg hwidth, hone, ← cellText_eq]
        split_ifs
        · rw [htext, ih]
        · rw [shownText_append, shownText_styleChange, htext, ih, List.nil_append]

/-- **What is shown of a row** is the text of the cells that have a width. -/
theorem shownText_styledRow (cells : List VTermScreenCell) :
    shownText (styledRow cells) = encode (rowChars cells) := by
  exact shownText_styledLoop none cells

/-! ### Characters that are two columns wide -/

/-- What the library puts into the cell behind a wide character. -/
def gapMark : UInt32 := 0xffffffff

/-- The cell is the gap behind a wide character. -/
def IsGap (cell : VTermScreenCell) : Prop := cell.chars.head? = some gapMark ∧ cell.width = 1

instance (cell : VTermScreenCell) : Decidable (IsGap cell) := by
  unfold IsGap
  infer_instance

/-- A row as the library keeps it: a character that is two columns wide has a gap behind it. -/
inductive LibvtermRow : List VTermScreenCell → Prop
  | nil : LibvtermRow []
  | narrow {cell : VTermScreenCell} {cells : List VTermScreenCell} (hwidth : cell.width = 1)
      (hgap : ¬IsGap cell) (hrest : LibvtermRow cells) : LibvtermRow (cell :: cells)
  | wide {cell gap : VTermScreenCell} {cells : List VTermScreenCell} (hwidth : cell.width = 2)
      (hgap : IsGap gap) (hrest : LibvtermRow cells) : LibvtermRow (cell :: gap :: cells)

/-- The text of a row: of each cell but the gaps. -/
def ordinaryText (cells : List VTermScreenCell) : Bytes :=
  (cells.filter fun cell => ¬IsGap cell).flatMap cellText

/-- The line of the row has the characters of every cell once and in order, one blank for an empty
cell and nothing for a gap; it has no blanks at its end. -/
def LineRenderedOnce (cells : List VTermScreenCell) : Prop :=
  cellsToUtf8Line cells = (ordinaryText cells).rdropWhile (· == 0x20)

/-- The row as it is drawn shows the characters of every cell once and in order, one blank for an
empty cell and nothing for a gap. -/
def DrawnOnce (cells : List VTermScreenCell) : Prop :=
  shownText (styledRow cells) = ordinaryText cells

/-- How many bytes are not blanks. -/
def inked (bs : Bytes) : ℕ := bs.countP (· != 0x20)

/-- The bytes that are seen add up. -/
theorem inked_append (front back : Bytes) : inked (front ++ back) = inked front + inked back := by
  exact List.countP_append

/-- Blanks at the end do not count. -/
theorem inked_rdropWhile (bs : Bytes) : inked (bs.rdropWhile (· == 0x20)) = inked bs := by
  have hblank : inked (bs.rtakeWhile (· == 0x20)) = 0 := by
    unfold inked
    rw [List.countP_eq_zero]
    intro b hb
    have hblank := List.mem_rtakeWhile_imp hb
    simpa using hblank
  calc inked (bs.rdropWhile (· == 0x20))
      = inked (bs.rdropWhile (· == 0x20)) + inked (bs.rtakeWhile (· == 0x20)) := by
        rw [hblank, Nat.add_zero]
    _ = inked bs := by rw [← inked_append, List.rdropWhile_append_rtakeWhile]

/-- A cell is narrow or wide. -/
theorem LibvtermRow.cases_width {cells : List VTermScreenCell} (h : LibvtermRow cells) :
    ∀ cell ∈ cells, cell.width = 1 ∨ cell.width = 2 := by
  induction h with
  | nil => exact fun cell hcell => absurd hcell List.not_mem_nil
  | narrow hwidth _ _ ih =>
      rw [List.forall_mem_cons]
      exact ⟨Or.inl hwidth, ih⟩
  | wide hwidth hgap _ ih =>
      rw [List.forall_mem_cons, List.forall_mem_cons]
      exact ⟨Or.inr hwidth, Or.inl hgap.2, ih⟩

/-- What is written of a gap is seen. -/
theorem inked_cellText_gap {gap : VTermScreenCell} (h : IsGap gap) : 0 < inked (cellText gap) := by
  obtain ⟨codepoints, hchars⟩ := List.head?_eq_some_iff.mp h.1
  have htext : cellText gap =
      appendUtf8 gapMark ++ (codepoints.takeWhile (· ≠ 0)).flatMap appendUtf8 := by
    unfold cellText
    rw [hchars, List.takeWhile_cons_of_pos (by decide)]
    rfl
  have hmark : inked (appendUtf8 gapMark) = 3 := by decide
  rw [htext, inked_append, hmark]
  omega

/-- The first cell comes first. -/
theorem rowChars_cons {cell : VTermScreenCell} (h : cell.width ≠ 0) (cells : List VTermScreenCell) :
    encode (rowChars (cell :: cells)) = cellText cell ++ encode (rowChars cells) := by
  have hone : rowChars [cell] = cellChars cell := by simp [rowChars, h]
  rw [← List.singleton_append, rowChars_append, encode_append, hone, cellText_eq]

/-- The first cell comes first in the text of a row. -/
theorem ordinaryText_cons {cell : VTermScreenCell} (h : ¬IsGap cell)
    (cells : List VTermScreenCell) :
    ordinaryText (cell :: cells) = cellText cell ++ ordinaryText cells := by
  unfold ordinaryText
  rw [List.filter_cons_of_pos (by simpa using h), List.flatMap_cons]

/-- A gap has no text. -/
theorem ordinaryText_gap {gap : VTermScreenCell} (h : IsGap gap) (cells : List VTermScreenCell) :
    ordinaryText (gap :: cells) = ordinaryText cells := by
  unfold ordinaryText
  rw [List.filter_cons_of_neg (by simpa using h)]

/-- Without wide characters, what is written is the text of the row. -/
theorem encode_rowChars_of_narrow {cells : List VTermScreenCell} (h : LibvtermRow cells)
    (hnarrow : ∀ cell ∈ cells, cell.width ≠ 2) : encode (rowChars cells) = ordinaryText cells := by
  induction h with
  | nil => rfl
  | narrow hwidth hgap _ ih =>
      rw [List.forall_mem_cons] at hnarrow
      rw [rowChars_cons (by omega), ordinaryText_cons hgap, ih hnarrow.2]
  | wide hwidth _ _ _ =>
      rw [List.forall_mem_cons] at hnarrow
      exact absurd hwidth hnarrow.1

/-- At least a mark is written for each gap. -/
theorem inked_ordinaryText_lt {cells : List VTermScreenCell} (h : LibvtermRow cells) :
    inked (ordinaryText cells) ≤ inked (encode (rowChars cells)) ∧
      ((∃ cell ∈ cells, cell.width = 2) →
        inked (ordinaryText cells) < inked (encode (rowChars cells))) := by
  induction h with
  | nil =>
      refine ⟨le_refl _, ?_⟩
      rintro ⟨cell, hcell, -⟩
      exact absurd hcell List.not_mem_nil
  | narrow hwidth hgap _ ih =>
      rw [rowChars_cons (by omega), ordinaryText_cons hgap, inked_append, inked_append]
      refine ⟨Nat.add_le_add_left ih.1 _, ?_⟩
      rintro ⟨cell', hcell', hwide⟩
      rcases List.mem_cons.mp hcell' with rfl | hcell'
      · omega
      · exact Nat.add_lt_add_left (ih.2 ⟨cell', hcell', hwide⟩) _
  | wide hwidth hgap _ ih =>
      have hordinary : ¬IsGap _ := fun hgap' => absurd (hwidth.symm.trans hgap'.2) (by decide)
      have hink := inked_cellText_gap hgap
      have hgapWidth := hgap.2
      rw [rowChars_cons (by omega), rowChars_cons (by omega), ordinaryText_cons hordinary,
        ordinaryText_gap hgap, inked_append, inked_append, inked_append]
      omega

/-- **Every character of a row is written once exactly when** none is two columns wide, in the line
of the row and in the row as it is drawn. -/
theorem renderedOnce_iff {cells : List VTermScreenCell} (h : LibvtermRow cells) :
    (LineRenderedOnce cells ↔ ∀ cell ∈ cells, cell.width ≠ 2) ∧
      (DrawnOnce cells ↔ ∀ cell ∈ cells, cell.width ≠ 2) := by
  unfold LineRenderedOnce DrawnOnce
  rw [cellsToUtf8Line_eq, ← rdropWhile_encode, shownText_styledRow]
  obtain ⟨-, hlt⟩ := inked_ordinaryText_lt h
  refine ⟨⟨fun heq cell hcell hwide => ?_, fun hnarrow => ?_⟩,
    ⟨fun heq cell hcell hwide => ?_, fun hnarrow => encode_rowChars_of_narrow h hnarrow⟩⟩
  · have hsame := congrArg inked heq
    rw [inked_rdropWhile, inked_rdropWhile] at hsame
    exact absurd hsame.symm (hlt ⟨cell, hcell, hwide⟩).ne
  · rw [encode_rowChars_of_narrow h hnarrow]
  · exact absurd (congrArg inked heq).symm (hlt ⟨cell, hcell, hwide⟩).ne

/-- A character that is two columns wide, with its gap. -/
def wideCells : List VTermScreenCell := [{ chars := [0x4e16], width := 2 }, { chars := [gapMark] }]

/-- The row of the example is one of libvterm. -/
theorem libvtermRow_wideCells : LibvtermRow wideCells := by
  exact .wide rfl (by decide) .nil

/-- A row of two characters that are one column wide has each of them once; with a wide character
behind them it has not. -/
theorem renderedOnce_iff_wide :
    (LineRenderedOnce [{ chars := [0x61] }, {}] ∧ DrawnOnce [{ chars := [0x61] }, {}]) ∧
      ¬LineRenderedOnce ({ chars := [0x61] } :: {} :: wideCells) ∧
      ¬DrawnOnce ({ chars := [0x61] } :: {} :: wideCells) := by
  have hrow : LibvtermRow [{ chars := [0x61] }, {}] :=
    .narrow rfl (by decide) (.narrow rfl (by decide) .nil)
  have hwide : LibvtermRow ({ chars := [0x61] } :: {} :: wideCells) :=
    .narrow rfl (by decide) (.narrow rfl (by decide) libvtermRow_wideCells)
  have hwidth : ¬∀ cell ∈ ({ chars := [0x61] } :: {} :: wideCells : List VTermScreenCell),
      cell.width ≠ 2 := by decide
  obtain ⟨hline, hdrawn⟩ := renderedOnce_iff hrow
  obtain ⟨hline', hdrawn'⟩ := renderedOnce_iff hwide
  exact ⟨⟨hline.mpr (by simp), hdrawn.mpr (by simp)⟩, mt hline'.mp hwidth, mt hdrawn'.mp hwidth⟩

/-- A wide character has a replacement character written behind it. -/
theorem wideCharacter_notOnce :
    ¬∀ cells, LibvtermRow cells → LineRenderedOnce cells ∧ DrawnOnce cells := by
  intro h
  have hline := (h wideCells libvtermRow_wideCells).1
  have hink := congrArg inked hline
  exact absurd hink (by decide)

end Sentrits.Session
