import Sentrits.Found.Latin1
import Sentrits.Session.CellText

/-!
# Lines that come back from the scrollback

A line is pushed to the scrollback as UTF-8. When the screen wants it back, each byte of it becomes
the code point of a cell, so that what was one character is several.

* `onScrollbackPop`: the cells that are given back; `onCallback_popLine`: what is left.
* `rowChars_restoredCells`: they show the line read as Latin-1.
* `restores_iff`: **a line comes back as it was pushed exactly when** its text reads back.

Source: `src/session/terminal_multiplexer.cpp`.
-/

namespace Sentrits.Session

open Found Found.Bytes

/-! ### What comes back -/

/-- The cell that a byte of the line becomes; a blank behind the line. -/
def restoredCell (byte : Option UInt8) : VTermScreenCell where
  chars := [byte.elim 0x20 UInt8.toUInt32]
  width := 1
  attrs := {}
  fg := {}
  bg := {}

/-- The cells that a line becomes. -/
def restoredCells (line : Bytes) (cols : ℕ) : List VTermScreenCell :=
  (List.range cols).map fun col => restoredCell (line)[col]?

namespace Multiplexer

variable {σ : Type}

/-- What is written to the cells of a row, and what is left; nothing when there is no line.
Source: `terminal_multiplexer.cpp` `TerminalMultiplexer::Impl::OnScrollbackPop`. -/
def onScrollbackPop (m : Multiplexer σ) (cols : ℕ) :
    Option (List VTermScreenCell × Multiplexer σ) :=
  match m.scrollbackLines.getLast? with
  | none => none
  | some line =>
      some (restoredCells line cols,
        { m with scrollbackLines := m.scrollbackLines.dropLast, dirty := true })

/-- The callback leaves what is left when a line was taken. -/
theorem onCallback_popLine (m : Multiplexer σ) (cols : ℕ) :
    m.onCallback .popLine = ((m.onScrollbackPop cols).map Prod.snd).getD m := by
  unfold onCallback onScrollbackPop
  dsimp only
  split_ifs with hempty
  · rw [List.isEmpty_iff.mp hempty]
    rfl
  · rcases hlast : m.scrollbackLines.getLast? with _ | line
    · rw [List.getLast?_eq_none_iff] at hlast
      rw [hlast] at hempty
      exact absurd rfl hempty
    · rfl

/-- The last line is kept as long as any is. -/
theorem getLast?_evictFront {maxScrollbackLines : ℕ} (h : 0 < maxScrollbackLines)
    (lines : List Bytes) (line : Bytes) :
    (evictFront maxScrollbackLines (lines ++ [line])).getLast? = some line := by
  induction lines with
  | nil =>
      have hone : evictFront maxScrollbackLines [line] = [line] := by
        unfold evictFront
        rw [if_neg (by rw [List.length_singleton]; omega)]
      rw [List.nil_append, hone]
      rfl
  | cons first lines ih =>
      rw [List.cons_append, evictFront]
      split_ifs
      · exact ih
      · rw [← List.cons_append, List.getLast?_append_of_ne_nil _ (List.cons_ne_nil _ _)]
        rfl

/-- What comes back is the line that was pushed last, if lines are kept. -/
theorem onScrollbackPop_pushLine (m : Multiplexer σ) (cells : List VTermScreenCell) (cols : ℕ) :
    ((m.onCallback (.pushLine cells)).onScrollbackPop cols).map Prod.fst =
      if m.maxScrollbackLines = 0 then none
      else some (restoredCells (cellsToUtf8Line cells) cols) := by
  have hlines : (m.onCallback (.pushLine cells)).scrollbackLines =
      evictFront m.maxScrollbackLines (m.scrollbackLines ++ [cellsToUtf8Line cells]) := rfl
  unfold onScrollbackPop
  rw [hlines]
  split_ifs with hzero
  · have hnone : evictFront m.maxScrollbackLines (m.scrollbackLines ++ [cellsToUtf8Line cells]) =
        [] := by
      apply List.eq_nil_of_length_eq_zero
      rw [length_evictFront, hzero, Nat.min_zero]
    rw [hnone]
    rfl
  · rw [getLast?_evictFront (Nat.pos_of_ne_zero hzero)]
    rfl

end Multiplexer

/-! ### How it is read -/

/-- No character of a row is NUL. -/
theorem nul_notMem_rowChars (cells : List VTermScreenCell) : Char.ofNat 0 ∉ rowChars cells := by
  intro hmem
  obtain ⟨cell, -, hcell⟩ := List.mem_flatMap.mp hmem
  unfold cellChars at hcell
  dsimp only at hcell
  split_ifs at hcell
  · exact absurd hcell (by decide)
  · obtain ⟨codepoint, -, hscalar⟩ := List.mem_filterMap.mp hcell
    unfold scalarChar at hscalar
    dsimp only at hscalar
    split_ifs at hscalar with hzero
    have hval := val_ofNat_normalizeUnicodeScalar codepoint
    rw [Option.some.inj hscalar] at hval
    exact hzero hval.symm

/-- A cell that is given back shows the byte as a code point. -/
theorem cellChars_restoredCell {byte : Option UInt8} (h : byte ≠ some nul) :
    cellChars (restoredCell byte) = [byte.elim ' ' Char.ofUInt8] := by
  have hall : ∀ b : UInt8, b ≠ nul → cellChars (restoredCell (some b)) = [Char.ofUInt8 b] := by
    intro b hb
    have hvalue : b.toUInt32.toNat = b.toNat := UInt8.toNat_toUInt32 b
    have hlt := b.toNat_lt
    have hne : b.toUInt32 ≠ 0 := by
      intro hzero
      apply hb
      apply UInt8.toNat_inj.mp
      rw [← hvalue, hzero]
      rfl
    have hscalar : normalizeUnicodeScalar b.toUInt32 = b.toUInt32 := by
      unfold normalizeUnicodeScalar
      rw [if_neg hne, if_neg]
      rintro (hbig | ⟨hsurrogate, -⟩)
      · rw [gt_iff_lt, UInt32.lt_iff_toNat_lt, hvalue] at hbig
        exact absurd (hbig.trans hlt) (by decide)
      · rw [UInt32.le_iff_toNat_le, hvalue] at hsurrogate
        exact absurd (hsurrogate.trans_lt hlt) (by decide)
    have hchar : scalarChar b.toUInt32 = some (Char.ofUInt8 b) := by
      unfold scalarChar
      dsimp only
      have hval := val_ofNat_normalizeUnicodeScalar b.toUInt32
      rw [hscalar] at hval ⊢
      rw [if_neg hne]
      exact congrArg some (Char.ext hval)
    unfold cellChars restoredCell
    simp [hne, hchar]
  rcases byte with _ | b
  · decide
  · exact hall b fun hnul => h (congrArg some hnul)

/-- So many cells of a line, those behind its end missing. -/
theorem map_getElem?_range (line : Bytes) (cols : ℕ) :
    (List.range cols).map ((line)[·]?) =
      (line.take cols).map some ++ List.replicate (cols - line.length) none := by
  induction cols generalizing line with
  | zero => simp
  | succ cols ih =>
      rw [List.range_succ_eq_map, List.map_cons, List.map_map]
      rcases line with _ | ⟨b, line⟩
      · have hrest := ih []
        simp only [List.take_nil, List.map_nil, List.nil_append, List.length_nil,
          Nat.sub_zero] at hrest ⊢
        rw [List.replicate_succ, ← hrest]
        rfl
      · have hrest := ih line
        rw [List.take_succ_cons, List.map_cons, List.length_cons, Nat.add_sub_add_right,
          List.cons_append, ← hrest]
        rfl

/-- **The cells that are given back** show the line, as far as there are columns, read as Latin-1.
-/
theorem rowChars_restoredCells {line : Bytes} (h : nul ∉ line) (cols : ℕ) :
    rowChars (restoredCells line cols) =
      latin1 (line.take cols) ++ List.replicate (cols - line.length) ' ' := by
  have hcells : restoredCells line cols = ((List.range cols).map ((line)[·]?)).map restoredCell := by
    rw [List.map_map]
    rfl
  have hchars : ∀ bytes : List (Option UInt8), some nul ∉ bytes →
      rowChars (bytes.map restoredCell) = bytes.map fun byte => byte.elim ' ' Char.ofUInt8 := by
    intro bytes hbytes
    induction bytes with
    | nil => rfl
    | cons byte bytes ih =>
        rw [List.mem_cons, not_or] at hbytes
        have hone : rowChars [restoredCell byte] = cellChars (restoredCell byte) := by
          simp [rowChars, restoredCell]
        rw [List.map_cons, ← List.singleton_append, rowChars_append, hone,
          cellChars_restoredCell (Ne.symm hbytes.1), ih hbytes.2, List.map_cons,
          List.singleton_append]
  rw [hcells, hchars, map_getElem?_range, List.map_append, List.map_map, List.map_replicate]
  · rfl
  · rw [map_getElem?_range, List.mem_append, not_or]
    refine ⟨fun hmem => ?_, fun hmem => ?_⟩
    · obtain ⟨b, hb, heq⟩ := List.mem_map.mp hmem
      rw [Option.some.inj heq] at hb
      exact h ((List.take_prefix cols line).subset hb)
    · exact Option.some_ne_none _ (List.eq_of_mem_replicate hmem)

/-- Blanks behind a text are blanks at its end. -/
theorem trimBlanks_append_replicate (chars : List Char) (count : ℕ) :
    trimBlanks (chars ++ List.replicate count ' ') = trimBlanks chars := by
  induction count with
  | zero => rw [List.replicate_zero, List.append_nil]
  | succ count ih =>
      unfold trimBlanks at ih ⊢
      rw [List.replicate_succ', ← List.append_assoc, List.rdropWhile_concat_pos _ _ _ (by decide),
        ih]

namespace Multiplexer

variable {σ : Type}

/-- The cells that a pushed row is given back as, when its line is wanted at once for as many
columns, have the same text. -/
def Restores (m : Multiplexer σ) (cells : List VTermScreenCell) : Prop :=
  ∀ restored left, (m.onCallback (.pushLine cells)).onScrollbackPop cells.length =
    some (restored, left) → SameText (cellsToUtf8Line restored) (cellsToUtf8Line cells)

/-- **A line comes back as it was pushed exactly when** the text of its row reads back in as many
bytes as the row has cells, or no lines are kept at all. -/
theorem restores_iff (m : Multiplexer σ) (cells : List VTermScreenCell) :
    m.Restores cells ↔
      m.maxScrollbackLines = 0 ∨ ReadsBack cells.length (trimBlanks (rowChars cells)) := by
  have hpop := onScrollbackPop_pushLine m cells cells.length
  by_cases hzero : m.maxScrollbackLines = 0
  · rw [if_pos hzero, Option.map_eq_none_iff] at hpop
    apply iff_of_true _ (Or.inl hzero)
    intro restored left h
    rw [hpop] at h
    cases h
  rw [if_neg hzero, Option.map_eq_some_iff] at hpop
  obtain ⟨⟨restored, left⟩, hsome, hrestored⟩ := hpop
  obtain rfl : restored = restoredCells (cellsToUtf8Line cells) cells.length := hrestored
  have honly : m.Restores cells ↔ SameText
      (cellsToUtf8Line (restoredCells (cellsToUtf8Line cells) cells.length))
      (cellsToUtf8Line cells) := by
    constructor
    · intro h
      exact h _ _ hsome
    · intro h restored' left' hsome'
      cases hsome.symm.trans hsome'
      exact h
  have hnul : nul ∉ cellsToUtf8Line cells := by
    rw [cellsToUtf8Line_eq]
    apply notMem_encode_of_ascii (by decide)
    exact fun hmem => nul_notMem_rowChars cells ((List.rdropWhile_prefix _ _).subset hmem)
  rw [honly, or_iff_right hzero, cellsToUtf8Line_eq (restoredCells _ _),
    rowChars_restoredCells hnul, trimBlanks_append_replicate, cellsToUtf8Line_eq,
    sameText_encode_iff, trimBlanks_trimBlanks, trimBlanks_trimBlanks]
  exact trim_latin1_eq_iff (trimBlanks_trimBlanks _)

/-- A row with a letter that is no ASCII one comes back with two letters for it. -/
theorem letter_notRestored :
    ¬∀ (σ : Type) (m : Multiplexer σ) (cells : List VTermScreenCell), m.Restores cells := by
  intro h
  have hrestores := h (ℕ × ℕ) (create blankScreen { columns := 2, rows := 2 } 1)
    [{ chars := [0xe9] }, {}]
  have hsame := hrestores _ _ rfl
  exact absurd hsame (by decide)

end Multiplexer

end Sentrits.Session
