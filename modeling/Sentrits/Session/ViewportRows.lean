import Sentrits.Found.Latin1
import Sentrits.Found.Stripping
import Sentrits.Session.Viewports

/-!
# The two renderings of a viewport

A viewport comes as lines of plain text and as text with escape sequences that draws the same rows.
The lines are clipped to as many characters as there are columns, the rows to as many cells; a cell
may hold several characters.

* `withoutSgr`: what is left when the sequences that set a style are left out.
* `withoutSgr_rowBytes`: of a row as it is drawn, its text is left.
* `RowFits`: what two cuts of a row have between them is blank.
* `renderings_agree_iff`: **both renderings have the same rows exactly when** every row of the
  screen that is seen fits.

Source: `src/session/terminal_multiplexer.cpp`.
-/

namespace Sentrits.Session

open Found Found.Bytes Found.Runs Found.Stripping

/-! ### Sequences that set a style -/

/-- What begins an escape sequence. -/
def escByte : UInt8 := 0x1b

/-- A digit, a colon or a semicolon. -/
def isSgrParameter (ch : UInt8) : Bool := 0x30 ≤ ch && ch ≤ 0x3b

/-- The length of the sequence that sets a style, if there is one at the front. -/
def sgrLength : Matcher UInt8
  | 0x1b :: 0x5b :: rest =>
      if (rest.dropWhile isSgrParameter).head? = some 0x6d then
        some ((rest.takeWhile isSgrParameter).length + 3)
      else none
  | _ => none

/-- What is left when the sequences that set a style are left out. -/
def withoutSgr (bs : Bytes) : Bytes := strip sgrLength bs

/-- What begins like a style is one when its parameters end with an `m`. -/
theorem sgrLength_introduced (rest : Bytes) :
    sgrLength (0x1b :: 0x5b :: rest) =
      if (rest.dropWhile isSgrParameter).head? = some 0x6d then
        some ((rest.takeWhile isSgrParameter).length + 3)
      else none := by
  rfl

/-- What is found to be a style looks like one. -/
theorem sgrLength_eq_some {bs : Bytes} {n : ℕ} (h : sgrLength bs = some n) :
    ∃ rest, bs = 0x1b :: 0x5b :: rest ∧ n = (rest.takeWhile isSgrParameter).length + 3 ∧
      (rest.dropWhile isSgrParameter).head? = some 0x6d := by
  unfold sgrLength at h
  split at h
  next rest =>
    split_ifs at h with hend
    exact ⟨rest, rfl, (Option.some.inj h).symm, hend⟩
  · cases h

/-- A style has a length, and is there as a whole. -/
theorem proper_sgrLength : Proper sgrLength where
  pos := by
    intro bs n h
    obtain ⟨rest, -, rfl, -⟩ := sgrLength_eq_some h
    omega
  le := by
    intro bs n h
    obtain ⟨rest, rfl, rfl, hend⟩ := sgrLength_eq_some h
    obtain ⟨more, hmore⟩ := List.head?_eq_some_iff.mp hend
    have hsplit := List.takeWhile_append_dropWhile (p := isSgrParameter) (l := rest)
    have hlength := congrArg List.length hsplit
    rw [hmore, List.length_append, List.length_cons] at hlength
    rw [List.length_cons, List.length_cons]
    omega

/-- The bytes are a sequence that sets a style. -/
def IsSgr (bs : Bytes) : Prop :=
  ∃ parameters, bs = 0x1b :: 0x5b :: (parameters ++ [0x6d]) ∧ parameters.all isSgrParameter = true

/-- A sequence at the front is left out. -/
theorem withoutSgr_sgr {bs : Bytes} (h : IsSgr bs) (rest : Bytes) :
    withoutSgr (bs ++ rest) = withoutSgr rest := by
  obtain ⟨parameters, rfl, hall⟩ := h
  have hpos : ∀ ch ∈ parameters, isSgrParameter ch = true := List.all_eq_true.mp hall
  have hend : isSgrParameter 0x6d = false := by decide
  have htake : (parameters ++ 0x6d :: rest).takeWhile isSgrParameter = parameters := by
    rw [List.takeWhile_append_of_pos hpos, List.takeWhile_cons_of_neg (by simp [hend]),
      List.append_nil]
  have hdrop : (parameters ++ 0x6d :: rest).dropWhile isSgrParameter = 0x6d :: rest := by
    rw [List.dropWhile_append_of_pos hpos, List.dropWhile_cons_of_neg (by simp [hend])]
  have hbytes : 0x1b :: 0x5b :: (parameters ++ [0x6d]) ++ rest =
      0x1b :: 0x5b :: (parameters ++ 0x6d :: rest) := by
    simp
  have hmatch : sgrLength (0x1b :: 0x5b :: (parameters ++ 0x6d :: rest)) =
      some (parameters.length + 3) := by
    rw [sgrLength_introduced, hdrop, htake]
    rfl
  have hskip : (0x1b :: 0x5b :: (parameters ++ 0x6d :: rest)).drop (parameters.length + 3) =
      rest := by
    rw [List.drop_succ_cons, List.drop_succ_cons, ← List.drop_drop, List.drop_left]
    rfl
  unfold withoutSgr
  rw [hbytes, strip_of_some proper_sgrLength hmatch, hskip]

/-- Text without the escape character at the front is kept. -/
theorem withoutSgr_text {text : Bytes} (h : escByte ∉ text) (rest : Bytes) :
    withoutSgr (text ++ rest) = text ++ withoutSgr rest := by
  induction text with
  | nil => rfl
  | cons ch text ih =>
      rw [List.mem_cons, not_or] at h
      have hnone : sgrLength (ch :: (text ++ rest)) = none := by
        rcases hmatch : sgrLength (ch :: (text ++ rest)) with _ | n
        · rfl
        · obtain ⟨more, hmore, -⟩ := sgrLength_eq_some hmatch
          exact absurd (List.cons.inj hmore).1.symm h.1
      unfold withoutSgr at ih ⊢
      rw [List.cons_append, strip_of_none hnone, ih h.2, List.cons_append]

/-! ### Rows as they are drawn -/

/-- The sequences of the row set styles, and its text has no escape character. -/
def CleanRow (pieces : List RowPiece) : Prop :=
  ∀ piece ∈ pieces, match piece with
    | .sgr bytes => IsSgr bytes
    | .text bytes => escByte ∉ bytes

/-- **Of a row as it is drawn** its text is left. -/
theorem withoutSgr_rowBytes {pieces : List RowPiece} (h : CleanRow pieces) :
    withoutSgr (rowBytes pieces) = shownText pieces := by
  induction pieces with
  | nil => rfl
  | cons piece pieces ih =>
      unfold CleanRow at h
      rw [List.forall_mem_cons] at h
      have hrest := ih h.2
      unfold rowBytes shownText at hrest ⊢
      rw [List.flatMap_cons, List.flatMap_cons]
      rcases piece with bytes | bytes
      · exact (withoutSgr_sgr h.1 _).trans hrest
      · exact (withoutSgr_text h.1 _).trans (congrArg (bytes ++ ·) hrest)

/-- The reset is a style. -/
theorem isSgr_resetSgr : IsSgr resetSgr := by
  exact ⟨[0x30], by decide, by decide⟩

/-- A number has digits only. -/
theorem all_numberText (value : ℕ) : (numberText value).all isSgrParameter = true := by
  have hdigits : numberText value = (Nat.toDigits 10 value).map charByte := by
    unfold numberText
    rw [Nat.toString_eq_ofList_toDigits, utf8_ofList]
    apply encode_of_ascii
    intro ch hch
    have hdigit := Nat.isDigit_of_mem_toDigits (by decide) (by decide) hch
    exact Nat.lt_of_le_of_lt (Char.isDigit_iff_toNat.mp hdigit).2 (by decide)
  rw [hdigits, List.all_eq_true]
  intro b hb
  obtain ⟨ch, hch, rfl⟩ := List.mem_map.mp hb
  obtain ⟨hlow, hhigh⟩ := Char.isDigit_iff_toNat.mp
    (Nat.isDigit_of_mem_toDigits (by decide) (by decide) hch)
  have hlow' : 48 ≤ ch.toNat := hlow
  have hhigh' : ch.toNat ≤ 57 := hhigh
  have hnat : (charByte ch).toNat = ch.toNat := by
    unfold charByte
    rw [UInt8.toNat_ofNat', Nat.mod_eq_of_lt (by omega)]
  unfold isSgrParameter
  simp only [Bool.and_eq_true, decide_eq_true_eq, UInt8.le_iff_toNat_le, hnat]
  exact ⟨hlow', Nat.le_trans hhigh' (by decide)⟩

/-- A colour is written with parameters. -/
theorem all_appendColorSgr (color : VTermColor) (foreground : Bool) :
    (appendColorSgr color foreground).all isSgrParameter = true := by
  have hindexed : (utf8 (if foreground then ";38;5;" else ";48;5;")).all isSgrParameter = true := by
    cases foreground <;> decide
  have hrgb : (utf8 (if foreground then ";38;2;" else ";48;2;")).all isSgrParameter = true := by
    cases foreground <;> decide
  have hsign : (utf8 ";").all isSgrParameter = true := by decide
  unfold appendColorSgr
  by_cases hdefault : (foreground && color.defaultFg || !foreground && color.defaultBg) = true
  · rw [if_pos hdefault]
    rfl
  · rw [if_neg hdefault]
    rcases color.value with ⟨red, green, blue⟩ | idx
    · simp only [List.all_append, hrgb, hsign, all_numberText, Bool.and_self]
    · simp only [List.all_append, hindexed, all_numberText, Bool.and_self]

/-- What sets the style of a cell is a sequence that sets a style. -/
theorem isSgr_appendFullStyleSgr (cell : VTermScreenCell) : IsSgr (appendFullStyleSgr cell) := by
  have hflag : ∀ (flag : Bool) (text : String), (utf8 text).all isSgrParameter = true →
      (if flag then utf8 text else []).all isSgrParameter = true := by
    intro flag text htext
    cases flag
    · rfl
    · exact htext
  have hunderline : (underlineSgr cell.attrs.underline).all isSgrParameter = true := by
    cases cell.attrs.underline <;> decide
  refine ⟨styleParameters cell, rfl, ?_⟩
  unfold styleParameters
  rw [List.all_append, List.all_append, List.all_append, List.all_append, List.all_append,
    List.all_append, List.all_append, List.all_append, List.all_append,
    hflag cell.attrs.bold ";1" (by decide), hflag cell.attrs.italic ";3" (by decide), hunderline,
    hflag cell.attrs.blink ";5" (by decide), hflag cell.attrs.reverse ";7" (by decide),
    hflag cell.attrs.conceal ";8" (by decide), hflag cell.attrs.strike ";9" (by decide),
    all_appendColorSgr, all_appendColorSgr]
  decide

/-! ### Characters that are no escape character -/

/-- The cells hold no escape character. -/
def CleanCells (cells : List VTermScreenCell) : Prop := ∀ cell ∈ cells, 0x1b ∉ cell.chars

/-- The escape character is written only where there is one. -/
theorem normalizeUnicodeScalar_eq_esc {codepoint : UInt32}
    (h : normalizeUnicodeScalar codepoint = 0x1b) : codepoint = 0x1b := by
  unfold normalizeUnicodeScalar at h
  split_ifs at h
  · exact absurd h (by decide)
  · exact absurd h (by decide)
  · exact h

/-- A clean row has no escape among its characters. -/
theorem esc_notMem_rowChars {cells : List VTermScreenCell} (h : CleanCells cells) :
    Char.ofUInt8 escByte ∉ rowChars cells := by
  intro hmem
  obtain ⟨cell, hcell, hch⟩ := List.mem_flatMap.mp hmem
  have hclean := h cell (List.mem_of_mem_filter hcell)
  unfold cellChars at hch
  dsimp only at hch
  split_ifs at hch
  · exact absurd hch (by decide)
  · obtain ⟨codepoint, hcodepoint, hscalar⟩ := List.mem_filterMap.mp hch
    unfold scalarChar at hscalar
    dsimp only at hscalar
    split_ifs at hscalar
    have hval := val_ofNat_normalizeUnicodeScalar codepoint
    rw [Option.some.inj hscalar] at hval
    have hesc := normalizeUnicodeScalar_eq_esc hval.symm
    rw [hesc] at hcodepoint
    exact hclean ((List.takeWhile_prefix _).subset hcodepoint)

/-- The line of such a row has none. -/
theorem esc_notMem_cellsToUtf8Line {cells : List VTermScreenCell} (h : CleanCells cells) :
    escByte ∉ cellsToUtf8Line cells := by
  rw [cellsToUtf8Line_eq]
  apply notMem_encode_of_ascii (by decide)
  exact fun hmem => esc_notMem_rowChars h ((List.rdropWhile_prefix _ _).subset hmem)

/-- A clean cell has no escape among its bytes. -/
theorem esc_notMem_cellText {cell : VTermScreenCell} (h : CleanCells [cell])
    (hwidth : cell.width ≠ 0) : escByte ∉ cellText cell := by
  have hone : rowChars [cell] = cellChars cell := by simp [rowChars, hwidth]
  rw [cellText_eq, ← hone]
  exact notMem_encode_of_ascii (by decide) (esc_notMem_rowChars h)

/-- A clean piece before clean ones. -/
theorem cleanRow_cons {piece : RowPiece} {pieces : List RowPiece} (hpiece : CleanRow [piece])
    (h : CleanRow pieces) : CleanRow (piece :: pieces) := by
  intro piece' hmem
  rcases List.mem_cons.mp hmem with rfl | hmem
  · exact hpiece _ List.mem_cons_self
  · exact h piece' hmem

/-- A style is clean. -/
theorem cleanRow_sgr {bytes : Bytes} (h : IsSgr bytes) : CleanRow [.sgr bytes] := by
  intro piece hpiece
  rw [List.mem_singleton.mp hpiece]
  exact h

/-- Text without an escape is clean. -/
theorem cleanRow_text {bytes : Bytes} (h : escByte ∉ bytes) : CleanRow [.text bytes] := by
  intro piece hpiece
  rw [List.mem_singleton.mp hpiece]
  exact h

/-- No pieces are clean. -/
theorem cleanRow_nil : CleanRow [] := fun _ hpiece => absurd hpiece List.not_mem_nil

/-- **A clean row is drawn clean.** -/
theorem cleanRow_styledLoop {cells : List VTermScreenCell} (h : CleanCells cells)
    (active : Option VTermScreenCell) : CleanRow (styledLoop active cells) := by
  induction cells generalizing active with
  | nil =>
      unfold styledLoop
      split_ifs
      · exact cleanRow_sgr isSgr_resetSgr
      · exact cleanRow_nil
  | cons cell cells ih =>
      unfold CleanCells at h
      rw [List.forall_mem_cons] at h
      unfold styledLoop
      split_ifs with hwidth hsame
      · exact ih h.2 active
      all_goals
        have htext : CleanRow [.text (cellText cell)] :=
          cleanRow_text (esc_notMem_cellText (by simpa [CleanCells] using h.1) hwidth)
      · exact cleanRow_cons htext (ih h.2 active)
      · have hrest := cleanRow_cons htext (ih h.2 (some cell))
        unfold styleChange
        split_ifs
        · exact cleanRow_cons (cleanRow_sgr (isSgr_appendFullStyleSgr cell)) hrest
        · exact cleanRow_cons (cleanRow_sgr isSgr_resetSgr) hrest
        · exact hrest

/-- **Of cells as they are drawn** their text is left. -/
theorem withoutSgr_styledRow {cells : List VTermScreenCell} (h : CleanCells cells) :
    withoutSgr (rowBytes (styledRow cells)) = encode (rowChars cells) := by
  have hclean : CleanRow (styledRow cells) := cleanRow_styledLoop h none
  rw [withoutSgr_rowBytes hclean, shownText_styledRow]

/-- A clipped line has no escape character that the line has not. -/
theorem esc_notMem_clipUtf8Columns {line : Bytes} (htext : IsText line) (h : escByte ∉ line)
    (startColumn maxColumns : ℕ) : escByte ∉ clipUtf8Columns line startColumn maxColumns := by
  obtain ⟨chars, rfl⟩ := isText_iff.mp htext
  rw [clipUtf8Columns_encode]
  intro hmem
  obtain ⟨ch, hch, hbyte⟩ := List.mem_flatMap.mp hmem
  exact h (List.mem_flatMap.mpr ⟨ch, List.mem_of_mem_drop (List.mem_of_mem_take hch), hbyte⟩)

/-! ### Two cuts of a row -/

/-- The characters that only one of the two renderings of a row has: between its first so many
characters and the characters of its first so many cells. -/
def cutChars (columns : ℕ) (cells : List VTermScreenCell) : List Char :=
  let drawn := (rowChars (cells.take columns)).length
  ((rowChars cells).take (max columns drawn)).drop (min columns drawn)

/-- They are blanks. -/
def RowFits (columns : ℕ) (cells : List VTermScreenCell) : Prop :=
  ∀ ch ∈ cutChars columns cells, ch = ' '

/-- The text of some first cells is at the front of the text of the row. -/
theorem rowChars_take (columns : ℕ) (cells : List VTermScreenCell) :
    rowChars (cells.take columns) =
      (rowChars cells).take (rowChars (cells.take columns)).length := by
  have happend := rowChars_append (cells.take columns) (cells.drop columns)
  rw [List.take_append_drop] at happend
  rw [happend, List.take_left]

/-- More characters are the same text exactly when they are blanks. -/
theorem trimBlanks_append_eq_iff {front back : List Char} :
    trimBlanks (front ++ back) = trimBlanks front ↔ ∀ ch ∈ back, ch = ' ' := by
  unfold trimBlanks
  constructor
  · intro heq
    induction back using List.reverseRecOn with
    | nil => exact fun ch hch => absurd hch List.not_mem_nil
    | append_singleton back ch ih =>
        by_cases hblank : ch = ' '
        · subst hblank
          rw [← List.append_assoc, List.rdropWhile_concat_pos _ _ _ (by decide)] at heq
          intro ch hch
          rcases List.mem_append.mp hch with hch | hch
          · exact ih heq ch hch
          · exact List.mem_singleton.mp hch
        · rw [← List.append_assoc,
            List.rdropWhile_concat_neg _ _ _ (by simpa using hblank)] at heq
          have hle := (List.rdropWhile_prefix (· == ' ') front).length_le
          rw [← heq, List.length_append, List.length_append, List.length_singleton] at hle
          omega
  · intro hblanks
    induction back using List.reverseRecOn with
    | nil => rw [List.append_nil]
    | append_singleton back ch ih =>
        have hlast : ch = ' ' := hblanks ch (List.mem_append_right _ (List.mem_singleton.mpr rfl))
        subst hlast
        rw [← List.append_assoc, List.rdropWhile_concat_pos _ _ _ (by decide)]
        exact ih fun ch hch => hblanks ch (List.mem_append_left _ hch)

/-- Two beginnings show the same exactly when only blanks are between them. -/
theorem trimBlanks_take_eq_iff_of_le {chars : List Char} {short long : ℕ} (h : short ≤ long) :
    trimBlanks (chars.take long) = trimBlanks (chars.take short) ↔
      ∀ ch ∈ (chars.take long).drop short, ch = ' ' := by
  have hsplit : chars.take long = chars.take short ++ (chars.take long).drop short := by
    have hshort : chars.take short = (chars.take long).take short := by
      rw [List.take_take, min_eq_left h]
    rw [hshort, List.take_append_drop]
  rw [← trimBlanks_append_eq_iff, ← hsplit]

/-- **Two cuts are the same text exactly when** what is between them is blank. -/
theorem trimBlanks_take_eq_iff {chars : List Char} {left right : ℕ} :
    trimBlanks (chars.take left) = trimBlanks (chars.take right) ↔
      ∀ ch ∈ (chars.take (max right left)).drop (min right left), ch = ' ' := by
  rcases le_total right left with hle | hle
  · rw [max_eq_right hle, min_eq_left hle]
    exact trimBlanks_take_eq_iff_of_le hle
  · rw [max_eq_left hle, min_eq_right hle]
    exact eq_comm.trans (trimBlanks_take_eq_iff_of_le hle)

/-- The blanks at the end of a row are not missed in a cut. -/
theorem trimBlanks_take_trimBlanks (chars : List Char) (columns : ℕ) :
    trimBlanks ((trimBlanks chars).take columns) = trimBlanks (chars.take columns) := by
  have hsplit : trimBlanks chars ++ chars.rtakeWhile (· == ' ') = chars :=
    List.rdropWhile_append_rtakeWhile
  have htake : chars.take columns = (trimBlanks chars).take columns ++
      (chars.rtakeWhile (· == ' ')).take (columns - (trimBlanks chars).length) := by
    rw [← List.take_append, hsplit]
  rw [htake]
  refine (trimBlanks_append_eq_iff.mpr fun ch hch => ?_).symm
  simpa using List.mem_rtakeWhile_imp (List.mem_of_mem_take hch)

/-- **Of a row of the screen**: the cells that are drawn and the line that is clipped. -/
theorem sameText_row_iff (columns : ℕ) (cells : List VTermScreenCell) :
    SameText (encode (rowChars (cells.take columns)))
        (clipUtf8Columns (cellsToUtf8Line cells) 0 columns) ↔
      RowFits columns cells := by
  rw [cellsToUtf8Line_eq, clipUtf8Columns_encode, List.drop_zero, sameText_encode_iff,
    trimBlanks_take_trimBlanks, rowChars_take]
  exact trimBlanks_take_eq_iff

/-- In a row of single characters there is one for each cell. -/
theorem length_rowChars_of_single {cells : List VTermScreenCell}
    (h : ∀ cell ∈ cells, cell.width ≠ 0 ∧ (cellChars cell).length = 1) :
    (rowChars cells).length = cells.length := by
  induction cells with
  | nil => rfl
  | cons cell cells ih =>
      rw [List.forall_mem_cons] at h
      have hone : rowChars [cell] = cellChars cell := by simp [rowChars, h.1.1]
      rw [← List.singleton_append, rowChars_append, hone, List.length_append, List.length_append,
        ih h.2, h.1.2, List.length_singleton]

/-- A row whose cells have one character each fits any number of columns. -/
theorem rowFits_of_single {cells : List VTermScreenCell}
    (h : ∀ cell ∈ cells, cell.width ≠ 0 ∧ (cellChars cell).length = 1) (columns : ℕ) :
    RowFits columns cells := by
  have hdrawn := length_rowChars_of_single fun cell hcell =>
    h cell (List.mem_of_mem_take (i := columns) hcell)
  have hnone : cutChars columns cells = [] := by
    unfold cutChars
    rw [hdrawn, List.drop_eq_nil_iff, List.length_take, length_rowChars_of_single h,
      List.length_take]
    omega
  unfold RowFits
  rw [hnone]
  exact fun ch hch => absurd hch List.not_mem_nil

/-! ### What the library puts into cells -/

/-- The rows that are pushed hold no escape character. -/
def CleanPushes (callbacks : List ScreenCallback) : Prop :=
  ∀ cells, .pushLine cells ∈ callbacks → CleanCells cells

/-- The library interprets escape sequences: the escape character comes into no cell, unless it is
in the lines that are given back. -/
structure VTerm.KeepsEscOut {σ : Type} (v : VTerm σ) (Clean : σ → Prop) : Prop where
  new : ∀ size, Clean (v.new size)
  inputWrite : ∀ screen data, Clean screen →
    Clean (v.inputWrite screen data).1 ∧ CleanPushes (v.inputWrite screen data).2
  setSize : ∀ screen size lines, Clean screen → (∀ line ∈ lines, escByte ∉ line) →
    Clean (v.setSize screen size lines).1 ∧ CleanPushes (v.setSize screen size lines).2
  cell : ∀ screen row column, Clean screen → 0x1b ∉ (v.cell screen row column).chars

namespace Multiplexer

variable {σ : Type}

/-- The escape character is neither on the screen nor in the scrollback. -/
structure EscFree (Clean : σ → Prop) (m : Multiplexer σ) : Prop where
  screen : Clean m.screen
  scrollback : ∀ line ∈ m.scrollbackLines, escByte ∉ line

/-- Whatever the library calls back, the scrollback stays clean. -/
theorem escFree_called (v : VTerm σ) {Clean : σ → Prop} {m : Multiplexer σ}
    (h : ∀ line ∈ m.scrollbackLines, escByte ∉ line) {result : σ × List ScreenCallback}
    (hscreen : Clean result.1) (hpushes : CleanPushes result.2) :
    EscFree Clean (called v m result) := by
  have hlines : ∀ line ∈ (result.2.foldl onCallback
      { m with screen := result.1, dirty := false }).scrollbackLines, escByte ∉ line :=
    forall_scrollbackLines_foldl
      (fun cells hcells => esc_notMem_cellsToUtf8Line (hpushes cells hcells)) h
  have hkept : Clean (result.2.foldl onCallback
      { m with screen := result.1, dirty := false }).screen := by
    rw [(framed_foldl _ _).screen]
    exact hscreen
  unfold called countRevision
  split_ifs
  · exact ⟨hkept, hlines⟩
  · exact ⟨hkept, hlines⟩

/-- Every row of a clean screen is clean. -/
theorem cleanCells_rowCells {v : VTerm σ} {Clean : σ → Prop} (hv : v.KeepsEscOut Clean)
    {m : Multiplexer σ} (h : EscFree Clean m) (row : ℕ) : CleanCells (rowCells v m row) := by
  intro cell hcell
  obtain ⟨column, -, rfl⟩ := List.mem_map.mp hcell
  exact hv.cell m.screen row column h.screen

/-- **Of a line of the window**: it is the same text in both renderings, unless it is a row of the
screen that does not fit. -/
theorem sameText_line_iff {v : VTerm σ} {Clean : σ → Prop} (hv : v.KeepsEscOut Clean)
    {m : Multiplexer σ} (hshown : m.Shown v) (hfree : EscFree Clean m) (columns lineIndex : ℕ) :
    SameText
        (withoutSgr (rowBytes (drawnRow v m 0 columns
          (m.scrollbackLines.length + m.terminalSize.rows.toNat) lineIndex)))
        (viewportLine (m.scrollbackLines ++ m.snapshot.visibleLines) lineIndex 0 columns) ↔
      ∀ row < m.terminalSize.rows.toNat, lineIndex = m.scrollbackLines.length + row →
        RowFits columns (rowCells v m row) := by
  have hcount := hshown.length_visibleLines
  unfold drawnRow viewportLine
  rw [hshown.scrollback]
  split_ifs with hscrollback hscreen
  · -- a line of the scrollback is the same bytes in both
    have hmem := List.getElem_mem hscrollback
    have hget : m.scrollbackLines.getD lineIndex [] = m.scrollbackLines[lineIndex] := by
      rw [List.getD_eq_getElem?_getD, List.getElem?_eq_getElem hscrollback, Option.getD_some]
    have hline : (m.scrollbackLines ++ m.snapshot.visibleLines)[lineIndex]? =
        some m.scrollbackLines[lineIndex] := by
      rw [List.getElem?_append_left hscrollback, List.getElem?_eq_getElem hscrollback]
    have hclean : CleanRow (drawnScrollbackLine m 0 columns lineIndex) := by
      apply cleanRow_text
      rw [hshown.scrollback, hget]
      exact esc_notMem_clipUtf8Columns (hshown.text _ hmem) (hfree.scrollback _ hmem) 0 columns
    rw [withoutSgr_rowBytes hclean, hline]
    unfold drawnScrollbackLine
    rw [hshown.scrollback, hget]
    refine iff_of_true ?_ ?_
    · show SameText (shownText [_]) _
      unfold shownText
      rw [List.flatMap_singleton]
      rfl
    · intro row _ hindex
      omega
  · obtain ⟨row, rfl⟩ := Nat.exists_eq_add_of_le (Nat.not_lt.mp hscrollback)
    have hrow : row < m.terminalSize.rows.toNat := by omega
    have hline : (m.scrollbackLines ++ m.snapshot.visibleLines)[m.scrollbackLines.length + row]? =
        some (cellsToUtf8Line (rowCells v m row)) := by
      rw [List.getElem?_append_right (Nat.le_add_right _ _), Nat.add_sub_cancel_left,
        hshown.visible, List.getElem?_map, List.getElem?_range hrow]
      rfl
    have hclean : CleanCells ((rowCells v m row).take columns) := fun cell hcell =>
      cleanCells_rowCells hv hfree row cell (List.mem_of_mem_take hcell)
    rw [hline, Nat.add_sub_cancel_left, styledVisibleRow_eq v hrow, List.drop_zero,
      withoutSgr_styledRow hclean]
    refine (sameText_row_iff columns _).trans ?_
    constructor
    · intro hfits row' _ hindex
      rwa [← Nat.add_left_cancel hindex]
    · intro hfits
      exact hfits row hrow rfl
  · -- behind the last line there is nothing in either
    have hline : (m.scrollbackLines ++ m.snapshot.visibleLines)[lineIndex]? = none := by
      rw [List.getElem?_eq_none_iff, List.length_append, hcount]
      exact Nat.not_lt.mp hscreen
    rw [hline, withoutSgr_rowBytes cleanRow_nil]
    refine iff_of_true rfl ?_
    intro row hrow hindex
    omega

end Multiplexer

namespace ViewedMultiplexer

variable {σ : Type}

/-- **No call brings the escape character** onto the screen or into the scrollback. -/
theorem escFree_step {v : VTerm σ} {Clean : σ → Prop} (hv : v.KeepsEscOut Clean)
    {t t' : ViewedMultiplexer σ} {op : Op} (h : t.multiplexer.EscFree Clean)
    (hstep : step v t op = some t') : t'.multiplexer.EscFree Clean := by
  rcases op with data | terminalSize | ⟨viewId, viewportSize⟩ | viewId
  · obtain rfl := Option.some.inj hstep
    show (t.multiplexer.append v data).EscFree Clean
    unfold Multiplexer.append
    split_ifs
    · exact h
    · obtain ⟨hscreen, hpushes⟩ := hv.inputWrite t.multiplexer.screen data h.screen
      have hwritten := Multiplexer.escFree_called v h.scrollback hscreen hpushes
      exact ⟨hwritten.screen, hwritten.scrollback⟩
  · obtain rfl := Option.some.inj hstep
    obtain ⟨hscreen, hpushes⟩ := hv.setSize t.multiplexer.screen (normalizeSize terminalSize)
      t.multiplexer.scrollbackLines h.screen h.scrollback
    have hlines : ∀ line ∈ { t.multiplexer with
        terminalSize := normalizeSize terminalSize }.scrollbackLines, escByte ∉ line := h.scrollback
    exact Multiplexer.escFree_called v hlines hscreen hpushes
  · obtain rfl := Option.some.inj hstep
    show (t.updateViewport viewId viewportSize).multiplexer.EscFree Clean
    unfold updateViewport
    split_ifs
    · exact h
    · exact h
  · obtain rfl := Option.some.inj hstep
    show (t.removeViewport viewId).multiplexer.EscFree Clean
    unfold removeViewport
    split_ifs
    · exact h
    · exact h

/-- **In every reachable state** the screen and the scrollback are clean. -/
theorem escFree_reaches {v : VTerm σ} {Clean : σ → Prop} (hv : v.KeepsEscOut Clean)
    {terminalSize : TerminalSize} {maxScrollbackLines : ℕ} {ops : List Op}
    {t : ViewedMultiplexer σ}
    (h : Reaches (step v) (create v terminalSize maxScrollbackLines) ops t) :
    t.multiplexer.EscFree Clean := by
  exact h.invariant (fun t => t.multiplexer.EscFree Clean)
    (fun _ _ _ hfree hstep => escFree_step hv hfree hstep)
    ⟨hv.new _, fun _ hline => absurd hline List.not_mem_nil⟩

/-! ### The two renderings -/

/-- The rows of the visible part of the text that draws a viewport. -/
def visibleRows (v : VTerm σ) (m : Multiplexer σ) (view : TerminalViewportSnapshot) : List Bytes :=
  (m.drawnWindow v view.viewportTopLine view.horizontalOffset view.columns.toNat view.rows.toNat
    view.totalLineCount).map rowBytes

/-- The text is the lines above, what clears the screen, the rows, each but the first behind a
sequence that begins the next line, and the cursor. -/
def DrawsRows (v : VTerm σ) (m : Multiplexer σ) (view : TerminalViewportSnapshot) : Prop :=
  view.bootstrapAnsi =
    m.drawnHistory v view.viewportTopLine view.horizontalOffset view.columns.toNat
        view.totalLineCount ++
      Multiplexer.screenClear ++ List.intercalate (csi "E") (visibleRows v m view) ++
      Multiplexer.drawnCursor view.cursorViewportRow view.cursorViewportColumn

/-- The two renderings agree: a row without the sequences that set its style and the line at its
place are the same text, apart from blanks at their ends. -/
def RenderingsAgree (v : VTerm σ) (m : Multiplexer σ) (view : TerminalViewportSnapshot) : Prop :=
  List.Forall₂ (fun row line => SameText (withoutSgr row) line) (visibleRows v m view)
    view.visibleLines

/-- Every row of the screen that is seen fits into the columns of the viewport. -/
def WindowFits (v : VTerm σ) (m : Multiplexer σ) (state : TerminalViewportState) : Prop :=
  ∀ row < m.terminalSize.rows.toNat,
    m.scrollbackLines.length + m.terminalSize.rows.toNat - state.rows.toNat ≤
        m.scrollbackLines.length + row →
      RowFits state.columns.toNat (m.rowCells v row)

/-- A size that is at least one is not changed. -/
theorem toNat_ofNat_max {size : UInt16} (h : 1 ≤ size) :
    (UInt16.ofNat (max 1 size.toNat)).toNat = size.toNat ∧ max 1 size.toNat = size.toNat := by
  have hmax : max 1 size.toNat = size.toNat := max_eq_right (UInt16.le_iff_toNat_le.mp h)
  rw [hmax, UInt16.ofNat_toNat]
  exact ⟨rfl, rfl⟩

/-- What is shown of a registered viewport is drawn row by row. -/
theorem drawsRows_shownView {v : VTerm σ} {m : Multiplexer σ} {state : TerminalViewportState}
    (hstate : Registered state) (viewId : Bytes) :
    DrawsRows v m (shownView v m viewId state) := by
  obtain ⟨hrows, hrows'⟩ := toNat_ofNat_max hstate.rows
  obtain ⟨hcolumns, hcolumns'⟩ := toNat_ofNat_max hstate.columns
  unfold DrawsRows visibleRows shownView
  dsimp only
  rw [hrows, hrows', hcolumns, hcolumns']

/-- **The two renderings agree exactly when** the window fits. -/
theorem renderingsAgree_shownView_iff {v : VTerm σ} {Clean : σ → Prop} (hv : v.KeepsEscOut Clean)
    {m : Multiplexer σ} (hshown : m.Shown v) (hfree : m.EscFree Clean)
    {state : TerminalViewportState} (hstate : Registered state) (viewId : Bytes) :
    RenderingsAgree v m (shownView v m viewId state) ↔ WindowFits v m state := by
  obtain ⟨hrows, hrows'⟩ := toNat_ofNat_max hstate.rows
  obtain ⟨hcolumns, hcolumns'⟩ := toNat_ofNat_max hstate.columns
  have hoffset : followedOffset state m.snapshot.cursorColumn state.columns.toNat = 0 := by
    unfold followedOffset
    rw [hstate.follow, hstate.offset]
    rfl
  have hcount := hshown.length_visibleLines
  unfold RenderingsAgree visibleRows shownView Multiplexer.drawnWindow WindowFits
  dsimp only
  rw [hrows, hrows', hcolumns, hcolumns', hoffset, hshown.scrollback, hcount, List.map_map,
    List.forall₂_map_left_iff, List.forall₂_map_right_iff, List.forall₂_same]
  constructor
  · intro hagree row hrow htop
    have hindex := hagree (m.scrollbackLines.length + row -
      (m.scrollbackLines.length + m.terminalSize.rows.toNat - state.rows.toNat))
      (List.mem_range.mpr (by omega))
    exact (Multiplexer.sameText_line_iff hv hshown hfree _ _).mp hindex row hrow (by omega)
  · intro hfits index _
    apply (Multiplexer.sameText_line_iff hv hshown hfree _ _).mpr
    intro row hrow hline
    exact hfits row hrow (by omega)

/-- **Both renderings of a viewport have the same rows exactly when** every row of the screen that
is seen fits, in every state that calls lead to. -/
theorem renderings_agree_iff {v : VTerm σ} {Clean : σ → Prop} (hv : v.KeepsEscOut Clean)
    {terminalSize : TerminalSize} {maxScrollbackLines : ℕ} {ops : List Op}
    {t : ViewedMultiplexer σ}
    (hrun : Reaches (step v) (create v terminalSize maxScrollbackLines) ops t) {viewId : Bytes}
    {state : TerminalViewportState} (hview : t.viewports viewId = some state) :
    ∃ view, t.viewportSnapshot v viewId = .ok (some view) ∧ DrawsRows v t.multiplexer view ∧
      (RenderingsAgree v t.multiplexer view ↔ WindowFits v t.multiplexer state) := by
  have hinv := inv_reaches hrun
  have hstate := hinv.registered viewId state hview
  have hfree := escFree_reaches hv hrun
  exact ⟨_, viewportSnapshot_eq v hview, drawsRows_shownView hstate viewId,
    renderingsAgree_shownView_iff hv hinv.shown hfree hstate viewId⟩

/-- A screen that is blank until something is written, and has some cells in its first row then. -/
def writtenScreen (cells : List VTermScreenCell) : VTerm Bool where
  new _ := false
  inputWrite _ _ := (true, [.damage, .moveCursor])
  setSize written _ _ := (written, [])
  cell written row column := if written ∧ row = 0 then cells.getD column {} else {}
  cursor written := (0, if written then 1 else 0)

/-- Cells without the escape character are kept so. -/
theorem keepsEscOut_writtenScreen {cells : List VTermScreenCell} (h : CleanCells cells) :
    (writtenScreen cells).KeepsEscOut fun _ => True where
  new := fun _ => trivial
  inputWrite := fun _ _ _ => ⟨trivial, by simp [writtenScreen, CleanPushes]⟩
  setSize := fun _ _ _ _ _ => ⟨trivial, fun _ hcells => absurd hcells List.not_mem_nil⟩
  cell := by
    intro written row column _
    show 0x1b ∉ (if written ∧ row = 0 then cells.getD column {} else {}).chars
    split_ifs
    · rw [List.getD_eq_getElem?_getD]
      rcases hcell : cells[column]? with _ | cell
      · exact List.not_mem_nil
      · exact h cell (List.mem_of_getElem? hcell)
    · exact List.not_mem_nil

/-- Some text is written, and looked at through a viewport of one row and two columns. -/
def narrowView (cells : List VTermScreenCell) (text : String) : ViewedMultiplexer Bool :=
  let created := create (writtenScreen cells) { columns := 2, rows := 1 } 1
  updateViewport
    { created with multiplexer := created.multiplexer.append (writtenScreen cells) (utf8 text) }
    [0x61] { columns := 2, rows := 1 }

/-- Two calls lead there. -/
theorem reaches_narrowView (cells : List VTermScreenCell) (text : String) :
    Reaches (step (writtenScreen cells))
      (create (writtenScreen cells) { columns := 2, rows := 1 } 1)
      [.append (utf8 text), .updateViewport [0x61] { columns := 2, rows := 1 }]
      (narrowView cells text) :=
  .cons rfl (.cons rfl (.refl _))

/-- The two letters that are written. -/
def letterCells : List VTermScreenCell := [{ chars := [0x65] }, { chars := [0x78] }]

/-- Two letters fit, so both renderings have them. -/
theorem renderings_agree_iff_letters :
    ∃ view, (narrowView letterCells "ex").viewportSnapshot (writtenScreen letterCells) [0x61] =
        .ok (some view) ∧
      DrawsRows (writtenScreen letterCells) (narrowView letterCells "ex").multiplexer view ∧
      RenderingsAgree (writtenScreen letterCells) (narrowView letterCells "ex").multiplexer
        view := by
  have hstate : (narrowView letterCells "ex").viewports [0x61] =
      some { columns := 2, rows := 1 } := rfl
  obtain ⟨view, hview, hdraws, hiff⟩ :=
    renderings_agree_iff (keepsEscOut_writtenScreen (by unfold CleanCells; decide))
      (reaches_narrowView letterCells "ex") hstate
  refine ⟨view, hview, hdraws, hiff.mpr fun row hrow _ => ?_⟩
  have hone : (narrowView letterCells "ex").multiplexer.terminalSize.rows.toNat = 1 := by decide
  rw [hone, Nat.lt_one_iff] at hrow
  have hcut : cutChars 2 ((narrowView letterCells "ex").multiplexer.rowCells
      (writtenScreen letterCells) 0) = [] := by decide
  rw [hrow]
  intro ch hch
  exact absurd (hcut ▸ hch) List.not_mem_nil

/-- A letter with an accent of its own takes the place of the letter behind it in the line, not in
the row. -/
theorem accent_renderings_differ :
    ¬∀ (σ : Type) (v : VTerm σ) (Clean : σ → Prop) (terminalSize : TerminalSize)
        (maxScrollbackLines : ℕ) (ops : List Op) (t : ViewedMultiplexer σ) (viewId : Bytes)
        (view : TerminalViewportSnapshot), v.KeepsEscOut Clean →
        Reaches (step v) (create v terminalSize maxScrollbackLines) ops t →
        t.viewportSnapshot v viewId = .ok (some view) → RenderingsAgree v t.multiplexer view := by
  intro h
  have hclean : CleanCells [{ chars := [0x65, 0x301] }, { chars := [0x78] }] := by
    unfold CleanCells
    decide
  have hv := keepsEscOut_writtenScreen hclean
  have hrun := reaches_narrowView [{ chars := [0x65, 0x301] }, { chars := [0x78] }] "e\u0301x"
  have hinv := inv_reaches hrun
  have hstate : (narrowView [{ chars := [0x65, 0x301] }, { chars := [0x78] }]
      "e\u0301x").viewports [0x61] = some { columns := 2, rows := 1 } := rfl
  have hagree := h _ _ _ _ _ _ _ [0x61] _ hv hrun (viewportSnapshot_eq _ hstate)
  rw [renderingsAgree_shownView_iff hv hinv.shown (escFree_reaches hv hrun)
    (hinv.registered _ _ hstate)] at hagree
  have hfits := hagree 0 (by decide) (by decide)
  exact absurd (hfits 'x' (by decide)) (by decide)

end ViewedMultiplexer

end Sentrits.Session
