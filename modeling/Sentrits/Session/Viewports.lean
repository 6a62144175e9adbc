import Sentrits.Session.StyledRows

/-!
# Viewports

Observers look at a terminal through viewports of their own sizes. Each shows the last lines of the
scrollback and the screen, as many as it has rows, and of each line as many characters as it has
columns.

* `clipUtf8Columns_encode`: a line is clipped to some of its characters.
* `clipped_line_areText`: **lines of cells and what is clipped of them are text.**
* `checkedSub`: a subtraction of unsigned numbers; `viewportSnapshot` takes all its subtractions so.
* `ViewedMultiplexer`, `step`: the multiplexer and its viewports; `Inv`, `inv_step`: lines are text.
* `viewportSnapshot_eq`: **no subtraction wraps around**, and what is shown.
* `viewport_geometry`: the lines, the window and the cursor of a viewport, in every reachable state.

Source: `src/session/terminal_multiplexer.cpp`.
-/

namespace Sentrits.Session

open Found Found.Bytes Found.Runs

/-! ### Clipping -/

/-- Source: `terminal_multiplexer.cpp` `NextUtf8CodepointLength`, at the beginning of what is left.
-/
def nextUtf8CodepointLength : Bytes → ℕ
  | [] => 0
  | lead :: _ =>
      if lead &&& 0x80 = 0 then 1
      else if lead &&& 0xe0 = 0xc0 then 2
      else if lead &&& 0xf0 = 0xe0 then 3
      else if lead &&& 0xf8 = 0xf0 then 4
      else 1

/-- The first loop of `ClipUtf8Columns`: what is left behind some characters. -/
def skipColumns : ℕ → Bytes → Bytes
  | 0, line => line
  | startColumn + 1, line =>
      if line = [] then []
      else skipColumns startColumn (line.drop (nextUtf8CodepointLength line))

/-- The second loop of `ClipUtf8Columns`: so many characters. -/
def takeColumns : ℕ → Bytes → Bytes
  | 0, _ => []
  | maxColumns + 1, line =>
      if line = [] then []
      else
        line.take (nextUtf8CodepointLength line) ++
          takeColumns maxColumns (line.drop (nextUtf8CodepointLength line))

/-- Source: `terminal_multiplexer.cpp` `ClipUtf8Columns`. -/
def clipUtf8Columns (line : Bytes) (startColumn maxColumns : ℕ) : Bytes :=
  if maxColumns = 0 ∨ line = [] then [] else takeColumns maxColumns (skipColumns startColumn line)

/-- The first byte of a character gives its length. -/
theorem nextUtf8CodepointLength_append (ch : Char) (rest : Bytes) :
    nextUtf8CodepointLength (String.utf8EncodeChar ch ++ rest) =
      (String.utf8EncodeChar ch).length := by
  obtain ⟨lead, more, hencode, hlead⟩ := exists_lead ch
  rw [hencode, List.cons_append, List.length_cons, nextUtf8CodepointLength]
  rcases hlead with ⟨hlength, hone⟩ | ⟨hlength, hone, htwo⟩ | ⟨hlength, hone, htwo, hthree⟩ |
    ⟨hlength, hone, htwo, hthree, hfour⟩
  · rw [if_pos hone, hlength]
  · rw [if_neg hone, if_pos htwo, hlength]
  · rw [if_neg hone, if_neg htwo, if_pos hthree, hlength]
  · rw [if_neg hone, if_neg htwo, if_neg hthree, if_pos hfour, hlength]

/-- A character has bytes. -/
theorem encode_cons_ne_nil (ch : Char) (chars : List Char) : encode (ch :: chars) ≠ [] := by
  rw [encode_cons]
  exact List.append_ne_nil_of_left_ne_nil String.utf8EncodeChar_ne_nil _

/-- Skipping columns of a text drops characters. -/
theorem skipColumns_encode (startColumn : ℕ) (chars : List Char) :
    skipColumns startColumn (encode chars) = encode (chars.drop startColumn) := by
  induction startColumn generalizing chars with
  | zero => rfl
  | succ startColumn ih =>
      rcases chars with _ | ⟨ch, chars⟩
      · rfl
      · rw [skipColumns, if_neg (encode_cons_ne_nil ch chars), encode_cons,
          nextUtf8CodepointLength_append, List.drop_left, ih, List.drop_succ_cons]

/-- Taking columns of a text takes characters. -/
theorem takeColumns_encode (maxColumns : ℕ) (chars : List Char) :
    takeColumns maxColumns (encode chars) = encode (chars.take maxColumns) := by
  induction maxColumns generalizing chars with
  | zero => rfl
  | succ maxColumns ih =>
      rcases chars with _ | ⟨ch, chars⟩
      · rfl
      · rw [takeColumns, if_neg (encode_cons_ne_nil ch chars), encode_cons,
          nextUtf8CodepointLength_append, List.drop_left, List.take_left, ih, List.take_succ_cons,
          encode_cons]

/-- **A line of text is clipped** to the characters from one on, as many as are asked for. -/
theorem clipUtf8Columns_encode (chars : List Char) (startColumn maxColumns : ℕ) :
    clipUtf8Columns (encode chars) startColumn maxColumns =
      encode ((chars.drop startColumn).take maxColumns) := by
  unfold clipUtf8Columns
  split_ifs with hnone
  · rcases hnone with rfl | hnil
    · rw [List.take_zero]
      rfl
    · obtain rfl : chars = [] := encode_injective hnil
      rw [List.drop_nil, List.take_nil]
      rfl
  · rw [skipColumns_encode, takeColumns_encode]

/-- **Lines of cells are text, whatever is in the cells, and so is what is clipped of them**: whole
characters of the line, behind some that are skipped, and no more than are asked for. -/
theorem clipped_line_areText (cells : List VTermScreenCell) (startColumn maxColumns : ℕ) :
    IsText (cellsToUtf8Line cells) ∧
      IsText (clipUtf8Columns (cellsToUtf8Line cells) startColumn maxColumns) ∧
      ∃ skipped kept rest, cellsToUtf8Line cells = encode (skipped ++ kept ++ rest) ∧
        clipUtf8Columns (cellsToUtf8Line cells) startColumn maxColumns = encode kept ∧
        skipped.length ≤ startColumn ∧ kept.length ≤ maxColumns := by
  obtain ⟨chars, hchars⟩ := isText_iff.mp (isText_cellsToUtf8Line cells)
  rw [← hchars, clipUtf8Columns_encode]
  refine ⟨isText_encode _, isText_encode _, chars.take startColumn,
    (chars.drop startColumn).take maxColumns, (chars.drop startColumn).drop maxColumns, ?_, rfl,
    List.length_take_le _ _, List.length_take_le _ _⟩
  rw [List.append_assoc, List.take_append_drop, List.take_append_drop]

/-! ### Subtractions -/

/-- A subtraction of unsigned numbers would wrap around. -/
inductive Wrapped
  | wrapped
  deriving DecidableEq

/-- A subtraction of unsigned numbers. -/
def checkedSub (minuend subtrahend : ℕ) : Except Wrapped ℕ :=
  if subtrahend ≤ minuend then .ok (minuend - subtrahend) else .error .wrapped

/-- A subtraction that does not wrap. -/
theorem checkedSub_of_le {minuend subtrahend : ℕ} (h : subtrahend ≤ minuend) :
    checkedSub minuend subtrahend = .ok (minuend - subtrahend) := by
  exact if_pos h

/-- A loop none of whose rounds fails. -/
theorem mapM_eq_ok {α β : Type} {f : α → Except Wrapped β} {g : α → β} {xs : List α}
    (h : ∀ x ∈ xs, f x = .ok (g x)) : xs.mapM f = .ok (xs.map g) := by
  induction xs with
  | nil => rfl
  | cons x xs ih =>
      rw [List.forall_mem_cons] at h
      rw [List.mapM_cons, h.1, ih h.2]
      rfl

/-! ### Viewports -/

/-- Source: `terminal_multiplexer.h` `TerminalViewportState`. -/
structure TerminalViewportState where
  columns : UInt16 := 0
  rows : UInt16 := 0
  horizontalOffset : ℕ := 0
  followCursor : Bool := false
  deriving DecidableEq

/-- Source: `terminal_multiplexer.h` `TerminalViewportSnapshot`. -/
structure TerminalViewportSnapshot where
  viewId : Bytes
  columns : UInt16
  rows : UInt16
  renderRevision : ℕ
  totalLineCount : ℕ
  viewportTopLine : ℕ
  horizontalOffset : ℕ
  cursorViewportRow : Option ℕ
  cursorViewportColumn : Option ℕ
  visibleLines : List Bytes
  bootstrapAnsi : Bytes
  deriving DecidableEq

/-- The first line of the window. -/
def viewportTopLine (totalLineCount viewportRows : ℕ) : Except Wrapped ℕ :=
  if viewportRows < totalLineCount then checkedSub totalLineCount viewportRows else .ok 0

/-- The first column of the window. -/
def viewportOffset (state : TerminalViewportState) (cursorColumn viewportColumns : ℕ) :
    Except Wrapped ℕ :=
  if state.followCursor then
    if cursorColumn < state.horizontalOffset then .ok cursorColumn
    else if state.horizontalOffset + viewportColumns ≤ cursorColumn then
      checkedSub (cursorColumn + 1) viewportColumns
    else .ok state.horizontalOffset
  else .ok state.horizontalOffset

/-- Where the cursor is in a window that begins at some line or column, if it is in it. -/
def cursorWithin (cursor first size : ℕ) : Except Wrapped (Option ℕ) :=
  if first ≤ cursor ∧ cursor < first + size then (checkedSub cursor first).map some else .ok none

/-- The same for its column, which is looked at when its row is in the window. -/
def cursorColumnWithin (cursorRow : Option ℕ) (cursor first size : ℕ) :
    Except Wrapped (Option ℕ) :=
  if cursorRow.isSome then cursorWithin cursor first size else .ok none

/-- A line of the window; empty behind the last one. -/
def viewportLine (lines : List Bytes) (lineIndex horizontalOffset viewportColumns : ℕ) : Bytes :=
  match lines[lineIndex]? with
  | none => []
  | some line => clipUtf8Columns line horizontalOffset viewportColumns

/-- The sequence that puts the cursor somewhere. -/
def moveCursorTo (row column : ℕ) : Bytes :=
  csi "" ++ numberText (row + 1) ++ utf8 ";" ++ numberText (column + 1) ++ utf8 "H"

namespace Multiplexer

variable {σ : Type}

/-- A line of the scrollback as it is drawn. -/
def drawnScrollbackLine (m : Multiplexer σ) (horizontalOffset viewportColumns lineIndex : ℕ) :
    List RowPiece :=
  [.text (clipUtf8Columns (m.snapshot.scrollbackLines.getD lineIndex []) horizontalOffset
    viewportColumns)]

/-- A line of the history as it is drawn. -/
def historyRow (v : VTerm σ) (m : Multiplexer σ) (horizontalOffset viewportColumns : ℕ)
    (index : ℕ) : Except Wrapped (List RowPiece) :=
  if index < m.snapshot.scrollbackLines.length then
    .ok (drawnScrollbackLine m horizontalOffset viewportColumns index)
  else
    (checkedSub index m.snapshot.scrollbackLines.length).map fun screenRow =>
      styledVisibleRow v m screenRow horizontalOffset viewportColumns

/-- A line of the window as it is drawn; nothing behind the last one. -/
def windowRow (v : VTerm σ) (m : Multiplexer σ) (horizontalOffset viewportColumns : ℕ)
    (totalLineCount lineIndex : ℕ) : Except Wrapped (List RowPiece) :=
  if lineIndex < m.snapshot.scrollbackLines.length then
    .ok (drawnScrollbackLine m horizontalOffset viewportColumns lineIndex)
  else if lineIndex < totalLineCount then
    (checkedSub lineIndex m.snapshot.scrollbackLines.length).map fun screenRow =>
      styledVisibleRow v m screenRow horizontalOffset viewportColumns
  else .ok []

/-- What clears the screen between the history and the window. -/
def screenClear : Bytes := csi "0m" ++ csi "2J" ++ csi "H"

/-- Source: `terminal_multiplexer.cpp` `TerminalMultiplexer::Impl::BuildViewportBootstrapAnsi`. -/
def buildViewportBootstrapAnsi (v : VTerm σ) (m : Multiplexer σ)
    (topLine horizontalOffset viewportColumns viewportRows totalLineCount : ℕ)
    (cursorRow cursorColumn : Option ℕ) : Except Wrapped Bytes := do
  let history ← (List.range (min topLine totalLineCount)).mapM
    (historyRow v m horizontalOffset viewportColumns)
  let rows ← (List.range viewportRows).mapM fun row =>
    windowRow v m horizontalOffset viewportColumns totalLineCount (topLine + row)
  let cursor :=
    match cursorRow, cursorColumn with
    | some row, some column => moveCursorTo row column
    | _, _ => []
  pure
    ((if 0 < topLine then List.intercalate [cr, lf] (history.map rowBytes) ++ [cr, lf] else []) ++
      screenClear ++ List.intercalate (csi "E") (rows.map rowBytes) ++ cursor)

end Multiplexer

/-! ### The multiplexer with its viewports -/

/-- Source: `terminal_multiplexer.cpp` `TerminalMultiplexer::Impl`. -/
structure ViewedMultiplexer (σ : Type) where
  multiplexer : Multiplexer σ
  viewports : Bytes → Option TerminalViewportState := fun _ => none

namespace ViewedMultiplexer

variable {σ : Type}

/-- Source: `terminal_multiplexer.cpp` `TerminalMultiplexer::Impl::UpdateViewport`. -/
def updateViewport (t : ViewedMultiplexer σ) (viewId : Bytes) (viewportSize : TerminalSize) :
    ViewedMultiplexer σ :=
  if viewId = [] then t
  else
    { t with
      viewports := Function.update t.viewports viewId
        (some
          { (t.viewports viewId).getD {} with
            columns := (normalizeSize viewportSize).columns
            rows := (normalizeSize viewportSize).rows }) }

/-- Source: `terminal_multiplexer.cpp` `TerminalMultiplexer::Impl::RemoveViewport`. -/
def removeViewport (t : ViewedMultiplexer σ) (viewId : Bytes) : ViewedMultiplexer σ :=
  if viewId = [] then t else { t with viewports := Function.update t.viewports viewId none }

/-- Source: `terminal_multiplexer.cpp` `TerminalMultiplexer::Impl::ViewportSnapshot`. -/
def viewportSnapshot (v : VTerm σ) (t : ViewedMultiplexer σ) (viewId : Bytes) :
    Except Wrapped (Option TerminalViewportSnapshot) :=
  match t.viewports viewId with
  | none => .ok none
  | some state => do
      let snapshot := t.multiplexer.snapshot
      let viewportRows := max 1 state.rows.toNat
      let viewportColumns := max 1 state.columns.toNat
      let scrollbackCount := snapshot.scrollbackLines.length
      let totalLineCount := scrollbackCount + snapshot.visibleLines.length
      let topLine ← viewportTopLine totalLineCount viewportRows
      let horizontalOffset ← viewportOffset state snapshot.cursorColumn viewportColumns
      let cursorRow ← cursorWithin (scrollbackCount + snapshot.cursorRow) topLine viewportRows
      let cursorColumn ← cursorColumnWithin cursorRow snapshot.cursorColumn horizontalOffset
        viewportColumns
      let bootstrapAnsi ← t.multiplexer.buildViewportBootstrapAnsi v topLine horizontalOffset
        viewportColumns viewportRows totalLineCount cursorRow cursorColumn
      pure
        (some
          { viewId
            columns := UInt16.ofNat viewportColumns
            rows := UInt16.ofNat viewportRows
            renderRevision := snapshot.renderRevision
            totalLineCount
            viewportTopLine := topLine
            horizontalOffset
            cursorViewportRow := cursorRow
            cursorViewportColumn := cursorColumn
            visibleLines := (List.range viewportRows).map fun index =>
              viewportLine (snapshot.scrollbackLines ++ snapshot.visibleLines) (topLine + index)
                horizontalOffset viewportColumns
            bootstrapAnsi })

/-- Source: `terminal_multiplexer.cpp` `TerminalMultiplexer::Impl::Impl`. -/
def create (v : VTerm σ) (terminalSize : TerminalSize) (maxScrollbackLines : ℕ) :
    ViewedMultiplexer σ where
  multiplexer := Multiplexer.create v terminalSize maxScrollbackLines

/-- What is done with a multiplexer that is looked at. -/
inductive Op
  | append (data : Bytes)
  | resize (terminalSize : TerminalSize)
  | updateViewport (viewId : Bytes) (viewportSize : TerminalSize)
  | removeViewport (viewId : Bytes)

/-- Every call is possible at any time. -/
def step (v : VTerm σ) (t : ViewedMultiplexer σ) : Op → Option (ViewedMultiplexer σ)
  | .append data => some { t with multiplexer := t.multiplexer.append v data }
  | .resize terminalSize => some { t with multiplexer := t.multiplexer.resize v terminalSize }
  | .updateViewport viewId viewportSize => some (t.updateViewport viewId viewportSize)
  | .removeViewport viewId => some (t.removeViewport viewId)

end ViewedMultiplexer

/-! ### What every run keeps -/

namespace Multiplexer

variable {σ : Type}

/-- The snapshot shows the screen and the scrollback, whose lines are text. -/
structure Shown (v : VTerm σ) (m : Multiplexer σ) : Prop where
  visible : m.snapshot.visibleLines =
    (List.range m.terminalSize.rows.toNat).map fun row => cellsToUtf8Line (rowCells v m row)
  scrollback : m.snapshot.scrollbackLines = m.scrollbackLines
  cursorRow : m.snapshot.cursorRow = (v.cursor m.screen).1.toNat
  cursorColumn : m.snapshot.cursorColumn = (v.cursor m.screen).2.toNat
  text : ∀ line ∈ m.scrollbackLines, IsText line

/-- A line is shown for every row of the screen. -/
theorem Shown.length_visibleLines {v : VTerm σ} {m : Multiplexer σ} (h : Shown v m) :
    m.snapshot.visibleLines.length = m.terminalSize.rows.toNat := by
  rw [h.visible, List.length_map, List.length_range]

/-- The scrollback loses its oldest lines only. -/
theorem evictFront_suffix (maxScrollbackLines : ℕ) (lines : List Bytes) :
    evictFront maxScrollbackLines lines <:+ lines := by
  induction lines with
  | nil => exact List.suffix_refl _
  | cons line lines ih =>
      unfold evictFront
      split_ifs
      · exact ih.trans (List.suffix_cons line lines)
      · exact List.suffix_refl _

/-- The lines that the callbacks leave are lines of rows or were there before. -/
theorem forall_scrollbackLines_onCallback {P : Bytes → Prop} {m : Multiplexer σ}
    {callback : ScreenCallback}
    (hrow : ∀ cells, callback = .pushLine cells → P (cellsToUtf8Line cells))
    (h : ∀ line ∈ m.scrollbackLines, P line) :
    ∀ line ∈ (m.onCallback callback).scrollbackLines, P line := by
  rcases callback with _ | _ | _ | cells | _ | _
  · exact h
  · exact h
  · exact h
  · intro line hline
    have hmem : line ∈ m.scrollbackLines ++ [cellsToUtf8Line cells] :=
      (evictFront_suffix _ _).subset hline
    rcases List.mem_append.mp hmem with hmem | hmem
    · exact h line hmem
    · rw [List.mem_singleton.mp hmem]
      exact hrow cells rfl
  · intro line hline
    unfold onCallback at hline
    dsimp only at hline
    split_ifs at hline
    · exact h line hline
    · exact h line (List.dropLast_subset _ hline)
  · intro line hline
    exact absurd hline List.not_mem_nil

/-- What holds of every line that is pushed holds of the scrollback. -/
theorem forall_scrollbackLines_foldl {P : Bytes → Prop} {m : Multiplexer σ}
    {callbacks : List ScreenCallback}
    (hrow : ∀ cells, .pushLine cells ∈ callbacks → P (cellsToUtf8Line cells))
    (h : ∀ line ∈ m.scrollbackLines, P line) :
    ∀ line ∈ (callbacks.foldl onCallback m).scrollbackLines, P line := by
  induction callbacks generalizing m with
  | nil => exact h
  | cons callback callbacks ih =>
      rw [List.foldl_cons]
      apply ih
      · exact fun cells hcells => hrow cells (List.mem_cons_of_mem _ hcells)
      · apply forall_scrollbackLines_onCallback _ h
        rintro cells rfl
        exact hrow cells List.mem_cons_self

/-- A new screen is shown. -/
theorem shown_create (v : VTerm σ) (terminalSize : TerminalSize) (maxScrollbackLines : ℕ) :
    Shown v (create v terminalSize maxScrollbackLines) where
  visible := rfl
  scrollback := rfl
  cursorRow := rfl
  cursorColumn := rfl
  text := fun _ hline => absurd hline List.not_mem_nil

/-- Whatever the library calls back, the snapshot is taken anew. -/
theorem shown_called (v : VTerm σ) {m : Multiplexer σ} (h : ∀ line ∈ m.scrollbackLines, IsText line)
    (result : σ × List ScreenCallback) : Shown v (called v m result) := by
  have htext : ∀ line ∈ (result.2.foldl onCallback
      { m with screen := result.1, dirty := false }).scrollbackLines, IsText line :=
    forall_scrollbackLines_foldl (fun cells _ => isText_cellsToUtf8Line cells) h
  unfold called countRevision
  split_ifs
  · exact ⟨rfl, rfl, rfl, rfl, htext⟩
  · exact ⟨rfl, rfl, rfl, rfl, htext⟩

/-- Output keeps the screen shown. -/
theorem shown_append (v : VTerm σ) {m : Multiplexer σ} (h : Shown v m) (data : Bytes) :
    Shown v (m.append v data) := by
  unfold append
  split_ifs
  · exact h
  · have hwritten : Shown v (m.written v data) := shown_called v h.text _
    exact ⟨hwritten.visible, hwritten.scrollback, hwritten.cursorRow, hwritten.cursorColumn,
      hwritten.text⟩

/-- A new size keeps the screen shown. -/
theorem shown_resize (v : VTerm σ) {m : Multiplexer σ} (h : Shown v m)
    (terminalSize : TerminalSize) : Shown v (m.resize v terminalSize) := by
  have htext : ∀ line ∈ { m with terminalSize := normalizeSize terminalSize }.scrollbackLines,
      IsText line := h.text
  exact shown_called v htext _

end Multiplexer

namespace ViewedMultiplexer

variable {σ : Type}

/-- A viewport as it is registered: it has a size, begins at the first column and stays there. -/
structure Registered (state : TerminalViewportState) : Prop where
  rows : 1 ≤ state.rows
  columns : 1 ≤ state.columns
  offset : state.horizontalOffset = 0
  follow : state.followCursor = false

/-- The snapshot shows the terminal, and every viewport is as it is registered. -/
structure Inv (v : VTerm σ) (t : ViewedMultiplexer σ) : Prop where
  shown : t.multiplexer.Shown v
  registered : ∀ viewId state, t.viewports viewId = some state → Registered state

/-- A new multiplexer has no viewport. -/
theorem inv_create (v : VTerm σ) (terminalSize : TerminalSize) (maxScrollbackLines : ℕ) :
    Inv v (create v terminalSize maxScrollbackLines) where
  shown := Multiplexer.shown_create v terminalSize maxScrollbackLines
  registered := fun _ _ h => by cases h

/-- A viewport that is registered has its rows and columns. -/
theorem inv_updateViewport {v : VTerm σ} {t : ViewedMultiplexer σ} (h : Inv v t) (viewId : Bytes)
    (viewportSize : TerminalSize) : Inv v (t.updateViewport viewId viewportSize) := by
  unfold updateViewport
  split_ifs
  · exact h
  · refine ⟨h.shown, fun viewId' state hstate => ?_⟩
    dsimp only at hstate
    by_cases hid : viewId' = viewId
    · subst hid
      rw [Function.update_self] at hstate
      obtain rfl := Option.some.inj hstate
      have hold : ((t.viewports viewId').getD {}).horizontalOffset = 0 ∧
          ((t.viewports viewId').getD {}).followCursor = false := by
        rcases hbefore : t.viewports viewId' with _ | old
        · exact ⟨rfl, rfl⟩
        · have hregistered := h.registered viewId' old hbefore
          exact ⟨hregistered.offset, hregistered.follow⟩
      have hone : ∀ size : UInt16, 1 ≤ max 1 size := by
        intro size
        show 1 ≤ if 1 ≤ size then size else 1
        split_ifs with hle
        · exact hle
        · exact UInt16.le_refl 1
      exact ⟨hone _, hone _, hold.1, hold.2⟩
    · rw [Function.update_of_ne hid] at hstate
      exact h.registered viewId' state hstate

/-- Removing one keeps the invariant. -/
theorem inv_removeViewport {v : VTerm σ} {t : ViewedMultiplexer σ} (h : Inv v t) (viewId : Bytes) :
    Inv v (t.removeViewport viewId) := by
  unfold removeViewport
  split_ifs
  · exact h
  · refine ⟨h.shown, fun viewId' state hstate => ?_⟩
    dsimp only at hstate
    by_cases hid : viewId' = viewId
    · subst hid
      rw [Function.update_self] at hstate
      cases hstate
    · rw [Function.update_of_ne hid] at hstate
      exact h.registered viewId' state hstate

/-- **Every call keeps it.** -/
theorem inv_step {v : VTerm σ} {t t' : ViewedMultiplexer σ} {op : Op} (h : Inv v t)
    (hstep : step v t op = some t') : Inv v t' := by
  rcases op with data | terminalSize | ⟨viewId, viewportSize⟩ | viewId
  · obtain rfl := Option.some.inj hstep
    exact ⟨Multiplexer.shown_append v h.shown data, h.registered⟩
  · obtain rfl := Option.some.inj hstep
    exact ⟨Multiplexer.shown_resize v h.shown terminalSize, h.registered⟩
  · obtain rfl := Option.some.inj hstep
    exact inv_updateViewport h viewId viewportSize
  · obtain rfl := Option.some.inj hstep
    exact inv_removeViewport h viewId

/-- **The invariant holds in every reachable state.** -/
theorem inv_reaches {v : VTerm σ} {terminalSize : TerminalSize} {maxScrollbackLines : ℕ}
    {ops : List Op} {t : ViewedMultiplexer σ}
    (h : Reaches (step v) (create v terminalSize maxScrollbackLines) ops t) : Inv v t := by
  exact h.invariant (Inv v) (fun _ _ _ hinv hstep => inv_step hinv hstep)
    (inv_create v terminalSize maxScrollbackLines)

end ViewedMultiplexer

/-! ### No subtraction wraps around -/

/-- A step that does not wrap goes on. -/
theorem ok_bind {α β : Type} (a : α) (f : α → Except Wrapped β) : (Except.ok a >>= f) = f a := by
  rfl

/-- **The window ends with the last line**, or begins with the first. -/
theorem viewportTopLine_eq (totalLineCount viewportRows : ℕ) :
    viewportTopLine totalLineCount viewportRows = .ok (totalLineCount - viewportRows) := by
  unfold viewportTopLine
  split_ifs with hmany
  · exact checkedSub_of_le hmany.le
  · rw [Nat.sub_eq_zero_of_le (Nat.not_lt.mp hmany)]

/-- The first column of the window, which may follow the cursor. -/
def followedOffset (state : TerminalViewportState) (cursorColumn viewportColumns : ℕ) : ℕ :=
  if state.followCursor then
    if cursorColumn < state.horizontalOffset then cursorColumn
    else if state.horizontalOffset + viewportColumns ≤ cursorColumn then
      cursorColumn + 1 - viewportColumns
    else state.horizontalOffset
  else state.horizontalOffset

/-- No subtraction of the horizontal offset wraps. -/
theorem viewportOffset_eq (state : TerminalViewportState) (cursorColumn viewportColumns : ℕ) :
    viewportOffset state cursorColumn viewportColumns =
      .ok (followedOffset state cursorColumn viewportColumns) := by
  unfold viewportOffset followedOffset
  split_ifs with _ _ hbehind
  · rfl
  · exact checkedSub_of_le (by omega)
  · rfl
  · rfl

/-- Where the cursor is in a window, if it is in it. -/
def placeWithin (cursor first size : ℕ) : Option ℕ :=
  if first ≤ cursor ∧ cursor < first + size then some (cursor - first) else none

/-- No subtraction for the row of the cursor wraps. -/
theorem cursorWithin_eq (cursor first size : ℕ) :
    cursorWithin cursor first size = .ok (placeWithin cursor first size) := by
  unfold cursorWithin placeWithin
  split_ifs with hin
  · rw [checkedSub_of_le hin.1]
    rfl
  · rfl

/-- No subtraction for the column of the cursor wraps. -/
theorem cursorColumnWithin_eq (cursorRow : Option ℕ) (cursor first size : ℕ) :
    cursorColumnWithin cursorRow cursor first size =
      .ok (if cursorRow.isSome then placeWithin cursor first size else none) := by
  unfold cursorColumnWithin
  split_ifs
  · exact cursorWithin_eq cursor first size
  · rfl

/-- When something is within a window, and where. -/
theorem placeWithin_eq_some_iff {cursor first size place : ℕ} :
    placeWithin cursor first size = some place ↔
      (first ≤ cursor ∧ cursor < first + size) ∧ place = cursor - first := by
  unfold placeWithin
  split_ifs with hin
  · rw [Option.some.injEq, and_iff_right hin]
    exact eq_comm
  · exact iff_of_false nofun fun h => hin h.1

namespace Multiplexer

variable {σ : Type}

/-- A line of the scrollback or of the screen as it is drawn. -/
def drawnRow (v : VTerm σ) (m : Multiplexer σ) (horizontalOffset viewportColumns : ℕ)
    (totalLineCount lineIndex : ℕ) : List RowPiece :=
  if lineIndex < m.snapshot.scrollbackLines.length then
    drawnScrollbackLine m horizontalOffset viewportColumns lineIndex
  else if lineIndex < totalLineCount then
    styledVisibleRow v m (lineIndex - m.snapshot.scrollbackLines.length) horizontalOffset
      viewportColumns
  else []

/-- No subtraction wraps for a row above the window. -/
theorem historyRow_eq (v : VTerm σ) (m : Multiplexer σ) (horizontalOffset viewportColumns : ℕ)
    {totalLineCount index : ℕ} (h : index < totalLineCount) :
    historyRow v m horizontalOffset viewportColumns index =
      .ok (drawnRow v m horizontalOffset viewportColumns totalLineCount index) := by
  unfold historyRow drawnRow
  split_ifs with hscrollback
  · rfl
  · rw [checkedSub_of_le (Nat.not_lt.mp hscrollback)]
    rfl

/-- No subtraction wraps for a row in the window. -/
theorem windowRow_eq (v : VTerm σ) (m : Multiplexer σ) (horizontalOffset viewportColumns : ℕ)
    (totalLineCount lineIndex : ℕ) :
    windowRow v m horizontalOffset viewportColumns totalLineCount lineIndex =
      .ok (drawnRow v m horizontalOffset viewportColumns totalLineCount lineIndex) := by
  unfold windowRow drawnRow
  split_ifs with hscrollback
  · rfl
  · rw [checkedSub_of_le (Nat.not_lt.mp hscrollback)]
    rfl
  · rfl

/-- The rows of the window as they are drawn. -/
def drawnWindow (v : VTerm σ) (m : Multiplexer σ)
    (topLine horizontalOffset viewportColumns viewportRows totalLineCount : ℕ) :
    List (List RowPiece) :=
  (List.range viewportRows).map fun row =>
    drawnRow v m horizontalOffset viewportColumns totalLineCount (topLine + row)

/-- The lines above the window as they are drawn, each with the end of the line. -/
def drawnHistory (v : VTerm σ) (m : Multiplexer σ)
    (topLine horizontalOffset viewportColumns totalLineCount : ℕ) : Bytes :=
  if 0 < topLine then
    List.intercalate [cr, lf] (((List.range (min topLine totalLineCount)).map
      (drawnRow v m horizontalOffset viewportColumns totalLineCount)).map rowBytes) ++ [cr, lf]
  else []

/-- The sequence that puts the cursor where it is in the window, if it is in it. -/
def drawnCursor : Option ℕ → Option ℕ → Bytes
  | some row, some column => moveCursorTo row column
  | _, _ => []

/-- What is drawn for a viewport: the rows above it, its own, and the cursor. -/
theorem buildViewportBootstrapAnsi_eq (v : VTerm σ) (m : Multiplexer σ)
    (topLine horizontalOffset viewportColumns viewportRows totalLineCount : ℕ)
    (cursorRow cursorColumn : Option ℕ) :
    buildViewportBootstrapAnsi v m topLine horizontalOffset viewportColumns viewportRows
        totalLineCount cursorRow cursorColumn =
      .ok (drawnHistory v m topLine horizontalOffset viewportColumns totalLineCount ++
        screenClear ++
        List.intercalate (csi "E") ((drawnWindow v m topLine horizontalOffset viewportColumns
          viewportRows totalLineCount).map rowBytes) ++
        drawnCursor cursorRow cursorColumn) := by
  have hhistory : (List.range (min topLine totalLineCount)).mapM
      (historyRow v m horizontalOffset viewportColumns) =
        .ok ((List.range (min topLine totalLineCount)).map
          (drawnRow v m horizontalOffset viewportColumns totalLineCount)) :=
    mapM_eq_ok fun index hindex =>
      historyRow_eq v m horizontalOffset viewportColumns
        (lt_of_lt_of_le (List.mem_range.mp hindex) (min_le_right _ _))
  have hwindow : ((List.range viewportRows).mapM fun row =>
      windowRow v m horizontalOffset viewportColumns totalLineCount (topLine + row)) =
        .ok (drawnWindow v m topLine horizontalOffset viewportColumns viewportRows
          totalLineCount) :=
    mapM_eq_ok fun row _ =>
      windowRow_eq v m horizontalOffset viewportColumns totalLineCount (topLine + row)
  unfold buildViewportBootstrapAnsi
  rw [hhistory, ok_bind, hwindow, ok_bind]
  rcases cursorRow with _ | row
  · rfl
  · rcases cursorColumn with _ | column <;> rfl

end Multiplexer

namespace ViewedMultiplexer

variable {σ : Type}

/-- What a viewport shows. -/
def shownView (v : VTerm σ) (m : Multiplexer σ) (viewId : Bytes) (state : TerminalViewportState) :
    TerminalViewportSnapshot :=
  let viewportRows := max 1 state.rows.toNat
  let viewportColumns := max 1 state.columns.toNat
  let allLines := m.snapshot.scrollbackLines ++ m.snapshot.visibleLines
  let totalLineCount := m.snapshot.scrollbackLines.length + m.snapshot.visibleLines.length
  let topLine := totalLineCount - viewportRows
  let horizontalOffset := followedOffset state m.snapshot.cursorColumn viewportColumns
  let cursorRow := placeWithin (m.snapshot.scrollbackLines.length + m.snapshot.cursorRow) topLine
    viewportRows
  let cursorColumn :=
    if cursorRow.isSome then placeWithin m.snapshot.cursorColumn horizontalOffset viewportColumns
    else none
  { viewId
    columns := UInt16.ofNat viewportColumns
    rows := UInt16.ofNat viewportRows
    renderRevision := m.snapshot.renderRevision
    totalLineCount
    viewportTopLine := topLine
    horizontalOffset
    cursorViewportRow := cursorRow
    cursorViewportColumn := cursorColumn
    visibleLines := (List.range viewportRows).map fun index =>
      viewportLine allLines (topLine + index) horizontalOffset viewportColumns
    bootstrapAnsi :=
      m.drawnHistory v topLine horizontalOffset viewportColumns totalLineCount ++
        Multiplexer.screenClear ++
        List.intercalate (csi "E") ((m.drawnWindow v topLine horizontalOffset viewportColumns
          viewportRows totalLineCount).map rowBytes) ++
        Multiplexer.drawnCursor cursorRow cursorColumn }

/-- **No subtraction wraps around**, and what is shown. -/
theorem viewportSnapshot_eq (v : VTerm σ) {t : ViewedMultiplexer σ} {viewId : Bytes}
    {state : TerminalViewportState} (h : t.viewports viewId = some state) :
    t.viewportSnapshot v viewId = .ok (some (shownView v t.multiplexer viewId state)) := by
  unfold viewportSnapshot
  rw [h]
  dsimp only
  rw [viewportTopLine_eq, ok_bind, viewportOffset_eq, ok_bind, cursorWithin_eq, ok_bind,
    cursorColumnWithin_eq, ok_bind, Multiplexer.buildViewportBootstrapAnsi_eq, ok_bind]
  rfl

/-! ### The window -/

/-- **What is seen of a terminal through a viewport**: as many lines as it has rows, none with more
characters than it has columns, the last of them the last one of the terminal; and the cursor, if it
is among them. -/
structure Geometry (v : VTerm σ) (m : Multiplexer σ) (state : TerminalViewportState)
    (view : TerminalViewportSnapshot) : Prop where
  /-- As many lines as the viewport has rows. -/
  rows : view.rows = state.rows ∧ view.visibleLines.length = state.rows.toNat
  /-- Each of at most so many characters. -/
  columns : view.columns = state.columns ∧ ∀ line ∈ view.visibleLines,
    ∃ chars, encode chars = line ∧ chars.length ≤ state.columns.toNat
  total : view.totalLineCount = m.scrollbackLines.length + m.terminalSize.rows.toNat
  /-- The window begins as late as it can. -/
  top : (view.viewportTopLine : ℤ) = max 0 (view.totalLineCount - state.rows.toNat)
  /-- So it shows the last lines. -/
  tail : ∀ index < state.rows.toNat, view.visibleLines[index]? =
    some (viewportLine (m.scrollbackLines ++ m.snapshot.visibleLines)
      (view.viewportTopLine + index) view.horizontalOffset state.columns.toNat)
  /-- The cursor's row is shown when it is in the window. -/
  cursorRow : view.cursorViewportRow.isSome = true ↔
    view.viewportTopLine ≤ m.scrollbackLines.length + (v.cursor m.screen).1.toNat ∧
      m.scrollbackLines.length + (v.cursor m.screen).1.toNat <
        view.viewportTopLine + state.rows.toNat
  /-- Its column is when its row and its column are. -/
  cursorColumn : view.cursorViewportColumn.isSome = true ↔
    view.cursorViewportRow.isSome = true ∧
      view.horizontalOffset ≤ (v.cursor m.screen).2.toNat ∧
        (v.cursor m.screen).2.toNat < view.horizontalOffset + state.columns.toNat
  rowWithin : ∀ row, view.cursorViewportRow = some row → row < state.rows.toNat ∧
    view.viewportTopLine + row = m.scrollbackLines.length + (v.cursor m.screen).1.toNat
  columnWithin : ∀ column, view.cursorViewportColumn = some column →
    column < state.columns.toNat ∧
      view.horizontalOffset + column = (v.cursor m.screen).2.toNat

/-- When something is within a window. -/
theorem placeWithin_isSome_iff {cursor first size : ℕ} :
    (placeWithin cursor first size).isSome = true ↔ first ≤ cursor ∧ cursor < first + size := by
  unfold placeWithin
  split_ifs with hin
  · exact iff_of_true rfl hin
  · exact iff_of_false Bool.false_ne_true hin

/-- A line of the window is a clipped line of text. -/
theorem exists_encode_viewportLine {lines : List Bytes} (h : ∀ line ∈ lines, IsText line)
    (lineIndex horizontalOffset viewportColumns : ℕ) :
    ∃ chars, encode chars = viewportLine lines lineIndex horizontalOffset viewportColumns ∧
      chars.length ≤ viewportColumns := by
  unfold viewportLine
  rcases hline : lines[lineIndex]? with _ | line
  · exact ⟨[], rfl, Nat.zero_le _⟩
  · obtain ⟨chars, rfl⟩ := isText_iff.mp (h line (List.mem_of_getElem? hline))
    dsimp only
    rw [clipUtf8Columns_encode]
    exact ⟨_, rfl, List.length_take_le _ _⟩

/-- What is shown of a registered viewport has the geometry. -/
theorem geometry_shownView {v : VTerm σ} {m : Multiplexer σ} (hm : m.Shown v)
    {state : TerminalViewportState} (hstate : Registered state) (viewId : Bytes) :
    Geometry v m state (shownView v m viewId state) := by
  have hrows : max 1 state.rows.toNat = state.rows.toNat :=
    max_eq_right (UInt16.le_iff_toNat_le.mp hstate.rows)
  have hcolumns : max 1 state.columns.toNat = state.columns.toNat :=
    max_eq_right (UInt16.le_iff_toNat_le.mp hstate.columns)
  have hcount := hm.length_visibleLines
  have htext : ∀ line ∈ m.scrollbackLines ++ m.snapshot.visibleLines, IsText line := by
    intro line hline
    rcases List.mem_append.mp hline with hline | hline
    · exact hm.text line hline
    · rw [hm.visible] at hline
      obtain ⟨row, -, rfl⟩ := List.mem_map.mp hline
      exact isText_cellsToUtf8Line _
  unfold shownView
  rw [hrows, hcolumns, hm.scrollback, hcount, hm.cursorRow, hm.cursorColumn]
  refine ⟨⟨UInt16.ofNat_toNat, by simp⟩, ⟨UInt16.ofNat_toNat, ?_⟩, rfl, ?_, ?_, ?_, ?_, ?_, ?_⟩
  · intro line hline
    obtain ⟨index, -, rfl⟩ := List.mem_map.mp hline
    exact exists_encode_viewportLine htext _ _ _
  · dsimp only
    omega
  · intro index hindex
    rw [List.getElem?_map, List.getElem?_range hindex]
    rfl
  · exact placeWithin_isSome_iff
  · dsimp only
    split_ifs with hrow
    · rw [and_iff_right hrow]
      exact placeWithin_isSome_iff
    · exact iff_of_false Bool.false_ne_true fun h => hrow h.1
  · intro row hrow
    obtain ⟨⟨hfirst, hlast⟩, rfl⟩ := placeWithin_eq_some_iff.mp hrow
    dsimp only
    omega
  · intro column hcolumn
    obtain ⟨-, hsome⟩ := Option.ite_none_right_eq_some.mp hcolumn
    obtain ⟨⟨hfirst, hlast⟩, rfl⟩ := placeWithin_eq_some_iff.mp hsome
    dsimp only
    omega

/-- **What is seen through a viewport**, in every state that calls lead to: no subtraction wraps
around, and the lines, the window and the cursor are as they should be. -/
theorem viewport_geometry {v : VTerm σ} {terminalSize : TerminalSize} {maxScrollbackLines : ℕ}
    {ops : List Op} {t : ViewedMultiplexer σ}
    (hrun : Reaches (step v) (create v terminalSize maxScrollbackLines) ops t) {viewId : Bytes}
    {state : TerminalViewportState} (hview : t.viewports viewId = some state) :
    ∃ view, t.viewportSnapshot v viewId = .ok (some view) ∧
      Geometry v t.multiplexer state view := by
  have hinv := inv_reaches hrun
  exact ⟨_, viewportSnapshot_eq v hview,
    geometry_shownView hinv.shown (hinv.registered viewId state hview) viewId⟩

/-- A screen that letters are written on, none behind the last column. -/
structure LetterScreen where
  size : TerminalSize
  lines : List Bytes
  row : ℕ := 0
  column : ℕ := 0

namespace LetterScreen

/-- A cell of the screen; a blank one behind the end of a line. -/
def cell (s : LetterScreen) (row column : ℕ) : VTermScreenCell where
  chars := ((s.lines.getD row [])[column]?.map UInt8.toUInt32).toList

/-- One byte: a carriage return and a line feed move the cursor, and a line feed in the last row
pushes the first one out. -/
def put (s : LetterScreen) (ch : UInt8) : LetterScreen × List ScreenCallback :=
  if ch = cr then ({ s with column := 0 }, [.moveCursor])
  else if ch = lf then
    if s.row + 1 < s.size.rows.toNat then ({ s with row := s.row + 1 }, [.moveCursor])
    else
      ({ s with lines := s.lines.tail ++ [[]] },
        [.pushLine ((List.range s.size.columns.toNat).map (s.cell 0)), .damage])
  else
    ({ s with
        lines := s.lines.modify s.row fun line =>
          line.take s.column ++ ch :: line.drop (s.column + 1)
        column := s.column + 1 },
      [.damage, .moveCursor])

/-- The screen as a terminal library; it can get wider. -/
def library : VTerm LetterScreen where
  new size := { size, lines := List.replicate size.rows.toNat [] }
  inputWrite s data :=
    data.foldl (fun result ch => ((result.1.put ch).1, result.2 ++ (result.1.put ch).2)) (s, [])
  setSize s size _ :=
    ({ s with size }, [.damage, .resize size.rows.toNat size.columns.toNat])
  cell := cell
  cursor s := (s.row, s.column)

end LetterScreen

/-- Five lines on a screen of two rows with a scrollback of two lines; then the screen gets wider,
the cursor goes back to write over a letter, and a viewport of three rows and two columns looks at
it. -/
def letterOps : List Op :=
  [.append (utf8 "a\r\nbc\r\nd\r\ne\r\nfg"), .resize { columns := 6, rows := 2 },
    .append (utf8 "\rx"), .updateViewport [0x61] { columns := 2, rows := 3 }]

/-- What the calls lead to. -/
def letterView : ViewedMultiplexer LetterScreen :=
  letterOps.foldl (fun t op => (step LetterScreen.library t op).getD t)
    (create LetterScreen.library { columns := 4, rows := 2 } 2)

/-- The last line of the scrollback and both rows of the screen are seen, and the cursor in the
third row. -/
theorem viewport_geometry_letters :
    ∃ view, letterView.viewportSnapshot LetterScreen.library [0x61] = .ok (some view) ∧
      view.visibleLines = [utf8 "d", utf8 "e", utf8 "xg"] ∧
      view.cursorViewportRow = some 2 ∧ view.cursorViewportColumn = some 1 ∧
      Geometry LetterScreen.library letterView.multiplexer { columns := 2, rows := 3 } view := by
  have hrun : Reaches (step LetterScreen.library)
      (create LetterScreen.library { columns := 4, rows := 2 } 2) letterOps letterView :=
    .cons rfl (.cons rfl (.cons rfl (.cons rfl (.refl _))))
  have hview : letterView.viewports [0x61] = some { columns := 2, rows := 3 } := rfl
  obtain ⟨view, hsnapshot, hgeometry⟩ := viewport_geometry hrun hview
  have hseen : (letterView.viewportSnapshot LetterScreen.library [0x61]).map
      (·.map fun view => (view.visibleLines, view.cursorViewportRow, view.cursorViewportColumn)) =
        .ok (some ([utf8 "d", utf8 "e", utf8 "xg"], some 2, some 1)) := by
    decide +kernel
  rw [hsnapshot] at hseen
  obtain ⟨hlines, hrow, hcolumn⟩ : view.visibleLines = _ ∧ view.cursorViewportRow = _ ∧
      view.cursorViewportColumn = _ := by
    simpa [Except.map] using hseen
  exact ⟨view, hsnapshot, hlines, hrow, hcolumn, hgeometry⟩

end ViewedMultiplexer

end Sentrits.Session
