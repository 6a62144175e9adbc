import Sentrits.Found.Runs
import Sentrits.Session.Runtime
import Sentrits.Session.SemanticChange

/-!
# The scrollback and what it is taken for

The terminal library keeps the screen and calls back when a line leaves it at the top, when a line
is wanted back, when the scrollback is to be cleared and when something is to be drawn anew. The
multiplexer keeps so many of the lines, the oldest go; what was pushed is told from how many lines
there are before a chunk and after it.

* `VTerm`: the library, as far as it is called.
* `Multiplexer.append`, `Multiplexer.resize`: the multiplexer, with all the callbacks it gets.
* `Inv`, `inv_step`: the snapshot shows the scrollback, which is never longer than allowed.
* `not_hasRoom_of_full`: **a full scrollback never grows.**
* `neverMissed_iff`: **in every run, a chunk that pushes a line counts exactly when** it switches
  the alternate screen, or there is room for the line, or what it leaves on the screen is lively.

Source: `src/session/terminal_multiplexer.cpp`.
-/

namespace Sentrits.Session

open Found Found.Bytes Found.Runs

/-! ### Cells -/

/-- How a cell is underlined. -/
inductive Underline
  | off
  | single
  | double
  | curly
  deriving DecidableEq

/-- How a cell is drawn, as far as it is read. -/
structure VTermScreenCellAttrs where
  bold : Bool := false
  underline : Underline := .off
  italic : Bool := false
  blink : Bool := false
  reverse : Bool := false
  conceal : Bool := false
  strike : Bool := false
  deriving DecidableEq

/-- A colour by its number in the palette, or by its parts. -/
inductive ColorValue
  | rgb (red green blue : UInt8)
  | indexed (idx : UInt8)
  deriving DecidableEq

/-- A colour, and whether it is the one that text or its background has by default. -/
structure VTermColor where
  defaultFg : Bool := false
  defaultBg : Bool := false
  value : ColorValue := .rgb 0 0 0
  deriving DecidableEq

/-- The code points of a cell, up to the first that is zero, its width and how it is drawn. -/
structure VTermScreenCell where
  chars : List UInt32 := []
  width : ℕ := 1
  attrs : VTermScreenCellAttrs := {}
  fg : VTermColor := { defaultFg := true }
  bg : VTermColor := { defaultBg := true }
  deriving DecidableEq

/-- Source: `terminal_multiplexer.cpp` `NormalizeUnicodeScalar`. -/
def normalizeUnicodeScalar (codepoint : UInt32) : UInt32 :=
  if codepoint = 0 then 0
  else if codepoint > 0x10ffff ∨ (0xd800 ≤ codepoint ∧ codepoint ≤ 0xdfff) then 0xfffd
  else codepoint

/-- Source: `terminal_multiplexer.cpp` `AppendUtf8`. -/
def appendUtf8 (codepoint : UInt32) : Bytes :=
  let scalar := normalizeUnicodeScalar codepoint
  let leading (mark mask shift : UInt32) : UInt8 :=
    (mark ||| ((scalar >>> shift) &&& mask)).toUInt8
  let continued (shift : UInt32) : UInt8 := (0x80 ||| ((scalar >>> shift) &&& 0x3f)).toUInt8
  if scalar = 0 then []
  else if scalar ≤ 0x7f then [scalar.toUInt8]
  else if scalar ≤ 0x7ff then [leading 0xc0 0x1f 6, continued 0]
  else if scalar ≤ 0xffff then [leading 0xe0 0x0f 12, continued 6, continued 0]
  else [leading 0xf0 0x07 18, continued 12, continued 6, continued 0]

/-- Source: `terminal_multiplexer.cpp` `CellsToUtf8Line`. -/
def cellsToUtf8Line (cells : List VTermScreenCell) : Bytes :=
  (cells.flatMap fun cell =>
    if cell.width = 0 then []
    else
      let chars := cell.chars.takeWhile (· ≠ 0)
      if chars = [] then [0x20] else chars.flatMap appendUtf8).rdropWhile (· == 0x20)

/-! ### The terminal library -/

/-- What the library calls back. -/
inductive ScreenCallback
  | damage
  | moveCursor
  | resize (rows columns : ℤ)
  | pushLine (cells : List VTermScreenCell)
  | popLine
  | clear
  deriving DecidableEq

/-- The library: its state, what it calls back while it is given some bytes or a size (then it may
take lines back), and what it shows. -/
structure VTerm (σ : Type) where
  new : TerminalSize → σ
  inputWrite : σ → Bytes → σ × List ScreenCallback
  setSize : σ → TerminalSize → List Bytes → σ × List ScreenCallback
  cell : σ → ℕ → ℕ → VTermScreenCell
  cursor : σ → ℤ × ℤ

/-! ### The multiplexer -/

/-- Source: `terminal_multiplexer.cpp` `TerminalMultiplexer::Impl`; the viewports are left out. -/
structure Multiplexer (σ : Type) where
  terminalSize : TerminalSize
  maxScrollbackLines : ℕ
  screen : σ
  scrollbackLines : List Bytes := []
  snapshot : TerminalScreenSnapshot := {}
  lastSemanticChange : TerminalSemanticChange := {}
  renderRevision : ℕ := 0
  dirty : Bool := false

/-- The oldest lines go while there are too many. -/
def evictFront (maxScrollbackLines : ℕ) : List Bytes → List Bytes
  | [] => []
  | line :: lines =>
      if maxScrollbackLines < (line :: lines).length then evictFront maxScrollbackLines lines
      else line :: lines

namespace Multiplexer

variable {σ : Type}

/-- Source: `terminal_multiplexer.cpp` `TerminalMultiplexer::Impl::PushScrollbackLine`. -/
def pushScrollbackLine (m : Multiplexer σ) (line : Bytes) : Multiplexer σ :=
  { m with scrollbackLines := evictFront m.maxScrollbackLines (m.scrollbackLines ++ [line]) }

/-- Source: `terminal_multiplexer.cpp` `OnDamage`, `OnMoveCursor`, `OnResize`, `OnScrollbackPush`,
`OnScrollbackPop`, `OnScrollbackClear`. -/
def onCallback (m : Multiplexer σ) : ScreenCallback → Multiplexer σ
  | .damage => { m with dirty := true }
  | .moveCursor => { m with dirty := true }
  | .resize rows columns =>
      { m with
        terminalSize := normalizeSize
          { columns := UInt16.ofNat (max columns 1).toNat, rows := UInt16.ofNat (max rows 1).toNat }
        dirty := true }
  | .pushLine cells => { m.pushScrollbackLine (cellsToUtf8Line cells) with dirty := true }
  | .popLine =>
      if m.scrollbackLines.isEmpty then m
      else { m with scrollbackLines := m.scrollbackLines.dropLast, dirty := true }
  | .clear => { m with scrollbackLines := [], dirty := true }

/-- Source: `terminal_multiplexer.cpp` `TerminalMultiplexer::Impl::RefreshSnapshot`. -/
def refreshSnapshot (v : VTerm σ) (m : Multiplexer σ) : Multiplexer σ :=
  { m with
    snapshot :=
      { columns := m.terminalSize.columns
        rows := m.terminalSize.rows
        renderRevision := m.renderRevision
        cursorRow := (v.cursor m.screen).1.toNat
        cursorColumn := (v.cursor m.screen).2.toNat
        visibleLines := (List.range m.terminalSize.rows.toNat).map fun row =>
          cellsToUtf8Line ((List.range m.terminalSize.columns.toNat).map (v.cell m.screen row))
        scrollbackLines := m.scrollbackLines } }

/-- The end of `Append` and of `Resize`: the revision counts what was drawn anew. -/
def countRevision (m : Multiplexer σ) : Multiplexer σ :=
  if m.dirty then
    { m with
      renderRevision := m.renderRevision + 1
      snapshot := { m.snapshot with renderRevision := m.renderRevision + 1 }
      dirty := false }
  else m

/-- The library has changed its state and called back. -/
def called (v : VTerm σ) (m : Multiplexer σ) (result : σ × List ScreenCallback) : Multiplexer σ :=
  (refreshSnapshot v
    (result.2.foldl onCallback { m with screen := result.1, dirty := false })).countRevision

/-- Source: `terminal_multiplexer.cpp` `TerminalMultiplexer::Impl::Impl`. -/
def create (v : VTerm σ) (terminalSize : TerminalSize) (maxScrollbackLines : ℕ) : Multiplexer σ :=
  refreshSnapshot v
    { terminalSize := normalizeSize terminalSize
      maxScrollbackLines
      screen := v.new (normalizeSize terminalSize) }

/-- Source: `terminal_multiplexer.cpp` `TerminalMultiplexer::Impl::Resize`. -/
def resize (v : VTerm σ) (m : Multiplexer σ) (terminalSize : TerminalSize) : Multiplexer σ :=
  let size := normalizeSize terminalSize
  called v { m with terminalSize := size } (v.setSize m.screen size m.scrollbackLines)

/-- The part of `Append` before the change is classified. -/
def written (v : VTerm σ) (m : Multiplexer σ) (data : Bytes) : Multiplexer σ :=
  called v m (v.inputWrite m.screen data)

/-- Source: `terminal_multiplexer.cpp` `TerminalMultiplexer::Impl::Append`. -/
def append (v : VTerm σ) (m : Multiplexer σ) (data : Bytes) : Multiplexer σ :=
  if data.isEmpty then m
  else
    { written v m data with
      lastSemanticChange :=
        classifySemanticChange data m.snapshot (written v m data).snapshot }

/-- What is done with a multiplexer. -/
inductive Op
  | append (data : Bytes)
  | resize (terminalSize : TerminalSize)

/-- Every call is possible at any time. -/
def step (v : VTerm σ) (m : Multiplexer σ) : Op → Option (Multiplexer σ)
  | .append data => some (m.append v data)
  | .resize terminalSize => some (m.resize v terminalSize)

/-! ### The scrollback -/

/-- How many lines are left. -/
theorem length_evictFront (maxScrollbackLines : ℕ) (lines : List Bytes) :
    (evictFront maxScrollbackLines lines).length = min lines.length maxScrollbackLines := by
  induction lines with
  | nil => exact (Nat.zero_min _).symm
  | cons line lines ih =>
      unfold evictFront
      split_ifs with hmany
      · rw [ih]
        rw [List.length_cons] at hmany ⊢
        omega
      · omega

/-- How many lines there are after some callbacks. -/
def scrollbackCount (maxScrollbackLines : ℕ) : ℕ → List ScreenCallback → ℕ
  | count, [] => count
  | count, .pushLine _ :: callbacks =>
      scrollbackCount maxScrollbackLines (min (count + 1) maxScrollbackLines) callbacks
  | count, .popLine :: callbacks => scrollbackCount maxScrollbackLines (count - 1) callbacks
  | _, .clear :: callbacks => scrollbackCount maxScrollbackLines 0 callbacks
  | count, _ :: callbacks => scrollbackCount maxScrollbackLines count callbacks

/-- The scrollback is longer after the callbacks than before. -/
def HasRoom (m : Multiplexer σ) (callbacks : List ScreenCallback) : Prop :=
  m.scrollbackLines.length <
    scrollbackCount m.maxScrollbackLines m.scrollbackLines.length callbacks

variable {m : Multiplexer σ}

/-- What no callback changes. -/
structure Framed (m m' : Multiplexer σ) : Prop where
  screen : m'.screen = m.screen
  maxScrollbackLines : m'.maxScrollbackLines = m.maxScrollbackLines
  renderRevision : m'.renderRevision = m.renderRevision
  lastSemanticChange : m'.lastSemanticChange = m.lastSemanticChange

/-- One callback after the other. -/
theorem Framed.trans {m m' m'' : Multiplexer σ} (h : Framed m m') (h' : Framed m' m'') :
    Framed m m'' where
  screen := h'.screen.trans h.screen
  maxScrollbackLines := h'.maxScrollbackLines.trans h.maxScrollbackLines
  renderRevision := h'.renderRevision.trans h.renderRevision
  lastSemanticChange := h'.lastSemanticChange.trans h.lastSemanticChange

/-- A callback changes the scrollback only. -/
theorem framed_onCallback (m : Multiplexer σ) (callback : ScreenCallback) :
    Framed m (m.onCallback callback) := by
  rcases callback with _ | _ | _ | _ | _ | _
  all_goals
    unfold onCallback
    first
      | exact ⟨rfl, rfl, rfl, rfl⟩
      | split_ifs <;> exact ⟨rfl, rfl, rfl, rfl⟩

/-- Several callbacks change the scrollback only. -/
theorem framed_foldl (m : Multiplexer σ) (callbacks : List ScreenCallback) :
    Framed m (callbacks.foldl onCallback m) := by
  induction callbacks generalizing m with
  | nil => exact ⟨rfl, rfl, rfl, rfl⟩
  | cons callback callbacks ih =>
      rw [List.foldl_cons]
      exact (framed_onCallback m callback).trans (ih _)

/-- What a callback makes of the number of lines. -/
theorem length_onCallback (callback : ScreenCallback) (callbacks : List ScreenCallback) :
    scrollbackCount m.maxScrollbackLines m.scrollbackLines.length (callback :: callbacks) =
      scrollbackCount m.maxScrollbackLines (m.onCallback callback).scrollbackLines.length
        callbacks := by
  rcases callback with _ | _ | _ | cells | _ | _
  · rfl
  · rfl
  · rfl
  · have hlength : (m.onCallback (.pushLine cells)).scrollbackLines.length =
        min (m.scrollbackLines.length + 1) m.maxScrollbackLines := by
      show (evictFront _ (m.scrollbackLines ++ [_])).length = _
      rw [length_evictFront, List.length_append, List.length_singleton]
    rw [scrollbackCount, hlength]
  · rw [scrollbackCount]
    unfold onCallback
    split_ifs with hempty
    · rw [List.isEmpty_iff.mp hempty]
      rfl
    · rw [List.length_dropLast]
  · rfl

/-- **How many lines there are after the callbacks.** -/
theorem length_foldl_onCallback (callbacks : List ScreenCallback) :
    (callbacks.foldl onCallback m).scrollbackLines.length =
      scrollbackCount m.maxScrollbackLines m.scrollbackLines.length callbacks := by
  induction callbacks generalizing m with
  | nil => rfl
  | cons callback callbacks ih =>
      rw [List.foldl_cons, ih, length_onCallback,
        (framed_onCallback m callback).maxScrollbackLines]

/-- The bound is kept. -/
theorem scrollbackCount_le {maxScrollbackLines count : ℕ} (h : count ≤ maxScrollbackLines)
    (callbacks : List ScreenCallback) :
    scrollbackCount maxScrollbackLines count callbacks ≤ maxScrollbackLines := by
  induction callbacks generalizing count with
  | nil => exact h
  | cons callback callbacks ih =>
      rcases callback with _ | _ | _ | _ | _ | _
      · exact ih h
      · exact ih h
      · exact ih h
      · exact ih (Nat.min_le_right _ _)
      · exact ih (by omega)
      · exact ih (Nat.zero_le _)

/-- **A full scrollback never grows.** -/
theorem not_hasRoom_of_full (h : m.scrollbackLines.length = m.maxScrollbackLines)
    (callbacks : List ScreenCallback) : ¬m.HasRoom callbacks := by
  unfold HasRoom
  rw [h, not_lt]
  exact scrollbackCount_le (le_refl _) callbacks

/-- A line that is pushed has the screen drawn anew. -/
theorem dirty_foldl_onCallback {callbacks : List ScreenCallback}
    (h : m.dirty = true ∨ ∃ cells, .pushLine cells ∈ callbacks) :
    (callbacks.foldl onCallback m).dirty = true := by
  induction callbacks generalizing m with
  | nil =>
      rcases h with hdirty | ⟨cells, hin⟩
      · exact hdirty
      · exact absurd hin List.not_mem_nil
  | cons callback callbacks ih =>
      rw [List.foldl_cons]
      apply ih
      rcases h with hdirty | ⟨cells, hin⟩
      · left
        rcases callback with _ | _ | _ | _ | _ | _
        all_goals
          unfold onCallback
          first
            | rfl
            | split_ifs
              · exact hdirty
              · rfl
      · rcases List.mem_cons.mp hin with rfl | hin
        · exact Or.inl rfl
        · exact Or.inr ⟨cells, hin⟩

/-! ### What every run keeps -/

/-- The snapshot shows the scrollback and the revision, and there are not too many lines. -/
structure Inv (m : Multiplexer σ) : Prop where
  scrollback : m.snapshot.scrollbackLines = m.scrollbackLines
  revision : m.snapshot.renderRevision = m.renderRevision
  bounded : m.scrollbackLines.length ≤ m.maxScrollbackLines

/-- A new screen has no scrollback. -/
theorem inv_create (v : VTerm σ) (terminalSize : TerminalSize) (maxScrollbackLines : ℕ) :
    (create v terminalSize maxScrollbackLines).Inv := by
  exact ⟨rfl, rfl, Nat.zero_le _⟩

/-- What the callbacks leave: the lines, and the revision, which is another if a line was pushed. -/
theorem called_spec (v : VTerm σ) (m : Multiplexer σ) (result : σ × List ScreenCallback) :
    (called v m result).snapshot.scrollbackLines = (called v m result).scrollbackLines ∧
      (called v m result).snapshot.renderRevision = (called v m result).renderRevision ∧
      (called v m result).maxScrollbackLines = m.maxScrollbackLines ∧
      (called v m result).scrollbackLines.length =
        scrollbackCount m.maxScrollbackLines m.scrollbackLines.length result.2 ∧
      ((∃ cells, .pushLine cells ∈ result.2) →
        (called v m result).renderRevision = m.renderRevision + 1) := by
  have hlength := length_foldl_onCallback (m := { m with screen := result.1, dirty := false })
    result.2
  have hmax := (framed_foldl { m with screen := result.1, dirty := false }
    result.2).maxScrollbackLines
  have hrevision := (framed_foldl { m with screen := result.1, dirty := false }
    result.2).renderRevision
  have hdirty : (∃ cells, .pushLine cells ∈ result.2) →
      (result.2.foldl onCallback { m with screen := result.1, dirty := false }).dirty = true :=
    fun hpushed => dirty_foldl_onCallback (Or.inr hpushed)
  unfold called refreshSnapshot countRevision
  dsimp only at hlength hmax hrevision ⊢
  split_ifs with hdrawn
  · exact ⟨rfl, rfl, hmax, hlength, fun _ => congrArg (· + 1) hrevision⟩
  · exact ⟨rfl, rfl, hmax, hlength, fun hpushed => absurd (hdirty hpushed) hdrawn⟩

/-- Whatever the library calls back, the scrollback has its room. -/
theorem inv_called (v : VTerm σ) {result : σ × List ScreenCallback} (h : m.Inv) :
    (called v m result).Inv := by
  obtain ⟨hscrollback, hrevision, hmax, hlength, -⟩ := called_spec v m result
  refine ⟨hscrollback, hrevision, ?_⟩
  rw [hlength, hmax]
  exact scrollbackCount_le h.bounded result.2

/-- **Every call keeps it.** -/
theorem inv_step (v : VTerm σ) {op : Op} {m' : Multiplexer σ} (h : m.Inv)
    (hstep : m.step v op = some m') : m'.Inv := by
  rcases op with data | terminalSize
  · obtain rfl := Option.some.inj hstep
    unfold append
    split_ifs
    · exact h
    · have hwritten : (m.written v data).Inv := inv_called v h
      exact ⟨hwritten.scrollback, hwritten.revision, hwritten.bounded⟩
  · obtain rfl := Option.some.inj hstep
    have hsized : Inv { m with terminalSize := normalizeSize terminalSize } :=
      ⟨h.scrollback, h.revision, h.bounded⟩
    exact inv_called v hsized

/-! ### Lines that are pushed -/

/-- The chunk pushes a line to the scrollback. -/
def Pushes (v : VTerm σ) (m : Multiplexer σ) (data : Bytes) : Prop :=
  data ≠ [] ∧ ∃ cells, .pushLine cells ∈ (v.inputWrite m.screen data).2

/-- A chunk that pushes a line is taken for output that counts. -/
def NotMissed (v : VTerm σ) (m : Multiplexer σ) : Op → Prop
  | .append data => m.Pushes v data → (m.append v data).lastSemanticChange.kind.Counts
  | .resize _ => True

/-- A chunk that pushes a line switches the alternate screen, or there is room for the line in the
scrollback, or what it leaves on the screen is lively. -/
def Noticeable (v : VTerm σ) (m : Multiplexer σ) : Op → Prop
  | .append data => m.Pushes v data →
      (hasAltScreenEnter data || hasAltScreenExit data) = true ∨
        m.HasRoom (v.inputWrite m.screen data).2 ∨
          Lively data m.snapshot (m.written v data).snapshot
  | .resize _ => True

/-- Of one chunk. -/
theorem notMissed_iff_noticeable (v : VTerm σ) (h : m.Inv) (op : Op) :
    m.NotMissed v op ↔ m.Noticeable v op := by
  rcases op with data | terminalSize
  · refine forall_congr' fun hpushes => ?_
    obtain ⟨hscrollback, hrevision, -, hlength, hdrawn⟩ :=
      called_spec v m (v.inputWrite m.screen data)
    have hnew : (m.written v data).snapshot.renderRevision ≠ m.snapshot.renderRevision := by
      rw [h.revision]
      unfold written
      rw [hrevision, hdrawn hpushes.2]
      exact Nat.succ_ne_self _
    have hgrown : m.snapshot.scrollbackLines.length <
        (m.written v data).snapshot.scrollbackLines.length ↔
          m.HasRoom (v.inputWrite m.screen data).2 := by
      unfold written HasRoom
      rw [hscrollback, hlength, h.scrollback]
    unfold append
    rw [if_neg fun hempty => hpushes.1 (List.isEmpty_iff.mp hempty), classified_iff,
      and_iff_right hnew, hgrown]
  · exact Iff.rfl

/-- **In every run, no line is pushed unnoticed exactly when** each chunk that pushes one switches
the alternate screen, finds room in the scrollback, or leaves a lively screen. -/
theorem neverMissed_iff (v : VTerm σ) (terminalSize : TerminalSize) (maxScrollbackLines : ℕ)
    (ops : List Op) :
    AllSteps (step v) (NotMissed v) (create v terminalSize maxScrollbackLines) ops ↔
      AllSteps (step v) (Noticeable v) (create v terminalSize maxScrollbackLines) ops := by
  apply allSteps_iff_allSteps Inv
  · intro m op m' hinv hstep
    exact inv_step v hinv hstep
  · intro m op m' hinv _
    exact notMissed_iff_noticeable v hinv op
  · exact inv_create v terminalSize maxScrollbackLines

/-- A blank screen with its cursor in some row: a line feed in the last row pushes the first one. -/
def blankScreen : VTerm (ℕ × ℕ) where
  new size := (0, size.rows.toNat)
  inputWrite state data :=
    data.foldl (fun result ch =>
      if ch ≠ lf then result
      else if result.1.1 + 1 < result.1.2 then
        ((result.1.1 + 1, result.1.2), result.2 ++ [.moveCursor])
      else (result.1, result.2 ++ [.pushLine [{}, {}], .damage])) (state, [])
  setSize state size _ := ((min state.1 (size.rows.toNat - 1), size.rows.toNat), [])
  cell _ _ _ := {}
  cursor state := (state.1, 0)

/-- The third of three line feeds pushes a line out of a scrollback of one line, and it is taken for
nothing. -/
theorem push_missed :
    ¬∀ (σ : Type) (v : VTerm σ) (terminalSize : TerminalSize) (maxScrollbackLines : ℕ)
        (ops : List Op),
        AllSteps (step v) (NotMissed v) (create v terminalSize maxScrollbackLines) ops := by
  intro h
  have hrun := h _ blankScreen { columns := 2, rows := 2 } 1
    [.append [lf], .append [lf], .append [lf]]
  rw [allSteps_cons] at hrun
  have hsecond := (hrun _ rfl).2
  rw [allSteps_cons] at hsecond
  have hthird := (hsecond _ rfl).2
  rw [allSteps_cons] at hthird
  have hpushes := (hthird _ rfl).1 ⟨by decide, [{}, {}], by decide⟩
  exact absurd hpushes (by decide)

end Multiplexer

end Sentrits.Session
