import Mathlib.Logic.Relation
import Sentrits.Session.LaunchSpec
import Sentrits.Session.OutputBuffer
import Sentrits.Session.Record

/-!
# The runtime of a terminal session

`SessionRuntime` ties the record of a session to its child process. What the process interface
answers (whether the child started, what a read returned, whether it has exited, whether a signal
reached it) is an argument of each operation, so every behaviour of the child is some argument.

* `SessionRuntime.Inv`: **the record, the lifecycle and the pid agree**: the metadata shows the
  state of the lifecycle, and a pid is recorded exactly while the session takes input.
* `start_spec`, `shutdown_spec`, `handleExit_keeps`, `pollOnce_keeps`: what each operation can do to
  the status; every change is a transition of `isValidTransition`.
* `pollOnce_of_not_isInteractive`: a session that is over reads nothing more.

Sources: `src/session/session_runtime.cpp`, `include/vibe/session/pty_process.h`,
`src/session/terminal_multiplexer.cpp` (sizes).
-/

namespace Sentrits.Session

open Found

/-! ### What the process answers -/

/-- Source: `pty_process.h` `StartResult`. -/
structure StartResult where
  started : Bool
  pid : ℤ := 0
  errorMessage : String := ""
  deriving DecidableEq

/-- Source: `pty_process.h` `ReadResult`. -/
structure ReadResult where
  data : Bytes := []
  closed : Bool := false
  deriving DecidableEq

/-! ### The runtime -/

/-- Source: `terminal_multiplexer.cpp` `TerminalMultiplexer::Impl::NormalizeSize`. -/
def normalizeSize (size : TerminalSize) : TerminalSize where
  columns := max 1 size.columns
  rows := max 1 size.rows

/-- Source: `session_runtime.h` `SessionRuntime`; of the terminal multiplexer only its size. -/
structure SessionRuntime where
  record : SessionRecord
  launchSpec : LaunchSpec
  pid : Option ℤ := none
  startError : Option String := none
  outputBuffer : SessionOutputBuffer
  multiplexerSize : TerminalSize
  deriving DecidableEq

namespace SessionRuntime

/-- Source: `session_runtime.cpp` `SessionRuntime::SessionRuntime`. -/
def new (record : SessionRecord) (launchSpec : LaunchSpec)
    (outputBufferCapacityBytes : ℕ := 8 * 1024 * 1024) : SessionRuntime where
  record := record
  launchSpec := launchSpec
  outputBuffer := .empty outputBufferCapacityBytes
  multiplexerSize := normalizeSize launchSpec.terminalSize

/-- The status shown to clients. -/
def status (r : SessionRuntime) : SessionStatus := r.record.metadata.status

/-- Source: `session_runtime.cpp` `SessionRuntime::Start`, given what the process answers. -/
def start (r : SessionRuntime) (result : StartResult) : SessionRuntime × Bool :=
  match r.record.tryTransition .starting with
  | (_, false) => (r, false)
  | (record, true) =>
      let r := { r with record := record, startError := none }
      if result.started then
        let (record, transitioned) := r.record.tryTransition .running
        ({ r with record := record, pid := some result.pid }, transitioned)
      else
        let startError :=
          if result.errorMessage.isEmpty then r.startError else some result.errorMessage
        ({ r with record := (r.record.tryTransition .error).1, startError := startError }, false)

/-- Source: `session_runtime.cpp` `SessionRuntime::WriteInput`, given whether the process took all
of the input. -/
def writeInput (r : SessionRuntime) (written : Bool) : Bool :=
  r.status.isInteractive && written

/-- Source: `session_runtime.cpp` `SessionRuntime::ResizeTerminal`. -/
def resizeTerminal (r : SessionRuntime) (size : TerminalSize) (ptyResized : Bool) :
    SessionRuntime × Bool :=
  if r.status.isInteractive then
    let r := { r with launchSpec := { r.launchSpec with terminalSize := size } }
    if ptyResized then ({ r with multiplexerSize := normalizeSize size }, true) else (r, false)
  else (r, false)

/-- Source: `session_runtime.cpp` `SessionRuntime::TerminateAndMarkExited`. -/
def terminateAndMarkExited (r : SessionRuntime) (terminated : Bool) : SessionRuntime × Bool :=
  if r.pid.isNone then (r, false)
  else if terminated then
    let (record, transitioned) := r.record.tryTransition .exited
    ({ r with record := record, pid := none }, transitioned)
  else (r, false)

/-- Source: `session_runtime.cpp` `SessionRuntime::Shutdown`. -/
def shutdown (r : SessionRuntime) (terminated : Bool) : SessionRuntime × Bool :=
  let status := r.status
  if status.isTerminal then ({ r with pid := none }, true)
  else if r.pid.isSome && !terminated then (r, false)
  else
    let r := { r with pid := none }
    if status.isInteractive then
      let (record, transitioned) := r.record.tryTransition .exited
      ({ r with record := record }, transitioned)
    else if status == .starting then
      let (record, transitioned) := r.record.tryTransition .error
      ({ r with record := record }, transitioned)
    else (r, status == .created)

/-- Source: `session_runtime.cpp` `SessionRuntime::MarkAwaitingInput`. -/
def markAwaitingInput (r : SessionRuntime) : SessionRuntime × Bool :=
  let (record, transitioned) := r.record.tryTransition .awaitingInput
  ({ r with record := record }, transitioned)

/-- Source: `session_runtime.cpp` `SessionRuntime::MarkRunning`. -/
def markRunning (r : SessionRuntime) : SessionRuntime × Bool :=
  let (record, transitioned) := r.record.tryTransition .running
  ({ r with record := record }, transitioned)

/-- Source: `session_runtime.cpp` `SessionRuntime::HandleExit`. -/
def handleExit (r : SessionRuntime) (cleanExit : Bool) : SessionRuntime × Bool :=
  match r.record.tryTransition (if cleanExit then .exited else .error) with
  | (_, false) => (r, false)
  | (record, true) => ({ r with record := record, pid := none }, true)

/-- Source: `session_runtime.cpp` `SessionRuntime::UpdateGroupTags`. -/
def updateGroupTags (r : SessionRuntime) (groupTags : List String) : SessionRuntime :=
  { r with record := r.record.setGroupTags groupTags }

/-- The body of the loop of `PollOnce` for data that was read. -/
def recordOutput (r : SessionRuntime) (data : Bytes) : SessionRuntime :=
  let outputBuffer := r.outputBuffer.append data
  { r with
    outputBuffer := outputBuffer
    record := (r.record.setCurrentSequence (outputBuffer.nextSequence - 1)).setRecentTerminalTail
      (outputBuffer.tail (64 * 1024)).data }

/-- What `PollOnce` does with the answer of `PollExit`. -/
def observeExit (r : SessionRuntime) (exitCode : Option ℤ) : SessionRuntime :=
  match exitCode with
  | none => r
  | some code => (r.handleExit (code == 0)).1

/-- The loop of `PollOnce`, over what the reads return; the end of the list stands for a read that
finds nothing. -/
def pollLoop (exitCode : Option ℤ) (r : SessionRuntime) : List ReadResult → SessionRuntime
  | [] => r.observeExit exitCode
  | read :: reads =>
      let r := if read.data.isEmpty then r else r.recordOutput read.data
      if read.closed then r.observeExit exitCode
      else if read.data.isEmpty then r.observeExit exitCode
      else pollLoop exitCode r reads

/-- Source: `session_runtime.cpp` `SessionRuntime::PollOnce`, given what its reads return and what
`PollExit` answers after the last of them. -/
def pollOnce (r : SessionRuntime) (reads : List ReadResult) (exitCode : Option ℤ) :
    SessionRuntime :=
  if r.pid.isNone then r else r.pollLoop exitCode reads

/-! ### Sizes -/

/-- Starting leaves the size the process is launched with, and that of the multiplexer. -/
theorem sizes_start (r : SessionRuntime) (result : StartResult) :
    (r.start result).1.launchSpec = r.launchSpec ∧
      (r.start result).1.multiplexerSize = r.multiplexerSize := by
  unfold start
  split
  · exact ⟨rfl, rfl⟩
  · split_ifs <;> exact ⟨rfl, rfl⟩

/-! ### The invariant -/

/-- **The record, the lifecycle, the pid and the output buffer agree.** -/
structure Inv (r : SessionRuntime) : Prop where
  /-- The metadata shows the state of the lifecycle. -/
  inStep : r.record.InStep
  /-- A pid is recorded exactly while the session takes input. -/
  pid_iff : r.pid.isSome = r.status.isInteractive
  buffer : r.outputBuffer.Inv

/-- The lifecycle of the record is in the state of the runtime. -/
theorem Inv.state {r : SessionRuntime} (h : r.Inv) : r.record.lifecycle.state = r.status :=
  h.inStep.symm

/-- A new runtime satisfies the invariant when its metadata says `Created`. -/
theorem inv_new (record : SessionRecord) (hstep : record.InStep)
    (hcreated : record.metadata.status = .created) (launchSpec : LaunchSpec) (capacity : ℕ) :
    (new record launchSpec capacity).Inv where
  inStep := hstep
  pid_iff := by
    show false = record.metadata.status.isInteractive
    rw [hcreated]
    rfl
  buffer := SessionOutputBuffer.inv_empty capacity

/-- The runtime after its record moved to another status. -/
def withStatus (r : SessionRuntime) (status : SessionStatus) (pid : Option ℤ) : SessionRuntime :=
  { r with
    record := { r.record with
      lifecycle := { state := status }
      metadata := { r.record.metadata with status := status } }
    pid := pid }

/-- The status is the one that is set. -/
@[simp] theorem status_withStatus (r : SessionRuntime) (status : SessionStatus) (pid : Option ℤ) :
    (r.withStatus status pid).status = status := rfl

/-- A new status leaves the output. -/
@[simp] theorem outputBuffer_withStatus (r : SessionRuntime) (status : SessionStatus)
    (pid : Option ℤ) : (r.withStatus status pid).outputBuffer = r.outputBuffer := rfl

/-- A new status keeps the invariant, if the process id fits it. -/
theorem inv_withStatus {r : SessionRuntime} (h : r.Inv) {status : SessionStatus} {pid : Option ℤ}
    (hpid : pid.isSome = status.isInteractive) : (r.withStatus status pid).Inv where
  inStep := rfl
  pid_iff := hpid
  buffer := h.buffer

/-- The status stays or takes one allowed transition. -/
def StatusStep (before after : SessionStatus) : Prop :=
  after = before ∨ isValidTransition before after = true

/-- The status may stay. -/
theorem StatusStep.refl (status : SessionStatus) : StatusStep status status := Or.inl rfl

/-- **What one operation may do to a runtime**: the invariant is kept and the status takes at most
one transition. -/
structure Keeps (r r' : SessionRuntime) : Prop where
  inv : r'.Inv
  step : StatusStep r.status r'.status

/-- Nothing happens to a runtime that is left alone. -/
theorem Keeps.refl {r : SessionRuntime} (h : r.Inv) : Keeps r r := ⟨h, .refl _⟩

/-- A valid transition may be made. -/
theorem keeps_withStatus {r : SessionRuntime} (h : r.Inv) {status : SessionStatus}
    (pid : Option ℤ) (hvalid : isValidTransition r.status status = true)
    (hpid : pid.isSome = status.isInteractive) : Keeps r (r.withStatus status pid) where
  inv := inv_withStatus h hpid
  step := Or.inr hvalid

/-- There is no process unless input is taken. -/
theorem Inv.pid_none {r : SessionRuntime} (h : r.Inv) (hstatus : r.status.isInteractive = false) :
    r.pid = none := by
  rw [← h.pid_iff] at hstatus
  simpa using hstatus

/-! ### What the operations do -/

/-- A transition of the record is allowed or refused by the status clients see. -/
theorem tryTransition_cases {r : SessionRuntime} (h : r.Inv) (next : SessionStatus) :
    (isValidTransition r.status next = false ∧ r.record.tryTransition next = (r.record, false)) ∨
      (isValidTransition r.status next = true ∧
        r.record.tryTransition next = ((r.withStatus next r.pid).record, true)) := by
  have hcases := r.record.tryTransition_spec next
  rw [h.state] at hcases
  exact hcases

/-- **Starting** a new session gives a running one with a pid, or an errored one without. -/
theorem start_spec {r : SessionRuntime} (h : r.Inv) (hcreated : r.status = .created)
    (result : StartResult) :
    (r.start result).1.Inv ∧
      ((r.start result).2 = true ∧ (r.start result).1.status = .running ∨
        (r.start result).2 = false ∧ (r.start result).1.status = .error) := by
  have hpid : r.pid = none := h.pid_none (by rw [hcreated]; rfl)
  have hstarting : r.record.tryTransition .starting =
      ((r.withStatus .starting r.pid).record, true) := by
    rcases tryTransition_cases h .starting with ⟨hno, -⟩ | ⟨-, heq⟩
    · rw [hcreated] at hno
      exact absurd hno (by decide)
    · exact heq
  unfold start
  rw [hstarting]
  dsimp only
  split_ifs with hstarted
  · rw [SessionRecord.tryTransition_of_valid (by rfl)]
    exact ⟨⟨rfl, rfl, h.buffer⟩, Or.inl ⟨rfl, rfl⟩⟩
  · rw [SessionRecord.tryTransition_of_valid (by rfl), hpid]
    exact ⟨⟨rfl, rfl, h.buffer⟩, Or.inr ⟨rfl, rfl⟩⟩
  · rw [SessionRecord.tryTransition_of_valid (by rfl), hpid]
    exact ⟨⟨rfl, rfl, h.buffer⟩, Or.inr ⟨rfl, rfl⟩⟩

/-- **Ending a session**: an exit is recorded and the pid cleared, or nothing happens. -/
theorem handleExit_keeps {r : SessionRuntime} (h : r.Inv) (cleanExit : Bool) :
    Keeps r (r.handleExit cleanExit).1 := by
  unfold handleExit
  rcases tryTransition_cases h (if cleanExit then .exited else .error) with ⟨-, heq⟩ | ⟨hyes, heq⟩
  · rw [heq]
    exact .refl h
  · rw [heq]
    refine keeps_withStatus h none hyes ?_
    cases cleanExit <;> rfl

/-- From a state that takes input the exit is always recorded. -/
theorem handleExit_of_isInteractive {r : SessionRuntime} (h : r.Inv)
    (hstatus : r.status.isInteractive = true) (cleanExit : Bool) :
    (r.handleExit cleanExit).1 = r.withStatus (if cleanExit then .exited else .error) none := by
  have hvalid : isValidTransition r.status (if cleanExit then .exited else .error) = true :=
    isValidTransition_of_isInteractive hstatus (by cases cleanExit <;> rfl)
  unfold handleExit
  rcases tryTransition_cases h (if cleanExit then .exited else .error) with ⟨hno, -⟩ | ⟨-, heq⟩
  · rw [hvalid] at hno
    exact absurd hno (by decide)
  · rw [heq]
    rfl

/-- **Shutting down**: the session ends, or it was over or not started, or the child could not be
terminated and nothing changes. -/
theorem shutdown_spec {r : SessionRuntime} (h : r.Inv) (terminated : Bool) :
    (r.shutdown terminated).1 = r ∨
      ∃ status, status.isTerminal = true ∧ isValidTransition r.status status = true ∧
        r.shutdown terminated = (r.withStatus status none, true) := by
  have hclear : r.status.isInteractive = false → { r with pid := none } = r := by
    intro hstatus
    rw [← h.pid_none hstatus]
  unfold shutdown
  dsimp only
  split_ifs with hterminal hfail hactive hstarting
  · refine Or.inl (hclear ?_)
    cases hs : r.status <;> first | rfl | (rw [hs] at hterminal; exact absurd hterminal (by decide))
  · exact Or.inl rfl
  · refine Or.inr ⟨.exited, rfl, isValidTransition_of_isInteractive hactive rfl, ?_⟩
    rw [SessionRecord.tryTransition_of_valid]
    · rfl
    · rw [h.state]
      exact isValidTransition_of_isInteractive hactive rfl
  · have hs : r.status = .starting := by simpa using hstarting
    refine Or.inr ⟨.error, rfl, by rw [hs]; rfl, ?_⟩
    rw [SessionRecord.tryTransition_of_valid]
    · rfl
    · rw [h.state, hs]
      rfl
  · exact Or.inl (hclear (by simpa using hactive))

/-- A shutdown keeps the invariant. -/
theorem shutdown_keeps {r : SessionRuntime} (h : r.Inv) (terminated : Bool) :
    Keeps r (r.shutdown terminated).1 := by
  rcases shutdown_spec h terminated with heq | ⟨status, hterminal, hvalid, heq⟩
  · rw [heq]
    exact .refl h
  · rw [heq]
    refine keeps_withStatus h none hvalid ?_
    cases status <;> first | rfl | exact absurd hterminal (by decide)

/-! ### Polling -/

/-- Ending a session leaves its output buffer alone. -/
theorem outputBuffer_handleExit (r : SessionRuntime) (cleanExit : Bool) :
    (r.handleExit cleanExit).1.outputBuffer = r.outputBuffer := by
  unfold handleExit
  split <;> rfl

/-- Neither does shutting it down, nor a new size of the terminal. -/
theorem outputBuffer_shutdown (r : SessionRuntime) (terminated : Bool) :
    (r.shutdown terminated).1.outputBuffer = r.outputBuffer := by
  unfold shutdown
  dsimp only
  split_ifs <;> rfl

/-- A new size leaves the output. -/
theorem outputBuffer_resizeTerminal (r : SessionRuntime) (size : TerminalSize)
    (ptyResized : Bool) : (r.resizeTerminal size ptyResized).1.outputBuffer = r.outputBuffer := by
  unfold resizeTerminal
  split_ifs <;> rfl

/-- Output leaves the status. -/
@[simp] theorem status_recordOutput (r : SessionRuntime) (data : Bytes) :
    (r.recordOutput data).status = r.status := rfl

/-- Output leaves the process id. -/
@[simp] theorem pid_recordOutput (r : SessionRuntime) (data : Bytes) :
    (r.recordOutput data).pid = r.pid := rfl

/-- Output keeps the invariant. -/
theorem inv_recordOutput {r : SessionRuntime} (h : r.Inv) (data : Bytes) :
    (r.recordOutput data).Inv where
  inStep := h.inStep
  pid_iff := h.pid_iff
  buffer := SessionOutputBuffer.inv_append h.buffer data

/-- Reading does not move the session. -/
theorem Keeps.of_recordOutput {r r' : SessionRuntime} {data : Bytes}
    (h : Keeps (r.recordOutput data) r') : Keeps r r' :=
  ⟨h.inv, h.step⟩

/-- An exit that is observed keeps the invariant. -/
theorem observeExit_keeps {r : SessionRuntime} (h : r.Inv) (exitCode : Option ℤ) :
    Keeps r (r.observeExit exitCode) := by
  cases exitCode with
  | none => exact .refl h
  | some code => exact handleExit_keeps h (code == 0)

/-- The reads of a poll, and what comes after them, keep the invariant. -/
theorem pollLoop_keeps {r : SessionRuntime} (h : r.Inv) (exitCode : Option ℤ)
    (reads : List ReadResult) : Keeps r (pollLoop exitCode r reads) := by
  induction reads generalizing r with
  | nil => exact observeExit_keeps h exitCode
  | cons read reads ih =>
      unfold pollLoop
      dsimp only
      by_cases hdata : read.data.isEmpty
      · simp only [hdata, if_true, ite_self]
        exact observeExit_keeps h exitCode
      · simp only [if_neg hdata]
        have hrecord := inv_recordOutput h read.data
        split_ifs
        · exact (observeExit_keeps hrecord exitCode).of_recordOutput
        · exact (ih hrecord).of_recordOutput

/-- **Polling** keeps the invariant and takes at most one transition. -/
theorem pollOnce_keeps {r : SessionRuntime} (h : r.Inv) (reads : List ReadResult)
    (exitCode : Option ℤ) : Keeps r (r.pollOnce reads exitCode) := by
  unfold pollOnce
  split_ifs
  · exact .refl h
  · exact pollLoop_keeps h exitCode reads

/-- Reading does not change how the session ends. -/
theorem status_observeExit_recordOutput {r : SessionRuntime} (h : r.Inv)
    (hactive : r.status.isInteractive = true) (exitCode : Option ℤ) (data : Bytes) :
    ((r.recordOutput data).observeExit exitCode).status = (r.observeExit exitCode).status := by
  cases exitCode with
  | none => rfl
  | some code =>
      simp only [observeExit, handleExit_of_isInteractive h hactive,
        handleExit_of_isInteractive (inv_recordOutput h data) hactive, status_withStatus]

/-- What the loop leaves of the status is what the answer of `PollExit` says. -/
theorem status_pollLoop {r : SessionRuntime} (h : r.Inv) (hactive : r.status.isInteractive = true)
    (exitCode : Option ℤ) (reads : List ReadResult) :
    (pollLoop exitCode r reads).status = (r.observeExit exitCode).status := by
  induction reads generalizing r with
  | nil => rfl
  | cons read reads ih =>
      have hrecord := status_observeExit_recordOutput h hactive exitCode read.data
      unfold pollLoop
      dsimp only
      by_cases hdata : read.data.isEmpty
      · simp only [hdata, if_true, ite_self]
      · simp only [if_neg hdata]
        split_ifs
        · exact hrecord
        · rw [ih (inv_recordOutput h read.data) hactive, hrecord]

/-- **A poll ends the session** exactly when there is a child and it is found to be gone. -/
theorem status_pollOnce {r : SessionRuntime} (h : r.Inv) (reads : List ReadResult)
    (exitCode : Option ℤ) :
    (r.pid.isSome && exitCode.isSome) = true ∧
        (r.pollOnce reads exitCode).status.isTerminal = true ∨
      (r.pid.isSome && exitCode.isSome) = false ∧
        (r.pollOnce reads exitCode).status = r.status := by
  unfold pollOnce
  rcases hpid : r.pid with _ | pid
  · exact Or.inr ⟨rfl, rfl⟩
  · have hactive : r.status.isInteractive = true := by
      rw [← h.pid_iff, hpid]
      rfl
    simp only [Option.isNone_some, Bool.false_eq_true, if_false, status_pollLoop h hactive]
    cases exitCode with
    | none => exact Or.inr ⟨rfl, rfl⟩
    | some code =>
        refine Or.inl ⟨rfl, ?_⟩
        rw [observeExit, handleExit_of_isInteractive h hactive, status_withStatus]
        split_ifs <;> rfl

/-- A session that does not take input is not read any more. -/
theorem pollOnce_of_not_isInteractive {r : SessionRuntime} (h : r.Inv)
    (hstatus : r.status.isInteractive = false) (reads : List ReadResult) (exitCode : Option ℤ) :
    r.pollOnce reads exitCode = r := by
  unfold pollOnce
  rw [h.pid_none hstatus]
  rfl

end SessionRuntime

end Sentrits.Session
