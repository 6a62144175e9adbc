import Mathlib.Logic.Function.Basic
import Sentrits.Found.Runs
import Sentrits.Service.LogLines
import Sentrits.Service.ManagerEvidence

/-!
# The process of a log session and the threads that read it

A managed-log session has a child, two pipes, a thread for each that appends what it reads to the
log, and the daemon, which polls for the end of the child or ends it. All of them run at once; the
daemon waits for the two threads before it says that the session is over.

* `OutputPipe`, `Joining`, `LogSession`: the parties.
* `LogLabel`, `LogSession.step`: what each of them does, one step at a time.
* `LogSession.Sound`: the invariant; `sound_step`: every step keeps it.
* `log_is_complete`: **over every interleaving** the log has read each stream from its beginning, in
  order and without a gap, and all of it once the session is over.

Sources: `src/service/managed_log_process.cpp`, `src/service/session_manager.cpp`.
-/

namespace Sentrits.Service

open Found Found.Chunking Found.Runs Session LogBuffer

/-! ### The parties -/

/-- An output of the child, and the thread that reads it.
Source: `managed_log_process.cpp` `ManagedLogProcess::StartReader`. -/
structure OutputPipe where
  /-- What the thread has read. -/
  read : Bytes := []
  /-- What has been written and not been read. -/
  content : Bytes := []
  /-- Somebody has the end that is written to. -/
  writable : Bool := true
  /-- The thread is in its loop. -/
  reading : Bool := true
  /-- It left the loop because a read failed. -/
  failed : Bool := false
  deriving DecidableEq

/-- The child, as `waitpid` sees it. -/
inductive LogChild
  | running
  | exited (code : Option ℤ)
  | reaped
  deriving DecidableEq

/-- What the daemon is in the middle of while it waits for the threads.
Source: `managed_log_process.cpp` `ManagedLogProcess::JoinReaders`, its calls. -/
inductive Joining
  | pollExit (code : Option ℤ)
  | stop
  | shutdown
  deriving DecidableEq

/-- What the daemon does behind its wait. -/
def Joining.finish (e : SessionEntry) : Joining → SessionEntry
  | .pollExit code => (e.poll { logWait := .reaped code }).entry
  | .stop => (e.stop true).entry
  | .shutdown => (e.shutdown true).entry

/-- A log session with a child. -/
structure LogSession where
  entry : SessionEntry
  pipe : LogStream → OutputPipe := fun _ => {}
  child : LogChild := .running
  joining : Option Joining := none

/-- A step of the child, of a thread or of the daemon, with what the system answers. -/
inductive LogLabel
  /-- The child, or a child of its own, writes. -/
  | write (stream : LogStream) (data : Bytes)
  /-- The last of them closes the pipe. -/
  | close (stream : LogStream)
  | exit (code : Option ℤ)
  /-- A thread reads some bytes and appends them. -/
  | read (stream : LogStream) (count : ℕ) (timestampUnixMs : ℤ)
  | endOfFile (stream : LogStream)
  /-- A read fails, and was not interrupted. -/
  | readFails (stream : LogStream)
  /-- The daemon polls the session, stops it or shuts down; `terminated` says whether the signals
  and the wait succeed. -/
  | poll
  | stop (terminated : Bool)
  | shutdown (terminated : Bool)
  /-- Both threads are done, and the daemon goes on. -/
  | join
  deriving DecidableEq

namespace LogSession

/-- The pipe of one stream is set. -/
def setPipe (s : LogSession) (stream : LogStream) (pipe : OutputPipe) : LogSession :=
  { s with pipe := Function.update s.pipe stream pipe }

/-- The size of the buffer of a reading thread. -/
def readSize : ℕ := 4096

/-- Both threads have left their loops. -/
def ReadersDone (s : LogSession) : Prop := ∀ stream, (s.pipe stream).reading = false

/-- There is a child to wait for: `pid_ != 0`. -/
def hasPid (e : SessionEntry) : Bool := e.logProcess.any (·.pid.isSome)

/-- Source: `managed_log_process.cpp` `ManagedLogProcess::StartReader`, `PollExit`, `Terminate`;
`session_manager.cpp` `SessionManager::CreateLogSession`, the callback. -/
def step (s : LogSession) : LogLabel → Option LogSession
  | .write stream data =>
      let pipe := s.pipe stream
      if pipe.writable then some (s.setPipe stream { pipe with content := pipe.content ++ data })
      else none
  | .close stream => some (s.setPipe stream { s.pipe stream with writable := false })
  | .exit code => if s.child = .running then some { s with child := .exited code } else none
  | .read stream count timestampUnixMs =>
      let pipe := s.pipe stream
      if pipe.reading ∧ 0 < count ∧ count ≤ readSize ∧ count ≤ pipe.content.length then
        let data := pipe.content.take count
        let s := { s with entry := (s.entry.appendLog stream data timestampUnixMs).entry }
        some (s.setPipe stream
          { pipe with read := pipe.read ++ data, content := pipe.content.drop count })
      else none
  | .endOfFile stream =>
      let pipe := s.pipe stream
      if pipe.reading ∧ pipe.content = [] ∧ !pipe.writable then
        some (s.setPipe stream { pipe with reading := false })
      else none
  | .readFails stream =>
      let pipe := s.pipe stream
      if pipe.reading then some (s.setPipe stream { pipe with reading := false, failed := true })
      else none
  | .poll =>
      if s.joining.isSome then none
      else
        match s.child, hasPid s.entry with
        | .exited code, true => some { s with child := .reaped, joining := some (.pollExit code) }
        | _, _ => some { s with entry := (s.entry.poll {}).entry }
  | .stop terminated =>
      if s.joining.isSome then none
      else if s.entry.status.isTerminal ∨ !terminated then
        some { s with entry := (s.entry.stop terminated).entry }
      else some { s with child := .reaped, joining := some .stop }
  | .shutdown terminated =>
      if s.joining.isSome then none
      else if !terminated then some { s with entry := (s.entry.shutdown false).entry }
      else some { s with child := .reaped, joining := some .shutdown }
  | .join =>
      match s.joining with
      | none => none
      | some joining =>
          if (s.pipe .stdout).reading ∨ (s.pipe .stderr).reading then none
          else some { s with entry := joining.finish s.entry, joining := none }

/-- The child has just been started.
Source: `session_manager.cpp` `SessionManager::CreateLogSession`. -/
def started (id : String) (request : LogSessionCreateRequest)
    (environment : Option EffectiveEnvironment) (pid : ℤ) : LogSession where
  entry := { SessionManager.logEntry id request environment with
    logProcess := some { pid := some pid } }

/-- All that is written to a stream in a run. -/
def writtenTo (stream : LogStream) (labels : List LogLabel) : Bytes :=
  labels.flatMap fun
    | .write stream' data => if stream' = stream then data else []
    | _ => []

/-! ### What the daemon does to the entry -/

section entry

variable {e : SessionEntry} {process : ManagedLogProcess}

/-- Log output leaves the process. -/
theorem logProcess_appendLog (stream : LogStream) (data : Bytes) (timestampUnixMs : ℤ) :
    (e.appendLog stream data timestampUnixMs).entry.logProcess = e.logProcess := by
  unfold SessionEntry.appendLog
  split <;> rfl

/-- A poll of a child that is still there leaves it. -/
theorem logProcess_poll (h : e.logProcess = some process) :
    (e.poll {}).entry.logProcess = some process := by
  unfold SessionEntry.poll
  rw [h]
  rcases process with ⟨_ | pid⟩ <;> rfl

/-- A child that cannot be ended is left. -/
theorem terminate_false (process : ManagedLogProcess) : (process.terminate false).1 = process := by
  rcases process with ⟨_ | pid⟩ <;> rfl

/-- Stopping a session ends the child, if it does anything to it. -/
theorem logProcess_stop (h : e.logProcess = some process) (terminated : Bool) :
    (e.stop terminated).entry.logProcess =
      some (if e.status.isTerminal then process else (process.terminate terminated).1) := by
  unfold SessionEntry.stop
  by_cases hover : e.status.isTerminal = true
  · rw [if_pos hover, if_pos hover]
    exact h
  · rw [if_neg hover, if_neg hover, h]
    dsimp only
    split_ifs <;> rfl

/-- So does shutting down. -/
theorem logProcess_shutdown (h : e.logProcess = some process) (hr : e.runtime = none)
    (hs : e.recoveredSnapshot.isSome = true) (terminated : Bool) :
    (e.shutdown terminated).entry.logProcess = some (process.terminate terminated).1 := by
  obtain ⟨snapshot, hs⟩ := Option.isSome_iff_exists.mp hs
  unfold SessionEntry.shutdown
  rw [hr]
  unfold SessionEntry.finishShutdown SessionEntry.shutdownLogProcess
  rw [h, hs]
  dsimp only
  split_ifs <;> rfl

/-- The end of the process leaves its record. -/
theorem logProcess_finish (h : e.logProcess = some process) (hr : e.runtime = none)
    (hs : e.recoveredSnapshot.isSome = true) (joining : Joining) :
    (joining.finish e).logProcess.isSome = true := by
  cases joining with
  | pollExit code =>
      show (e.poll _).entry.logProcess.isSome = true
      unfold SessionEntry.poll
      rw [h]
      dsimp only
      split
      · rfl
      · split_ifs <;> rfl
  | stop =>
      show (e.stop true).entry.logProcess.isSome = true
      rw [logProcess_stop h]
      rfl
  | shutdown =>
      show (e.shutdown true).entry.logProcess.isSome = true
      rw [logProcess_shutdown h hr hs]
      rfl

/-- The end of the process leaves the log. -/
theorem logBuffer_finish (e : SessionEntry) (joining : Joining) :
    (joining.finish e).logBuffer = e.logBuffer := by
  cases joining with
  | pollExit code => exact SessionEntry.logBuffer_poll e _
  | stop => exact SessionEntry.logBuffer_stop e true
  | shutdown => exact SessionEntry.logBuffer_shutdown e true

/-- The end of the process keeps the invariant. -/
theorem inv_finish (h : e.Inv) (joining : Joining) : (joining.finish e).Inv := by
  cases joining with
  | pollExit code => exact (SessionEntry.poll_keeps h _).inv
  | stop => exact (SessionEntry.stop_keeps h true).inv
  | shutdown => exact (SessionEntry.shutdown_keeps h true).inv

end entry

/-! ### What every step keeps -/

/-- **The invariant**, with all labels so far. -/
structure Sound (s : LogSession) (labels : List LogLabel) : Prop where
  inv : s.entry.Inv
  /-- The session has a process, with or without a child. -/
  process : s.entry.logProcess.isSome = true
  /-- The log has read what the threads have read, as long as it drops nothing. -/
  log : ∃ buffer, s.entry.logBuffer = some buffer ∧ buffer.Inv ∧
    (buffer.droppedEntries = 0 → ∀ stream,
      view stream buffer = run lineStep {} (s.pipe stream).read)
  /-- What was written was read, or is in the pipe. -/
  written : ∀ stream, (s.pipe stream).read ++ (s.pipe stream).content = writtenTo stream labels
  /-- A thread that is done has read everything, unless a read failed. -/
  drained : ∀ stream, (s.pipe stream).reading = false → (s.pipe stream).failed = false →
    (s.pipe stream).content = [] ∧ (s.pipe stream).writable = false
  /-- There is no child any more only when the threads are done. -/
  waited : hasPid s.entry = false → s.ReadersDone

/-- What has been written, with one step more. -/
theorem writtenTo_concat (stream : LogStream) (labels : List LogLabel) (label : LogLabel) :
    writtenTo stream (labels ++ [label]) = writtenTo stream labels ++ writtenTo stream [label] := by
  unfold writtenTo
  rw [List.flatMap_append]

/-- A label that writes nothing. -/
theorem writtenTo_concat_of_quiet {stream : LogStream} {labels : List LogLabel} {label : LogLabel}
    (h : ∀ stream data, label ≠ .write stream data) :
    writtenTo stream (labels ++ [label]) = writtenTo stream labels := by
  rw [writtenTo_concat]
  cases label with
  | write stream data => exact absurd rfl (h stream data)
  | _ => exact List.append_nil _

/-- Only the entry changes, and neither its log nor whether it has a child. -/
theorem Sound.withEntry {s : LogSession} {labels : List LogLabel} (h : s.Sound labels)
    {label : LogLabel} (hquiet : ∀ stream data, label ≠ .write stream data) {e : SessionEntry}
    {child : LogChild} {joining : Option Joining} (hinv : e.Inv)
    (hprocess : e.logProcess.isSome = true) (hlog : e.logBuffer = s.entry.logBuffer)
    (hwaited : hasPid e = false → s.ReadersDone) :
    Sound { s with entry := e, child := child, joining := joining } (labels ++ [label]) where
  inv := hinv
  process := hprocess
  log := hlog ▸ h.log
  written := by
    intro stream
    rw [writtenTo_concat_of_quiet hquiet]
    exact h.written stream
  drained := h.drained
  waited := hwaited

/-- Only one pipe changes, and nothing is read or written. -/
theorem Sound.withPipe {s : LogSession} {labels : List LogLabel} (h : s.Sound labels)
    {label : LogLabel} (hquiet : ∀ stream data, label ≠ .write stream data) {stream : LogStream}
    {pipe : OutputPipe} (hread : pipe.read = (s.pipe stream).read)
    (hcontent : pipe.content = (s.pipe stream).content)
    (hreading : (s.pipe stream).reading = false → pipe.reading = false)
    (hdrained : pipe.reading = false → pipe.failed = false →
      pipe.content = [] ∧ pipe.writable = false) :
    (s.setPipe stream pipe).Sound (labels ++ [label]) where
  inv := h.inv
  process := h.process
  log := by
    obtain ⟨buffer, hbuffer, hinv, hview⟩ := h.log
    refine ⟨buffer, hbuffer, hinv, fun hdropped stream' => ?_⟩
    rw [hview hdropped stream']
    by_cases hstream : stream' = stream
    · subst hstream
      simp [LogSession.setPipe, hread]
    · simp [LogSession.setPipe, hstream]
  written := by
    intro stream'
    rw [writtenTo_concat_of_quiet hquiet, ← h.written stream']
    by_cases hstream : stream' = stream
    · subst hstream
      simp [LogSession.setPipe, hread, hcontent]
    · simp [LogSession.setPipe, hstream]
  drained := by
    intro stream'
    by_cases hstream : stream' = stream
    · subst hstream
      simpa [LogSession.setPipe] using hdrained
    · simpa [LogSession.setPipe, hstream] using h.drained stream'
  waited := by
    intro hpid stream'
    by_cases hstream : stream' = stream
    · subst hstream
      simpa [LogSession.setPipe] using hreading (h.waited hpid _)
    · simpa [LogSession.setPipe, hstream] using h.waited hpid stream'


/-- A write: the pipe has more in it. -/
theorem Sound.write {s : LogSession} {labels : List LogLabel} (h : s.Sound labels)
    {stream : LogStream} {data : Bytes} (hwritable : (s.pipe stream).writable = true) :
    (s.setPipe stream { s.pipe stream with content := (s.pipe stream).content ++ data }).Sound
      (labels ++ [.write stream data]) where
  inv := h.inv
  process := h.process
  log := by
    obtain ⟨buffer, hbuffer, hinv, hview⟩ := h.log
    refine ⟨buffer, hbuffer, hinv, fun hdropped stream' => ?_⟩
    rw [hview hdropped stream']
    by_cases hstream : stream' = stream
    · subst hstream
      simp [LogSession.setPipe]
    · simp [LogSession.setPipe, hstream]
  written := by
    intro stream'
    rw [writtenTo_concat, ← h.written stream']
    by_cases hstream : stream' = stream
    · subst hstream
      simp [LogSession.setPipe, writtenTo]
    · simp [LogSession.setPipe, writtenTo, hstream, Ne.symm hstream]
  drained := by
    intro stream'
    by_cases hstream : stream' = stream
    · subst hstream
      simp only [LogSession.setPipe, Function.update_self]
      intro hreading hfailed
      have hclosed := (h.drained stream' hreading hfailed).2
      rw [hwritable] at hclosed
      exact absurd hclosed (by decide)
    · simpa [LogSession.setPipe, hstream] using h.drained stream'
  waited := by
    intro hpid stream'
    by_cases hstream : stream' = stream
    · subst hstream
      simpa [LogSession.setPipe] using h.waited hpid stream'
    · simpa [LogSession.setPipe, hstream] using h.waited hpid stream'

/-- A read: what was in the pipe is in the log. -/
theorem Sound.read {s : LogSession} {labels : List LogLabel} (h : s.Sound labels)
    {stream : LogStream} {count : ℕ} {timestampUnixMs : ℤ}
    (hreading : (s.pipe stream).reading = true) :
    Sound (setPipe
      { s with entry := (s.entry.appendLog stream ((s.pipe stream).content.take count)
          timestampUnixMs).entry }
      stream
      { s.pipe stream with
        read := (s.pipe stream).read ++ (s.pipe stream).content.take count
        content := (s.pipe stream).content.drop count })
      (labels ++ [.read stream count timestampUnixMs]) where
  inv := (SessionEntry.appendLog_keeps h.inv _ _ _).inv
  process := by
    show (s.entry.appendLog _ _ _).entry.logProcess.isSome = true
    rw [logProcess_appendLog]
    exact h.process
  log := by
    obtain ⟨buffer, hbuffer, hinv, hview⟩ := h.log
    refine ⟨buffer.append stream ((s.pipe stream).content.take count) timestampUnixMs, ?_,
      inv_append hinv _ _ _, ?_⟩
    · show (s.entry.appendLog _ _ _).entry.logBuffer = _
      unfold SessionEntry.appendLog
      rw [hbuffer]
    · intro hdropped stream'
      have hle := droppedEntries_le_append buffer stream ((s.pipe stream).content.take count)
        timestampUnixMs
      have hbefore : buffer.droppedEntries = 0 := by omega
      rw [append_view hinv stream stream' _ timestampUnixMs (by omega), hview hbefore stream']
      by_cases hstream : stream' = stream
      · subst hstream
        rw [if_pos rfl]
        simp only [LogSession.setPipe, Function.update_self]
        rw [run_append]
        rfl
      · rw [if_neg (Ne.symm hstream), feed_nil]
        simp [LogSession.setPipe, hstream]
  written := by
    intro stream'
    rw [writtenTo_concat_of_quiet (by simp), ← h.written stream']
    by_cases hstream : stream' = stream
    · subst hstream
      simp [LogSession.setPipe, List.append_assoc]
    · simp [LogSession.setPipe, hstream]
  drained := by
    intro stream'
    by_cases hstream : stream' = stream
    · subst hstream
      simp [LogSession.setPipe, hreading]
    · simpa [LogSession.setPipe, hstream] using h.drained stream'
  waited := by
    intro hpid
    have hpid : hasPid s.entry = false := by
      rw [← hpid]
      exact congrArg (fun process => Option.any (·.pid.isSome) process)
        (logProcess_appendLog _ _ _).symm
    exact absurd (h.waited hpid stream) (by simp [hreading])

/-- **Every step keeps the invariant.** -/
theorem sound_step (s : LogSession) (label : LogLabel) (s' : LogSession) (labels : List LogLabel)
    (h : s.Sound labels) (hstep : s.step label = some s') : s'.Sound (labels ++ [label]) := by
  have hr : s.entry.runtime = none := by
    obtain ⟨process, hprocess⟩ := Option.isSome_iff_exists.mp h.process
    exact h.inv.runtime_none hprocess
  obtain ⟨process, hprocess⟩ := Option.isSome_iff_exists.mp h.process
  have hs : s.entry.recoveredSnapshot.isSome = true := by
    rw [h.inv.body, hr]
    rfl
  have waited_of_logProcess : ∀ {e : SessionEntry}, s.entry.logProcess = e.logProcess →
      hasPid e = false → s.ReadersDone := by
    intro e hsame hpid
    apply h.waited
    unfold hasPid at hpid ⊢
    rw [hsame]
    exact hpid
  cases label with
  | write stream data =>
      dsimp only [step] at hstep
      split_ifs at hstep with hwritable
      obtain rfl := Option.some.inj hstep
      exact h.write hwritable
  | close stream =>
      obtain rfl := Option.some.inj hstep
      exact h.withPipe (by simp) rfl rfl id
        fun hreading hfailed => ⟨(h.drained stream hreading hfailed).1, rfl⟩
  | exit code =>
      dsimp only [step] at hstep
      split_ifs at hstep
      obtain rfl := Option.some.inj hstep
      exact h.withEntry (by simp) h.inv h.process rfl h.waited
  | read stream count timestampUnixMs =>
      dsimp only [step] at hstep
      split_ifs at hstep with hguard
      obtain rfl := Option.some.inj hstep
      exact h.read hguard.1
  | endOfFile stream =>
      dsimp only [step] at hstep
      split_ifs at hstep with hguard
      obtain rfl := Option.some.inj hstep
      exact h.withPipe (by simp) rfl rfl (fun _ => rfl)
        fun _ _ => ⟨hguard.2.1, by simpa using hguard.2.2⟩
  | readFails stream =>
      dsimp only [step] at hstep
      split_ifs at hstep
      obtain rfl := Option.some.inj hstep
      exact h.withPipe (by simp) rfl rfl (fun _ => rfl)
        fun _ hfailed => absurd hfailed (by simp)
  | poll =>
      dsimp only [step] at hstep
      split_ifs at hstep
      split at hstep
      · obtain rfl := Option.some.inj hstep
        exact h.withEntry (by simp) h.inv h.process rfl h.waited
      · obtain rfl := Option.some.inj hstep
        have hkept := logProcess_poll hprocess
        exact h.withEntry (by simp) (SessionEntry.poll_keeps h.inv _).inv (hkept ▸ rfl)
          (SessionEntry.logBuffer_poll _ _) (waited_of_logProcess (hprocess.trans hkept.symm))
  | stop terminated =>
      dsimp only [step] at hstep
      split_ifs at hstep with hjoining hquiet
      · obtain rfl := Option.some.inj hstep
        have hkept : (s.entry.stop terminated).entry.logProcess = some process := by
          rw [logProcess_stop hprocess]
          rcases hquiet with hover | hfails
          · rw [if_pos hover]
          · rw [show terminated = false by simpa using hfails, terminate_false, ite_self]
        exact h.withEntry (by simp) (SessionEntry.stop_keeps h.inv _).inv (hkept ▸ rfl)
          (SessionEntry.logBuffer_stop _ _) (waited_of_logProcess (hprocess.trans hkept.symm))
      · obtain rfl := Option.some.inj hstep
        exact h.withEntry (by simp) h.inv h.process rfl h.waited
  | shutdown terminated =>
      dsimp only [step] at hstep
      split_ifs at hstep with hjoining hquiet
      · obtain rfl := Option.some.inj hstep
        have hkept : (s.entry.shutdown false).entry.logProcess = some process := by
          rw [logProcess_shutdown hprocess hr hs, terminate_false]
        exact h.withEntry (by simp) (SessionEntry.shutdown_keeps h.inv _).inv (hkept ▸ rfl)
          (SessionEntry.logBuffer_shutdown _ _) (waited_of_logProcess (hprocess.trans hkept.symm))
      · obtain rfl := Option.some.inj hstep
        exact h.withEntry (by simp) h.inv h.process rfl h.waited
  | join =>
      dsimp only [step] at hstep
      split at hstep
      · exact absurd hstep (by simp)
      · split_ifs at hstep with hreading
        obtain rfl := Option.some.inj hstep
        apply h.withEntry (by simp) (inv_finish h.inv _) (logProcess_finish hprocess hr hs _)
          (logBuffer_finish _ _)
        rintro - (_ | _)
        · simpa using fun hout => hreading (Or.inl hout)
        · simpa using fun herr => hreading (Or.inr herr)

/-- A session that has just been started has read nothing, and nothing was written. -/
theorem sound_started {id : String} (hnamed : id.isEmpty = false)
    (request : LogSessionCreateRequest) (environment : Option EffectiveEnvironment) (pid : ℤ) :
    (started id request environment pid).Sound [] where
  inv := (SessionManager.fresh_logEntry hnamed request environment _).inv
  process := rfl
  log := ⟨_, rfl, inv_empty _ _, fun _ stream => view_empty _ _ stream⟩
  written := fun _ => rfl
  drained := fun _ hreading => absurd hreading (by simp [started])
  waited := fun hpid => absurd hpid (by simp [started, hasPid])

/-- A session that is over has no child. -/
theorem Sound.readersDone {s : LogSession} {labels : List LogLabel} (h : s.Sound labels)
    (hover : s.entry.status.isTerminal = true) : s.ReadersDone := by
  apply h.waited
  obtain ⟨process, hprocess⟩ := Option.isSome_iff_exists.mp h.process
  unfold hasPid
  rw [hprocess, Option.any_some]
  by_contra hpid
  have hactive := h.inv.processLive process hprocess (eq_true_of_ne_false hpid)
  rw [SessionStatus.isInteractive_of_isTerminal hover] at hactive
  exact Bool.false_ne_true hactive

/-- **The log of a session is complete when the session is over.** Over every interleaving of the
child's writes, the reads of the two threads and the calls of the daemon: the log has read what the
threads have read, line by line, as long as it drops nothing; that is the beginning of what was
written; and once the session is over it is all that was written, unless a read failed. -/
theorem log_is_complete {id : String} (hnamed : id.isEmpty = false)
    {request : LogSessionCreateRequest} {environment : Option EffectiveEnvironment} {pid : ℤ}
    {labels : List LogLabel} {s : LogSession}
    (hrun : Reaches step (started id request environment pid) labels s) :
    (∃ buffer, s.entry.logBuffer = some buffer ∧ (buffer.droppedEntries = 0 →
        ∀ stream, view stream buffer = run lineStep {} (s.pipe stream).read)) ∧
      ∀ stream, (s.pipe stream).read <+: writtenTo stream labels ∧
        (s.entry.status.isTerminal = true → (s.pipe stream).failed = false →
          (s.pipe stream).read = writtenTo stream labels) := by
  have hsound : s.Sound labels := by
    have hpast := hrun.history_invariant
      (fun s past => s.Sound (past.map Prod.snd))
      (by
        intro s label s' past h hstep
        rw [List.map_append]
        exact sound_step s label s' _ h hstep)
      (sound_started hnamed request environment pid)
    rw [hrun.history_labels] at hpast
    exact hpast
  constructor
  · obtain ⟨buffer, hbuffer, -, hview⟩ := hsound.log
    exact ⟨buffer, hbuffer, hview⟩
  · intro stream
    have hwritten := hsound.written stream
    refine ⟨⟨_, hwritten⟩, fun hover hfailed => ?_⟩
    rw [← hwritten, (hsound.drained stream (hsound.readersDone hover stream) hfailed).1,
      List.append_nil]

/-- A child writes a line and exits; the daemon sees that before the threads have read the line, and
waits for them. -/
def lineRun : List LogLabel :=
  [.write .stdout [104, 105, 10], .exit (some 0), .poll, .read .stdout 2 5, .close .stdout,
    .close .stderr, .endOfFile .stderr, .read .stdout 1 6, .endOfFile .stdout, .join]

/-- The line is in the log. -/
theorem log_is_complete_line :
    ∃ s, Reaches step (started "s_1" { workspaceRoot := ".", title := "log" } none 7) lineRun s ∧
      s.entry.status = .exited ∧ (s.pipe .stdout).read = [104, 105, 10] := by
  have hrun : Reaches step (started "s_1" { workspaceRoot := ".", title := "log" } none 7)
      lineRun _ :=
    .cons rfl (.cons rfl (.cons rfl (.cons rfl (.cons rfl (.cons rfl (.cons rfl (.cons rfl
      (.cons rfl (.cons rfl (.refl _))))))))))
  exact ⟨_, hrun, rfl, ((log_is_complete (by decide) hrun).2 .stdout).2 rfl rfl⟩

end LogSession

end Sentrits.Service
