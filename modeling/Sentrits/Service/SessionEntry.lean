import Sentrits.Service.LogBuffer
import Sentrits.Session.Runtime
import Sentrits.Store.SessionStore

/-!
# One session of the manager

`SessionEntry` is what the manager keeps of one session: a terminal session has a runtime, a
managed-log session a log buffer and perhaps a process, a recovered or failed one only a snapshot.
The functions here are what the manager's operations do to the entry they found; what the
environment answers is an argument.

* `SessionEntry.Inv`: **invariant of an entry**: one body, a runtime in step, a log process that
  only lives while the session runs, and a client id whenever a remote client controls.
* `Keeps`, `stop_keeps`, `shutdown_keeps`, `poll_keeps`, …: each operation keeps the invariant and
  moves the status along at most one allowed transition.

Sources: `src/service/session_manager.cpp`, `src/service/managed_log_process.cpp`.
-/

namespace Sentrits.Service

open Found Session Store

/-- Source: `session_manager.h` `SessionCategory`. -/
inductive SessionCategory
  | pty
  | managedLog
  deriving DecidableEq

/-- What is left of a session without a runtime.
Source: `session_snapshot.h` `SessionSnapshot`. -/
structure SessionSnapshot where
  metadata : SessionMetadata
  currentSequence : ℕ := 0
  recentTerminalTail : Bytes := []
  deriving DecidableEq

/-! ### The process of a managed-log session -/

/-- Source: `managed_log_process.h` `ManagedLogProcess`; no pid is `pid_ == 0`. -/
structure ManagedLogProcess where
  pid : Option ℤ := none
  deriving DecidableEq

/-- What `waitpid` says of the child. -/
inductive WaitAnswer
  /-- It has not exited, or the call failed. -/
  | nothing
  /-- It is gone; the code is what the status gives, if it is one of an exit or a signal. -/
  | reaped (code : Option ℤ)
  deriving DecidableEq

/-- The exit code it gives. -/
def WaitAnswer.code : WaitAnswer → Option ℤ
  | .nothing => none
  | .reaped code => code

namespace ManagedLogProcess

/-- Source: `managed_log_process.cpp` `ManagedLogProcess::PollExit`. -/
def pollExit (p : ManagedLogProcess) (answer : WaitAnswer) : ManagedLogProcess × Option ℤ :=
  match p.pid, answer with
  | none, _ => (p, none)
  | some _, .nothing => (p, none)
  | some _, .reaped code => ({ pid := none }, code)

/-- Source: `managed_log_process.cpp` `ManagedLogProcess::Terminate`, given whether the signals and
the wait succeed. -/
def terminate (p : ManagedLogProcess) (terminated : Bool) : ManagedLogProcess × Bool :=
  match p.pid with
  | none => (p, true)
  | some _ => if terminated then ({ pid := none }, true) else (p, false)

end ManagedLogProcess

/-! ### The entry -/

/-- Source: `session_manager.h` `SessionManager::SessionEntry`; timestamps, the inspectors and the
trace key are left out. -/
structure SessionEntry where
  id : String
  category : SessionCategory := .pty
  runtime : Option SessionRuntime := none
  logProcess : Option ManagedLogProcess := none
  logBuffer : Option LogBuffer := none
  recoveredSnapshot : Option SessionSnapshot := none
  controllerClientId : Option String := none
  controllerKind : ControllerKind := .none
  isRecovered : Bool := false
  currentTerminalSize : TerminalSize := {}
  lastObservedStatus : SessionStatus := .created
  lastObservedSequence : ℕ := 0
  effectiveEnvironment : Option EffectiveEnvironment := none
  deriving DecidableEq

/-- What an operation on an entry leaves: the entry, whether it was persisted, and the result. -/
structure EntryResult where
  entry : SessionEntry
  persist : Bool := false
  result : Bool := true
  deriving DecidableEq

/-- What the environment answers during one poll. -/
structure PollAnswers where
  /-- What the reads of `PollOnce` return. -/
  reads : List ReadResult := []
  /-- What `PollExit` of the terminal process answers. -/
  exitCode : Option ℤ := none
  /-- What `waitpid` says of a log process. -/
  logWait : WaitAnswer := .nothing
  deriving DecidableEq

/-- Source: `session_manager.h` `SessionGroupTagsUpdateMode`. -/
inductive SessionGroupTagsUpdateMode
  | add
  | remove
  | set
  deriving DecidableEq

/-- Source: `session_manager.cpp` `ApplyGroupTagMutation`. -/
def applyGroupTagMutation (existingTags : List String) (mode : SessionGroupTagsUpdateMode)
    (tags : List String) : List String :=
  let normalizedExisting := normalizeGroupTags existingTags
  let normalizedInput := normalizeGroupTags tags
  match mode with
  | .set => normalizedInput
  | .add =>
      normalizedInput.foldl (fun result tag => if tag ∈ result then result else result ++ [tag])
        normalizedExisting
  | .remove => normalizedExisting.filter (· ∉ normalizedInput)

/-- Source: `session_manager.h` `kPrivilegedLocalControllerPrefix`,
`kPrivilegedRemoteControllerPrefix`; `session_manager.cpp` `IsPrivilegedControllerClientId`. -/
def isPrivilegedControllerClientId (controllerClientId : Option String) : Bool :=
  controllerClientId.any fun clientId =>
    "local-controller-".toList.isPrefixOf clientId.toList ||
      "remote-controller-".toList.isPrefixOf clientId.toList

/-- Source: `session_manager.cpp` `MakeRecoveredTailSlice`. -/
def makeRecoveredTailSlice (snapshot : SessionSnapshot) (maxBytes : ℕ) : OutputSlice :=
  if maxBytes == 0 || snapshot.recentTerminalTail.isEmpty then {}
  else
    let seq := if snapshot.currentSequence == 0 then 1 else snapshot.currentSequence
    { seqStart := seq, seqEnd := seq, data := lastBytes maxBytes snapshot.recentTerminalTail }

/-- The tail of a session without a runtime is the end of what its snapshot shows. -/
theorem makeRecoveredTailSlice_data (snapshot : SessionSnapshot) (maxBytes : ℕ) :
    (makeRecoveredTailSlice snapshot maxBytes).data =
      lastBytes maxBytes snapshot.recentTerminalTail := by
  unfold makeRecoveredTailSlice
  by_cases hnone : (maxBytes == 0 || snapshot.recentTerminalTail.isEmpty) = true
  · rw [if_pos hnone]
    rcases Bool.or_eq_true_iff.mp hnone with hzero | hempty
    · rw [beq_iff_eq.mp hzero]
      simp [lastBytes]
    · rw [List.isEmpty_iff.mp hempty]
      simp [lastBytes]
  · rw [if_neg hnone]

/-- Source: `session_manager.cpp` `MakeRecoveredOutputSlice`. -/
def makeRecoveredOutputSlice (snapshot : SessionSnapshot) (seq : ℕ) : OutputSlice :=
  if snapshot.recentTerminalTail.isEmpty || snapshot.currentSequence == 0 ||
      seq > snapshot.currentSequence then {}
  else
    { seqStart := snapshot.currentSequence
      seqEnd := snapshot.currentSequence
      data := snapshot.recentTerminalTail }

namespace SessionEntry

/-! ### Reading an entry -/

/-- The metadata the summary shows. -/
def metadata? (e : SessionEntry) : Option SessionMetadata :=
  match e.runtime with
  | some r => some r.record.metadata
  | none => e.recoveredSnapshot.map (·.metadata)

/-- The status the summary shows; an entry has a runtime or a snapshot.
Source: `session_manager.cpp` `SessionManager::BuildSummary`. -/
def status (e : SessionEntry) : SessionStatus :=
  match e.runtime with
  | some r => r.status
  | none => (e.recoveredSnapshot.map (·.metadata.status)).getD .created

/-- `SessionSummary::is_active`. -/
def isActive (e : SessionEntry) : Bool := e.status.isInteractive

/-- Source: `session_manager.cpp` `SessionManager::HasControl`. -/
def hasControl (e : SessionEntry) (clientId : String) : Bool :=
  e.controllerClientId == some clientId && e.controllerKind != .none

/-- Source: `session_manager.cpp` `SessionManager::GetTail`. -/
def tail (e : SessionEntry) (bytes : ℕ) : Option OutputSlice :=
  match e.runtime with
  | some r => some (r.outputBuffer.tail bytes)
  | none => e.recoveredSnapshot.map fun snapshot => makeRecoveredTailSlice snapshot bytes

/-- Source: `session_manager.cpp` `SessionManager::GetOutputSince`. -/
def outputSince (e : SessionEntry) (seq : ℕ) : Option OutputSlice :=
  match e.runtime with
  | some r => some (r.outputBuffer.sliceFromSequence seq)
  | none => e.recoveredSnapshot.map fun snapshot => makeRecoveredOutputSlice snapshot seq

/-- The record `PersistEntry` writes.
Source: `session_manager.cpp` `SessionManager::PersistEntry`. -/
def persistedRecord (e : SessionEntry) : Option PersistedSessionRecord :=
  match e.runtime with
  | some r => some (toRecord r.record.metadata r.record.currentSequence r.record.recentTerminalTail)
  | none => e.recoveredSnapshot.map fun snapshot =>
      toRecord snapshot.metadata snapshot.currentSequence snapshot.recentTerminalTail
where
  toRecord (metadata : SessionMetadata) (currentSequence : ℕ) (tail : Bytes) :
      PersistedSessionRecord :=
    { sessionId := metadata.id
      provider := metadata.provider
      workspaceRoot := metadata.workspaceRoot
      title := metadata.title
      status := metadata.status
      conversationId := metadata.conversationId
      groupTags := metadata.groupTags
      currentSequence := currentSequence
      recentTerminalTail := tail }

/-! ### The operations -/

/-- Source: `session_manager.cpp` `SessionManager::ResetControllerState`. -/
def resetControllerState (e : SessionEntry) : SessionEntry :=
  { e with controllerClientId := none, controllerKind := .host }

/-- Writes the status of a session without a runtime. -/
def setRecoveredStatus (e : SessionEntry) (status : SessionStatus) : SessionEntry :=
  { e with
    recoveredSnapshot := e.recoveredSnapshot.map fun snapshot =>
      { snapshot with metadata := { snapshot.metadata with status := status } }
    lastObservedStatus := status }

/-- Source: `session_manager.cpp` `SessionManager::AppendLogStdout`, `AppendLogStderr`. -/
def appendLog (e : SessionEntry) (stream : LogStream) (data : Bytes) (timestampUnixMs : ℤ) :
    EntryResult :=
  match e.logBuffer with
  | none => { entry := e, result := false }
  | some buffer =>
      let buffer := buffer.append stream data timestampUnixMs
      { entry :=
          { e with
            logBuffer := some buffer
            recoveredSnapshot := e.recoveredSnapshot.map fun snapshot =>
              { snapshot with currentSequence := buffer.latestRevision } } }

/-- Source: `session_manager.cpp` `SessionManager::UpdateSessionGroupTags`. -/
def updateGroupTags (e : SessionEntry) (mode : SessionGroupTagsUpdateMode) (tags : List String) :
    EntryResult :=
  match e.runtime with
  | some r =>
      { entry :=
          { e with
            runtime := some (r.updateGroupTags
              (applyGroupTagMutation r.record.metadata.groupTags mode tags)) }
        persist := true }
  | none =>
      { entry :=
          { e with
            recoveredSnapshot := e.recoveredSnapshot.map fun snapshot =>
              { snapshot with
                metadata :=
                  { snapshot.metadata with
                    groupTags := applyGroupTagMutation snapshot.metadata.groupTags mode tags } } }
        persist := true }

/-- Source: `session_manager.cpp` `SessionManager::ResizeSession`. -/
def resize (e : SessionEntry) (size : TerminalSize) (ptyResized : Bool) : EntryResult :=
  match e.runtime with
  | none => { entry := e, result := false }
  | some r =>
      let (r, resized) := r.resizeTerminal size ptyResized
      let e := { e with runtime := some r }
      { entry := if resized then { e with currentTerminalSize := size } else e, result := resized }

/-- Source: `session_manager.cpp` `SessionManager::StopSession`. -/
def stop (e : SessionEntry) (terminated : Bool) : EntryResult :=
  if e.status.isTerminal then { entry := e.resetControllerState, persist := true }
  else
    match e.logProcess, e.runtime with
    | some process, _ =>
        let (process, stopped) := process.terminate terminated
        let e := { e with logProcess := some process }
        if stopped && e.recoveredSnapshot.isSome then
          { entry := (e.setRecoveredStatus .exited).resetControllerState, persist := true }
        else { entry := e, result := stopped }
    | none, none => { entry := e, result := false }
    | none, some r =>
        let (r, stopped) := r.shutdown terminated
        let e := { e with runtime := some r }
        if stopped then
          { entry := ({ e with lastObservedStatus := r.status } : SessionEntry).resetControllerState
            persist := true }
        else { entry := e, result := false }

/-- Source: `session_manager.cpp` `SessionManager::RequestControl`. -/
def requestControl (e : SessionEntry) (clientId : String) (controllerKind : ControllerKind) :
    EntryResult :=
  if !e.status.isInteractive || controllerKind == .none then { entry := e, result := false }
  else if e.controllerKind == .host || e.controllerKind == .none then
    { entry := { e with controllerClientId := some clientId, controllerKind := controllerKind } }
  else if e.controllerKind == .remote && controllerKind == .host then
    { entry := { e with controllerClientId := some clientId, controllerKind := controllerKind } }
  else { entry := e, result := e.controllerClientId == some clientId }

/-- Source: `session_manager.cpp` `SessionManager::ReleaseControl`. -/
def releaseControl (e : SessionEntry) (clientId : String) : EntryResult :=
  if e.controllerKind == .none then { entry := e }
  else
    match e.controllerClientId with
    | none => { entry := e, result := e.controllerKind == .host }
    | some current =>
        if current != clientId then { entry := e, result := false }
        else { entry := { e with controllerClientId := none, controllerKind := .host } }

/-- What `Shutdown` does to the log process of an entry, and whether that ended the session. -/
def shutdownLogProcess (e : SessionEntry) (terminated : Bool) : SessionEntry × Bool :=
  match e.logProcess, e.recoveredSnapshot with
  | some process, some snapshot =>
      let result := process.terminate terminated
      let e := { e with logProcess := some result.1 }
      if result.2 && !snapshot.metadata.status.isTerminal then (e.setRecoveredStatus .exited, true)
      else (e, false)
  | _, _ => (e, false)

/-- The rest of the loop of `Shutdown`, after the runtime; `changed` says whether there was one. -/
def finishShutdown (e : SessionEntry) (changed terminated : Bool) : EntryResult :=
  let ended := e.shutdownLogProcess terminated
  if ended.1.controllerClientId.isSome || ended.1.controllerKind != .host then
    { entry := ended.1.resetControllerState, persist := true }
  else { entry := ended.1, persist := changed || ended.2 }

/-- Source: `session_manager.cpp` `SessionManager::Shutdown`. -/
def shutdown (e : SessionEntry) (terminated : Bool) : EntryResult :=
  match e.runtime with
  | none => e.finishShutdown false terminated
  | some r =>
      let (r, shutdown) := r.shutdown terminated
      let e := { e with runtime := some r }
      if shutdown then e.finishShutdown true terminated else { entry := e, result := false }

/-- Source: `session_manager.cpp` `SessionManager::PollSession`. -/
def poll (e : SessionEntry) (answers : PollAnswers) : EntryResult :=
  match e.logProcess, e.runtime with
  | some process, _ =>
      let (process, exitCode) := process.pollExit answers.logWait
      let e := { e with logProcess := some process }
      match exitCode with
      | none => { entry := e }
      | some code =>
          if e.recoveredSnapshot.isSome then
            { entry := e.setRecoveredStatus (if code == 0 then .exited else .error)
              persist := true }
          else { entry := e }
  | none, none => { entry := e, result := false }
  | none, some r =>
      let r := r.pollOnce answers.reads answers.exitCode
      { entry :=
          { e with
            runtime := some r
            lastObservedSequence := r.record.currentSequence
            lastObservedStatus := r.status }
        persist := true }

/-- `PollAll` leaves this entry to whoever controls it, or has nothing to poll.
Source: `session_manager.cpp` `SessionManager::PollAll`. -/
def skippedByPollAll (e : SessionEntry) : Bool :=
  (e.runtime.isNone && e.logProcess.isNone) ||
    (e.controllerKind != .none && isPrivilegedControllerClientId e.controllerClientId)

/-! ### The invariant -/

/-- With a runtime, the status is the runtime's. -/
theorem status_of_runtime {e : SessionEntry} {r : SessionRuntime} (h : e.runtime = some r) :
    e.status = r.status := by
  rw [status, h]

/-- Without one, it is that of what was recovered. -/
theorem status_of_snapshot {e : SessionEntry} {snapshot : SessionSnapshot} (hr : e.runtime = none)
    (hs : e.recoveredSnapshot = some snapshot) : e.status = snapshot.metadata.status := by
  rw [status, hr, hs]
  rfl

/-- **Invariant of an entry.** -/
structure Inv (e : SessionEntry) : Prop where
  /-- The id was accepted by `SessionId::TryCreate`. -/
  named : e.id.isEmpty = false
  /-- A runtime is in step with its record and its child. -/
  runtime : ∀ r, e.runtime = some r → r.Inv
  /-- There is a runtime or a snapshot, not both. -/
  body : e.recoveredSnapshot.isSome = e.runtime.isNone
  /-- Only a session without a runtime has a log process. -/
  noProcess : ∀ r, e.runtime = some r → e.logProcess = none
  /-- The session takes input or is over. -/
  settled : e.status.isInteractive = true ∨ e.status.isTerminal = true
  /-- A log process with a child belongs to a session that takes input. -/
  processLive : ∀ process, e.logProcess = some process → process.pid.isSome = true →
    e.status.isInteractive = true
  /-- A remote controller is known. -/
  remote : e.controllerKind = .remote → e.controllerClientId.isSome = true
  /-- A managed-log session has no terminal tail. -/
  noTail : e.logBuffer.isSome = true → ∀ snapshot, e.recoveredSnapshot = some snapshot →
    snapshot.recentTerminalTail = []

/-- **What an operation may do to an entry.** -/
structure Keeps (e e' : SessionEntry) : Prop where
  id_eq : e'.id = e.id
  inv : e'.Inv
  step : SessionRuntime.StatusStep e.status e'.status

/-- Nothing happens to an entry that is left alone. -/
theorem Keeps.refl {e : SessionEntry} (h : e.Inv) : Keeps e e := ⟨rfl, h, .refl _⟩

/-- A session that is over keeps its status. -/
theorem Keeps.status_of_isTerminal {e e' : SessionEntry} (h : Keeps e e')
    (hover : e.status.isTerminal = true) : e'.status = e.status := by
  rcases h.step with heq | hvalid
  · exact heq
  · rw [isValidTransition_of_isTerminal hover] at hvalid
    exact absurd hvalid (by decide)

/-- Whoever controls a session, its body is the same. -/
theorem inv_setController {e : SessionEntry} (h : e.Inv) {clientId : Option String}
    {kind : ControllerKind} (hremote : kind = .remote → clientId.isSome = true) :
    ({ e with controllerClientId := clientId, controllerKind := kind } : SessionEntry).Inv where
  runtime := h.runtime
  body := h.body
  noProcess := h.noProcess
  settled := h.settled
  processLive := h.processLive
  remote := hremote
  named := h.named
  noTail := h.noTail

/-- Control may be given to a client and taken away. -/
theorem keeps_setController {e : SessionEntry} (h : e.Inv) {clientId : Option String}
    {kind : ControllerKind} (hremote : kind = .remote → clientId.isSome = true) :
    Keeps e { e with controllerClientId := clientId, controllerKind := kind } :=
  ⟨rfl, inv_setController h hremote, .refl _⟩

/-- The status does not depend on who has control. -/
@[simp] theorem status_resetControllerState (e : SessionEntry) :
    e.resetControllerState.status = e.status := rfl

/-- Control may be reset after any operation. -/
theorem Keeps.resetControllerState {e e' : SessionEntry} (h : Keeps e e') :
    Keeps e e'.resetControllerState :=
  ⟨h.id_eq, inv_setController h.inv (fun hkind => absurd hkind (by decide)), h.step⟩

/-- A session without a runtime has a snapshot. -/
theorem Inv.exists_snapshot {e : SessionEntry} (h : e.Inv) (hr : e.runtime = none) :
    ∃ snapshot, e.recoveredSnapshot = some snapshot := by
  have hbody := h.body
  rw [hr] at hbody
  exact Option.isSome_iff_exists.mp hbody

/-- An entry with a log process has no runtime. -/
theorem Inv.runtime_none {e : SessionEntry} (h : e.Inv) {process : ManagedLogProcess}
    (hp : e.logProcess = some process) : e.runtime = none := by
  rcases hr : e.runtime with _ | r
  · rfl
  · have hnone := h.noProcess r hr
    rw [hp] at hnone
    exact absurd hnone (by simp)

/-- What leaves the tail of a snapshot leaves that of a managed-log session empty. -/
theorem Inv.noTail_map {e : SessionEntry} (h : e.Inv) {f : SessionSnapshot → SessionSnapshot}
    (htail : ∀ snapshot, (f snapshot).recentTerminalTail = snapshot.recentTerminalTail)
    (hlog : e.logBuffer.isSome = true) (snapshot : SessionSnapshot)
    (hs : e.recoveredSnapshot.map f = some snapshot) : snapshot.recentTerminalTail = [] := by
  obtain ⟨snapshot₀, hs₀, rfl⟩ := Option.map_eq_some_iff.mp hs
  rw [htail]
  exact h.noTail hlog snapshot₀ hs₀

/-- A runtime that keeps its invariant keeps that of its entry. -/
theorem keeps_setRuntime {e : SessionEntry} (h : e.Inv) {r r' : SessionRuntime}
    (hr : e.runtime = some r) (hkeeps : SessionRuntime.Keeps r r') :
    Keeps e { e with runtime := some r' } := by
  have hsettled := h.settled
  rw [status_of_runtime hr] at hsettled
  refine ⟨rfl, ⟨h.named, ?_, ?_, ?_, ?_, ?_, h.remote, h.noTail⟩, ?_⟩
  · rintro r'' hr''
    obtain rfl := Option.some.inj hr''
    exact hkeeps.inv
  · have hbody := h.body
    rw [hr] at hbody
    exact hbody
  · exact fun _ _ => h.noProcess r hr
  · -- from a state that takes input a transition leads to one that does or to an end
    rcases hkeeps.step with heq | hvalid
    · show r'.status.isInteractive = true ∨ r'.status.isTerminal = true
      rw [heq]
      exact hsettled
    · show r'.status.isInteractive = true ∨ r'.status.isTerminal = true
      rcases hsettled with hactive | hover
      · revert hvalid hactive
        cases r.status <;> cases r'.status <;> decide
      · rw [isValidTransition_of_isTerminal hover] at hvalid
        exact absurd hvalid (by decide)
  · intro process hp
    rw [h.noProcess r hr] at hp
    exact absurd hp (by simp)
  · rw [status_of_runtime hr]
    exact hkeeps.step

/-- Without a runtime the status is the one that is set. -/
theorem status_setRecoveredStatus {e : SessionEntry} (hr : e.runtime = none)
    (hs : e.recoveredSnapshot.isSome = true) (status : SessionStatus) :
    (e.setRecoveredStatus status).status = status := by
  obtain ⟨snapshot, hs⟩ := Option.isSome_iff_exists.mp hs
  rw [SessionEntry.status, setRecoveredStatus, hs, hr]
  rfl

/-- Ending a session without a runtime whose process is gone. -/
theorem keeps_setRecoveredStatus {e : SessionEntry} (h : e.Inv) (hr : e.runtime = none)
    (hactive : e.status.isInteractive = true) (status : SessionStatus)
    (hover : status.isTerminal = true) :
    Keeps e (({ e with logProcess := some { pid := none } } : SessionEntry).setRecoveredStatus
      status) := by
  obtain ⟨snapshot, hs⟩ := h.exists_snapshot hr
  have hstatus : (({ e with logProcess := some { pid := none } } : SessionEntry).setRecoveredStatus
      status).status = status := by
    exact status_setRecoveredStatus hr (hs ▸ rfl) status
  refine ⟨rfl, ⟨h.named, ?_, ?_, ?_, ?_, ?_, h.remote, ?_⟩, ?_⟩
  · exact fun r hr' => h.runtime r hr'
  · simp [setRecoveredStatus, hs, hr]
  · intro r hr'
    have hr' : e.runtime = some r := hr'
    rw [hr] at hr'
    exact absurd hr' (by simp)
  · rw [hstatus]
    exact Or.inr hover
  · intro process hp hpid
    obtain rfl := Option.some.inj hp
    exact absurd hpid (by simp)
  · exact h.noTail_map fun _ => rfl
  · rw [hstatus]
    exact Or.inr (isValidTransition_of_isInteractive hactive hover)

/-- Installing a log process without a child. -/
theorem keeps_setLogProcess {e : SessionEntry} (h : e.Inv) (hr : e.runtime = none)
    {process : ManagedLogProcess} (hlive : process.pid.isSome = true → e.status.isInteractive = true) :
    Keeps e { e with logProcess := some process } := by
  refine ⟨rfl, ⟨h.named, h.runtime, h.body, ?_, h.settled, ?_, h.remote, h.noTail⟩, .refl _⟩
  · intro r hr'
    have hr' : e.runtime = some r := hr'
    rw [hr] at hr'
    exact absurd hr' (by simp)
  · intro process' hp hpid
    obtain rfl := Option.some.inj hp
    exact hlive hpid

/-- Writing to the log or to what the snapshot shows beside its status leaves the status. -/
theorem status_mapSnapshot (e : SessionEntry) (logBuffer : Option LogBuffer)
    (f : SessionSnapshot → SessionSnapshot)
    (hf : ∀ snapshot, (f snapshot).metadata.status = snapshot.metadata.status) :
    SessionEntry.status
        { e with logBuffer := logBuffer, recoveredSnapshot := e.recoveredSnapshot.map f } =
      e.status := by
  rcases hr : e.runtime with _ | r
  · rcases hs : e.recoveredSnapshot with _ | snapshot
    · simp [SessionEntry.status, hr, hs]
    · simp [SessionEntry.status, hr, hs, hf]
  · simp [SessionEntry.status, hr]

/-- A snapshot may change in all but its status and its tail. -/
theorem keeps_mapSnapshot {e : SessionEntry} (h : e.Inv) (logBuffer : Option LogBuffer)
    (f : SessionSnapshot → SessionSnapshot)
    (hlog : logBuffer.isSome = true → e.logBuffer.isSome = true)
    (hf : ∀ snapshot, (f snapshot).metadata.status = snapshot.metadata.status)
    (htail : ∀ snapshot, (f snapshot).recentTerminalTail = snapshot.recentTerminalTail) :
    Keeps e { e with logBuffer := logBuffer, recoveredSnapshot := e.recoveredSnapshot.map f } := by
  have hstatus := status_mapSnapshot e logBuffer f hf
  refine ⟨rfl, ⟨h.named, h.runtime, ?_, h.noProcess, ?_, ?_, h.remote, ?_⟩, ?_⟩
  · rw [Option.isSome_map]
    exact h.body
  · rw [hstatus]
    exact h.settled
  · rw [hstatus]
    exact h.processLive
  · exact fun hsome => h.noTail_map htail (hlog hsome)
  · rw [hstatus]
    exact .refl _

/-! ### The operations keep the invariant -/

/-- Log output keeps the invariant. -/
theorem appendLog_keeps {e : SessionEntry} (h : e.Inv) (stream : LogStream) (data : Bytes)
    (ts : ℤ) : Keeps e (e.appendLog stream data ts).entry := by
  unfold appendLog
  rcases hb : e.logBuffer with _ | buffer
  · exact .refl h
  · exact keeps_mapSnapshot h _ _ (fun _ => hb ▸ rfl) (fun _ => rfl) fun _ => rfl

/-- New tags keep the invariant. -/
theorem updateGroupTags_keeps {e : SessionEntry} (h : e.Inv) (mode : SessionGroupTagsUpdateMode)
    (tags : List String) : Keeps e (e.updateGroupTags mode tags).entry := by
  unfold updateGroupTags
  split
  next r hr =>
    have hinv := h.runtime r hr
    exact keeps_setRuntime h hr ⟨⟨hinv.inStep, hinv.pid_iff, hinv.buffer⟩, .refl _⟩
  next => exact keeps_mapSnapshot h e.logBuffer _ (fun h => h) (fun _ => rfl) fun _ => rfl

/-- A new size keeps the invariant. -/
theorem resize_keeps {e : SessionEntry} (h : e.Inv) (size : TerminalSize) (ptyResized : Bool) :
    Keeps e (e.resize size ptyResized).entry := by
  unfold resize
  rcases hr : e.runtime with _ | r
  · exact .refl h
  · have hinv := h.runtime r hr
    have hkeeps : SessionRuntime.Keeps r (r.resizeTerminal size ptyResized).1 := by
      unfold SessionRuntime.resizeTerminal
      split_ifs
      · exact ⟨⟨hinv.inStep, hinv.pid_iff, hinv.buffer⟩, .refl _⟩
      · exact ⟨⟨hinv.inStep, hinv.pid_iff, hinv.buffer⟩, .refl _⟩
      · exact .refl hinv
    have hentry := keeps_setRuntime h hr hkeeps
    dsimp only
    split_ifs
    · exact ⟨hentry.id_eq, ⟨hentry.inv.named, hentry.inv.runtime, hentry.inv.body,
        hentry.inv.noProcess, hentry.inv.settled, hentry.inv.processLive, hentry.inv.remote,
        hentry.inv.noTail⟩, hentry.step⟩
    · exact hentry

/-- A claim of control keeps the invariant. -/
theorem requestControl_keeps {e : SessionEntry} (h : e.Inv) (clientId : String)
    (kind : ControllerKind) : Keeps e (e.requestControl clientId kind).entry := by
  unfold requestControl
  split_ifs
  · exact .refl h
  · exact keeps_setController h fun _ => rfl
  · exact keeps_setController h fun _ => rfl
  · exact .refl h

/-- Giving control up keeps the invariant. -/
theorem releaseControl_keeps {e : SessionEntry} (h : e.Inv) (clientId : String) :
    Keeps e (e.releaseControl clientId).entry := by
  unfold releaseControl
  split_ifs
  · exact .refl h
  · rcases e.controllerClientId with _ | current
    · exact .refl h
    · dsimp only
      split_ifs
      · exact .refl h
      · exact keeps_setController h fun hkind => absurd hkind (by decide)

/-- Whatever becomes of the child, a process without one is left, or the process is as it was. -/
theorem terminate_cases (process : ManagedLogProcess) (terminated : Bool) :
    process.terminate terminated = ({ pid := none }, true) ∨
      process.terminate terminated = (process, false) := by
  rcases process with ⟨_ | pid⟩
  · exact Or.inl rfl
  · cases terminated
    · exact Or.inr rfl
    · exact Or.inl rfl

/-- Setting the process there is changes nothing. -/
theorem setLogProcess_self {e : SessionEntry} {process : ManagedLogProcess}
    (hp : e.logProcess = some process) : { e with logProcess := some process } = e := by
  rw [← hp]

/-- A session that is not over takes input. -/
theorem Inv.isInteractive_of_not_isTerminal {e : SessionEntry} (h : e.Inv)
    (hover : ¬ e.status.isTerminal = true) : e.status.isInteractive = true :=
  h.settled.resolve_right hover

/-- What the manager last saw of a session is not part of the invariant. -/
theorem Keeps.observed {e e' : SessionEntry} (h : Keeps e e') (status : SessionStatus)
    (sequence : ℕ) :
    Keeps e { e' with lastObservedStatus := status, lastObservedSequence := sequence } :=
  ⟨h.id_eq, ⟨h.inv.named, h.inv.runtime, h.inv.body, h.inv.noProcess, h.inv.settled,
    h.inv.processLive, h.inv.remote, h.inv.noTail⟩, h.step⟩

/-- A stop keeps the invariant. -/
theorem stop_keeps {e : SessionEntry} (h : e.Inv) (terminated : Bool) :
    Keeps e (e.stop terminated).entry := by
  unfold stop
  split_ifs with hover
  · exact (Keeps.refl h).resetControllerState
  · have hactive := h.isInteractive_of_not_isTerminal hover
    split
    next process hp =>
      have hr := h.runtime_none hp
      obtain ⟨snapshot, hs⟩ := h.exists_snapshot hr
      rcases terminate_cases process terminated with hterm | hterm
      · simp only [hterm, hs, Option.isSome_some, Bool.and_self, if_true]
        have hkeeps := keeps_setRecoveredStatus h hr hactive .exited rfl
        simpa only [hs] using hkeeps.resetControllerState
      · simp only [hterm, Bool.false_and, Bool.false_eq_true, if_false, setLogProcess_self hp]
        exact .refl h
    next => exact .refl h
    next r _ hr =>
      have hentry := keeps_setRuntime h hr
        (SessionRuntime.shutdown_keeps (h.runtime r hr) terminated)
      dsimp only
      split_ifs
      · exact (hentry.observed _ e.lastObservedSequence).resetControllerState
      · exact hentry

/-- The end of a log process keeps the invariant. -/
theorem shutdownLogProcess_keeps {e : SessionEntry} (h : e.Inv) (terminated : Bool) :
    Keeps e (e.shutdownLogProcess terminated).1 := by
  unfold shutdownLogProcess
  split
  next process snapshot hp hs =>
    have hr := h.runtime_none hp
    have hstatus := status_of_snapshot hr hs
    rcases terminate_cases process terminated with hterm | hterm
    · by_cases hover : snapshot.metadata.status.isTerminal = true
      · simp only [hterm, hover, Bool.not_true, Bool.and_false, Bool.false_eq_true, if_false]
        exact keeps_setLogProcess h hr (by simp)
      · simp only [hterm, hover, Bool.not_false, Bool.and_true, if_true]
        have hactive : e.status.isInteractive = true :=
          h.isInteractive_of_not_isTerminal (by rwa [hstatus])
        exact keeps_setRecoveredStatus h hr hactive _ rfl
    · simp only [hterm, Bool.false_and, Bool.false_eq_true, if_false, setLogProcess_self hp]
      exact .refl h
  next => exact .refl h

/-- What follows that end keeps the invariant. -/
theorem finishShutdown_keeps {e : SessionEntry} (h : e.Inv) (changed terminated : Bool) :
    Keeps e (e.finishShutdown changed terminated).entry := by
  have hended := shutdownLogProcess_keeps h terminated
  unfold finishShutdown
  dsimp only
  split_ifs
  · exact hended.resetControllerState
  · exact hended

/-- Without a log process the end of `Shutdown` only looks at the controller. -/
theorem finishShutdown_status {e : SessionEntry} (hp : e.logProcess = none)
    (changed terminated : Bool) : (e.finishShutdown changed terminated).entry.status = e.status := by
  simp only [finishShutdown, shutdownLogProcess, hp]
  split_ifs <;> rfl

/-- The end of the daemon keeps the invariant. -/
theorem shutdown_keeps {e : SessionEntry} (h : e.Inv) (terminated : Bool) :
    Keeps e (e.shutdown terminated).entry := by
  unfold shutdown
  split
  next => exact finishShutdown_keeps h false terminated
  next r hr =>
    have hentry := keeps_setRuntime h hr
      (SessionRuntime.shutdown_keeps (h.runtime r hr) terminated)
    dsimp only
    split_ifs
    · have hfinish := finishShutdown_keeps hentry.inv true terminated
      have hstatus := finishShutdown_status
        (e := { e with runtime := some (r.shutdown terminated).1 }) (h.noProcess r hr) true
        terminated
      exact ⟨hfinish.id_eq.trans hentry.id_eq, hfinish.inv, hstatus ▸ hentry.step⟩
    · exact hentry

/-- A process that was polled has lost its child to an exit, or tells nothing. -/
theorem pollExit_cases (process : ManagedLogProcess) (answer : WaitAnswer) :
    ((process.pid.isSome && answer.code.isSome) = true ∧
        ∃ code, process.pid.isSome = true ∧
          process.pollExit answer = ({ pid := none }, some code)) ∨
      ((process.pid.isSome && answer.code.isSome) = false ∧
        ∃ process', process.pollExit answer = (process', none) ∧
          (process'.pid.isSome = true → process.pid.isSome = true)) := by
  rcases process with ⟨_ | pid⟩
  · exact Or.inr ⟨rfl, _, rfl, fun hpid => hpid⟩
  · rcases answer with _ | ⟨_ | code⟩
    · exact Or.inr ⟨rfl, _, rfl, fun hpid => hpid⟩
    · exact Or.inr ⟨rfl, _, rfl, fun hpid => absurd hpid (by decide)⟩
    · exact Or.inl ⟨rfl, code, rfl, rfl⟩

/-- A poll keeps the invariant. -/
theorem poll_keeps {e : SessionEntry} (h : e.Inv) (answers : PollAnswers) :
    Keeps e (e.poll answers).entry := by
  unfold poll
  split
  next process hp =>
    have hr := h.runtime_none hp
    obtain ⟨snapshot, hs⟩ := h.exists_snapshot hr
    rcases pollExit_cases process answers.logWait with ⟨-, code, hpid, heq⟩ | ⟨-, process', heq, hpid⟩
    · simp only [heq, hs, Option.isSome_some, if_true]
      have hkeeps := keeps_setRecoveredStatus h hr (h.processLive process hp hpid)
        (if code == 0 then .exited else .error) (by split_ifs <;> rfl)
      simpa only [hs] using hkeeps
    · simp only [heq]
      exact keeps_setLogProcess h hr fun hpid' => h.processLive process hp (hpid hpid')
  next => exact .refl h
  next r _ hr =>
    have hentry := keeps_setRuntime h hr
      (SessionRuntime.pollOnce_keeps (h.runtime r hr) answers.reads answers.exitCode)
    exact hentry.observed _ _

end SessionEntry

end Sentrits.Service
