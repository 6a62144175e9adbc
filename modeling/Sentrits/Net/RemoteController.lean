import Sentrits.Found.Effects
import Sentrits.Found.JsonText
import Sentrits.Net.ClientMessages
import Sentrits.Net.ManagerCalls

/-!
# The socket of a remote controller

`RemoteControllerWebSocketSession` asks for control when it is opened and is then the fast lane of
the controlling client: what the client sends goes to the terminal, what the terminal prints goes to
the client. Its handlers run one at a time, between them anything may happen to the manager.

* `RemoteControllerSession`: the socket, and its handlers under the names of the source.
* `issued_runCommand`, `issued_handleTextFrame`: what a frame of the client makes it do.
* `binaryFrame_controlled`: **input is only passed on under control**.
* `acts_controlled_iff`: **over whole runs**, everything the socket does to its session is done
  under control exactly when no command to resize or stop is read while the manager has somebody
  else, or nobody, as the controller.

Source: `src/net/http_server.cpp`.
-/

namespace Sentrits.Net

open Found Found.Json Found.Runs Session Service

/-! ### The socket -/

/-- Source: `http_server.cpp` `RemoteControllerWebSocketSession::PendingFrame`, and the events that
are written as text. -/
inductive ControllerFrame
  | ready (sessionId clientId : String)
  | rejected (sessionId code message : String)
  | released (sessionId : String)
  | exited (sessionId : String) (status : SessionStatus)
  /-- Terminal output as it is. -/
  | binary (data : Bytes)
  deriving DecidableEq

/-- Source: `http_server.cpp` `RemoteControllerWebSocketSession`. `accepting`, `reading` and
`waiting` say which asynchronous operations are under way; a write is when `writeInProgress` says
so. -/
structure RemoteControllerSession where
  sessionId : String
  clientId : String := ""
  nextOutputSequence : ℕ := 1
  pendingFrames : List ControllerFrame := []
  ptyReadable : Bool := false
  hasControl : Bool := false
  writeInProgress : Bool := false
  closeAfterWrites : Bool := false
  exitEventSent : Bool := false
  closed : Bool := false
  /-- The server knows the socket: it has control. -/
  registered : Bool := false
  accepting : Bool := true
  reading : Bool := false
  waiting : Bool := false
  destroyed : Bool := false
  deriving DecidableEq

/-- A frame of the client. -/
inductive ClientFrame
  | text (payload : String)
  | binary (payload : Bytes)
  deriving DecidableEq

/-- How the opening handshake ends. -/
inductive AcceptResult
  | failed
  /-- The option that turns delays off cannot be set. -/
  | notReady (clientId : String)
  | ready (clientId : String)
  deriving DecidableEq

/-- How a wait for output ends. -/
inductive WaitResult
  | aborted
  | failed
  | ready
  deriving DecidableEq

namespace RemoteControllerSession

/-- A handler of this socket on its way. -/
abbrev Handler := Turn RemoteControllerSession

/-- Source: `http_server.cpp` `RemoteControllerWebSocketSession::ReleaseControlIfHeld`. -/
def releaseControlIfHeld (t : Handler) (answers : CallAnswers) : Handler :=
  if !t.socket.hasControl then t
  else
    (t.releaseControl answers t.socket.sessionId t.socket.clientId).1.modify
      ({ · with hasControl := false })

/-- What has been started stays under way: its handler may be queued already.
Source: `http_server.cpp` `RemoteControllerWebSocketSession::ForceClose`. -/
def forceClose (t : Handler) (answers : CallAnswers) : Handler :=
  if t.socket.closed then t
  else releaseControlIfHeld (t.modify ({ · with closed := true, ptyReadable := false })) answers

/-- Source: `http_server.cpp` `RemoteControllerWebSocketSession::DoWrite`, up to the start of the
write. -/
def doWrite (t : Handler) (answers : CallAnswers) : Handler :=
  if t.socket.pendingFrames.isEmpty || t.socket.closed then
    let t := t.modify ({ · with writeInProgress := false })
    if t.socket.closeAfterWrites then forceClose t answers else t
  else t.modify ({ · with writeInProgress := true })

/-- Source: `http_server.cpp` `RemoteControllerWebSocketSession::QueueFrame`. -/
def queueFrame (t : Handler) (answers : CallAnswers) (frame : ControllerFrame) : Handler :=
  if frame = .binary [] || t.socket.closed then t
  else
    let t := t.modify fun s => { s with pendingFrames := s.pendingFrames ++ [frame] }
    if t.socket.writeInProgress then t else doWrite t answers

/-- Queues a last frame. -/
def queueLast (t : Handler) (answers : CallAnswers) (frame : ControllerFrame) : Handler :=
  (queueFrame t answers frame).modify ({ · with closeAfterWrites := true })

/-- Source: `http_server.cpp` `RemoteControllerWebSocketSession::SyncReadableDescriptor`. -/
def syncReadableDescriptor (t : Handler) (answers : CallAnswers) : Handler :=
  let readableFd :=
    (t.manager.findEntry t.socket.sessionId).any (·.runtime.isSome) && answers.readableFd
  if !readableFd then t.modify ({ · with ptyReadable := false })
  else if t.socket.ptyReadable then t
  else t.modify ({ · with ptyReadable := answers.duplicated })

/-- Source: `http_server.cpp` `RemoteControllerWebSocketSession::ArmReadableWait`, up to the start
of the wait. -/
def armReadableWait (t : Handler) : Handler :=
  if !t.socket.ptyReadable || t.socket.closed then t else t.modify ({ · with waiting := true })

/-- Source: `http_server.cpp` `RemoteControllerWebSocketSession::FlushOutput`. -/
def flushOutput (t : Handler) (answers : CallAnswers) : Handler :=
  match (t.manager.findEntry t.socket.sessionId).bind (·.outputSince t.socket.nextOutputSequence) with
  | none => t
  | some slice =>
      if slice.data.isEmpty then t
      else
        queueFrame (t.modify ({ · with nextOutputSequence := slice.seqEnd + 1 })) answers
          (.binary slice.data)

/-- Source: `http_server.cpp` `RemoteControllerWebSocketSession::SendPendingOutput`. -/
def sendPendingOutput (t : Handler) (answers : CallAnswers) : Handler :=
  let s := t.socket
  if s.closed || s.sessionId.isEmpty then t
  else
    match t.manager.findEntry s.sessionId with
    | none =>
        let t := t.modify ({ · with closeAfterWrites := true })
        if s.writeInProgress then t else forceClose t answers
    | some e =>
        if s.hasControl && !t.manager.hasControl s.sessionId s.clientId then
          queueLast (t.modify ({ · with hasControl := false })) answers (.released s.sessionId)
        else if !s.exitEventSent && e.status.isTerminal then
          queueLast (t.modify ({ · with exitEventSent := true })) answers (.exited e.id e.status)
        else t

/-- Source: `http_server.cpp` `RemoteControllerWebSocketSession::HandleBinaryFrame`. -/
def handleBinaryFrame (t : Handler) (answers : CallAnswers) (payload : Bytes) : Handler :=
  let s := t.socket
  if !s.hasControl || !t.manager.hasControl s.sessionId s.clientId then
    queueLast t answers (.released s.sessionId)
  else
    let (t, sent) := t.sendInput answers (some s.clientId) s.sessionId payload
    if sent then t else t.modify ({ · with closeAfterWrites := true })

/-- What the visitor of `HandleTextFrame` does with a command, and whether it handled it. -/
def runCommand (t : Handler) (answers : CallAnswers) : WebSocketCommand → Handler × Bool
  | .resize terminalSize =>
      t.resizeSession answers t.socket.clientId t.socket.sessionId terminalSize
  | .stop => t.stopSession answers (some t.socket.clientId) t.socket.sessionId
  | .releaseControl =>
      let (t, released) := t.releaseControl answers t.socket.sessionId t.socket.clientId
      if released then
        (queueLast (t.modify ({ · with hasControl := false })) answers
          (.released t.socket.sessionId), true)
      else (t, false)
  | .input _ | .requestControl _ => (t, false)

/-- Source: `http_server.cpp` `RemoteControllerWebSocketSession::HandleTextFrame`. -/
def handleTextFrame (lib : JsonLibrary) (t : Handler) (answers : CallAnswers) (payload : String) :
    Handler :=
  match parseWebSocketCommand lib payload with
  | none => forceClose t answers
  | some command =>
      let (t, handled) := runCommand t answers command
      if handled then t else forceClose t answers

/-- The handler of the opening handshake.
Source: `http_server.cpp` `RemoteControllerWebSocketSession::Start`. -/
def handleAccept (t : Handler) (answers : CallAnswers) : AcceptResult → Handler
  | .failed => t
  | .notReady clientId => forceClose (t.modify ({ · with clientId := clientId })) answers
  | .ready clientId =>
      let t := t.modify ({ · with clientId := clientId })
      let sessionId := t.socket.sessionId
      match t.manager.findEntry sessionId with
      | none =>
          queueLast t answers (.rejected sessionId "session_not_found" "session not found")
      | some e =>
          let (t, granted) := t.requestControl answers sessionId clientId .remote
          if granted then
            let t := t.modify
              ({ · with
                hasControl := true
                registered := true
                nextOutputSequence := (e.snapshot?.map (·.currentSequence)).getD 0 + 1 })
            let t := (queueFrame t answers (.ready sessionId clientId)).modify
              ({ · with reading := true })
            armReadableWait (syncReadableDescriptor t answers)
          else
            queueLast t answers (.rejected sessionId "control_unavailable"
              "session already has an active controller")

/-- The handler of a read; no frame is an error.
Source: `http_server.cpp` `RemoteControllerWebSocketSession::DoRead`. -/
def handleRead (lib : JsonLibrary) (t : Handler) (answers : CallAnswers) :
    Option ClientFrame → Handler
  | none => forceClose t answers
  | some frame =>
      let t :=
        match frame with
        | .text payload => handleTextFrame lib t answers payload
        | .binary payload => handleBinaryFrame t answers payload
      if t.socket.closed then t else t.modify ({ · with reading := true })

/-- The handler of a write.
Source: `http_server.cpp` `RemoteControllerWebSocketSession::DoWrite`. -/
def handleWritten (t : Handler) (answers : CallAnswers) (ok : Bool) : Handler :=
  if ok then doWrite (t.modify fun s => { s with pendingFrames := s.pendingFrames.tail }) answers
  else forceClose t answers

/-- The handler of a wait for output.
Source: `http_server.cpp` `RemoteControllerWebSocketSession::ArmReadableWait`. -/
def handleReadable (t : Handler) (answers : CallAnswers) : WaitResult → Handler
  | .aborted => t
  | .failed => forceClose t answers
  | .ready =>
      let t := t.pollSession answers t.socket.sessionId
      let t := syncReadableDescriptor (sendPendingOutput (flushOutput t answers) answers) answers
      if t.socket.ptyReadable && !t.socket.closed then armReadableWait t
      else if t.socket.closeAfterWrites && !t.socket.writeInProgress &&
          t.socket.pendingFrames.isEmpty then forceClose t answers
      else t

/-! ### Runs -/

/-- What can happen next. -/
inductive Event
  /-- Anything else that happens to the manager. -/
  | other (call : Call)
  | accepted (result : AcceptResult) (answers : CallAnswers)
  | read (frame : Option ClientFrame) (answers : CallAnswers)
  | written (ok : Bool) (answers : CallAnswers)
  | readable (result : WaitResult) (answers : CallAnswers)
  | sendPendingOutput (answers : CallAnswers)
  | forceClose (answers : CallAnswers)
  | destroyed (answers : CallAnswers)

/-- The handler that runs next, if what it waits for is under way. -/
def handle (lib : JsonLibrary) (t : Handler) : Event → Option Handler
  | .other call => some { t with manager := (t.manager.perform call.storeOk call.op).1 }
  | .accepted result answers =>
      if t.socket.accepting then
        some (handleAccept (t.modify ({ · with accepting := false })) answers result)
      else none
  | .read frame answers =>
      if t.socket.reading then
        some (handleRead lib (t.modify ({ · with reading := false })) answers frame)
      else none
  | .written ok answers =>
      if t.socket.writeInProgress then some (handleWritten t answers ok) else none
  | .readable result answers =>
      if t.socket.waiting then
        some (handleReadable (t.modify ({ · with waiting := false })) answers result)
      else none
  | .sendPendingOutput answers =>
      if t.socket.registered && !t.socket.destroyed then
        some (RemoteControllerSession.sendPendingOutput t answers)
      else none
  | .forceClose answers =>
      if t.socket.registered && !t.socket.destroyed then
        some (RemoteControllerSession.forceClose t answers)
      else none
  | .destroyed answers =>
      let s := t.socket
      if s.accepting || s.reading || s.writeInProgress || s.waiting || s.destroyed then none
      else some (releaseControlIfHeld (t.modify ({ · with destroyed := true })) answers)

/-- One step of the manager and the socket, and the calls the socket makes. -/
def step (lib : JsonLibrary) (s : SessionManager × RemoteControllerSession) (event : Event) :
    Option ((SessionManager × RemoteControllerSession) × List IssuedCall) :=
  (handle lib { manager := s.1, socket := s.2 } event).map fun t =>
    ((t.manager, t.socket), t.issued)

/-! ### Which handlers act -/

/-- Giving up control issues no call that reaches a terminal. -/
@[simp] theorem issued_releaseControlIfHeld (t : Handler) (answers : CallAnswers) :
    (releaseControlIfHeld t answers).issued = t.issued := by
  unfold releaseControlIfHeld
  split_ifs <;> rfl

/-- Closing issues no call that reaches a terminal. -/
@[simp] theorem issued_forceClose (t : Handler) (answers : CallAnswers) :
    (forceClose t answers).issued = t.issued := by
  unfold forceClose
  split_ifs
  · rfl
  · simp

/-- Writing to the client issues no call. -/
@[simp] theorem issued_doWrite (t : Handler) (answers : CallAnswers) :
    (doWrite t answers).issued = t.issued := by
  unfold doWrite
  split_ifs
  · dsimp only
    split_ifs <;> simp
  · rfl

/-- Queueing a frame issues no call. -/
@[simp] theorem issued_queueFrame (t : Handler) (answers : CallAnswers) (frame : ControllerFrame) :
    (queueFrame t answers frame).issued = t.issued := by
  unfold queueFrame
  split_ifs
  · rfl
  · dsimp only
    split_ifs <;> simp

/-- Queueing the last frame issues no call. -/
@[simp] theorem issued_queueLast (t : Handler) (answers : CallAnswers) (frame : ControllerFrame) :
    (queueLast t answers frame).issued = t.issued := by
  simp [queueLast]

/-- Following the descriptor of the session issues no call. -/
@[simp] theorem issued_syncReadableDescriptor (t : Handler) (answers : CallAnswers) :
    (syncReadableDescriptor t answers).issued = t.issued := by
  unfold syncReadableDescriptor
  dsimp only
  split_ifs <;> rfl

/-- Waiting for the session issues no call. -/
@[simp] theorem issued_armReadableWait (t : Handler) : (armReadableWait t).issued = t.issued := by
  unfold armReadableWait
  split_ifs <;> rfl

/-- New output issues no call. -/
@[simp] theorem issued_flushOutput (t : Handler) (answers : CallAnswers) :
    (flushOutput t answers).issued = t.issued := by
  unfold flushOutput
  split
  · rfl
  · split_ifs <;> simp

/-- Output that has been waiting issues no call. -/
@[simp] theorem issued_sendPendingOutput (t : Handler) (answers : CallAnswers) :
    (sendPendingOutput t answers).issued = t.issued := by
  unfold sendPendingOutput
  dsimp only
  by_cases hoff : (t.socket.closed || t.socket.sessionId.isEmpty) = true
  · rw [if_pos hoff]
  · rw [if_neg hoff]
    split
    · split_ifs <;> simp
    · split_ifs <;> simp

/-- The end of the handshake issues no call. -/
@[simp] theorem issued_handleAccept (t : Handler) (answers : CallAnswers) (result : AcceptResult) :
    (handleAccept t answers result).issued = t.issued := by
  unfold handleAccept
  split
  · rfl
  · simp
  · dsimp only
    split
    · simp
    · split_ifs <;> simp

/-- The end of a write issues no call. -/
@[simp] theorem issued_handleWritten (t : Handler) (answers : CallAnswers) (ok : Bool) :
    (handleWritten t answers ok).issued = t.issued := by
  unfold handleWritten
  split_ifs <;> simp

/-- The end of a wait issues no call. -/
@[simp] theorem issued_handleReadable (t : Handler) (answers : CallAnswers) (result : WaitResult) :
    (handleReadable t answers result).issued = t.issued := by
  unfold handleReadable
  split
  · rfl
  · simp
  · dsimp only
    split_ifs <;> simp

/-- **Input is only passed on under control.** -/
theorem binaryFrame_controlled (t : Handler) (answers : CallAnswers) (payload : Bytes) :
    ∃ calls, (handleBinaryFrame t answers payload).issued = t.issued ++ calls ∧
      ∀ c ∈ calls, c.Controlled := by
  unfold handleBinaryFrame
  dsimp only
  by_cases hfree : (!t.socket.hasControl ||
      !t.manager.hasControl t.socket.sessionId t.socket.clientId) = true
  · rw [if_pos hfree]
    exact ⟨[], by simp, by simp⟩
  · rw [if_neg hfree]
    have hcontrol : t.manager.hasControl t.socket.sessionId t.socket.clientId = true := by
      simp only [Bool.or_eq_true, Bool.not_eq_true', not_or, Bool.not_eq_false] at hfree
      exact hfree.2
    refine ⟨[{ clientId := some t.socket.clientId, sessionId := t.socket.sessionId
               call := .sendInput payload, manager := t.manager }], ?_, ?_⟩
    · split_ifs <;> simp
    · intro c hc
      obtain rfl := List.mem_singleton.mp hc
      exact hcontrol

/-- The commands that act on the session. -/
def acts : WebSocketCommand → Bool
  | .resize _ | .stop => true
  | _ => false

/-- A command that acts on the session acts at once, whoever has control. -/
theorem issued_runCommand (t : Handler) (answers : CallAnswers) (command : WebSocketCommand) :
    ∃ calls, (runCommand t answers command).1.issued = t.issued ++ calls ∧
      ((∀ c ∈ calls, c.Controlled) ↔
        (acts command = true → t.manager.hasControl t.socket.sessionId t.socket.clientId = true)) := by
  cases command with
  | resize terminalSize =>
      exact ⟨_, Turn.issued_resizeSession _ _ _ _ _, by simp [acts, IssuedCall.Controlled]⟩
  | stop => exact ⟨_, Turn.issued_stopSession _ _ _ _, by simp [acts, IssuedCall.Controlled]⟩
  | releaseControl =>
      refine ⟨[], ?_, by simp [acts]⟩
      unfold runCommand
      dsimp only
      split_ifs <;> simp
  | input | requestControl => exact ⟨[], (List.append_nil _).symm, by simp [acts]⟩

/-! ### Acting without control -/

/-- A command to resize or to stop is read while the manager does not have this client as the
controller of the session. -/
def ReadsCommandUncontrolled (lib : JsonLibrary) (s : SessionManager × RemoteControllerSession) :
    Event → Prop
  | .read (some (.text payload)) _ =>
      (∃ command ∈ parseWebSocketCommand lib payload, acts command = true) ∧
        s.1.hasControl s.2.sessionId s.2.clientId = false
  | _ => False

/-- **What a text frame issues is all under control exactly when** its client has control, if it
acts. -/
theorem issued_handleTextFrame (lib : JsonLibrary) (t : Handler) (answers : CallAnswers)
    (payload : String) :
    ∃ calls, (handleTextFrame lib t answers payload).issued = t.issued ++ calls ∧
      ((∀ c ∈ calls, c.Controlled) ↔
        ∀ command ∈ parseWebSocketCommand lib payload, acts command = true →
          t.manager.hasControl t.socket.sessionId t.socket.clientId = true) := by
  unfold handleTextFrame
  rcases hparse : parseWebSocketCommand lib payload with _ | command
  · exact ⟨[], by simp, by simp⟩
  · obtain ⟨calls, hissued, hiff⟩ := issued_runCommand t answers command
    refine ⟨calls, ?_, ?_⟩
    · dsimp only
      split_ifs
      · exact hissued
      · rw [issued_forceClose, hissued]
    · rw [hiff]
      simp

/-- **What one step does to the session**: it is all done under control exactly when the step does
not read a command to resize or stop without it. -/
theorem step_controlled_iff {lib : JsonLibrary} {s t : SessionManager × RemoteControllerSession}
    {event : Event} {calls : List IssuedCall} (h : step lib s event = some (t, calls)) :
    (∀ c ∈ calls, c.Controlled) ↔ ¬ ReadsCommandUncontrolled lib s event := by
  obtain ⟨turn, hturn, heq⟩ := Option.map_eq_some_iff.mp h
  obtain ⟨-, rfl⟩ := Prod.mk.inj heq
  -- nothing is noted but by the handler of a read
  have hquiet : turn.issued = [] → ¬ ReadsCommandUncontrolled lib s event →
      ((∀ c ∈ turn.issued, c.Controlled) ↔ ¬ ReadsCommandUncontrolled lib s event) := by
    intro hnone hno
    rw [hnone]
    exact iff_of_true (by simp) hno
  cases event with
  | other call =>
      obtain rfl := Option.some.inj hturn
      exact hquiet rfl not_false
  | accepted result answers =>
      simp only [handle, Option.ite_none_right_eq_some] at hturn
      obtain ⟨-, heq⟩ := hturn
      obtain rfl := Option.some.inj heq
      exact hquiet (by simp) not_false
  | written ok answers =>
      simp only [handle, Option.ite_none_right_eq_some] at hturn
      obtain ⟨-, heq⟩ := hturn
      obtain rfl := Option.some.inj heq
      exact hquiet (by simp) not_false
  | readable result answers =>
      simp only [handle, Option.ite_none_right_eq_some] at hturn
      obtain ⟨-, heq⟩ := hturn
      obtain rfl := Option.some.inj heq
      exact hquiet (by simp) not_false
  | sendPendingOutput answers | forceClose answers =>
      simp only [handle, Option.ite_none_right_eq_some] at hturn
      obtain ⟨-, heq⟩ := hturn
      obtain rfl := Option.some.inj heq
      exact hquiet (by simp) not_false
  | destroyed answers =>
      simp only [handle, Option.ite_none_left_eq_some] at hturn
      obtain ⟨-, heq⟩ := hturn
      obtain rfl := Option.some.inj heq
      exact hquiet (by simp) not_false
  | read frame answers =>
      simp only [handle, Option.ite_none_right_eq_some] at hturn
      obtain ⟨-, heq⟩ := hturn
      obtain rfl := Option.some.inj heq
      rcases frame with _ | payload | payload
      · exact hquiet (by simp [handleRead]) not_false
      · obtain ⟨calls, hissued, hiff⟩ := issued_handleTextFrame lib
          { manager := s.1, socket := { s.2 with reading := false } } answers payload
        have hcalls : (handleRead lib (Turn.modify { manager := s.1, socket := s.2 }
            ({ · with reading := false })) answers (some (.text payload))).issued = calls := by
          unfold handleRead
          dsimp only
          split_ifs
          · exact hissued
          · exact hissued
        rw [hcalls, hiff]
        simp [ReadsCommandUncontrolled]
      · obtain ⟨calls, hissued, hcontrolled⟩ := binaryFrame_controlled
          { manager := s.1, socket := { s.2 with reading := false } } answers payload
        have hcalls : (handleRead lib (Turn.modify { manager := s.1, socket := s.2 }
            ({ · with reading := false })) answers (some (.binary payload))).issued = calls := by
          unfold handleRead
          dsimp only
          split_ifs
          · exact hissued
          · exact hissued
        rw [hcalls]
        exact iff_of_true hcontrolled not_false

/-- **Over whole runs**: a socket that is opened on any manager acts on its session under control,
whatever else happens in between, exactly when it reads no command to resize or to stop while its
client is not the controller. -/
theorem acts_controlled_iff (lib : JsonLibrary) (m : SessionManager) (sessionId : String)
    (events : List Event) :
    (∀ c ∈ emitted (step lib) (m, { sessionId := sessionId }) events, c.Controlled) ↔
      AllSteps (silent (step lib)) (fun s event => ¬ ReadsCommandUncontrolled lib s event)
        (m, { sessionId := sessionId }) events :=
  forall_emitted_iff_allSteps (fun _ => True) (fun _ _ _ _ _ _ => trivial)
    (fun _ _ _ _ _ h => step_controlled_iff h) trivial events

/-- The host takes a session over from a remote controller that then sends a command to stop it. -/
def stoppedAfterTakeover (lib : JsonLibrary) : List Event :=
  [.other (SessionManager.startCall "s_1"), .accepted (.ready "remote-controller-1") {},
    .other { op := .requestControl "s_1" "local-controller-2" .host },
    .read (some (.text (lib.serialize stopMessage))) {}]

/-- The session of somebody else is stopped. -/
theorem stops_without_control :
    ¬ ∀ c ∈ emitted (step JsonText.compactJson) ({}, { sessionId := "s_1" })
      (stoppedAfterTakeover JsonText.compactJson), c.Controlled := by
  intro h
  rw [stoppedAfterTakeover, emitted_cons rfl, emitted_cons rfl, emitted_cons rfl] at h
  have hparse := parseWebSocketCommand_stopMessage JsonText.compactJson
  generalize JsonText.compactJson.serialize stopMessage = payload at h hparse
  simp only [emitted, step, handle, handleRead, handleTextFrame, hparse] at h
  exact absurd h (by decide)

end RemoteControllerSession

end Sentrits.Net
