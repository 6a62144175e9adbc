import Sentrits.Net.LocalController
import Sentrits.Net.RemoteController
import Sentrits.Net.WebSocketSession

/-!
# Sockets that pass on input

Three kinds of sockets pass what their client types to a terminal: the socket of a watching client,
that of a remote controller and that of the local one. Each asks the manager whether its client has
control just before it does.

* `IssuedCall.InputControlled`: input is the controller's, or it is refused.
* `WebSocketSession.Event`, `handle`: the socket of a watching client, with the manager.
* `WebSocketSession.inputControlled_handle`, `RemoteControllerSession.inputControlled_handle`,
  `LocalControllerSession.inputControlled_handle`: **no event makes a socket pass on input without
  control.**

Source: `src/net/http_server.cpp`.
-/

namespace Sentrits.Net

open Found Found.Bytes Session Service

/-! ### Input under control -/

namespace IssuedCall

/-- The input is not taken: nothing is written, and the call returns `false`. -/
def Refused (c : IssuedCall) (input : Bytes) : Prop :=
  c.writes = none ∧ ∀ written, c.manager.sendInput c.sessionId input written = false

/-- If the call sends input, then the client that sends it has control, or the input is refused. -/
def InputControlled (c : IssuedCall) : Prop :=
  ∀ input, c.call = .sendInput input → c.Controlled ∨ c.Refused input

/-- A call of the client that has control is in order. -/
theorem inputControlled_of_controlled {c : IssuedCall} (h : c.Controlled) : c.InputControlled := by
  intro input _
  exact Or.inl h

/-- A call that sends none is not concerned. -/
theorem inputControlled_of_ne {c : IssuedCall} (h : ∀ input, c.call ≠ .sendInput input) :
    c.InputControlled := by
  intro input hcall
  exact absurd hcall (h input)

/-- Input from nobody the manager knows is in order exactly when there is no runtime for it. -/
theorem inputControlled_anonymous_iff (m : SessionManager) (sessionId : String) (input : Bytes) :
    InputControlled { clientId := none, sessionId, call := .sendInput input, manager := m } ↔
      m.hasRuntime sessionId = false := by
  rw [← m.sendInput_refused_iff sessionId input]
  constructor
  · intro h
    rcases h input rfl with hcontrolled | hrefused
    · exact absurd hcontrolled Bool.false_ne_true
    · exact hrefused
  · intro hrefused input' hcall
    obtain rfl := ManagerCall.sendInput.inj hcall
    exact Or.inr hrefused

end IssuedCall

namespace Turn

variable {σ : Type} {t t' : Turn σ}

/-- All input that was sent so far was in order. -/
def InputControlled (t : Turn σ) : Prop := ∀ c ∈ t.issued, c.InputControlled

/-- Before the first call there is nothing to check. -/
theorem inputControlled_start (manager : SessionManager) (socket : σ) :
    InputControlled { manager, socket } := by
  intro c hc
  exact absurd hc List.not_mem_nil

/-- What does not call anything keeps it. -/
theorem InputControlled.of_issued (h : t.InputControlled) (heq : t'.issued = t.issued) :
    t'.InputControlled := by
  intro c hc
  exact h c (heq ▸ hc)

/-- One more call keeps it, when the call is in order. -/
theorem InputControlled.append (h : t.InputControlled) {c : IssuedCall} (hc : c.InputControlled)
    (heq : t'.issued = t.issued ++ [c]) : t'.InputControlled := by
  intro c' hc'
  rw [heq, List.mem_append, List.mem_singleton] at hc'
  rcases hc' with hc' | rfl
  · exact h c' hc'
  · exact hc

/-- Input of the client that has control keeps the account in order. -/
theorem InputControlled.sendInput (h : t.InputControlled) {clientId sessionId : String}
    (hcontrol : t.manager.hasControl sessionId clientId = true) (answers : CallAnswers)
    (input : Bytes) :
    (t.sendInput answers (some clientId) sessionId input).1.InputControlled := by
  apply h.append _ (issued_sendInput _ _ _ _ _)
  exact IssuedCall.inputControlled_of_controlled hcontrol

/-- A new size is no input. -/
theorem InputControlled.resizeSession (h : t.InputControlled) (answers : CallAnswers)
    (clientId sessionId : String) (size : TerminalSize) :
    (t.resizeSession answers clientId sessionId size).1.InputControlled := by
  apply h.append _ (issued_resizeSession _ _ _ _ _)
  apply IssuedCall.inputControlled_of_ne
  simp

/-- A stop is no input. -/
theorem InputControlled.stopSession (h : t.InputControlled) (answers : CallAnswers)
    (clientId : Option String) (sessionId : String) :
    (t.stopSession answers clientId sessionId).1.InputControlled := by
  apply h.append _ (issued_stopSession _ _ _ _)
  apply IssuedCall.inputControlled_of_ne
  simp

/-- What a handler keeps for itself is no call. -/
theorem InputControlled.modify (h : t.InputControlled) (f : σ → σ) :
    (t.modify f).InputControlled := by
  exact h.of_issued rfl

end Turn

/-! ### The socket of a watching client -/

namespace WebSocketSession

/-- A handler of this socket on its way. -/
abbrev Handler := Turn WebSocketSession

/-- What `GetSession` shows of the session. -/
def summary (t : Handler) (activity : SessionActivity) : Option SessionSummary :=
  (t.manager.findEntry t.socket.sessionId).map (summaryOf · activity)

/-- The manager has this client as the controller of the session. -/
def controls (t : Handler) : Bool := t.manager.hasControl t.socket.sessionId t.socket.clientId

/-- A command without the data of an input. -/
def outline : Net.WebSocketCommand → WebSocketCommand
  | .input _ => .input
  | .resize terminalSize => .resize terminalSize
  | .stop => .stop
  | .requestControl controllerKind => .requestControl controllerKind
  | .releaseControl => .releaseControl

/-- Source: `http_server.cpp` `WebSocketSession::ReleaseControlIfHeld`. -/
def releaseControlIfHeld (t : Handler) (answers : CallAnswers) : Handler :=
  if t.socket.sessionId.isEmpty || t.socket.clientId.isEmpty then t
  else (t.releaseControl answers t.socket.sessionId t.socket.clientId).1

/-- Source: `http_server.cpp` `WebSocketSession::HandleClientBinary`. -/
def readBinary (t : Handler) (answers : CallAnswers) (payload : Bytes) : Handler :=
  if !t.socket.rawOutputMode || !controls t then
    t.modify (·.handleClientBinary (controls t) false)
  else
    let (t, sent) := t.sendInput answers (some t.socket.clientId) t.socket.sessionId payload
    t.modify (·.handleClientBinary true sent)

/-- What the visitor of `HandleClientCommand` does with a command, and whether it handled it; a
viewport is kept when the session has a runtime. -/
def visit (t : Handler) (answers : CallAnswers) : Net.WebSocketCommand → Handler × Bool
  | .input data =>
      if !controls t then (t, false)
      else t.sendInput answers (some t.socket.clientId) t.socket.sessionId (utf8 data)
  | .resize terminalSize =>
      if controls t then t.resizeSession answers t.socket.clientId t.socket.sessionId terminalSize
      else
        (t, (t.manager.findEntry t.socket.sessionId).any (·.runtime.isSome) &&
          !t.socket.clientId.isEmpty)
  | .stop =>
      if !controls t then (t, false)
      else t.stopSession answers (some t.socket.clientId) t.socket.sessionId
  | .requestControl controllerKind =>
      t.requestControl answers t.socket.sessionId t.socket.clientId controllerKind
  | .releaseControl => t.releaseControl answers t.socket.sessionId t.socket.clientId

/-- Source: `http_server.cpp` `WebSocketSession::HandleClientCommand`. -/
def readText (lib : JsonLibrary) (t : Handler) (answers : CallAnswers) (activity : SessionActivity)
    (payload : String) : Handler :=
  match parseWebSocketCommand lib payload with
  | none => t.modify (·.handleClientCommand none false none)
  | some command =>
      let (t, handled) := visit t answers command
      t.modify (·.handleClientCommand (some (outline command)) handled (summary t activity))

/-- The socket of a client whose handshake was accepted, when it has been told what there is. -/
def connect (m : SessionManager) (sessionId clientId : String) (rawOutputMode : Bool)
    (activity : SessionActivity) : WebSocketSession :=
  (accepted sessionId clientId rawOutputMode).queueInitialEvents
    ((m.findEntry sessionId).map (summaryOf · activity))
    ((m.findEntry sessionId).bind (·.tail (64 * 1024)))

/-- What can happen next to the socket. -/
inductive Event
  /-- A frame of the client, or an error. -/
  | read (frame : Option ClientFrame) (answers : CallAnswers) (activity : SessionActivity)
  | written (ok : Bool) (answers : CallAnswers)
  | sendPendingOutput (activity : SessionActivity)
  /-- The socket is closed, or goes. -/
  | released (answers : CallAnswers)

/-- The handler that runs next. -/
def handle (lib : JsonLibrary) (t : Handler) : Event → Option Handler
  | .read none answers _ => some (releaseControlIfHeld t answers)
  | .read (some (.text payload)) answers activity => some (readText lib t answers activity payload)
  | .read (some (.binary payload)) answers _ => some (readBinary t answers payload)
  | .written true _ => t.socket.completeWrite.map fun s => t.modify fun _ => s
  | .written false answers => some (releaseControlIfHeld t answers)
  | .sendPendingOutput activity =>
      some (t.modify (·.sendPendingOutput (summary t activity)
        fun seq => (t.manager.findEntry t.socket.sessionId).bind (·.outputSince seq)))
  | .released answers => some (releaseControlIfHeld t answers)

/-- Giving up control issues no call that reaches a terminal. -/
@[simp] theorem issued_releaseControlIfHeld (t : Handler) (answers : CallAnswers) :
    (releaseControlIfHeld t answers).issued = t.issued := by
  unfold releaseControlIfHeld
  split_ifs <;> rfl

/-- Bytes of the client are passed on only while it has control. -/
theorem inputControlled_readBinary {t : Handler} (h : t.InputControlled) (answers : CallAnswers)
    (payload : Bytes) : (readBinary t answers payload).InputControlled := by
  unfold readBinary
  split_ifs with hrefused
  · exact h.modify _
  · have hcontrols : controls t = true := by simp_all
    exact (h.sendInput hcontrols answers payload).modify _

/-- One command of a text frame. -/
theorem inputControlled_visit {t : Handler} (h : t.InputControlled) (answers : CallAnswers)
    (command : Net.WebSocketCommand) : (visit t answers command).1.InputControlled := by
  cases command with
  | input data =>
      dsimp only [visit]
      split_ifs with hrefused
      · exact h
      · have hcontrols : controls t = true := by simpa using hrefused
        exact h.sendInput hcontrols answers (utf8 data)
  | resize terminalSize =>
      dsimp only [visit]
      split_ifs
      · exact h.resizeSession answers _ _ terminalSize
      · exact h
  | stop =>
      dsimp only [visit]
      split_ifs
      · exact h
      · exact h.stopSession answers _ _
  | requestControl controllerKind => exact h.of_issued rfl
  | releaseControl => exact h.of_issued rfl

/-- A text frame. -/
theorem inputControlled_readText (lib : JsonLibrary) {t : Handler} (h : t.InputControlled)
    (answers : CallAnswers) (activity : SessionActivity) (payload : String) :
    (readText lib t answers activity payload).InputControlled := by
  unfold readText
  rcases parseWebSocketCommand lib payload with _ | command
  · exact h.modify _
  · exact (inputControlled_visit h answers command).modify _

/-- **The socket of a watching client** passes nothing on without control. -/
theorem inputControlled_handle {lib : JsonLibrary} {t t' : Handler} (h : t.InputControlled)
    {event : Event} (hstep : handle lib t event = some t') : t'.InputControlled := by
  cases event with
  | read frame answers activity =>
      rcases frame with _ | payload | payload
      · obtain rfl := Option.some.inj hstep
        exact h.of_issued (issued_releaseControlIfHeld t answers)
      · obtain rfl := Option.some.inj hstep
        exact inputControlled_readText lib h answers activity payload
      · obtain rfl := Option.some.inj hstep
        exact inputControlled_readBinary h answers payload
  | written ok answers =>
      cases ok with
      | true =>
          obtain ⟨s, -, rfl⟩ := Option.map_eq_some_iff.mp hstep
          exact h.modify _
      | false =>
          obtain rfl := Option.some.inj hstep
          exact h.of_issued (issued_releaseControlIfHeld t answers)
  | sendPendingOutput activity =>
      obtain rfl := Option.some.inj hstep
      exact h.modify _
  | released answers =>
      obtain rfl := Option.some.inj hstep
      exact h.of_issued (issued_releaseControlIfHeld t answers)

end WebSocketSession

/-! ### The socket of a remote controller -/

namespace RemoteControllerSession

/-- A binary frame: its bytes are passed on only under control. -/
theorem inputControlled_handleBinaryFrame {t : Handler} (h : t.InputControlled)
    (answers : CallAnswers) (payload : Bytes) :
    (handleBinaryFrame t answers payload).InputControlled := by
  unfold handleBinaryFrame
  dsimp only
  by_cases hrefused :
      (!t.socket.hasControl || !t.manager.hasControl t.socket.sessionId t.socket.clientId) = true
  · rw [if_pos hrefused]
    exact h.of_issued (by simp)
  · rw [if_neg hrefused]
    have hcontrol : t.manager.hasControl t.socket.sessionId t.socket.clientId = true := by
      simp_all
    have hsent := h.sendInput hcontrol answers payload
    split_ifs
    · exact hsent
    · exact hsent.modify _

/-- One command of a text frame; input is checked for control first. -/
theorem inputControlled_runCommand {t : Handler} (h : t.InputControlled) (answers : CallAnswers)
    (command : WebSocketCommand) : (runCommand t answers command).1.InputControlled := by
  cases command with
  | resize terminalSize => exact h.resizeSession answers _ _ terminalSize
  | stop => exact h.stopSession answers _ _
  | releaseControl =>
      unfold runCommand
      dsimp only
      split_ifs
      · exact h.of_issued (by simp)
      · exact h.of_issued rfl
  | input data => exact h
  | requestControl controllerKind => exact h

/-- A text frame, whatever stands in it. -/
theorem inputControlled_handleTextFrame (lib : JsonLibrary) {t : Handler} (h : t.InputControlled)
    (answers : CallAnswers) (payload : String) :
    (handleTextFrame lib t answers payload).InputControlled := by
  unfold handleTextFrame
  rcases parseWebSocketCommand lib payload with _ | command
  · exact h.of_issued (by simp)
  · have hrun := inputControlled_runCommand h answers command
    dsimp only
    split_ifs
    · exact hrun
    · exact hrun.of_issued (by simp)

/-- A read that ends, with a frame or without. -/
theorem inputControlled_handleRead (lib : JsonLibrary) {t : Handler} (h : t.InputControlled)
    (answers : CallAnswers) (frame : Option ClientFrame) :
    (handleRead lib t answers frame).InputControlled := by
  rcases frame with _ | payload | payload
  · exact h.of_issued (by simp [handleRead])
  · have htext := inputControlled_handleTextFrame lib h answers payload
    unfold handleRead
    dsimp only
    split_ifs
    · exact htext
    · exact htext.modify _
  · have hbinary := inputControlled_handleBinaryFrame h answers payload
    unfold handleRead
    dsimp only
    split_ifs
    · exact hbinary
    · exact hbinary.modify _

/-- **The socket of a remote controller** passes nothing on without control. -/
theorem inputControlled_handle {lib : JsonLibrary} {t t' : Handler} (h : t.InputControlled)
    {event : Event} (hstep : handle lib t event = some t') : t'.InputControlled := by
  cases event with
  | other call =>
      obtain rfl := Option.some.inj hstep
      exact h.of_issued rfl
  | read frame answers =>
      simp only [handle, Option.ite_none_right_eq_some] at hstep
      obtain ⟨-, heq⟩ := hstep
      obtain rfl := Option.some.inj heq
      exact inputControlled_handleRead lib (h.modify _) answers frame
  | accepted result answers =>
      simp only [handle, Option.ite_none_right_eq_some] at hstep
      obtain ⟨-, heq⟩ := hstep
      obtain rfl := Option.some.inj heq
      exact h.of_issued (by simp)
  | written ok answers =>
      simp only [handle, Option.ite_none_right_eq_some] at hstep
      obtain ⟨-, heq⟩ := hstep
      obtain rfl := Option.some.inj heq
      exact h.of_issued (by simp)
  | readable result answers =>
      simp only [handle, Option.ite_none_right_eq_some] at hstep
      obtain ⟨-, heq⟩ := hstep
      obtain rfl := Option.some.inj heq
      exact h.of_issued (by simp)
  | sendPendingOutput answers | forceClose answers =>
      simp only [handle, Option.ite_none_right_eq_some] at hstep
      obtain ⟨-, heq⟩ := hstep
      obtain rfl := Option.some.inj heq
      exact h.of_issued (by simp)
  | destroyed answers =>
      simp only [handle, Option.ite_none_left_eq_some] at hstep
      obtain ⟨-, heq⟩ := hstep
      obtain rfl := Option.some.inj heq
      exact h.of_issued (by simp)

end RemoteControllerSession

/-! ### The socket of a local controller -/

namespace LocalControllerSession

/-- Giving up control issues no call that reaches a terminal. -/
@[simp] theorem issued_releaseControlIfHeld (t : Handler) (answers : LocalAnswers) :
    (releaseControlIfHeld t answers).issued = t.issued := by
  unfold releaseControlIfHeld
  split_ifs <;> rfl

/-- Closing issues none either, control given up or not. -/
@[simp] theorem issued_forceClose (t : Handler) (answers : LocalAnswers) :
    (forceClose t answers).issued = t.issued := by
  unfold forceClose
  split_ifs
  · rfl
  · simp

/-- Writing to the client issues no call. -/
@[simp] theorem issued_doWrite (t : Handler) (answers : LocalAnswers) :
    (doWrite t answers).issued = t.issued := by
  unfold doWrite
  split_ifs
  · dsimp only
    split_ifs <;> simp
  · rfl

/-- Queueing output for the client issues no call. -/
@[simp] theorem issued_queueOutput (t : Handler) (answers : LocalAnswers) (payload : Bytes) :
    (queueOutput t answers payload).issued = t.issued := by
  unfold queueOutput
  split_ifs
  · rfl
  · dsimp only
    split_ifs <;> simp

/-- Following the descriptor of the session issues no call. -/
@[simp] theorem issued_syncReadableDescriptor (t : Handler) (answers : LocalAnswers) :
    (syncReadableDescriptor t answers).issued = t.issued := by
  unfold syncReadableDescriptor
  dsimp only
  split_ifs <;> rfl

/-- Waiting for the session issues no call. -/
@[simp] theorem issued_armReadableWait (t : Handler) : (armReadableWait t).issued = t.issued := by
  unfold armReadableWait
  split_ifs <;> rfl

/-- Asking for the next part of a frame issues no call. -/
@[simp] theorem issued_startRead (t : Handler) (part : FramePart) :
    (startRead t part).issued = t.issued := rfl

/-- Asking for the next frame issues no call. -/
@[simp] theorem issued_readFrameHeader (t : Handler) : (readFrameHeader t).issued = t.issued := rfl

/-- The answer to the handshake issues no call. -/
@[simp] theorem issued_writeHandshakeResponse (t : Handler) (response : HandshakeResponse) :
    (writeHandshakeResponse t response).issued = t.issued := rfl

/-- The first screen issues no call. -/
@[simp] theorem issued_bootstrap (t : Handler) (answers : LocalAnswers) (summary : SessionEntry) :
    (bootstrap t answers summary).issued = t.issued := rfl

/-- New output issues no call. -/
@[simp] theorem issued_flushOutput (t : Handler) (answers : LocalAnswers) :
    (flushOutput t answers).issued = t.issued := by
  unfold flushOutput
  split
  · rfl
  · split_ifs <;> simp

/-- A rendered view issues no call. -/
@[simp] theorem issued_flushViewportSnapshot (t : Handler) (answers : LocalAnswers)
    (summary : Option SessionEntry) :
    (flushViewportSnapshot t answers summary).issued = t.issued := by
  unfold flushViewportSnapshot
  dsimp only
  split
  · rfl
  · split_ifs <;> simp

/-- Noticing that control is lost issues no call. -/
@[simp] theorem issued_noticeLostControl (t : Handler) :
    (noticeLostControl t).issued = t.issued := by
  unfold noticeLostControl
  split_ifs <;> rfl

/-- A flush issues no call. -/
@[simp] theorem issued_flush (t : Handler) (answers : LocalAnswers) (hadControl : Bool)
    (summary : Option SessionEntry) : (flush t answers hadControl summary).issued = t.issued := by
  unfold flush
  dsimp only
  split_ifs <;> simp

/-- Waiting again issues no call. -/
@[simp] theorem issued_rearm (t : Handler) (answers : LocalAnswers) :
    (rearm t answers).issued = t.issued := by
  unfold rearm
  dsimp only
  split_ifs <;> simp

/-- The end of the handshake issues no call. -/
@[simp] theorem issued_handleResponded (t : Handler) (answers : LocalAnswers) (ok success : Bool) :
    (handleResponded t answers ok success).issued = t.issued := by
  unfold handleResponded
  split_ifs <;> simp

/-- The end of a write issues no call. -/
@[simp] theorem issued_handleWritten (t : Handler) (answers : LocalAnswers) (ok : Bool) :
    (handleWritten t answers ok).issued = t.issued := by
  unfold handleWritten
  split_ifs <;> simp

/-! The handlers that act on the session. -/

/-- Asking for control before input issues at most a new size. -/
theorem inputControlled_ensureControlForInput {t : Handler} (h : t.InputControlled)
    (answers : LocalAnswers) : (ensureControlForInput t answers).1.InputControlled := by
  unfold ensureControlForInput
  by_cases hcontrols : controls t = true
  · rw [if_pos hcontrols]
    exact h
  · rw [if_neg hcontrols]
    dsimp only
    split_ifs
    · exact h.of_issued (by simp)
    · apply Turn.InputControlled.modify
      apply Turn.InputControlled.resizeSession
      exact h.of_issued (by simp)
    · apply Turn.InputControlled.resizeSession
      exact h.of_issued (by simp)

/-- A frame of input: without control nothing is passed on. -/
theorem inputControlled_handleInputFrame {t : Handler} (h : t.InputControlled)
    (answers : LocalAnswers) (payload : Bytes) :
    (handleInputFrame t answers payload).InputControlled := by
  unfold handleInputFrame
  by_cases hcontrols : controls t = true
  · have hcontrol : t.manager.hasControl t.socket.sessionId t.socket.clientId = true := by
      unfold controls at hcontrols
      rw [Bool.and_eq_true] at hcontrols
      exact hcontrols.2
    have hsent := h.sendInput hcontrol answers.toCallAnswers payload
    rw [if_neg (by simp [hcontrols])]
    dsimp only
    split_ifs
    · exact hsent.of_issued (by simp)
    · exact hsent.of_issued (by simp)
  · rw [if_pos (by simp [hcontrols])]
    exact h.of_issued (by simp)

/-- A frame with a new size is no input. -/
theorem inputControlled_handleResizeFrame {t : Handler} (h : t.InputControlled)
    (answers : LocalAnswers) (payload : Bytes) :
    (handleResizeFrame t answers payload).InputControlled := by
  unfold handleResizeFrame
  split
  · dsimp only
    split_ifs
    · exact h.of_issued (by simp)
    · apply Turn.InputControlled.of_issued _ (issued_readFrameHeader _)
      apply Turn.InputControlled.resizeSession
      exact h.modify _
    · apply Turn.InputControlled.of_issued _ (issued_forceClose _ answers)
      apply Turn.InputControlled.resizeSession
      exact h.modify _
  · exact h.of_issued (by simp)

/-- A frame of any type. -/
theorem inputControlled_handleFrame {t : Handler} (h : t.InputControlled) (answers : LocalAnswers)
    (type : UInt8) (payload : Bytes) : (handleFrame t answers type payload).InputControlled := by
  unfold handleFrame
  split_ifs
  · have hensured := inputControlled_ensureControlForInput h answers
    exact hensured.of_issued (issued_readFrameHeader _)
  · exact inputControlled_handleInputFrame h answers payload
  · exact inputControlled_handleResizeFrame h answers payload
  · exact h.of_issued (by simp)

/-- The end of a read of a header. -/
theorem inputControlled_handleHeader {t : Handler} (h : t.InputControlled) (answers : LocalAnswers)
    (header : Option FrameHeader) : (handleHeader t answers header).InputControlled := by
  cases header with
  | none => exact h.of_issued (by simp [handleHeader])
  | some header =>
      dsimp only [handleHeader]
      split_ifs
      · exact h.of_issued (by simp)
      · exact inputControlled_handleFrame h answers header.type []
      · exact h.of_issued (by simp)

/-- The end of a read of a payload. -/
theorem inputControlled_handlePayload {t : Handler} (h : t.InputControlled)
    (answers : LocalAnswers) (type : UInt8) (payload : Option Bytes) :
    (handlePayload t answers type payload).InputControlled := by
  cases payload with
  | none => exact h.of_issued (by simp [handlePayload])
  | some payload => exact inputControlled_handleFrame h answers type payload

/-- Claiming control in the handshake issues at most a new size. -/
theorem inputControlled_claimInHandshake {t : Handler} (h : t.InputControlled)
    (answers : LocalAnswers) (summary : SessionEntry) :
    (claimInHandshake t answers summary).InputControlled := by
  unfold claimInHandshake
  dsimp only
  split_ifs
  · exact h.of_issued (by simp)
  · apply Turn.InputControlled.modify
    apply Turn.InputControlled.resizeSession
    exact h.of_issued (by simp)
  · apply Turn.InputControlled.modify
    apply Turn.InputControlled.modify
    apply Turn.InputControlled.resizeSession
    exact h.of_issued (by simp)

/-- The handshake, whatever the line says. -/
theorem inputControlled_handleHandshake (lib : JsonLibrary) (drawn : String) {t : Handler}
    (h : t.InputControlled) (answers : LocalAnswers) (line : Option String) :
    (handleHandshake lib drawn t answers line).InputControlled := by
  cases line with
  | none => exact h.of_issued (by simp [handleHandshake])
  | some line =>
      dsimp only [handleHandshake]
      split
      · exact h.modify _
      · split
        · exact (h.modify _).modify _
        · exact inputControlled_claimInHandshake (h.modify _) answers _

/-- Taking control back issues at most a new size. -/
theorem inputControlled_reacquireControl {t : Handler} (h : t.InputControlled)
    (answers : LocalAnswers) (summary : Option SessionEntry) :
    (reacquireControl t answers summary).InputControlled := by
  cases summary with
  | none => exact h.modify _
  | some summary =>
      dsimp only [reacquireControl]
      split_ifs
      · exact h.modify _
      · apply Turn.InputControlled.resizeSession
        exact h.of_issued (by simp)
      · exact h.of_issued (by simp)
      · exact h

/-- The end of a wait for the session. -/
theorem inputControlled_handleReadable {t : Handler} (h : t.InputControlled)
    (answers : LocalAnswers) (result : WaitResult) :
    (handleReadable t answers result).InputControlled := by
  cases result with
  | aborted => exact h
  | failed => exact h.of_issued (by simp [handleReadable])
  | ready =>
      have hnoticed : (noticeLostControl
          (t.pollSession answers.toCallAnswers t.socket.sessionId)).InputControlled := by
        exact h.of_issued (by simp)
      have hreacquired := inputControlled_reacquireControl hnoticed answers
        ((noticeLostControl (t.pollSession answers.toCallAnswers t.socket.sessionId)).manager.findEntry
          (noticeLostControl
            (t.pollSession answers.toCallAnswers t.socket.sessionId)).socket.sessionId)
      exact hreacquired.of_issued (by simp [handleReadable])

/-- **The socket of a local controller** passes nothing on without control. -/
theorem inputControlled_handle {lib : JsonLibrary} {drawn : String} {t t' : Handler}
    (h : t.InputControlled) {event : Event} (hstep : handle lib drawn t event = some t') :
    t'.InputControlled := by
  cases event with
  | other call =>
      simp only [handle, Option.ite_none_left_eq_some] at hstep
      obtain ⟨-, heq⟩ := hstep
      obtain rfl := Option.some.inj heq
      exact h.of_issued rfl
  | handshake line answers =>
      simp only [handle, Option.ite_none_right_eq_some] at hstep
      obtain ⟨-, heq⟩ := hstep
      obtain rfl := Option.some.inj heq
      exact inputControlled_handleHandshake lib drawn (h.modify _) answers line
  | responded ok answers =>
      dsimp only [handle] at hstep
      split at hstep
      · obtain rfl := Option.some.inj hstep
        exact h.of_issued (by simp)
      · exact absurd hstep nofun
  | header header answers =>
      dsimp only [handle] at hstep
      split at hstep
      · rw [Option.ite_none_left_eq_some] at hstep
        obtain ⟨-, heq⟩ := hstep
        obtain rfl := Option.some.inj heq
        exact inputControlled_handleHeader (h.modify _) answers header
      · exact absurd hstep nofun
  | payload payload answers =>
      dsimp only [handle] at hstep
      split at hstep
      · rw [Option.ite_none_left_eq_some] at hstep
        obtain ⟨-, heq⟩ := hstep
        obtain rfl := Option.some.inj heq
        exact inputControlled_handlePayload (h.modify _) answers _ payload
      · exact absurd hstep nofun
  | written ok answers =>
      simp only [handle, Option.ite_none_right_eq_some] at hstep
      obtain ⟨-, heq⟩ := hstep
      obtain rfl := Option.some.inj heq
      exact h.of_issued (by simp)
  | readable result answers =>
      simp only [handle, Option.ite_none_right_eq_some] at hstep
      obtain ⟨-, heq⟩ := hstep
      obtain rfl := Option.some.inj heq
      exact inputControlled_handleReadable (h.modify _) answers result

end LocalControllerSession

end Sentrits.Net
