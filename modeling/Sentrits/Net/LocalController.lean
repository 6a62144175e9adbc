import Sentrits.Found.JsonText
import Sentrits.Net.ManagerCalls
import Sentrits.Net.RemoteController
import Sentrits.Service.ControlRecord

/-!
# The socket of a local controller

`LocalControllerSession` connects the terminal of the host with a session. It claims control in its
handshake, may lose it to somebody else, and takes it back when its client sends a claim or when
nobody has it. It keeps a flag that says whether it has control, and releases control when it
closes.

* `LocalControllerSession`: the socket, and its handlers under the names of the source.
* `handleFrame`, `handleReadable`: the two places where control is claimed again.
* `handshakeSize_eq_zero_iff`: a handshake may ask for a size without columns or rows.
* `handle`, `step`: the handler that runs next, if what it waits for is under way.

Source: `src/net/http_server.cpp`.
-/

namespace Sentrits.Net

open Found Found.Bytes Found.Json Found.Runs Session Service

/-! ### The socket -/

/-- The part of a frame that is read next. -/
inductive FramePart
  | header
  | payload (type : UInt8) (size : ℕ)
  deriving DecidableEq

/-- The answer to a handshake.
Source: `http_server.cpp` `LocalControllerSession::WriteHandshakeResponse`. -/
structure HandshakeResponse where
  response : String
  success : Bool := false
  deriving DecidableEq

/-- Source: `http_server.cpp` `LocalControllerSession`. `handshaking`, `responding`, `reading` and
`waiting` say which asynchronous operations are under way; a write is when `writeInProgress` says
so. -/
structure LocalControllerSession where
  sessionId : String := ""
  clientId : String := ""
  initialTail : Bytes := []
  initialTerminalSize : TerminalSize := {}
  currentTerminalSize : TerminalSize := {}
  nextOutputSequence : ℕ := 1
  lastObserverRenderRevision : ℕ := 0
  pendingOutput : List Bytes := []
  ptyReadable : Bool := false
  hasControl : Bool := false
  writeInProgress : Bool := false
  closeAfterWrites : Bool := false
  closed : Bool := false
  handshaking : Bool := true
  /-- The answer to the handshake that is written. -/
  responding : Option HandshakeResponse := none
  reading : Option FramePart := none
  /-- The read was started on a closed socket. -/
  readFails : Bool := false
  waiting : Bool := false
  deriving DecidableEq

/-- What a local terminal is shown of a session it does not control. -/
structure ViewportSnapshot where
  bootstrapAnsi : Bytes
  renderRevision : ℕ
  deriving DecidableEq

/-- What the environment answers while a handler of this socket runs. -/
structure LocalAnswers extends CallAnswers where
  /-- What `GetViewportSnapshot` finds. -/
  viewport : Option ViewportSnapshot := none

/-- The first five bytes of a frame. -/
structure FrameHeader where
  type : UInt8
  size₀ : UInt8
  size₁ : UInt8
  size₂ : UInt8
  size₃ : UInt8
  deriving DecidableEq

/-- Source: `http_server.cpp` `LocalControllerSession::ReadFrameHeader`. -/
def FrameHeader.size (h : FrameHeader) : ℕ :=
  (h.size₀.toUInt32 <<< 24 ||| h.size₁.toUInt32 <<< 16 ||| h.size₂.toUInt32 <<< 8 |||
    h.size₃.toUInt32).toNat

/-- Source: `http_server.cpp` `LocalControllerSession::DecodeTerminalSize`. -/
def decodeTerminalSize (b₀ b₁ b₂ b₃ : UInt8) : TerminalSize where
  columns := b₀.toUInt16 <<< 8 ||| b₁.toUInt16
  rows := b₂.toUInt16 <<< 8 ||| b₃.toUInt16

/-- Clears the terminal. -/
def clearScreen : Bytes := esc :: utf8 "[0m" ++ esc :: utf8 "[H" ++ esc :: utf8 "[2J"

/-- What a local terminal sends first. -/
structure LocalHandshake where
  sessionId : String
  terminalSize : TerminalSize
  deriving DecidableEq

/-- A size in a handshake, cut to what a terminal size can be. -/
def handshakeSize (fallback : UInt16) (field : Option Json) : UInt16 :=
  ((field.bind asInt64).map fun value => value.toUInt64.toUInt16).getD fallback

/-- **A handshake asks for no columns** with a multiple of `2 ^ 16`. -/
theorem handshakeSize_eq_zero_iff {fallback : UInt16} (hfallback : fallback ≠ 0)
    {field : Option Json} :
    handshakeSize fallback field = 0 ↔
      ∃ value, field.bind asInt64 = some value ∧ (2 ^ 16 : ℤ) ∣ value.toInt := by
  unfold handshakeSize
  rcases field.bind asInt64 with _ | value
  · exact iff_of_false hfallback (by simp)
  · have hsigned : value.toInt = (value.toUInt64.toNat : ℤ) ∨
        value.toInt = (value.toUInt64.toNat : ℤ) - 2 ^ 64 := by
      have hcases := BitVec.toInt_eq_toNat_cond value.toBitVec
      split_ifs at hcases
      · exact Or.inl hcases
      · exact Or.inr hcases
    have hcut : value.toUInt64.toUInt16.toNat = value.toUInt64.toNat % 2 ^ 16 :=
      UInt64.toNat_toUInt16 _
    simp only [Option.map_some, Option.getD_some, Option.some.injEq, exists_eq_left']
    rw [← UInt16.toNat_inj, hcut, UInt16.toNat_zero]
    omega

/-- Reads the line of the handshake, or says what is wrong with it.
Source: `http_server.cpp` `LocalControllerSession::HandleHandshake`. -/
def parseHandshake (lib : JsonLibrary) (line : String) : Except String LocalHandshake :=
  match (lib.parse line).bind asObject with
  | none => .error "ERROR invalid local controller handshake\n"
  | some fields =>
      match required asString (ifContains fields "sessionId") with
      | none => .error "ERROR missing sessionId\n"
      | some sessionId => .ok
          { sessionId
            terminalSize :=
              { columns := handshakeSize 120 (ifContains fields "columns")
                rows := handshakeSize 40 (ifContains fields "rows") } }

namespace LocalControllerSession

/-- A handler of this socket on its way. -/
abbrev Handler := Turn LocalControllerSession

/-- Source: `http_server.cpp` `LocalControllerSession::ReleaseControlIfHeld`. -/
def releaseControlIfHeld (t : Handler) (answers : LocalAnswers) : Handler :=
  if !t.socket.hasControl then t
  else
    (t.releaseControl answers.toCallAnswers t.socket.sessionId t.socket.clientId).1.modify
      ({ · with hasControl := false })

/-- What has been started stays under way: its handler may be queued already.
Source: `http_server.cpp` `LocalControllerSession::ForceClose`. -/
def forceClose (t : Handler) (answers : LocalAnswers) : Handler :=
  if t.socket.closed then t
  else releaseControlIfHeld (t.modify ({ · with closed := true, ptyReadable := false })) answers

/-- Source: `http_server.cpp` `LocalControllerSession::DoWrite`, up to the start of the write. -/
def doWrite (t : Handler) (answers : LocalAnswers) : Handler :=
  if t.socket.pendingOutput.isEmpty || t.socket.closed then
    let t := t.modify ({ · with writeInProgress := false })
    if t.socket.closeAfterWrites then forceClose t answers else t
  else t.modify ({ · with writeInProgress := true })

/-- Source: `http_server.cpp` `LocalControllerSession::QueueOutput`. -/
def queueOutput (t : Handler) (answers : LocalAnswers) (payload : Bytes) : Handler :=
  if payload.isEmpty || t.socket.closed then t
  else
    let t := t.modify fun s => { s with pendingOutput := s.pendingOutput ++ [payload] }
    if t.socket.writeInProgress then t else doWrite t answers

/-- Source: `http_server.cpp` `LocalControllerSession::SyncReadableDescriptor`. -/
def syncReadableDescriptor (t : Handler) (answers : LocalAnswers) : Handler :=
  let readableFd :=
    (t.manager.findEntry t.socket.sessionId).any (·.runtime.isSome) && answers.readableFd
  if !readableFd then t.modify ({ · with ptyReadable := false })
  else if t.socket.ptyReadable then t
  else t.modify ({ · with ptyReadable := answers.duplicated })

/-- Source: `http_server.cpp` `LocalControllerSession::ArmReadableWait`, up to the start of the
wait. -/
def armReadableWait (t : Handler) : Handler :=
  if !t.socket.ptyReadable || t.socket.closed then t else t.modify ({ · with waiting := true })

/-- Starts to read a part of a frame. -/
def startRead (t : Handler) (part : FramePart) : Handler :=
  t.modify fun s => { s with reading := some part, readFails := s.closed }

/-- Source: `http_server.cpp` `LocalControllerSession::ReadFrameHeader`, up to the start of the
read. -/
def readFrameHeader (t : Handler) : Handler := startRead t .header

/-- Source: `http_server.cpp` `LocalControllerSession::FlushOutput`. -/
def flushOutput (t : Handler) (answers : LocalAnswers) : Handler :=
  match (t.manager.findEntry t.socket.sessionId).bind (·.outputSince t.socket.nextOutputSequence) with
  | none => t
  | some slice =>
      if slice.data.isEmpty then t
      else
        queueOutput (t.modify ({ · with nextOutputSequence := slice.seqEnd + 1 })) answers slice.data

/-- Source: `http_server.cpp` `LocalControllerSession::FlushViewportSnapshot`. -/
def flushViewportSnapshot (t : Handler) (answers : LocalAnswers) (summary : Option SessionEntry) :
    Handler :=
  let t := t.modify fun s =>
    { s with
      nextOutputSequence :=
        ((summary.bind (·.snapshot?)).map (·.currentSequence + 1)).getD s.nextOutputSequence }
  match answers.viewport with
  | none => t
  | some viewport =>
      if viewport.bootstrapAnsi.isEmpty ||
          viewport.renderRevision == t.socket.lastObserverRenderRevision then t
      else
        queueOutput (t.modify ({ · with lastObserverRenderRevision := viewport.renderRevision }))
          answers viewport.bootstrapAnsi

/-- Has control by its own flag and by the manager. -/
def controls (t : Handler) : Bool :=
  t.socket.hasControl && t.manager.hasControl t.socket.sessionId t.socket.clientId

/-- Source: `http_server.cpp` `LocalControllerSession::EnsureControlForInput`. -/
def ensureControlForInput (t : Handler) (answers : LocalAnswers) : Handler × Bool :=
  if controls t then (t, true)
  else
    let (t, granted) :=
      t.requestControl answers.toCallAnswers t.socket.sessionId t.socket.clientId .host
    if !granted then (t.modify ({ · with hasControl := false }), false)
    else
      let t := t.modify ({ · with hasControl := true })
      let (t, resized) := t.resizeSession answers.toCallAnswers t.socket.clientId t.socket.sessionId
        t.socket.currentTerminalSize
      if !resized then (t.modify ({ · with hasControl := false }), false) else (t, true)

/-- A frame with input.
Source: `http_server.cpp` `LocalControllerSession::HandleFrame`. -/
def handleInputFrame (t : Handler) (answers : LocalAnswers) (payload : Bytes) : Handler :=
  if !controls t then readFrameHeader (t.modify ({ · with hasControl := false }))
  else
    let (t, sent) :=
      t.sendInput answers.toCallAnswers (some t.socket.clientId) t.socket.sessionId payload
    if sent then readFrameHeader t else forceClose t answers

/-- A frame with a new size of the terminal.
Source: `http_server.cpp` `LocalControllerSession::HandleFrame`. -/
def handleResizeFrame (t : Handler) (answers : LocalAnswers) : Bytes → Handler
  | [b₀, b₁, b₂, b₃] =>
      let t := t.modify ({ · with currentTerminalSize := decodeTerminalSize b₀ b₁ b₂ b₃ })
      if !controls t then readFrameHeader (t.modify ({ · with hasControl := false }))
      else
        let (t, resized) := t.resizeSession answers.toCallAnswers t.socket.clientId
          t.socket.sessionId t.socket.currentTerminalSize
        if resized then readFrameHeader t else forceClose t answers
  | _ => forceClose t answers

/-- The letter of a frame that claims control. -/
def claimFrame : UInt8 := 0x43

/-- The letter of a frame with input. -/
def inputFrame : UInt8 := 0x49

/-- The letter of a frame with a new size of the terminal. -/
def resizeFrame : UInt8 := 0x52

/-- Source: `http_server.cpp` `LocalControllerSession::HandleFrame`. -/
def handleFrame (t : Handler) (answers : LocalAnswers) (type : UInt8) (payload : Bytes) : Handler :=
  if type = claimFrame then readFrameHeader (ensureControlForInput t answers).1
  else if type = inputFrame then handleInputFrame t answers payload
  else if type = resizeFrame then handleResizeFrame t answers payload
  else forceClose t answers

/-- The largest frame, in bytes. -/
def maxFrameSize : ℕ := 1024 * 1024

/-- The handler of the read of a header; no header is an error.
Source: `http_server.cpp` `LocalControllerSession::ReadFrameHeader`, `ReadFramePayload`. -/
def handleHeader (t : Handler) (answers : LocalAnswers) : Option FrameHeader → Handler
  | none => forceClose t answers
  | some header =>
      if maxFrameSize < header.size then forceClose t answers
      else if header.size = 0 then handleFrame t answers header.type []
      else startRead t (.payload header.type header.size)

/-- The handler of the read of a payload; no payload is an error.
Source: `http_server.cpp` `LocalControllerSession::ReadFramePayload`. -/
def handlePayload (t : Handler) (answers : LocalAnswers) (type : UInt8) : Option Bytes → Handler
  | none => forceClose t answers
  | some payload => handleFrame t answers type payload

/-! ### The handshake -/

/-- Source: `http_server.cpp` `LocalControllerSession::WriteHandshakeResponse`, up to the start of
the write. -/
def writeHandshakeResponse (t : Handler) (response : HandshakeResponse) : Handler :=
  t.modify ({ · with responding := some response })

/-- What the terminal shows first, and from where output goes on.
Source: `http_server.cpp` `LocalControllerSession::HandleHandshake`. -/
def bootstrap (t : Handler) (answers : LocalAnswers) (summary : SessionEntry) : Handler :=
  let bootstrapAnsi := (answers.viewport.map (·.bootstrapAnsi)).getD []
  let currentSequence := (summary.snapshot?.map (·.currentSequence)).getD 0
  let tail := (t.manager.findEntry t.socket.sessionId).bind (·.tail (64 * 1024))
  t.modify ({ · with
    initialTail := if bootstrapAnsi.isEmpty then clearScreen else bootstrapAnsi
    nextOutputSequence :=
      match tail with
      | some slice => if 0 < slice.seqEnd then slice.seqEnd + 1 else 1
      | none => currentSequence + 1 })

/-- Claims control for a session that was found. -/
def claimInHandshake (t : Handler) (answers : LocalAnswers) (summary : SessionEntry) : Handler :=
  let (t, granted) :=
    t.requestControl answers.toCallAnswers t.socket.sessionId t.socket.clientId .host
  if !granted then writeHandshakeResponse t { response := "ERROR failed to claim control\n" }
  else
    let t := t.modify ({ · with hasControl := true })
    let (t, resized) := t.resizeSession answers.toCallAnswers t.socket.clientId t.socket.sessionId
      t.socket.initialTerminalSize
    if !resized then writeHandshakeResponse t { response := "ERROR failed to resize session\n" }
    else writeHandshakeResponse (bootstrap t answers summary) { response := "OK\n", success := true }

/-- The handler of the read of the handshake; no line is an error. `drawn` is the client id that is
made from the time and the descriptor.
Source: `http_server.cpp` `LocalControllerSession::ReadHandshake`, `HandleHandshake`. -/
def handleHandshake (lib : JsonLibrary) (drawn : String) (t : Handler) (answers : LocalAnswers) :
    Option String → Handler
  | none => forceClose t answers
  | some line =>
      match parseHandshake lib line with
      | .error response => writeHandshakeResponse t { response }
      | .ok handshake =>
          let t := t.modify ({ · with
            sessionId := handshake.sessionId
            initialTerminalSize := handshake.terminalSize
            currentTerminalSize := handshake.terminalSize
            clientId := drawn })
          match t.manager.findEntry handshake.sessionId with
          | none => writeHandshakeResponse t { response := "ERROR session not found\n" }
          | some summary => claimInHandshake t answers summary

/-- The handler of the write of the answer to the handshake.
Source: `http_server.cpp` `LocalControllerSession::WriteHandshakeResponse`. -/
def handleResponded (t : Handler) (answers : LocalAnswers) (ok success : Bool) : Handler :=
  if !ok || !success then forceClose t answers
  else
    let initialTail := t.socket.initialTail
    let t := queueOutput (t.modify ({ · with initialTail := [] })) answers initialTail
    armReadableWait (syncReadableDescriptor (readFrameHeader t) answers)

/-! ### Output -/

/-- The handler of a write.
Source: `http_server.cpp` `LocalControllerSession::DoWrite`. -/
def handleWritten (t : Handler) (answers : LocalAnswers) (ok : Bool) : Handler :=
  if ok then doWrite (t.modify fun s => { s with pendingOutput := s.pendingOutput.tail }) answers
  else forceClose t answers

/-- The socket notices that it lost control. -/
def noticeLostControl (t : Handler) : Handler :=
  if t.socket.hasControl && !t.manager.hasControl t.socket.sessionId t.socket.clientId then
    t.modify ({ · with hasControl := false })
  else t

/-- The session is left to itself: nobody has it, and it is the host's. -/
def free (summary : SessionEntry) : Bool :=
  summary.controllerKind == .host && summary.controllerClientId.isNone

/-- Notices the end of the session, or takes control back when nobody has it. -/
def reacquireControl (t : Handler) (answers : LocalAnswers) : Option SessionEntry → Handler
  | none => t.modify ({ · with closeAfterWrites := true })
  | some summary =>
      if summary.status.isTerminal then t.modify ({ · with closeAfterWrites := true })
      else if !t.socket.hasControl && free summary then
        let (t, granted) :=
          t.requestControl answers.toCallAnswers t.socket.sessionId t.socket.clientId .host
        if granted then
          let t := t.modify ({ · with hasControl := true })
          (t.resizeSession answers.toCallAnswers t.socket.clientId t.socket.sessionId
            t.socket.currentTerminalSize).1
        else t
      else t

/-- Shows what the session prints, or what it looks like from here. -/
def flush (t : Handler) (answers : LocalAnswers) (hadControl : Bool)
    (summary : Option SessionEntry) : Handler :=
  if t.socket.hasControl then flushOutput t answers
  else
    let t :=
      if hadControl then
        (queueOutput t answers clearScreen).modify ({ · with lastObserverRenderRevision := 0 })
      else t
    flushViewportSnapshot t answers summary

/-- Waits for more output, or closes after the last. -/
def rearm (t : Handler) (answers : LocalAnswers) : Handler :=
  let t := syncReadableDescriptor t answers
  if t.socket.ptyReadable && !t.socket.closed then armReadableWait t
  else if t.socket.closeAfterWrites && !t.socket.writeInProgress && t.socket.pendingOutput.isEmpty then
    forceClose t answers
  else t

/-- The handler of a wait for output.
Source: `http_server.cpp` `LocalControllerSession::ArmReadableWait`. -/
def handleReadable (t : Handler) (answers : LocalAnswers) : WaitResult → Handler
  | .aborted => t
  | .failed => forceClose t answers
  | .ready =>
      let t := t.pollSession answers.toCallAnswers t.socket.sessionId
      let hadControl := t.socket.hasControl
      let t := noticeLostControl t
      let summary := t.manager.findEntry t.socket.sessionId
      rearm (flush (reacquireControl t answers summary) answers hadControl summary) answers

/-! ### Runs -/

/-- What can happen next. -/
inductive Event
  /-- Anything else that happens to the manager. -/
  | other (call : Call)
  | handshake (line : Option String) (answers : LocalAnswers)
  | responded (ok : Bool) (answers : LocalAnswers)
  | header (header : Option FrameHeader) (answers : LocalAnswers)
  | payload (payload : Option Bytes) (answers : LocalAnswers)
  | written (ok : Bool) (answers : LocalAnswers)
  | readable (result : WaitResult) (answers : LocalAnswers)

/-- A request for control by this client. -/
def asksFor (clientId : String) : Op → Bool
  | .requestControl _ c _ => c == clientId
  | _ => false

/-- The handler that runs next, if what it waits for is under way. Nobody else goes by the client id
of this socket. -/
def handle (lib : JsonLibrary) (drawn : String) (t : Handler) : Event → Option Handler
  | .other call =>
      if asksFor drawn call.op then none
      else some { t with manager := (t.manager.perform call.storeOk call.op).1 }
  | .handshake line answers =>
      if t.socket.handshaking then
        some (handleHandshake lib drawn (t.modify ({ · with handshaking := false })) answers line)
      else none
  | .responded ok answers =>
      match t.socket.responding with
      | some response =>
          some (handleResponded (t.modify ({ · with responding := none })) answers ok
            response.success)
      | none => none
  | .header header answers =>
      match t.socket.reading with
      | some .header =>
          if t.socket.readFails && header.isSome then none
          else some (handleHeader (t.modify ({ · with reading := none })) answers header)
      | _ => none
  | .payload payload answers =>
      match t.socket.reading with
      | some (.payload type size) =>
          if payload.any fun bytes => t.socket.readFails || bytes.length != size then none
          else some (handlePayload (t.modify ({ · with reading := none })) answers type payload)
      | _ => none
  | .written ok answers =>
      if t.socket.writeInProgress then some (handleWritten t answers ok) else none
  | .readable result answers =>
      if t.socket.waiting then
        some (handleReadable (t.modify ({ · with waiting := false })) answers result)
      else none

/-- One step of the manager and the socket. -/
def step (lib : JsonLibrary) (drawn : String) (s : SessionManager × LocalControllerSession)
    (event : Event) : Option (SessionManager × LocalControllerSession) :=
  (handle lib drawn { manager := s.1, socket := s.2 } event).map fun t => (t.manager, t.socket)

end LocalControllerSession

end Sentrits.Net
