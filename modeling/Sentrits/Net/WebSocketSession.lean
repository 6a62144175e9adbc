import Sentrits.Service.SessionEntry

/-!
# A WebSocket that watches a session

`WebSocketSession` queues frames for one client: what changed about the session, its terminal
output, and a last notice when the session has ended. Two positions in the output run along: how far
output has been queued (`reservedNext`) and how far the client has it (`deliveredNext`). The
functions here are the member functions of the same names; what the session manager returns to them
is an argument.

* `queueStatusEvents_spec`: the status events never carry output, leave the positions where they
  are, and end with the exit notice exactly when the session is over for the first time.
* `queueOutputFrame_spec`: an output frame is queued behind everything else.
* `WebSocketSession.Ordered`: **the positions in the queue ascend** from the delivered to the
  reserved one; every member function keeps it.
* `clientReads`: what a client that stops at the exit notice has read.

Sources: `src/net/http_server.cpp` (`WebSocketSession`), `src/net/websocket_shared.cpp`,
`src/cli/daemon_client.cpp`.
-/

namespace Sentrits.Net

open Found Session Service

/-! ### The summary of a session -/

/-- Source: `session_snapshot.h` `SupervisionState`. -/
inductive SupervisionState
  | active
  | quiet
  | stopped
  deriving DecidableEq

/-- Source: `session_snapshot.h` `AttentionState`. -/
inductive AttentionState
  | none
  | info
  | actionRequired
  | intervention
  deriving DecidableEq

/-- Source: `session_snapshot.h` `AttentionReason`. -/
inductive AttentionReason
  | none
  | awaitingInput
  | sessionError
  | workspaceChanged
  | gitStateChanged
  | controllerChanged
  | sessionExitedCleanly
  deriving DecidableEq

/-- The fields of `SessionSummary` that make up the activity of a session. -/
structure SessionActivity where
  supervisionState : SupervisionState := .quiet
  attentionState : AttentionState := .none
  attentionReason : AttentionReason := .none
  lastOutputAtUnixMs : Option ℤ := none
  lastActivityAtUnixMs : Option ℤ := none
  attentionSinceUnixMs : Option ℤ := none
  ptyColumns : Option UInt16 := none
  ptyRows : Option UInt16 := none
  currentSequence : ℕ := 0
  recentFileChangeCount : ℕ := 0
  gitDirty : Bool := false
  gitBranch : String := ""
  deriving DecidableEq

/-- Source: `session_manager.h` `SessionSummary`, as far as the socket reads it. -/
structure SessionSummary where
  id : String
  status : SessionStatus
  groupTags : List String := []
  controllerClientId : Option String := none
  controllerKind : ControllerKind := .none
  activity : SessionActivity := {}
  deriving DecidableEq

/-- Source: `session_manager.cpp` `SessionManager::BuildSummary`; the activity, which clocks and
inspectors decide, is given. -/
def summaryOf (e : SessionEntry) (activity : SessionActivity) : SessionSummary where
  id := e.id
  status := e.status
  groupTags := (e.metadata?.map (·.groupTags)).getD []
  controllerClientId := e.controllerClientId
  controllerKind := e.controllerKind
  activity := activity

/-! ### Positions in the output -/

/-- Source: `websocket_shared.h` `StreamSequenceWindow`. -/
structure StreamSequenceWindow where
  deliveredNext : ℕ := 1
  reservedNext : ℕ := 1
  deriving DecidableEq

namespace StreamSequenceWindow

/-- Source: `websocket_shared.cpp` `StreamSequenceWindow::next_request_sequence`. -/
def nextRequestSequence (w : StreamSequenceWindow) : ℕ := w.reservedNext

/-- Source: `websocket_shared.cpp` `StreamSequenceWindow::ReserveThrough`. -/
def reserveThrough (w : StreamSequenceWindow) (nextSequence : ℕ) : StreamSequenceWindow :=
  { w with reservedNext := max w.reservedNext nextSequence }

/-- Source: `websocket_shared.cpp` `StreamSequenceWindow::MarkDelivered`. -/
def markDelivered (w : StreamSequenceWindow) (nextSequence : ℕ) : StreamSequenceWindow where
  deliveredNext := nextSequence
  reservedNext := max w.reservedNext nextSequence

end StreamSequenceWindow

/-! ### Frames -/

/-- What a frame carries; the text frames before they are written as JSON. -/
inductive FramePayload
  | sessionUpdated (summary : SessionSummary)
  | sessionActivity (summary : SessionSummary)
  | sessionExited (sessionId : String) (status : SessionStatus)
  | error (sessionId code message : String)
  | terminalOutput (sessionId : String) (slice : OutputSlice)
  /-- Terminal output as it is, on a raw stream. -/
  | binary (data : Bytes)
  deriving DecidableEq

/-- Source: `http_server.cpp` `WebSocketSession::PendingFrame`. -/
structure PendingFrame where
  payload : FramePayload
  nextSequence : ℕ := 1
  isText : Bool := true
  deriving DecidableEq

/-- The terminal output a frame carries. -/
def FramePayload.output : FramePayload → Bytes
  | .terminalOutput _ slice => slice.data
  | .binary data => data
  | _ => []

/-- The notice that the session has ended. -/
def FramePayload.isExited : FramePayload → Bool
  | .sessionExited _ _ => true
  | _ => false

/-- The terminal output of some frames, concatenated. -/
def outputOf (frames : List PendingFrame) : Bytes :=
  frames.flatMap (·.payload.output)

/-- No frames, no output. -/
@[simp] theorem outputOf_nil : outputOf [] = [] := rfl

/-- The output of two lists of frames, one after the other. -/
@[simp] theorem outputOf_append (xs ys : List PendingFrame) :
    outputOf (xs ++ ys) = outputOf xs ++ outputOf ys := by
  simp [outputOf]

/-- What the loop of a client that stops at the exit notice writes to its terminal.
Source: `daemon_client.cpp` `ObserveSession`, `HandleServerMessage`. -/
def clientReads : List PendingFrame → Bytes
  | [] => []
  | frame :: frames =>
      if frame.payload.isExited then [] else frame.payload.output ++ clientReads frames

/-! ### The socket -/

/-- Source: `http_server.cpp` `WebSocketSession`. `written` keeps the frames the client has, in
order. -/
structure WebSocketSession where
  sessionId : String
  clientId : String := ""
  sequenceWindow : StreamSequenceWindow := {}
  pendingFrames : List PendingFrame := []
  written : List PendingFrame := []
  lastStatus : Option SessionStatus := none
  lastGroupTags : List String := []
  lastControllerClientId : Option String := none
  lastControllerKind : ControllerKind := .none
  /-- `last_activity_state_` and the fields that are set with it. -/
  lastActivity : Option SessionActivity := none
  claimedKind : ControllerKind := .none
  initialEventsSent : Bool := false
  exitEventSent : Bool := false
  writeInProgress : Bool := false
  rawOutputMode : Bool := false
  deriving DecidableEq

namespace WebSocketSession

/-- Every frame queued so far. -/
def queued (s : WebSocketSession) : List PendingFrame := s.written ++ s.pendingFrames

/-- Source: `http_server.cpp` `WebSocketSession::DoWrite`, up to the start of the write. -/
def doWrite (s : WebSocketSession) : WebSocketSession :=
  { s with writeInProgress := !s.pendingFrames.isEmpty }

/-- Source: `http_server.cpp` `WebSocketSession::QueueFrame`. -/
def queueFrame (s : WebSocketSession) (payload : FramePayload) (nextSequence : ℕ)
    (isText : Bool := true) : WebSocketSession :=
  let s := { s with
    sequenceWindow := s.sequenceWindow.reserveThrough nextSequence
    pendingFrames := s.pendingFrames ++ [{ payload := payload, nextSequence := nextSequence
                                           isText := isText }] }
  if s.writeInProgress then s else s.doWrite

/-- The completion of a write: `none` when no write is under way.
Source: `http_server.cpp` `WebSocketSession::DoWrite`. -/
def completeWrite (s : WebSocketSession) : Option WebSocketSession :=
  match s.writeInProgress, s.pendingFrames with
  | true, frame :: frames =>
      some ({ s with
        sequenceWindow := s.sequenceWindow.markDelivered frame.nextSequence
        pendingFrames := frames
        written := s.written ++ [frame] } : WebSocketSession).doWrite
  | _, _ => none

/-- Source: `http_server.cpp` `WebSocketSession::QueueOutputFrame`. -/
def queueOutputFrame (s : WebSocketSession) (slice : OutputSlice) (nextSequence : ℕ) :
    WebSocketSession :=
  if s.rawOutputMode then
    if slice.data.isEmpty then s else s.queueFrame (.binary slice.data) nextSequence false
  else s.queueFrame (.terminalOutput s.sessionId slice) nextSequence

/-- What `QueueStatusEvents` compares with what it has told the client. -/
def statusChanged (s : WebSocketSession) (summary : SessionSummary) : Bool :=
  s.lastStatus != some summary.status || s.lastGroupTags != summary.groupTags ||
    s.lastControllerClientId != summary.controllerClientId ||
    s.lastControllerKind != summary.controllerKind

/-- The first block of `QueueStatusEvents`. -/
def queueUpdated (s : WebSocketSession) (summary : SessionSummary) : WebSocketSession :=
  if s.statusChanged summary then
    ({ s with
      lastStatus := some summary.status
      lastGroupTags := summary.groupTags
      lastControllerClientId := summary.controllerClientId
      lastControllerKind := summary.controllerKind } : WebSocketSession).queueFrame
        (.sessionUpdated summary) s.sequenceWindow.nextRequestSequence
  else s

/-- The second block: the activity goes with the update when there is one. -/
def queueActivity (s : WebSocketSession) (summary : SessionSummary) (statusChanged : Bool) :
    WebSocketSession :=
  if s.lastActivity != some summary.activity then
    let s := { s with lastActivity := some summary.activity }
    if statusChanged then s
    else s.queueFrame (.sessionActivity summary) s.sequenceWindow.nextRequestSequence
  else s

/-- The third block. -/
def queueExited (s : WebSocketSession) (summary : SessionSummary) : WebSocketSession :=
  if !s.exitEventSent && summary.status.isTerminal then
    ({ s with exitEventSent := true } : WebSocketSession).queueFrame
      (.sessionExited summary.id summary.status) s.sequenceWindow.nextRequestSequence
  else s

/-- Source: `http_server.cpp` `WebSocketSession::QueueStatusEvents`, given what `GetSession`
returns. -/
def queueStatusEvents (s : WebSocketSession) (summary : Option SessionSummary) :
    WebSocketSession :=
  match summary with
  | none => s
  | some summary =>
      let statusChanged := s.statusChanged summary
      ((s.queueUpdated summary).queueActivity summary statusChanged).queueExited summary

/-- Source: `http_server.cpp` `WebSocketSession::QueueInitialEvents`, given what `GetSession` and
`GetTail` return. -/
def queueInitialEvents (s : WebSocketSession) (summary : Option SessionSummary)
    (tail : Option OutputSlice) : WebSocketSession :=
  if s.initialEventsSent then s
  else
    let s := ({ s with initialEventsSent := true } : WebSocketSession).queueStatusEvents summary
    let initialSlice := tail.getD {}
    let nextSequence :=
      if initialSlice.seqEnd > 0 then initialSlice.seqEnd + 1 else s.sequenceWindow.deliveredNext
    s.queueOutputFrame initialSlice nextSequence

/-- Source: `http_server.cpp` `WebSocketSession::SendPendingOutput`, given what `GetSession` returns
and what `GetOutputSince` returns for the reserved position. -/
def sendPendingOutput (s : WebSocketSession) (summary : Option SessionSummary)
    (outputSince : ℕ → Option OutputSlice) : WebSocketSession :=
  if s.sessionId.isEmpty then s
  else
    let s := s.queueStatusEvents summary
    match outputSince s.sequenceWindow.nextRequestSequence with
    | none => s
    | some output => if output.data.isEmpty then s else s.queueOutputFrame output (output.seqEnd + 1)

/-- A frame that tells the client what went wrong. -/
def queueError (s : WebSocketSession) (code message : String) : WebSocketSession :=
  s.queueFrame (.error s.sessionId code message) s.sequenceWindow.nextRequestSequence

/-- Source: `http_server.cpp` `WebSocketSession::HandleClientBinary`, given whether the client has
control and whether the input was taken. -/
def handleClientBinary (s : WebSocketSession) (hasControl inputSent : Bool) : WebSocketSession :=
  if !s.rawOutputMode then
    s.queueError "invalid_command" "binary websocket frames are not supported for this session"
  else if !hasControl then
    s.queueError "command_rejected" "command rejected for current session state"
  else if !inputSent then
    s.queueError "command_rejected" "command rejected for current session state"
  else s

/-- Source: `request_parsing.h` `WebSocketCommand`; the data of an input is left out. -/
inductive WebSocketCommand
  | input
  | resize (size : TerminalSize)
  | stop
  | requestControl (controllerKind : ControllerKind)
  | releaseControl
  deriving DecidableEq

/-- The kind the client claims after a command. -/
def claimed (s : WebSocketSession) : Option WebSocketCommand → WebSocketSession
  | some (.requestControl controllerKind) => { s with claimedKind := controllerKind }
  | some .releaseControl => { s with claimedKind := .none }
  | _ => s

/-- Source: `http_server.cpp` `WebSocketSession::HandleClientCommand`, given whether the manager
handled the command and what `GetSession` returns afterwards. -/
def handleClientCommand (s : WebSocketSession) (command : Option WebSocketCommand) (handled : Bool)
    (summary : Option SessionSummary) : WebSocketSession :=
  match command with
  | none => s.queueError "invalid_command" "invalid websocket command"
  | some command =>
      if handled then (s.claimed (some command)).queueStatusEvents summary
      else s.queueError "command_rejected" "command rejected for current session state"

/-- The socket of a client whose handshake was accepted. -/
def accepted (sessionId clientId : String) (rawOutputMode : Bool) : WebSocketSession where
  sessionId := sessionId
  clientId := clientId
  rawOutputMode := rawOutputMode

/-! ### What queueing does -/

/-- **The positions in the queue ascend** from the delivered to the reserved one. -/
structure Ordered (s : WebSocketSession) : Prop where
  delivered_le : s.sequenceWindow.deliveredNext ≤ s.sequenceWindow.reservedNext
  between : ∀ frame ∈ s.pendingFrames, s.sequenceWindow.deliveredNext ≤ frame.nextSequence ∧
    frame.nextSequence ≤ s.sequenceWindow.reservedNext
  ascending : s.pendingFrames.Pairwise (·.nextSequence ≤ ·.nextSequence)

/-- A member function queued some frames behind the others. -/
structure Queues (s s' : WebSocketSession) (frames : List PendingFrame) : Prop where
  queued : s'.queued = s.queued ++ frames
  sessionId : s'.sessionId = s.sessionId
  rawOutputMode : s'.rawOutputMode = s.rawOutputMode
  delivered : s'.sequenceWindow.deliveredNext = s.sequenceWindow.deliveredNext
  reserved : s.sequenceWindow.reservedNext ≤ s'.sequenceWindow.reservedNext
  ordered : s.Ordered → s'.Ordered

/-- The frames carry no output and the reserved position stays. -/
structure Quiet (s s' : WebSocketSession) (frames : List PendingFrame) : Prop
    extends Queues s s' frames where
  silent : outputOf frames = []
  reserved_eq : s'.sequenceWindow.reservedNext = s.sequenceWindow.reservedNext

/-- What two steps queue, one behind the other. -/
theorem Queues.trans {s s' s'' : WebSocketSession} {frames frames' : List PendingFrame}
    (h : Queues s s' frames) (h' : Queues s' s'' frames') : Queues s s'' (frames ++ frames') where
  queued := by rw [h'.queued, h.queued, List.append_assoc]
  sessionId := h'.sessionId.trans h.sessionId
  rawOutputMode := h'.rawOutputMode.trans h.rawOutputMode
  delivered := h'.delivered.trans h.delivered
  reserved := h.reserved.trans h'.reserved
  ordered := fun ho => h'.ordered (h.ordered ho)

/-- What two quiet steps queue, one behind the other. -/
theorem Quiet.trans {s s' s'' : WebSocketSession} {frames frames' : List PendingFrame}
    (h : Quiet s s' frames) (h' : Quiet s' s'' frames') : Quiet s s'' (frames ++ frames') where
  toQueues := h.toQueues.trans h'.toQueues
  silent := by rw [outputOf_append, h.silent, h'.silent, List.append_nil]
  reserved_eq := h'.reserved_eq.trans h.reserved_eq

/-- What the socket remembers of the session is not part of the queue. -/
theorem quiet_of_eq {s s' : WebSocketSession} (hpending : s'.pendingFrames = s.pendingFrames)
    (hwritten : s'.written = s.written) (hwindow : s'.sequenceWindow = s.sequenceWindow)
    (hid : s'.sessionId = s.sessionId) (hraw : s'.rawOutputMode = s.rawOutputMode) :
    Quiet s s' [] where
  queued := by rw [queued, queued, hpending, hwritten, List.append_nil]
  sessionId := hid
  rawOutputMode := hraw
  delivered := by rw [hwindow]
  reserved := by rw [hwindow]
  ordered := fun h =>
    ⟨hwindow ▸ h.delivered_le, hwindow ▸ hpending ▸ h.between, hpending ▸ h.ascending⟩
  silent := rfl
  reserved_eq := by rw [hwindow]

/-- Nothing is queued where nothing is done. -/
theorem Quiet.refl (s : WebSocketSession) : Quiet s s [] := quiet_of_eq rfl rfl rfl rfl rfl

/-- **Queueing a frame** at a position at or behind the reserved one. -/
theorem queueFrame_queues (s : WebSocketSession) (payload : FramePayload) {nextSequence : ℕ}
    (hnext : s.sequenceWindow.reservedNext ≤ nextSequence) (isText : Bool) :
    Queues s (s.queueFrame payload nextSequence isText)
        [{ payload := payload, nextSequence := nextSequence, isText := isText }] ∧
      (s.queueFrame payload nextSequence isText).sequenceWindow.reservedNext = nextSequence ∧
      (s.queueFrame payload nextSequence isText).exitEventSent = s.exitEventSent := by
  have hordered : ∀ inProgress, s.Ordered →
      ({ s with
        sequenceWindow := s.sequenceWindow.reserveThrough nextSequence
        pendingFrames := s.pendingFrames ++ [{ payload := payload, nextSequence := nextSequence
                                               isText := isText }]
        writeInProgress := inProgress } : WebSocketSession).Ordered := by
    intro inProgress h
    have hmax : max s.sequenceWindow.reservedNext nextSequence = nextSequence := max_eq_right hnext
    refine ⟨?_, ?_, ?_⟩
    · exact h.delivered_le.trans (le_max_left _ _)
    · intro frame hmem
      show s.sequenceWindow.deliveredNext ≤ frame.nextSequence ∧
        frame.nextSequence ≤ max s.sequenceWindow.reservedNext nextSequence
      have hle := h.delivered_le
      rcases List.mem_append.mp hmem with hold | hnew
      · have hbetween := h.between frame hold
        omega
      · obtain rfl := List.mem_singleton.mp hnew
        dsimp only
        omega
    · refine List.pairwise_append.mpr ⟨h.ascending, List.pairwise_singleton _ _, ?_⟩
      intro frame hold frame' hnew
      obtain rfl := List.mem_singleton.mp hnew
      exact (h.between frame hold).2.trans hnext
  unfold queueFrame
  dsimp only
  split_ifs with hbusy
  · refine ⟨⟨?_, rfl, rfl, rfl, le_max_left _ _, ?_⟩, max_eq_right hnext, rfl⟩
    · exact (List.append_assoc _ _ _).symm
    · exact hordered s.writeInProgress
  · refine ⟨⟨?_, rfl, rfl, rfl, le_max_left _ _, ?_⟩, max_eq_right hnext, rfl⟩
    · exact (List.append_assoc _ _ _).symm
    · exact hordered _

/-- Some frames have the exit notice among them. -/
def hasExited (frames : List PendingFrame) : Bool := frames.any (·.payload.isExited)

/-- The session is over. -/
def isOver (summary : Option SessionSummary) : Bool := summary.any (·.status.isTerminal)

/-- `QueueStatusEvents` would queue the exit notice. -/
def announcesExit (s : WebSocketSession) (summary : Option SessionSummary) : Bool :=
  !s.exitEventSent && isOver summary

/-- A frame without output, queued at the reserved position. -/
theorem queueFrame_quiet {s s' : WebSocketSession} (payload : FramePayload) (h : Quiet s s' [])
    (hsilent : payload.output = []) {nextSequence : ℕ}
    (hnext : nextSequence = s'.sequenceWindow.reservedNext) :
    ∃ frames, Quiet s (s'.queueFrame payload nextSequence) frames ∧
      hasExited frames = payload.isExited ∧
      (s'.queueFrame payload nextSequence).exitEventSent = s'.exitEventSent := by
  obtain ⟨hqueues, hreserved, hsent⟩ := s'.queueFrame_queues payload hnext.ge true
  have hquiet : Quiet s' (s'.queueFrame payload nextSequence)
      [{ payload := payload, nextSequence := nextSequence }] :=
    ⟨hqueues, by simp [outputOf, hsilent], hreserved.trans hnext⟩
  exact ⟨_, h.trans hquiet, Bool.or_false _, hsent⟩

/-- An update is queued, and no end announced. -/
theorem queueUpdated_spec (s : WebSocketSession) (summary : SessionSummary) :
    ∃ frames, Quiet s (s.queueUpdated summary) frames ∧ hasExited frames = false ∧
      (s.queueUpdated summary).exitEventSent = s.exitEventSent := by
  unfold queueUpdated
  split_ifs
  · refine queueFrame_quiet (.sessionUpdated summary) ?_ rfl rfl
    exact quiet_of_eq rfl rfl rfl rfl rfl
  · exact ⟨[], .refl s, rfl, rfl⟩

/-- News of activity is queued, and no end announced. -/
theorem queueActivity_spec (s : WebSocketSession) (summary : SessionSummary)
    (statusChanged : Bool) :
    ∃ frames, Quiet s (s.queueActivity summary statusChanged) frames ∧ hasExited frames = false ∧
      (s.queueActivity summary statusChanged).exitEventSent = s.exitEventSent := by
  unfold queueActivity
  dsimp only
  split_ifs
  · exact ⟨[], quiet_of_eq rfl rfl rfl rfl rfl, rfl, rfl⟩
  · refine queueFrame_quiet (.sessionActivity summary) ?_ rfl rfl
    exact quiet_of_eq rfl rfl rfl rfl rfl
  · exact ⟨[], .refl s, rfl, rfl⟩

/-- The end is announced once. -/
theorem queueExited_spec (s : WebSocketSession) (summary : SessionSummary) :
    ∃ frames, Quiet s (s.queueExited summary) frames ∧
      hasExited frames = s.announcesExit (some summary) ∧
      (s.queueExited summary).exitEventSent = (s.exitEventSent || isOver (some summary)) := by
  have hany : isOver (some summary) = summary.status.isTerminal := rfl
  unfold queueExited announcesExit
  rw [hany]
  split_ifs with hover
  · rw [Bool.and_eq_true] at hover
    rw [hover.1, hover.2, Bool.or_true]
    refine queueFrame_quiet (.sessionExited summary.id summary.status) ?_ rfl rfl
    exact quiet_of_eq rfl rfl rfl rfl rfl
  · have hno := Bool.eq_false_iff.mpr hover
    refine ⟨[], .refl s, hno.symm, ?_⟩
    revert hno
    cases s.exitEventSent <;> cases summary.status.isTerminal <;> simp

/-- **Status events** carry no output, leave the reserved position, and have the exit notice among
them exactly when the session is over and the client has not been told. -/
theorem queueStatusEvents_spec (s : WebSocketSession) (summary : Option SessionSummary) :
    ∃ frames, Quiet s (s.queueStatusEvents summary) frames ∧
      hasExited frames = s.announcesExit summary ∧
      (s.queueStatusEvents summary).exitEventSent = (s.exitEventSent || isOver summary) := by
  cases summary with
  | none => exact ⟨[], .refl s, (Bool.and_false _).symm, (Bool.or_false _).symm⟩
  | some summary =>
      obtain ⟨updated, hupdated, hno, hsame⟩ := queueUpdated_spec s summary
      obtain ⟨activity, hactivity, hno', hsame'⟩ :=
        queueActivity_spec (s.queueUpdated summary) summary (s.statusChanged summary)
      obtain ⟨exited, hexited, hyes, hsent⟩ := queueExited_spec
        ((s.queueUpdated summary).queueActivity summary (s.statusChanged summary)) summary
      refine ⟨_, (hupdated.trans hactivity).trans hexited, ?_, ?_⟩
      · rw [announcesExit, hsame', hsame] at hyes
        rw [hasExited, List.any_append, List.any_append, ← hasExited, ← hasExited, ← hasExited, hno,
          hno', hyes]
        rfl
      · rw [queueStatusEvents, hsent, hsame', hsame]

/-- **An output frame** carries the slice and moves the reserved position to its end; on a raw
stream nothing is queued for an empty slice. -/
theorem queueOutputFrame_spec (s : WebSocketSession) (slice : OutputSlice) (nextSequence : ℕ)
    (hnext : s.sequenceWindow.reservedNext ≤ nextSequence) :
    ∃ frames, Queues s (s.queueOutputFrame slice nextSequence) frames ∧
      outputOf frames = slice.data ∧ hasExited frames = false ∧
      (s.queueOutputFrame slice nextSequence).exitEventSent = s.exitEventSent ∧
      ((s.queueOutputFrame slice nextSequence).sequenceWindow.reservedNext = nextSequence ∨
        slice.data = [] ∧ s.queueOutputFrame slice nextSequence = s) := by
  unfold queueOutputFrame
  split_ifs with hraw hempty
  · have hdata : slice.data = [] := List.isEmpty_iff.mp hempty
    exact ⟨[], (Quiet.refl s).toQueues, hdata.symm, rfl, rfl, Or.inr ⟨hdata, rfl⟩⟩
  · obtain ⟨hqueues, hreserved, hsent⟩ := s.queueFrame_queues (.binary slice.data) hnext false
    exact ⟨_, hqueues, List.append_nil _, rfl, hsent, Or.inl hreserved⟩
  · obtain ⟨hqueues, hreserved, hsent⟩ :=
      s.queueFrame_queues (.terminalOutput s.sessionId slice) hnext true
    exact ⟨_, hqueues, List.append_nil _, rfl, hsent, Or.inl hreserved⟩

/-- **Completing a write** hands the first frame to the client. -/
theorem completeWrite_spec {s s' : WebSocketSession} (h : s.Ordered)
    (hcomplete : s.completeWrite = some s') :
    s'.Ordered ∧ s'.queued = s.queued ∧ s'.sessionId = s.sessionId ∧
      s'.rawOutputMode = s.rawOutputMode ∧ s'.exitEventSent = s.exitEventSent ∧
      s'.sequenceWindow.reservedNext = s.sequenceWindow.reservedNext ∧
      s.sequenceWindow.deliveredNext ≤ s'.sequenceWindow.deliveredNext := by
  unfold completeWrite at hcomplete
  split at hcomplete
  next frame frames _ hpending =>
    obtain rfl := Option.some.inj hcomplete
    have hfirst := h.between frame (hpending ▸ List.mem_cons_self)
    have hmax : max s.sequenceWindow.reservedNext frame.nextSequence =
        s.sequenceWindow.reservedNext := max_eq_left hfirst.2
    have hascending := h.ascending
    rw [hpending, List.pairwise_cons] at hascending
    refine ⟨⟨?_, ?_, hascending.2⟩, ?_, rfl, rfl, rfl, hmax, hfirst.1⟩
    · exact le_max_right _ _
    · intro frame' hmem
      have hbetween := h.between frame' (hpending ▸ List.mem_cons_of_mem frame hmem)
      exact ⟨hascending.1 frame' hmem, hbetween.2.trans (le_max_left _ _)⟩
    · show s.written ++ [frame] ++ frames = s.written ++ s.pendingFrames
      rw [hpending, List.append_assoc, List.singleton_append]
  next => exact absurd hcomplete (by simp)

/-- An error frame. -/
theorem queueError_spec (s : WebSocketSession) (code message : String) :
    ∃ frames, Quiet s (s.queueError code message) frames ∧ hasExited frames = false ∧
      (s.queueError code message).exitEventSent = s.exitEventSent :=
  queueFrame_quiet (.error s.sessionId code message) (.refl s) rfl rfl

/-- **Input** on a raw stream is answered by an error at most. -/
theorem handleClientBinary_spec (s : WebSocketSession) (hasControl inputSent : Bool) :
    ∃ frames, Quiet s (s.handleClientBinary hasControl inputSent) frames ∧
      hasExited frames = false ∧
      (s.handleClientBinary hasControl inputSent).exitEventSent = s.exitEventSent := by
  unfold handleClientBinary
  split_ifs
  · exact queueError_spec s _ _
  · exact queueError_spec s _ _
  · exact queueError_spec s _ _
  · exact ⟨[], .refl s, rfl, rfl⟩

/-- A command that the manager handled is answered by status events. -/
def answeredByStatus (command : Option WebSocketCommand) (handled : Bool) : Bool :=
  command.isSome && handled

/-- **A command** is answered by status events or by an error. -/
theorem handleClientCommand_spec (s : WebSocketSession) (command : Option WebSocketCommand)
    (handled : Bool) (summary : Option SessionSummary) :
    ∃ frames, Quiet s (s.handleClientCommand command handled summary) frames ∧
      hasExited frames = (answeredByStatus command handled && s.announcesExit summary) ∧
      (s.handleClientCommand command handled summary).exitEventSent =
        (s.exitEventSent || (answeredByStatus command handled && isOver summary)) := by
  unfold handleClientCommand
  cases command with
  | none =>
      obtain ⟨frames, hquiet, hno, hsame⟩ :=
        queueError_spec s "invalid_command" "invalid websocket command"
      exact ⟨frames, hquiet, hno, hsame.trans (Bool.or_false _).symm⟩
  | some command =>
      cases handled with
      | false =>
          obtain ⟨frames, hquiet, hno, hsame⟩ :=
            queueError_spec s "command_rejected" "command rejected for current session state"
          exact ⟨frames, hquiet, hno, hsame.trans (Bool.or_false _).symm⟩
      | true =>
          have hclaimed : Quiet s (s.claimed (some command)) [] ∧
              (s.claimed (some command)).exitEventSent = s.exitEventSent := by
            cases command <;> exact ⟨quiet_of_eq rfl rfl rfl rfl rfl, rfl⟩
          obtain ⟨frames, hquiet, hyes, hsent⟩ :=
            queueStatusEvents_spec (s.claimed (some command)) summary
          refine ⟨frames, hclaimed.1.trans hquiet, ?_, ?_⟩
          · rw [hyes, announcesExit, hclaimed.2]
            rfl
          · rw [hclaimed.2] at hsent
            exact hsent

/-- The data of a slice, if there is one. -/
def sliceData (slice : Option OutputSlice) : Bytes := (slice.map (·.data)).getD []

/-- **Sending pending output** queues the status events and, behind them, what the manager returns
for the reserved position. -/
theorem sendPendingOutput_spec {s : WebSocketSession} (hid : s.sessionId.isEmpty = false)
    (summary : Option SessionSummary) (outputSince : ℕ → Option OutputSlice)
    (hnext : ∀ output, outputSince s.sequenceWindow.reservedNext = some output → output.data ≠ [] →
      s.sequenceWindow.reservedNext ≤ output.seqEnd + 1) :
    ∃ status frames, Queues s (s.sendPendingOutput summary outputSince) (status ++ frames) ∧
      outputOf status = [] ∧ hasExited status = s.announcesExit summary ∧
      outputOf frames = sliceData (outputSince s.sequenceWindow.reservedNext) ∧
      hasExited frames = false ∧
      (s.sendPendingOutput summary outputSince).exitEventSent =
        (s.exitEventSent || isOver summary) ∧
      (outputOf frames = [] ∧
          (s.sendPendingOutput summary outputSince).sequenceWindow.reservedNext =
            s.sequenceWindow.reservedNext ∨
        ∃ output, outputSince s.sequenceWindow.reservedNext = some output ∧ output.data ≠ [] ∧
          (s.sendPendingOutput summary outputSince).sequenceWindow.reservedNext =
            output.seqEnd + 1) := by
  obtain ⟨status, hstatus, hexited, hsent⟩ := queueStatusEvents_spec s summary
  have hreserved : (s.queueStatusEvents summary).sequenceWindow.nextRequestSequence =
      s.sequenceWindow.reservedNext := hstatus.reserved_eq
  have hnothing : ∃ frames, Queues s (s.queueStatusEvents summary) (status ++ frames) ∧
      outputOf frames = [] ∧ hasExited frames = false :=
    ⟨[], (List.append_nil status).symm ▸ hstatus.toQueues, rfl, rfl⟩
  unfold sendPendingOutput
  rw [if_neg (by simp [hid])]
  simp only [hreserved]
  rcases hout : outputSince s.sequenceWindow.reservedNext with _ | output
  · obtain ⟨frames, hqueues, hsilent, hno⟩ := hnothing
    exact ⟨status, frames, hqueues, hstatus.silent, hexited, hsilent, hno, hsent,
      Or.inl ⟨hsilent, hreserved⟩⟩
  · dsimp only
    split_ifs with hempty
    · have hdata : output.data = [] := List.isEmpty_iff.mp hempty
      obtain ⟨frames, hqueues, hsilent, hno⟩ := hnothing
      exact ⟨status, frames, hqueues, hstatus.silent, hexited, hsilent.trans hdata.symm, hno, hsent,
        Or.inl ⟨hsilent, hreserved⟩⟩
    · have hdata : output.data ≠ [] := fun h => hempty (List.isEmpty_iff.mpr h)
      obtain ⟨frames, hqueues, houtput, hno, hsame, hmoved⟩ :=
        queueOutputFrame_spec (s.queueStatusEvents summary) output (output.seqEnd + 1)
          (hreserved.trans_le (hnext output hout hdata))
      refine ⟨status, frames, hstatus.toQueues.trans hqueues, hstatus.silent, hexited, houtput, hno,
        hsame.trans hsent, Or.inr ⟨output, rfl, hdata, ?_⟩⟩
      rcases hmoved with hmoved | ⟨hnone, -⟩
      · exact hmoved
      · exact absurd hnone hdata

/-- **The initial events** are the status events and, behind them, the tail. -/
theorem queueInitialEvents_spec {s : WebSocketSession} (hfirst : s.initialEventsSent = false)
    (hwindow : s.sequenceWindow = {}) (summary : Option SessionSummary)
    (tail : Option OutputSlice) :
    ∃ status frames, Queues s (s.queueInitialEvents summary tail) (status ++ frames) ∧
      outputOf status = [] ∧ hasExited status = s.announcesExit summary ∧
      outputOf frames = sliceData tail ∧ hasExited frames = false ∧
      (s.queueInitialEvents summary tail).exitEventSent = (s.exitEventSent || isOver summary) ∧
      ((s.queueInitialEvents summary tail).sequenceWindow.reservedNext =
          (if (tail.getD {}).seqEnd > 0 then (tail.getD {}).seqEnd + 1 else 1) ∨
        sliceData tail = [] ∧
          (s.queueInitialEvents summary tail).sequenceWindow.reservedNext = 1) := by
  obtain ⟨status, hstatus, hexited, hsent⟩ :=
    queueStatusEvents_spec { s with initialEventsSent := true } summary
  have hstart : Quiet s { s with initialEventsSent := true } [] := quiet_of_eq rfl rfl rfl rfl rfl
  have hone : (({ s with initialEventsSent := true } : WebSocketSession).queueStatusEvents
      summary).sequenceWindow.reservedNext = 1 := by
    rw [hstatus.reserved_eq]
    exact congrArg StreamSequenceWindow.reservedNext hwindow
  have hdelivered : (({ s with initialEventsSent := true } : WebSocketSession).queueStatusEvents
      summary).sequenceWindow.deliveredNext = 1 := by
    rw [hstatus.delivered]
    exact congrArg StreamSequenceWindow.deliveredNext hwindow
  have hdata : (tail.getD {}).data = sliceData tail := by cases tail <;> rfl
  obtain ⟨frames, hqueues, houtput, hno, hsame, hmoved⟩ := queueOutputFrame_spec
    (({ s with initialEventsSent := true } : WebSocketSession).queueStatusEvents summary)
    (tail.getD {})
    (if (tail.getD {}).seqEnd > 0 then (tail.getD {}).seqEnd + 1 else 1)
    (by rw [hone]; split_ifs <;> omega)
  unfold queueInitialEvents
  rw [if_neg (by simp [hfirst])]
  dsimp only
  rw [hdelivered]
  refine ⟨status, frames, (hstart.toQueues.trans hstatus.toQueues).trans hqueues, hstatus.silent,
    hexited, houtput.trans hdata, hno, hsame.trans hsent, ?_⟩
  rcases hmoved with hmoved | ⟨hnone, hsame⟩
  · exact Or.inl hmoved
  · exact Or.inr ⟨hdata.symm.trans hnone, by rw [hsame, hone]⟩

end WebSocketSession

end Sentrits.Net
