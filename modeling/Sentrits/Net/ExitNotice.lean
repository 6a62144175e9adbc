import Sentrits.Net.WebSocketSession
import Sentrits.Service.Lifecycle

/-!
# The exit notice of a watched session

One session of the manager and one socket that watches it. The session goes on by the manager's
operations; the socket connects at some point, is told to send pending output, hears from its client
and completes writes, in any order. A client that stops at the exit notice has everything only if
the notice is queued last.

* `findEntry_of_step`: the watched session is the one the manager has.
* `clientReads_queued_iff`: what a client misses is what is queued behind the notice.
* `Watched`, `watched_step`: the notice is in the queue exactly when it was marked as sent, and then
  the session is over.
* `exitLast_iff_drained`: **the notice comes last exactly when** nothing is left to send at any
  moment the notice is queued.

Sources: `src/net/http_server.cpp` (`WebSocketSession`), `src/cli/daemon_client.cpp`,
`src/service/session_manager.cpp`.
-/

namespace Sentrits.Net

open Found Found.Runs Session Service
open WebSocketSession (hasExited isOver announcesExit sliceData answeredByStatus)

/-! ### Commands of the client -/

/-- What the environment answers during a command. -/
structure CommandAnswers where
  inputSent : Bool := true
  ptyResized : Bool := true
  terminated : Bool := true
  deriving DecidableEq

/-- What the manager does for a command of the client.
Source: `http_server.cpp` `WebSocketSession::HandleClientCommand`. -/
def runCommand (e : SessionEntry) (clientId : String) (answers : CommandAnswers) :
    WebSocketSession.WebSocketCommand → EntryResult
  | .input => { entry := e, result := e.hasControl clientId && answers.inputSent }
  | .resize size =>
      if e.hasControl clientId then e.resize size answers.ptyResized
      else { entry := e, result := e.runtime.isSome && !clientId.isEmpty }
  | .stop =>
      if e.hasControl clientId then e.stop answers.terminated else { entry := e, result := false }
  | .requestControl kind => e.requestControl clientId kind
  | .releaseControl => e.releaseControl clientId

/-- A command is one of the manager's operations, or none. -/
theorem runCommand_after (e : SessionEntry) (clientId : String) (answers : CommandAnswers)
    (command : WebSocketSession.WebSocketCommand) :
    ∃ op, e.after op = some (runCommand e clientId answers command).entry := by
  have hnone : e.after .loadPersistedSessions = some e := rfl
  cases command with
  | input => exact ⟨_, hnone⟩
  | resize size =>
      unfold runCommand
      split_ifs
      · exact ⟨.resizeSession e.id size answers.ptyResized, congrArg some (if_pos rfl)⟩
      · exact ⟨_, hnone⟩
  | stop =>
      unfold runCommand
      split_ifs
      · exact ⟨.stopSession e.id answers.terminated, congrArg some (if_pos rfl)⟩
      · exact ⟨_, hnone⟩
  | requestControl kind =>
      exact ⟨.requestControl e.id clientId kind, congrArg some (if_pos rfl)⟩
  | releaseControl => exact ⟨.releaseControl e.id clientId, congrArg some (if_pos rfl)⟩

/-- No command changes what a reader can ask for. -/
theorem runCommand_sameOutput (e : SessionEntry) (clientId : String) (answers : CommandAnswers)
    (command : WebSocketSession.WebSocketCommand) :
    SessionEntry.SameOutput e (runCommand e clientId answers command).entry := by
  cases command with
  | input => exact .refl e
  | resize size =>
      unfold runCommand
      split_ifs
      · exact SessionEntry.resize_sameOutput e size _
      · exact .refl e
  | stop =>
      unfold runCommand
      split_ifs
      · exact SessionEntry.stop_sameOutput e _
      · exact .refl e
  | requestControl kind => exact SessionEntry.requestControl_sameOutput e clientId kind
  | releaseControl => exact SessionEntry.releaseControl_sameOutput e clientId

/-! ### A watched session -/

/-- A session, for as long as the manager has it, and a socket, once it is connected. -/
structure WatchedSession where
  sessionId : String
  entry : Option SessionEntry
  socket : Option WebSocketSession := none
  deriving DecidableEq

/-- What can happen next; the activity is what the summary shows of it. -/
inductive WatchEvent
  /-- An operation of the manager, polls included. -/
  | manager (op : Op)
  | connect (clientId : String) (rawOutputMode : Bool) (activity : SessionActivity)
  | sendPendingOutput (activity : SessionActivity)
  | clientBinary (inputSent : Bool)
  | clientCommand (command : Option WebSocketSession.WebSocketCommand) (answers : CommandAnswers)
      (activity : SessionActivity)
  | completeWrite

namespace WatchedSession

/-- The session of a manager, before anyone watches it. -/
def ofManager (m : SessionManager) (sessionId : String) : WatchedSession where
  sessionId := sessionId
  entry := m.findEntry sessionId

/-- What `GetSession` returns. -/
def summary (w : WatchedSession) (activity : SessionActivity) : Option SessionSummary :=
  w.entry.map (summaryOf · activity)

/-- What `GetTail` returns for the initial tail. -/
def tail (w : WatchedSession) : Option OutputSlice := w.entry.bind (·.tail (64 * 1024))

/-- What `GetOutputSince` returns. -/
def outputSince (w : WatchedSession) (seq : ℕ) : Option OutputSlice :=
  w.entry.bind (·.outputSince seq)

/-- What the manager does for a command, and whether it handled it. -/
def handleCommand (w : WatchedSession) (clientId : String) (answers : CommandAnswers)
    (command : Option WebSocketSession.WebSocketCommand) : Option SessionEntry × Bool :=
  match command, w.entry with
  | some command, some e =>
      let result := runCommand e clientId answers command
      (some result.entry, result.result)
  | _, entry => (entry, false)

/-- One event. -/
def step (w : WatchedSession) : WatchEvent → Option WatchedSession
  | .manager op => some { w with entry := w.entry.bind (·.after op) }
  | .connect clientId rawOutputMode activity =>
      match w.socket with
      | some _ => none
      | none =>
          some { w with
            socket := some ((WebSocketSession.accepted w.sessionId clientId
              rawOutputMode).queueInitialEvents (w.summary activity) w.tail) }
  | .sendPendingOutput activity =>
      w.socket.map fun s =>
        { w with socket := some (s.sendPendingOutput (w.summary activity) w.outputSince) }
  | .clientBinary inputSent =>
      w.socket.map fun s =>
        { w with
          socket := some (s.handleClientBinary (w.entry.any (·.hasControl s.clientId)) inputSent) }
  | .clientCommand command answers activity =>
      w.socket.map fun s =>
        let handled := w.handleCommand s.clientId answers command
        { w with
          entry := handled.1
          socket := some (s.handleClientCommand command handled.2
            (handled.1.map (summaryOf · activity))) }
  | .completeWrite =>
      w.socket.bind fun s => s.completeWrite.map fun s => { w with socket := some s }

/-- What the manager still has for a socket: the output from the reserved position on. -/
def unsent (w : WatchedSession) (s : WebSocketSession) : Bytes :=
  sliceData (w.outputSince s.sequenceWindow.reservedNext)

/-- **The exit notice comes last**: a client that stops at it has read all output that was queued,
and the manager has nothing more for it. -/
def ExitLast (w : WatchedSession) : Prop :=
  ∀ s ∈ w.socket, s.exitEventSent = true →
    clientReads s.queued = outputOf s.queued ∧ w.unsent s = []

instance (w : WatchedSession) : Decidable w.ExitLast := by unfold ExitLast; infer_instance

/-- The session is there and over. -/
def ended (w : WatchedSession) : Bool := w.entry.any (·.status.isTerminal)

/-- The event queues the exit notice. -/
def announces (w : WatchedSession) : WatchEvent → Bool
  | .connect _ _ _ => w.ended
  | .sendPendingOutput _ => w.socket.any (!·.exitEventSent) && w.ended
  | .clientCommand command answers _ =>
      w.socket.any fun s => !s.exitEventSent && (w.handleCommand s.clientId answers command).2 &&
        (w.handleCommand s.clientId answers command).1.any (·.status.isTerminal)
  | _ => false

/-- What is left to send before the event: the initial tail, or the output from the reserved
position on. -/
def leftToSend (w : WatchedSession) : WatchEvent → Bytes
  | .connect _ _ _ => sliceData w.tail
  | _ => (w.socket.map w.unsent).getD []

/-- An event that queues the exit notice finds nothing left to send. -/
def ExitDrained (w : WatchedSession) (event : WatchEvent) : Prop :=
  w.announces event = true → w.leftToSend event = []

instance (w : WatchedSession) (event : WatchEvent) : Decidable (w.ExitDrained event) := by
  unfold ExitDrained
  infer_instance

/-- **The watched session is the manager's**: as long as the manager keeps it, a step of the manager
does to its entry what `after` says. -/
theorem findEntry_of_step {m m' : SessionManager} (h : m.Inv) {call : Call}
    (hstep : SessionManager.step m call = some m') {sessionId : String} {e e' : SessionEntry}
    (he : m.findEntry sessionId = some e) (hafter : e.after call.op = some e') :
    m'.findEntry sessionId = some e' := by
  have hmem : e ∈ m.sessions := List.mem_of_find?_eq_some he
  have hid : e.id = sessionId := by simpa using List.find?_some he
  have hmem' := SessionManager.mem_of_after h hstep hmem hafter
  have hid' := (SessionEntry.keeps_of_after (h.entries e hmem) hafter).id_eq
  rw [← hid, ← hid']
  exact SessionManager.findEntry_of_mem (SessionManager.inv_step m call m' h hstep).nodup hmem'

/-! ### What the client misses -/

/-- Behind the notice the client reads nothing. -/
theorem clientReads_append_of_exited {xs : List PendingFrame} (h : hasExited xs = true)
    (ys : List PendingFrame) : clientReads (xs ++ ys) = clientReads xs := by
  induction xs with
  | nil => exact absurd h (by decide)
  | cons frame xs ih =>
      rw [List.cons_append, clientReads, clientReads]
      split_ifs with hexited
      · rfl
      · rw [ih (by simpa [hasExited, hexited] using h)]

/-- Before the notice the client reads all. -/
theorem clientReads_append_of_not_exited {xs : List PendingFrame} (h : hasExited xs = false)
    (ys : List PendingFrame) : clientReads (xs ++ ys) = outputOf xs ++ clientReads ys := by
  induction xs with
  | nil => rfl
  | cons frame xs ih =>
      rw [hasExited, List.any_cons, Bool.or_eq_false_iff] at h
      rw [List.cons_append, clientReads, if_neg (by rw [h.1]; decide), ih h.2, ← List.append_assoc]
      rfl

/-- Frames without output give the client nothing, with or without the notice. -/
theorem clientReads_of_silent {xs : List PendingFrame} (h : outputOf xs = []) :
    clientReads xs = [] := by
  induction xs with
  | nil => rfl
  | cons frame xs ih =>
      rw [outputOf, List.flatMap_cons, List.append_eq_nil_iff] at h
      rw [clientReads]
      split_ifs
      · rfl
      · rw [h.1, List.nil_append]
        exact ih h.2

/-- **A client reads everything** once some frames were queued, the notice among what is in front of
the output, exactly when that output is empty. -/
theorem clientReads_queued_iff {past status frames : List PendingFrame}
    (hpast : hasExited past = true → clientReads past = outputOf past)
    (hsilent : outputOf status = []) (hexited : hasExited (past ++ status) = true) :
    clientReads (past ++ (status ++ frames)) = outputOf (past ++ (status ++ frames)) ↔
      outputOf frames = [] := by
  have hfront : clientReads (past ++ status) = outputOf past := by
    by_cases hnotice : hasExited past = true
    · rw [clientReads_append_of_exited hnotice, hpast hnotice]
    · rw [clientReads_append_of_not_exited (Bool.eq_false_iff.mpr hnotice),
        clientReads_of_silent hsilent, List.append_nil]
  rw [← List.append_assoc, clientReads_append_of_exited hexited, hfront, outputOf_append,
    outputOf_append, hsilent, List.append_nil, List.self_eq_append_right]

/-! ### The invariant -/

/-- **Invariant of a watched session.** -/
structure Watched (w : WatchedSession) : Prop where
  named : w.sessionId.isEmpty = false
  entry : ∀ e ∈ w.entry, e.Inv
  sessionId : ∀ s ∈ w.socket, s.sessionId = w.sessionId
  ordered : ∀ s ∈ w.socket, s.Ordered
  /-- The notice is in the queue exactly when it was marked as sent. -/
  exited : ∀ s ∈ w.socket, hasExited s.queued = s.exitEventSent
  /-- Then the session is over. -/
  ended : ∀ s ∈ w.socket, s.exitEventSent = true → ∀ e ∈ w.entry, e.status.isTerminal = true

/-- The slice for a position, when it carries data, ends at or behind the position. -/
theorem le_seqEnd {w : WatchedSession} (h : w.Watched) (seq : ℕ) {output : OutputSlice}
    (hslice : w.outputSince seq = some output) (hdata : output.data ≠ []) :
    seq ≤ output.seqEnd + 1 := by
  obtain ⟨e, he, hout⟩ := Option.bind_eq_some_iff.mp hslice
  unfold SessionEntry.outputSince at hout
  split at hout
  next r hr =>
    obtain rfl := Option.some.inj hout
    exact SessionOutputBuffer.le_sliceFromSequence_seqEnd ((h.entry e he).runtime r hr).buffer hdata
  next =>
    obtain ⟨snapshot, -, rfl⟩ := Option.map_eq_some_iff.mp hout
    unfold makeRecoveredOutputSlice at hdata ⊢
    split_ifs at hdata ⊢ with hnone
    · exact absurd rfl hdata
    · simp only [Bool.or_eq_true, not_or, decide_eq_true_eq] at hnone
      dsimp only
      omega

/-- Without an initial tail there is no output at all. -/
theorem entry_outputSince_of_tail {e : SessionEntry} (h : sliceData (e.tail (64 * 1024)) = [])
    (seq : ℕ) : sliceData (e.outputSince seq) = [] := by
  unfold SessionEntry.tail at h
  unfold SessionEntry.outputSince
  rcases hr : e.runtime with _ | r
  · rcases hs : e.recoveredSnapshot with _ | snapshot
    · rfl
    · rw [hr, hs] at h
      have hdata : (makeRecoveredTailSlice snapshot (64 * 1024)).data = [] := h
      rw [makeRecoveredTailSlice_data] at hdata
      have htail := lastBytes_eq_nil (by decide) hdata
      show (makeRecoveredOutputSlice snapshot seq).data = []
      simp [makeRecoveredOutputSlice, htail]
  · rw [hr] at h
    have hdata : (r.outputBuffer.tail (64 * 1024)).data = [] := h
    have hempty := SessionOutputBuffer.chunkData_of_tail_data (by decide) hdata
    show (r.outputBuffer.sliceFromSequence seq).data = []
    rw [SessionOutputBuffer.sliceFromSequence, SessionOutputBuffer.sliceOf_data]
    exact SessionOutputBuffer.chunkData_chunksFrom_of_nil hempty seq

/-- Where the tail is empty there is nothing new. -/
theorem outputSince_of_tail {w : WatchedSession} (h : sliceData w.tail = []) (seq : ℕ) :
    sliceData (w.outputSince seq) = [] := by
  unfold tail at h
  unfold outputSince
  rcases he : w.entry with _ | e
  · rfl
  · rw [he] at h
    exact entry_outputSince_of_tail h seq

/-- What a reader can ask for is the same after an operation on a session that is over. -/
theorem sliceData_after {e e' : SessionEntry} (h : SessionEntry.SameOutput e e') (seq : ℕ) :
    sliceData (e'.outputSince seq) = sliceData (e.outputSince seq) := by
  rw [sliceData, sliceData, h seq]

/-! ### One event -/

/-- The socket queued status events, the notice among them if it was not queued before, and behind
them some frames. -/
structure Told (s s' : WebSocketSession) (status frames : List PendingFrame) : Prop where
  queues : WebSocketSession.Queues s s' (status ++ frames)
  silent : outputOf status = []
  noticed : hasExited status = (!s.exitEventSent && s'.exitEventSent)
  kept : s.exitEventSent = true → s'.exitEventSent = true
  unnoticed : hasExited frames = false

/-- The notice is in one part or in the other. -/
theorem hasExited_append (xs ys : List PendingFrame) :
    hasExited (xs ++ ys) = (hasExited xs || hasExited ys) := List.any_append

/-- The notice is in the queue exactly when it was marked as sent. -/
theorem Told.exited {s s' : WebSocketSession} {status frames : List PendingFrame}
    (h : Told s s' status frames) (hexited : hasExited s.queued = s.exitEventSent) :
    hasExited (s.queued ++ status) = s'.exitEventSent ∧
      hasExited s'.queued = s'.exitEventSent := by
  have hboth : hasExited (s.queued ++ status) = s'.exitEventSent := by
    rw [hasExited_append, hexited, h.noticed]
    have hkept := h.kept
    revert hkept
    cases s.exitEventSent <;> cases s'.exitEventSent <;> simp
  refine ⟨hboth, ?_⟩
  rw [h.queues.queued, ← List.append_assoc, hasExited_append, hboth, h.unnoticed, Bool.or_false]

/-- **After an event of the socket** the notice comes last exactly when, if it is in the queue, the
frames behind it carry nothing and nothing is left. -/
theorem Told.exitLast_iff {s s' : WebSocketSession} {status frames : List PendingFrame}
    (h : Told s s' status frames) (hexited : hasExited s.queued = s.exitEventSent)
    (hpast : s.exitEventSent = true → clientReads s.queued = outputOf s.queued)
    {w : WatchedSession} (hs : w.socket = some s') :
    w.ExitLast ↔ (s'.exitEventSent = true → outputOf frames = [] ∧ w.unsent s' = []) := by
  have hreads : s'.exitEventSent = true →
      (clientReads s'.queued = outputOf s'.queued ↔ outputOf frames = []) := by
    intro hsent
    rw [h.queues.queued]
    exact clientReads_queued_iff (fun hnotice => hpast (hexited.symm.trans hnotice)) h.silent
      ((h.exited hexited).1.trans hsent)
  unfold ExitLast
  rw [hs]
  constructor
  · intro hall hsent
    obtain ⟨hread, hnone⟩ := hall s' rfl hsent
    exact ⟨(hreads hsent).mp hread, hnone⟩
  · intro hall s'' hs'' hsent
    obtain rfl := Option.some.inj hs''
    obtain ⟨hnothing, hnone⟩ := hall hsent
    exact ⟨(hreads hsent).mpr hnothing, hnone⟩

/-- What is queued of the status and then of the output. -/
theorem told_of_status {s s' : WebSocketSession} {status frames : List PendingFrame} (ended : Bool)
    (hqueues : WebSocketSession.Queues s s' (status ++ frames)) (hsilent : outputOf status = [])
    (hnoticed : hasExited status = (!s.exitEventSent && ended))
    (hsent : s'.exitEventSent = (s.exitEventSent || ended)) (hno : hasExited frames = false) :
    Told s s' status frames where
  queues := hqueues
  silent := hsilent
  noticed := by
    rw [hnoticed, hsent]
    cases s.exitEventSent <;> simp
  kept := by
    intro h
    rw [hsent, h]
    rfl
  unnoticed := hno

/-- Frames without output and without the notice. -/
theorem told_of_quiet {s s' : WebSocketSession} {frames : List PendingFrame}
    (hquiet : WebSocketSession.Quiet s s' frames) (hno : hasExited frames = false)
    (hsent : s'.exitEventSent = s.exitEventSent) : Told s s' frames [] :=
  told_of_status false ((List.append_nil frames).symm ▸ hquiet.toQueues) hquiet.silent
    (hno.trans (Bool.and_false _).symm) (hsent.trans (Bool.or_false _).symm) rfl

/-- The summary says it is over when the session is. -/
theorem isOver_summary (entry : Option SessionEntry) (activity : SessionActivity) :
    isOver (entry.map (summaryOf · activity)) = entry.any (·.status.isTerminal) := by
  cases entry <;> rfl

/-- **The socket connects**: the status events, then the initial tail. -/
theorem connect_told (w : WatchedSession) (clientId : String) (rawOutputMode : Bool)
    (activity : SessionActivity) :
    ∃ status frames, Told (.accepted w.sessionId clientId rawOutputMode)
        ((WebSocketSession.accepted w.sessionId clientId rawOutputMode).queueInitialEvents
          (w.summary activity) w.tail) status frames ∧
      outputOf frames = sliceData w.tail ∧
      ((WebSocketSession.accepted w.sessionId clientId rawOutputMode).queueInitialEvents
          (w.summary activity) w.tail).exitEventSent = w.ended := by
  obtain ⟨status, frames, hqueues, hsilent, hnoticed, houtput, hno, hsent, -⟩ :=
    WebSocketSession.queueInitialEvents_spec
      (s := .accepted w.sessionId clientId rawOutputMode) rfl rfl (w.summary activity) w.tail
  refine ⟨status, frames, told_of_status _ hqueues hsilent hnoticed hsent hno, houtput, ?_⟩
  rw [hsent, summary, isOver_summary]
  exact Bool.false_or _

/-- **Sending pending output**: the status events, then what the manager still has. -/
theorem sendPending_told {w : WatchedSession} (h : w.Watched) {s : WebSocketSession}
    (hs : w.socket = some s) (activity : SessionActivity) :
    ∃ status frames,
      Told s (s.sendPendingOutput (w.summary activity) w.outputSince) status frames ∧
      outputOf frames = w.unsent s ∧
      (s.sendPendingOutput (w.summary activity) w.outputSince).exitEventSent =
        (s.exitEventSent || w.ended) ∧
      (outputOf frames = [] →
        w.unsent (s.sendPendingOutput (w.summary activity) w.outputSince) = w.unsent s) := by
  have hid : s.sessionId.isEmpty = false := by
    rw [h.sessionId s hs]
    exact h.named
  obtain ⟨status, frames, hqueues, hsilent, hnoticed, houtput, hno, hsent, hreserved⟩ :=
    WebSocketSession.sendPendingOutput_spec hid (w.summary activity) w.outputSince
      fun output hslice hdata => le_seqEnd h _ hslice hdata
  refine ⟨status, frames, told_of_status _ hqueues hsilent hnoticed hsent hno, houtput, ?_, ?_⟩
  · rw [hsent, summary, isOver_summary]
    rfl
  · intro hnone
    rcases hreserved with ⟨-, hsame⟩ | ⟨output, hslice, hdata, -⟩
    · rw [unsent, hsame]
      rfl
    · rw [houtput, hslice] at hnone
      exact absurd hnone hdata

/-- What the manager does for a command keeps the session's invariant, what a reader can ask for,
and the end of a session that is over. -/
theorem handleCommand_spec {w : WatchedSession} (h : w.Watched) (clientId : String)
    (answers : CommandAnswers) (command : Option WebSocketSession.WebSocketCommand) :
    (∀ e ∈ (w.handleCommand clientId answers command).1, e.Inv) ∧
      (∀ seq, sliceData ((w.handleCommand clientId answers command).1.bind (·.outputSince seq)) =
        sliceData (w.outputSince seq)) ∧
      ((∀ e ∈ w.entry, e.status.isTerminal = true) →
        ∀ e ∈ (w.handleCommand clientId answers command).1, e.status.isTerminal = true) := by
  unfold handleCommand
  split
  next command e he =>
    obtain ⟨op, hafter⟩ := runCommand_after e clientId answers command
    have hkeeps := SessionEntry.keeps_of_after (h.entry e he) hafter
    refine ⟨?_, ?_, ?_⟩
    · intro e' he'
      obtain rfl := Option.some.inj he'
      exact hkeeps.inv
    · intro seq
      rw [outputSince, he]
      exact sliceData_after (runCommand_sameOutput e clientId answers command) seq
    · intro hover e' he'
      obtain rfl := Option.some.inj he'
      rw [hkeeps.status_of_isTerminal (hover e he)]
      exact hover e he
  next => exact ⟨h.entry, fun _ => rfl, fun hover => hover⟩

/-- **A command** of the client: status events or an error, and the session as the command leaves
it. -/
theorem clientCommand_told (w : WatchedSession) (s : WebSocketSession) (answers : CommandAnswers)
    (command : Option WebSocketSession.WebSocketCommand) (activity : SessionActivity) :
    ∃ status,
      Told s (s.handleClientCommand command (w.handleCommand s.clientId answers command).2
        ((w.handleCommand s.clientId answers command).1.map (summaryOf · activity))) status [] ∧
      (s.handleClientCommand command (w.handleCommand s.clientId answers command).2
          ((w.handleCommand s.clientId answers command).1.map
            (summaryOf · activity))).exitEventSent =
        (s.exitEventSent || ((w.handleCommand s.clientId answers command).2 &&
          (w.handleCommand s.clientId answers command).1.any (·.status.isTerminal))) ∧
      (s.handleClientCommand command (w.handleCommand s.clientId answers command).2
          ((w.handleCommand s.clientId answers command).1.map
            (summaryOf · activity))).sequenceWindow.reservedNext =
        s.sequenceWindow.reservedNext := by
  obtain ⟨status, hquiet, hnoticed, hsent⟩ := s.handleClientCommand_spec command
    (w.handleCommand s.clientId answers command).2
    ((w.handleCommand s.clientId answers command).1.map (summaryOf · activity))
  -- only a command that could be parsed is handled
  have hanswered : answeredByStatus command (w.handleCommand s.clientId answers command).2 =
      (w.handleCommand s.clientId answers command).2 := by
    cases command with
    | none => rfl
    | some command => exact Bool.true_and _
  rw [hanswered, announcesExit, isOver_summary] at hnoticed
  rw [hanswered, isOver_summary] at hsent
  refine ⟨status, told_of_status _ ((List.append_nil status).symm ▸ hquiet.toQueues) hquiet.silent
    ?_ hsent rfl, hsent, hquiet.reserved_eq⟩
  rw [hnoticed, Bool.and_left_comm]

/-- After an event of the socket the session is watched as before. -/
theorem watched_of_told {w : WatchedSession} (h : w.Watched) {s s' : WebSocketSession}
    {status frames : List PendingFrame} (htold : Told s s' status frames)
    (hid : s.sessionId = w.sessionId) (hordered : s.Ordered)
    (hexited : hasExited s.queued = s.exitEventSent) {entry : Option SessionEntry}
    (hinv : ∀ e ∈ entry, e.Inv)
    (hover : s'.exitEventSent = true → ∀ e ∈ entry, e.status.isTerminal = true) :
    Watched { w with entry := entry, socket := some s' } where
  named := h.named
  entry := hinv
  sessionId := by
    intro s'' hs''
    obtain rfl := Option.some.inj hs''
    exact htold.queues.sessionId.trans hid
  ordered := by
    intro s'' hs''
    obtain rfl := Option.some.inj hs''
    exact htold.queues.ordered hordered
  exited := by
    intro s'' hs''
    obtain rfl := Option.some.inj hs''
    exact (htold.exited hexited).2
  ended := by
    intro s'' hs''
    obtain rfl := Option.some.inj hs''
    exact hover

/-- The session that is found is over then. -/
theorem isTerminal_of_any {entry : Option SessionEntry}
    (h : entry.any (·.status.isTerminal) = true) : ∀ e ∈ entry, e.status.isTerminal = true := by
  intro e he
  obtain rfl : entry = some e := he
  exact h

/-- **Every event** keeps the invariant of a watched session. -/
theorem watched_step {w w' : WatchedSession} {event : WatchEvent} (h : w.Watched)
    (hstep : step w event = some w') : w'.Watched := by
  cases event with
  | manager op =>
      obtain rfl := Option.some.inj hstep
      have hkeeps : ∀ e' ∈ w.entry.bind (·.after op), ∃ e ∈ w.entry, e.Keeps e' := by
        intro e' he'
        obtain ⟨e, he, hafter⟩ := Option.bind_eq_some_iff.mp he'
        exact ⟨e, he, SessionEntry.keeps_of_after (h.entry e he) hafter⟩
      refine ⟨h.named, ?_, h.sessionId, h.ordered, h.exited, ?_⟩
      · intro e' he'
        obtain ⟨e, -, hkeep⟩ := hkeeps e' he'
        exact hkeep.inv
      · intro s hs hsent e' he'
        obtain ⟨e, he, hkeep⟩ := hkeeps e' he'
        have hover := h.ended s hs hsent e he
        rw [hkeep.status_of_isTerminal hover]
        exact hover
  | connect clientId rawOutputMode activity =>
      simp only [step] at hstep
      split at hstep
      next => exact absurd hstep (by simp)
      next =>
        obtain rfl := Option.some.inj hstep
        obtain ⟨status, frames, htold, -, hsent⟩ :=
          connect_told w clientId rawOutputMode activity
        refine watched_of_told h htold rfl
          ⟨le_refl _, fun _ hmem => absurd hmem List.not_mem_nil, List.Pairwise.nil⟩ rfl h.entry ?_
        intro hnotice
        exact isTerminal_of_any (hsent.symm.trans hnotice)
  | sendPendingOutput activity =>
      obtain ⟨s, hs, rfl⟩ := Option.map_eq_some_iff.mp hstep
      obtain ⟨status, frames, htold, -, hsent, -⟩ := sendPending_told h hs activity
      refine watched_of_told h htold (h.sessionId s hs) (h.ordered s hs) (h.exited s hs) h.entry ?_
      intro hnotice
      rcases Bool.or_eq_true_iff.mp (hsent.symm.trans hnotice) with hbefore | hnow
      · exact h.ended s hs hbefore
      · exact isTerminal_of_any hnow
  | clientBinary inputSent =>
      obtain ⟨s, hs, rfl⟩ := Option.map_eq_some_iff.mp hstep
      obtain ⟨frames, hquiet, hno, hsent⟩ := s.handleClientBinary_spec
        (w.entry.any (·.hasControl s.clientId)) inputSent
      refine watched_of_told h (told_of_quiet hquiet hno hsent) (h.sessionId s hs) (h.ordered s hs)
        (h.exited s hs) h.entry ?_
      intro hnotice
      exact h.ended s hs (hsent.symm.trans hnotice)
  | clientCommand command answers activity =>
      obtain ⟨s, hs, rfl⟩ := Option.map_eq_some_iff.mp hstep
      obtain ⟨status, htold, hsent, -⟩ := clientCommand_told w s answers command activity
      obtain ⟨hinv, -, hover⟩ := handleCommand_spec h s.clientId answers command
      refine watched_of_told h htold (h.sessionId s hs) (h.ordered s hs) (h.exited s hs) hinv ?_
      intro hnotice
      rcases Bool.or_eq_true_iff.mp (hsent.symm.trans hnotice) with hbefore | hnow
      · exact hover (h.ended s hs hbefore)
      · exact isTerminal_of_any (Bool.and_eq_true_iff.mp hnow).2
  | completeWrite =>
      obtain ⟨s, hs, hwrite⟩ := Option.bind_eq_some_iff.mp hstep
      obtain ⟨s', hcomplete, rfl⟩ := Option.map_eq_some_iff.mp hwrite
      obtain ⟨hordered, hqueued, hid, -, hsent, -, -⟩ :=
        WebSocketSession.completeWrite_spec (h.ordered s hs) hcomplete
      have hone : ∀ {P : WebSocketSession → Prop}, P s' → ∀ s'' ∈ some s', P s'' := by
        intro P hP s'' hs''
        exact Option.some.inj hs'' ▸ hP
      refine ⟨h.named, h.entry, hone (hid.trans (h.sessionId s hs)), hone hordered, hone ?_,
        hone ?_⟩
      · rw [hqueued, hsent]
        exact h.exited s hs
      · rw [hsent]
        exact h.ended s hs

/-- An event that queues no notice is drained. -/
theorem exitDrained_of_not_announces {w : WatchedSession} {event : WatchEvent}
    (h : w.announces event = false) : w.ExitDrained event := by
  intro hyes
  rw [h] at hyes
  exact absurd hyes (by decide)

/-- **Every event** keeps the notice last exactly when it is drained. -/
theorem exitLast_step {w w' : WatchedSession} {event : WatchEvent} (h : w.Watched)
    (hlast : w.ExitLast) (hstep : step w event = some w') :
    w'.ExitLast ↔ w.ExitDrained event := by
  cases event with
  | manager op =>
      obtain rfl := Option.some.inj hstep
      refine iff_of_true ?_ (exitDrained_of_not_announces rfl)
      intro s hs hsent
      obtain ⟨hread, hnone⟩ := hlast s hs hsent
      refine ⟨hread, ?_⟩
      rw [unsent, outputSince] at hnone ⊢
      dsimp only
      rcases he : w.entry with _ | e
      · rfl
      · rw [he] at hnone
        rcases hafter : e.after op with _ | e'
        · rw [Option.bind_some, hafter]
          rfl
        · rw [Option.bind_some, hafter]
          have hover := h.ended s hs hsent e he
          have hoff := SessionStatus.isInteractive_of_isTerminal hover
          exact (sliceData_after (SessionEntry.outputSince_after (h.entry e he) hoff hafter) _).trans
            hnone
  | connect clientId rawOutputMode activity =>
      simp only [step] at hstep
      split at hstep
      next => exact absurd hstep (by simp)
      next =>
        obtain rfl := Option.some.inj hstep
        obtain ⟨status, frames, htold, houtput, hsent⟩ :=
          connect_told w clientId rawOutputMode activity
        rw [htold.exitLast_iff rfl (fun hno => absurd hno Bool.false_ne_true) rfl, hsent, houtput]
        constructor
        · exact fun hall hover => (hall hover).1
        · intro hdrained hover
          have hnone : sliceData w.tail = [] := hdrained hover
          exact ⟨hnone, outputSince_of_tail hnone _⟩
  | sendPendingOutput activity =>
      obtain ⟨s, hs, rfl⟩ := Option.map_eq_some_iff.mp hstep
      obtain ⟨status, frames, htold, houtput, hsent, hsame⟩ := sendPending_told h hs activity
      rw [htold.exitLast_iff (h.exited s hs) (fun hbefore => (hlast s hs hbefore).1) rfl, hsent]
      have hleft : w.leftToSend (.sendPendingOutput activity) = w.unsent s := by
        simp only [leftToSend, hs, Option.map_some, Option.getD_some]
      have hannounces : w.announces (.sendPendingOutput activity) =
          (!s.exitEventSent && w.ended) := by
        simp only [announces, hs, Option.any_some]
      rw [ExitDrained, hleft, hannounces]
      constructor
      · intro hall hnow
        rw [Bool.and_eq_true] at hnow
        exact houtput.symm.trans (hall (by rw [hnow.2, Bool.or_true])).1
      · intro hdrained hnotice
        have hnone : w.unsent s = [] := by
          by_cases hbefore : s.exitEventSent = true
          · exact (hlast s hs hbefore).2
          · rw [Bool.not_eq_true] at hbefore
            rw [hbefore, Bool.false_or] at hnotice
            exact hdrained (by rw [hbefore, hnotice]; rfl)
        have hnothing : outputOf frames = [] := houtput.trans hnone
        exact ⟨hnothing, (hsame hnothing).trans hnone⟩
  | clientBinary inputSent =>
      obtain ⟨s, hs, rfl⟩ := Option.map_eq_some_iff.mp hstep
      obtain ⟨frames, hquiet, hno, hsent⟩ := s.handleClientBinary_spec
        (w.entry.any (·.hasControl s.clientId)) inputSent
      refine iff_of_true ?_ (exitDrained_of_not_announces rfl)
      rw [(told_of_quiet hquiet hno hsent).exitLast_iff (h.exited s hs)
        (fun hbefore => (hlast s hs hbefore).1) rfl, hsent]
      intro hbefore
      refine ⟨rfl, ?_⟩
      rw [unsent, hquiet.reserved_eq]
      exact (hlast s hs hbefore).2
  | clientCommand command answers activity =>
      obtain ⟨s, hs, rfl⟩ := Option.map_eq_some_iff.mp hstep
      obtain ⟨status, htold, hsent, hreserved⟩ := clientCommand_told w s answers command activity
      obtain ⟨-, hsame, -⟩ := handleCommand_spec h s.clientId answers command
      rw [htold.exitLast_iff (h.exited s hs) (fun hbefore => (hlast s hs hbefore).1) rfl, hsent]
      have hleft : w.leftToSend (.clientCommand command answers activity) = w.unsent s := by
        simp only [leftToSend, hs, Option.map_some, Option.getD_some]
      have hannounces : w.announces (.clientCommand command answers activity) =
          (!s.exitEventSent && (w.handleCommand s.clientId answers command).2 &&
            (w.handleCommand s.clientId answers command).1.any (·.status.isTerminal)) := by
        simp only [announces, hs, Option.any_some]
      have hunsent : sliceData ((w.handleCommand s.clientId answers command).1.bind
          (·.outputSince s.sequenceWindow.reservedNext)) = w.unsent s := hsame _
      rw [ExitDrained, hleft, hannounces, unsent, outputSince, hreserved]
      dsimp only
      rw [hunsent, Bool.and_assoc]
      constructor
      · intro hall hnow
        rw [Bool.and_eq_true] at hnow
        exact (hall (by rw [hnow.2, Bool.or_true])).2
      · intro hdrained hnotice
        refine ⟨rfl, ?_⟩
        by_cases hbefore : s.exitEventSent = true
        · exact (hlast s hs hbefore).2
        · rw [Bool.not_eq_true] at hbefore
          rw [hbefore, Bool.false_or] at hnotice
          exact hdrained (by rw [hbefore, hnotice]; rfl)
  | completeWrite =>
      obtain ⟨s, hs, hwrite⟩ := Option.bind_eq_some_iff.mp hstep
      obtain ⟨s', hcomplete, rfl⟩ := Option.map_eq_some_iff.mp hwrite
      obtain ⟨-, hqueued, -, -, hsent, hreserved, -⟩ :=
        WebSocketSession.completeWrite_spec (h.ordered s hs) hcomplete
      refine iff_of_true ?_ (exitDrained_of_not_announces rfl)
      intro s'' hs'' hnotice
      obtain rfl := Option.some.inj hs''
      rw [unsent, hqueued, hreserved]
      exact hlast s hs (hsent.symm.trans hnotice)

/-! ### Whole runs -/

/-- A session of a manager can be watched. -/
theorem watched_ofManager {m : SessionManager} (hm : Reachable SessionManager.step
    SessionManager.Init m) {sessionId : String} {e : SessionEntry}
    (he : m.findEntry sessionId = some e) : (ofManager m sessionId).Watched := by
  have hmem : e ∈ m.sessions := List.mem_of_find?_eq_some he
  have hid : e.id = sessionId := by simpa using List.find?_some he
  have hinv := (SessionManager.reachable_inv hm).entries e hmem
  have hnone : ∀ {P : WebSocketSession → Prop}, ∀ s ∈ (ofManager m sessionId).socket, P s :=
    fun _ hs => absurd hs (by simp [ofManager])
  refine ⟨hid ▸ hinv.named, ?_, hnone, hnone, hnone, hnone⟩
  intro e' he'
  obtain rfl := Option.some.inj (he.symm.trans he')
  exact hinv

/-- **The exit notice comes last**, in every state of a run, exactly when every event of the run
that queues the notice finds nothing left to send. -/
theorem exitLast_iff_drained {m : SessionManager}
    (hm : Reachable SessionManager.step SessionManager.Init m) {sessionId : String}
    {e : SessionEntry} (he : m.findEntry sessionId = some e) (events : List WatchEvent) :
    AllStates step ExitLast (ofManager m sessionId) events ↔
      AllSteps step ExitDrained (ofManager m sessionId) events := by
  refine allStates_iff_allSteps Watched ?_ ?_ (watched_ofManager hm he) ?_ events
  · exact fun w event w' h _ hstep => watched_step h hstep
  · exact fun w event w' h hlast hstep => exitLast_step h hlast hstep
  · exact fun _ hs => absurd hs (by simp [ofManager])

/-- A session writes its last line and exits before the next poll; the client is told of the exit
first. -/
theorem exitLast_fails_last_line :
    ¬ AllStates step ExitLast (ofManager (SessionManager.run {} [SessionManager.startCall "s"]) "s")
      [.connect "client" false {},
        .manager (.pollSession "s" { reads := [{ data := [98, 121, 101] }], exitCode := some 0 }),
        .sendPendingOutput {}] := by
  decide

/-- Output that is sent before the poll that finds the exit reaches the client before the notice. -/
theorem exitLast_iff_drained_sent_in_time :
    AllStates step ExitLast (ofManager (SessionManager.run {} [SessionManager.startCall "s"]) "s")
      [.connect "client" false {},
        .manager (.pollSession "s" { reads := [{ data := [98, 121, 101] }] }),
        .sendPendingOutput {},
        .manager (.pollSession "s" { exitCode := some 0 }),
        .sendPendingOutput {}] :=
  (exitLast_iff_drained (SessionManager.reachable_run _) rfl _).mpr (by decide)

end WatchedSession

end Sentrits.Net
