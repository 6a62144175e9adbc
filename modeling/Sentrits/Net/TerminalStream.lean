import Sentrits.Found.Runs
import Sentrits.Net.WebSocketSession

/-!
# The terminal stream of a live session

A live session appends what its terminal writes to an output buffer; a socket connected to it takes
the tail of the buffer first and, from then on, slices from the position it has reserved. Appends,
calls of `SendPendingOutput`, the client's own frames and the completions of writes come in any
order.

* `Aligned`, `aligned_step`: **the positions agree** after every event, and none takes back what was
  delivered.
* `Accounts`, `accounts_step`: **what was queued and what is still to be sliced** make up the tail
  at the connection and everything appended since, as long as no append evicts what is still to be
  sliced.
* `stream_exactly_once`: **every byte once, in order**.

Sources: `src/net/http_server.cpp` (`WebSocketSession`), `src/session/session_output_buffer.cpp`.
-/

namespace Sentrits.Net

open Found Found.Runs Session Service

/-- The output buffer of a live session and one socket that watches it. -/
structure TerminalStream where
  buffer : SessionOutputBuffer
  socket : WebSocketSession
  deriving DecidableEq

/-- What can happen next. -/
inductive StreamEvent
  /-- The session's terminal wrote something. -/
  | append (data : Bytes)
  /-- Someone calls `SendPendingOutput`; `GetSession` returns the summary. -/
  | sendPendingOutput (summary : Option SessionSummary)
  | clientBinary (hasControl inputSent : Bool)
  | clientCommand (command : Option WebSocketSession.WebSocketCommand) (handled : Bool)
      (summary : Option SessionSummary)
  | completeWrite
  deriving DecidableEq

/-- The data an event appends to the buffer. -/
def StreamEvent.appended : StreamEvent → Bytes
  | .append data => data
  | _ => []

namespace TerminalStream

/-- How much of the tail a socket takes when it connects. -/
def initialTailBytes : ℕ := 64 * 1024

/-- A socket connects to a session that lives.
Source: `http_server.cpp` `WebSocketSession::Start`. -/
def connect (buffer : SessionOutputBuffer) (sessionId clientId : String) (rawOutputMode : Bool)
    (summary : Option SessionSummary) : TerminalStream where
  buffer := buffer
  socket := (WebSocketSession.accepted sessionId clientId rawOutputMode).queueInitialEvents summary
    (some (buffer.tail initialTailBytes))

/-- One event. -/
def step (w : TerminalStream) : StreamEvent → Option TerminalStream
  | .append data => some { w with buffer := w.buffer.append data }
  | .sendPendingOutput summary =>
      some { w with
        socket := w.socket.sendPendingOutput summary fun seq => some (w.buffer.sliceFromSequence seq) }
  | .clientBinary hasControl inputSent =>
      some { w with socket := w.socket.handleClientBinary hasControl inputSent }
  | .clientCommand command handled summary =>
      some { w with socket := w.socket.handleClientCommand command handled summary }
  | .completeWrite => w.socket.completeWrite.map fun socket => { w with socket := socket }

/-- The output payloads queued so far. -/
def output (w : TerminalStream) : Bytes := outputOf w.socket.queued

/-- What the buffer holds at or after the reserved position. -/
def unsent (w : TerminalStream) : Bytes :=
  chunkData (w.buffer.chunksFrom w.socket.sequenceWindow.reservedNext)

/-- How far the client has the output. -/
def deliveredNext (w : TerminalStream) : ℕ := w.socket.sequenceWindow.deliveredNext

/-- How far the output has been queued. -/
def reservedNext (w : TerminalStream) : ℕ := w.socket.sequenceWindow.reservedNext

/-- An append fits into the buffer and evicts no chunk at or after the reserved position. -/
def LosesNothing (w : TerminalStream) : StreamEvent → Prop
  | .append data => data.length ≤ w.buffer.capacityBytes ∧
      ∀ chunk ∈ w.buffer.chunks, w.reservedNext ≤ chunk.seq → chunk ∈ (w.buffer.append data).chunks
  | _ => True

instance (w : TerminalStream) (event : StreamEvent) : Decidable (w.LosesNothing event) := by
  cases event <;> unfold LosesNothing <;> infer_instance

/-- **The positions agree**: those of the socket ascend, and nothing is reserved beyond what the
session has written. -/
structure Aligned (sessionId : String) (w : TerminalStream) : Prop where
  sessionId : w.socket.sessionId = sessionId
  buffer : w.buffer.Inv
  ordered : w.socket.Ordered
  reserved : w.reservedNext ≤ w.buffer.nextSequence

/-- **What was queued and what is still to be sliced** make up `total`. -/
def Accounts (w : TerminalStream) (total : Bytes) : Prop := w.output ++ w.unsent = total

/-! ### Connecting -/

/-- A socket that has been accepted has nothing queued. -/
theorem ordered_accepted (sessionId clientId : String) (rawOutputMode : Bool) :
    (WebSocketSession.accepted sessionId clientId rawOutputMode).Ordered where
  delivered_le := le_refl _
  between := fun _ h => absurd h List.not_mem_nil
  ascending := List.Pairwise.nil

/-- **After connecting** the positions agree, the tail is queued and nothing is left to slice. -/
theorem connect_spec {buffer : SessionOutputBuffer} (h : buffer.Inv) (sessionId clientId : String)
    (rawOutputMode : Bool) (summary : Option SessionSummary) :
    Aligned sessionId (connect buffer sessionId clientId rawOutputMode summary) ∧
      (connect buffer sessionId clientId rawOutputMode summary).Accounts
        (buffer.tail initialTailBytes).data := by
  obtain ⟨status, frames, hqueues, hsilent, -, houtput, -, -, hreserved⟩ :=
    WebSocketSession.queueInitialEvents_spec
      (s := .accepted sessionId clientId rawOutputMode) rfl rfl summary
      (some (buffer.tail initialTailBytes))
  have hpos := h.positive
  have hbelow : (buffer.tail initialTailBytes).seqEnd < buffer.nextSequence :=
    SessionOutputBuffer.tail_seqEnd_lt h (by decide)
  have hle : (connect buffer sessionId clientId rawOutputMode summary).reservedNext ≤
      buffer.nextSequence := by
    rcases hreserved with hmoved | ⟨-, hone⟩
    · refine hmoved.trans_le ?_
      rw [Option.getD_some]
      split_ifs <;> omega
    · refine hone.trans_le ?_
      omega
  have hunsent : (connect buffer sessionId clientId rawOutputMode summary).unsent = [] := by
    by_cases hempty : chunkData buffer.chunks = []
    · exact SessionOutputBuffer.chunkData_chunksFrom_of_nil hempty _
    · have hne : buffer.chunks ≠ [] := fun hnone => hempty (by rw [hnone]; rfl)
      have hlen := List.length_pos_iff.mpr hne
      have hseq : (buffer.tail initialTailBytes).seqEnd + 1 = buffer.nextSequence :=
        SessionOutputBuffer.tail_seqEnd h (by decide) hne
      have hmoved : (connect buffer sessionId clientId rawOutputMode summary).reservedNext =
          buffer.nextSequence := by
        rcases hreserved with hmoved | ⟨hnone, -⟩
        · refine hmoved.trans ?_
          rw [Option.getD_some, if_pos (by omega), hseq]
        · exact absurd (SessionOutputBuffer.chunkData_of_tail_data (by decide) hnone) hempty
      rw [unsent, ← reservedNext, hmoved]
      exact congrArg chunkData (SessionOutputBuffer.chunksFrom_nextSequence h)
  refine ⟨⟨hqueues.sessionId, h, hqueues.ordered (ordered_accepted _ _ _), hle⟩, ?_⟩
  rw [Accounts, hunsent, List.append_nil, output, connect, hqueues.queued, outputOf_append,
    outputOf_append, hsilent, houtput]
  rfl

/-! ### Frames without output -/

/-- What is queued without output keeps the place. -/
theorem Aligned.of_quiet {sessionId : String} {w : TerminalStream} (h : Aligned sessionId w)
    {socket : WebSocketSession} {frames : List PendingFrame}
    (hquiet : WebSocketSession.Quiet w.socket socket frames) :
    Aligned sessionId { w with socket := socket } where
  sessionId := hquiet.sessionId.trans h.sessionId
  buffer := h.buffer
  ordered := hquiet.ordered h.ordered
  reserved := hquiet.reserved_eq.trans_le h.reserved

/-- What is queued without output keeps the account of the bytes. -/
theorem Accounts.of_quiet {w : TerminalStream} {total : Bytes} (h : w.Accounts total)
    {socket : WebSocketSession} {frames : List PendingFrame}
    (hquiet : WebSocketSession.Quiet w.socket socket frames) :
    Accounts { w with socket := socket } total := by
  rw [← h, Accounts, output, output, unsent, unsent]
  dsimp only
  rw [hquiet.queued, outputOf_append, hquiet.silent, List.append_nil, hquiet.reserved_eq]

/-! ### Appending and sending -/

/-- Output that comes in keeps the place of the reader. -/
theorem Aligned.append {sessionId : String} {w : TerminalStream} (h : Aligned sessionId w)
    (data : Bytes) : Aligned sessionId { w with buffer := w.buffer.append data } where
  sessionId := h.sessionId
  buffer := SessionOutputBuffer.inv_append h.buffer data
  ordered := h.ordered
  reserved := by
    show w.reservedNext ≤ (w.buffer.append data).nextSequence
    have hreserved := h.reserved
    by_cases hdata : data = []
    · rw [hdata, SessionOutputBuffer.append_nil]
      exact hreserved
    · have hnext := (w.buffer.append_frame hdata).1
      omega

/-- **An append** adds its data to what is to be sliced. -/
theorem Accounts.append {sessionId : String} {w : TerminalStream} (h : Aligned sessionId w)
    {total : Bytes} (htotal : w.Accounts total) {data : Bytes}
    (hfits : w.LosesNothing (.append data)) :
    Accounts { w with buffer := w.buffer.append data } (total ++ data) := by
  obtain ⟨hlength, hkeeps⟩ := hfits
  by_cases hdata : data = []
  · rw [hdata, List.append_nil]
    exact htotal
  · have hfrom := SessionOutputBuffer.chunksFrom_append h.buffer hdata h.reserved hkeeps
    show w.output ++ chunkData ((w.buffer.append data).chunksFrom w.reservedNext) = total ++ data
    rw [hfrom, chunkData_append, SessionOutputBuffer.clip_of_length_le hlength, ← htotal, unsent,
      chunkData_cons, chunkData_nil, List.append_nil, List.append_assoc]
    rfl

/-- The stream after a call of `SendPendingOutput`. -/
def sendPending (w : TerminalStream) (summary : Option SessionSummary) : TerminalStream :=
  { w with
    socket := w.socket.sendPendingOutput summary fun seq => some (w.buffer.sliceFromSequence seq) }

/-- A slice that carries data ends with the newest chunk. -/
theorem slice_seqEnd {sessionId : String} {w : TerminalStream} (h : Aligned sessionId w)
    (hdata : (w.buffer.sliceFromSequence w.reservedNext).data ≠ []) :
    (w.buffer.sliceFromSequence w.reservedNext).seqEnd + 1 = w.buffer.nextSequence := by
  refine SessionOutputBuffer.sliceFromSequence_seqEnd h.buffer fun hnone => hdata ?_
  rw [SessionOutputBuffer.sliceFromSequence, SessionOutputBuffer.sliceOf_data, hnone]
  rfl

/-- **Sending pending output** keeps the positions in agreement and delivers nothing by itself; what
was to be sliced is queued behind everything else. -/
theorem sendPending_spec {sessionId : String} (hid : sessionId ≠ "") {w : TerminalStream}
    (h : Aligned sessionId w) (summary : Option SessionSummary) :
    Aligned sessionId (w.sendPending summary) ∧
      (w.sendPending summary).deliveredNext = w.deliveredNext ∧
      (w.sendPending summary).output = w.output ++ w.unsent ∧
      (w.sendPending summary).unsent = [] := by
  have hsession : w.socket.sessionId.isEmpty = false := by
    rw [h.sessionId]
    simpa using hid
  obtain ⟨status, frames, hqueues, hsilent, -, houtput, -, -, hreserved⟩ :=
    WebSocketSession.sendPendingOutput_spec hsession summary
      (fun seq => some (w.buffer.sliceFromSequence seq)) (by
        intro slice hslice hdata
        obtain rfl := Option.some.inj hslice
        exact h.reserved.trans (slice_seqEnd h hdata).ge)
  have hunsent : outputOf frames = w.unsent := houtput.trans (SessionOutputBuffer.sliceOf_data _)
  have hall : (w.sendPending summary).output = w.output ++ w.unsent := by
    rw [output, sendPending, hqueues.queued, outputOf_append, outputOf_append, hsilent, hunsent]
    rfl
  rcases hreserved with ⟨hnone, hsame⟩ | ⟨slice, hslice, hdata, hmoved⟩
  · have hsame : (w.sendPending summary).reservedNext = w.reservedNext := hsame
    refine ⟨⟨hqueues.sessionId.trans h.sessionId, h.buffer, hqueues.ordered h.ordered,
      hsame.trans_le h.reserved⟩, hqueues.delivered, hall, ?_⟩
    rw [unsent, ← reservedNext, hsame]
    exact hunsent.symm.trans hnone
  · obtain rfl := Option.some.inj hslice
    have hmoved : (w.sendPending summary).reservedNext = w.buffer.nextSequence :=
      hmoved.trans (slice_seqEnd h hdata)
    refine ⟨⟨hqueues.sessionId.trans h.sessionId, h.buffer, hqueues.ordered h.ordered,
      hmoved.le⟩, hqueues.delivered, hall, ?_⟩
    rw [unsent, ← reservedNext, hmoved]
    exact congrArg chunkData (SessionOutputBuffer.chunksFrom_nextSequence h.buffer)

/-! ### One event -/

/-- **Every event** keeps the positions in agreement and takes back nothing that was delivered. -/
theorem aligned_step {sessionId : String} (hid : sessionId ≠ "") {w w' : TerminalStream}
    {event : StreamEvent} (h : Aligned sessionId w) (hstep : step w event = some w') :
    Aligned sessionId w' ∧ w.deliveredNext ≤ w'.deliveredNext := by
  cases event with
  | append data =>
      obtain rfl := Option.some.inj hstep
      exact ⟨h.append data, le_refl _⟩
  | sendPendingOutput summary =>
      obtain rfl := Option.some.inj hstep
      obtain ⟨haligned, hsame, -⟩ := sendPending_spec hid h summary
      exact ⟨haligned, hsame.ge⟩
  | clientBinary hasControl inputSent =>
      obtain rfl := Option.some.inj hstep
      obtain ⟨frames, hquiet, -⟩ := w.socket.handleClientBinary_spec hasControl inputSent
      exact ⟨h.of_quiet hquiet, hquiet.delivered.ge⟩
  | clientCommand command handled summary =>
      obtain rfl := Option.some.inj hstep
      obtain ⟨frames, hquiet, -⟩ := w.socket.handleClientCommand_spec command handled summary
      exact ⟨h.of_quiet hquiet, hquiet.delivered.ge⟩
  | completeWrite =>
      obtain ⟨socket, hcomplete, rfl⟩ := Option.map_eq_some_iff.mp hstep
      obtain ⟨hordered, -, hsession, -, -, hreserved, hle⟩ :=
        WebSocketSession.completeWrite_spec h.ordered hcomplete
      exact ⟨⟨hsession.trans h.sessionId, h.buffer, hordered, hreserved.trans_le h.reserved⟩, hle⟩

/-- **Every event** that loses nothing adds what it appends to the account. -/
theorem accounts_step {sessionId : String} (hid : sessionId ≠ "") {w w' : TerminalStream}
    {event : StreamEvent} (h : Aligned sessionId w) {total : Bytes} (htotal : w.Accounts total)
    (hfits : w.LosesNothing event) (hstep : step w event = some w') :
    w'.Accounts (total ++ event.appended) := by
  cases event with
  | append data =>
      obtain rfl := Option.some.inj hstep
      exact htotal.append h hfits
  | sendPendingOutput summary =>
      obtain rfl := Option.some.inj hstep
      obtain ⟨-, -, houtput, hunsent⟩ := sendPending_spec hid h summary
      show (w.sendPending summary).Accounts (total ++ [])
      rw [Accounts, houtput, hunsent, List.append_nil, List.append_nil]
      exact htotal
  | clientBinary hasControl inputSent =>
      obtain rfl := Option.some.inj hstep
      obtain ⟨frames, hquiet, -⟩ := w.socket.handleClientBinary_spec hasControl inputSent
      exact (List.append_nil total).symm ▸ htotal.of_quiet hquiet
  | clientCommand command handled summary =>
      obtain rfl := Option.some.inj hstep
      obtain ⟨frames, hquiet, -⟩ := w.socket.handleClientCommand_spec command handled summary
      exact (List.append_nil total).symm ▸ htotal.of_quiet hquiet
  | completeWrite =>
      obtain ⟨socket, hcomplete, rfl⟩ := Option.map_eq_some_iff.mp hstep
      obtain ⟨-, hqueued, -, -, -, hreserved, -⟩ :=
        WebSocketSession.completeWrite_spec h.ordered hcomplete
      show outputOf socket.queued ++
        chunkData (w.buffer.chunksFrom socket.sequenceWindow.reservedNext) = total ++ []
      rw [hqueued, hreserved, List.append_nil]
      exact htotal

/-! ### Whole runs -/

/-- **Whole runs keep it.** -/
theorem aligned_of_reaches {sessionId : String} (hid : sessionId ≠ "") {w w' : TerminalStream}
    {events : List StreamEvent} (h : Aligned sessionId w) (hrun : Reaches step w events w') :
    Aligned sessionId w' :=
  hrun.invariant (Aligned sessionId) (fun _ _ _ h hstep => (aligned_step hid h hstep).1) h

/-- What the events append, in order. -/
def appended (events : List StreamEvent) : Bytes := events.flatMap (·.appended)

/-- **Over whole runs all that is appended is accounted for**, if nothing is lost. -/
theorem accounts_of_reaches {sessionId : String} (hid : sessionId ≠ "") {w w' : TerminalStream}
    {events : List StreamEvent} (h : Aligned sessionId w) {total : Bytes} (htotal : w.Accounts total)
    (hrun : Reaches step w events w') (hfits : AllSteps step LosesNothing w events) :
    w'.Accounts (total ++ appended events) := by
  induction hrun generalizing total with
  | refl w => exact (List.append_nil total).symm ▸ htotal
  | @cons w₀ w₁ w₂ event events hstep hrun ih =>
      obtain ⟨hfirst, hrest⟩ := allSteps_cons.mp hfits w₁ hstep
      have hnext := ih (aligned_step hid h hstep).1 (accounts_step hid h htotal hfirst hstep) hrest
      rw [appended, List.flatMap_cons, ← List.append_assoc]
      exact hnext

/-- **Every byte exactly once, in order.** After any run in which no append exceeds the buffer or
evicts what is still to be sliced, the output queued on the socket and what is still to be sliced
are the tail at the connection and everything appended since, in order; the next call of
`SendPendingOutput` queues the rest; the delivered position is at most the reserved one, and no
event takes it back. -/
theorem stream_exactly_once (capacity : ℕ) (history : List Bytes) {sessionId : String}
    (hid : sessionId ≠ "") (clientId : String) (rawOutputMode : Bool)
    (summary : Option SessionSummary) (events : List StreamEvent) (w : TerminalStream)
    (hrun : Reaches step (connect ((SessionOutputBuffer.empty capacity).appendAll history) sessionId
      clientId rawOutputMode summary) events w)
    (hfits : AllSteps step LosesNothing (connect
      ((SessionOutputBuffer.empty capacity).appendAll history) sessionId clientId rawOutputMode
      summary) events) :
    w.output ++ w.unsent =
        (((SessionOutputBuffer.empty capacity).appendAll history).tail (64 * 1024)).data ++
          appended events ∧
      (∀ summary' w', step w (.sendPendingOutput summary') = some w' →
        w'.output =
          (((SessionOutputBuffer.empty capacity).appendAll history).tail (64 * 1024)).data ++
            appended events) ∧
      w.deliveredNext ≤ w.reservedNext ∧
      ∀ event w', step w event = some w' → w.deliveredNext ≤ w'.deliveredNext := by
  have hbuffer := SessionOutputBuffer.inv_appendAll (SessionOutputBuffer.inv_empty capacity) history
  obtain ⟨hstart, htail⟩ := connect_spec hbuffer sessionId clientId rawOutputMode summary
  have haligned := aligned_of_reaches hid hstart hrun
  have haccount := accounts_of_reaches hid hstart htail hrun hfits
  refine ⟨haccount, ?_, haligned.ordered.delivered_le, ?_⟩
  · intro summary' w' hstep
    obtain rfl := Option.some.inj hstep
    exact (sendPending_spec hid haligned summary').2.2.1.trans haccount
  · intro event w' hstep
    exact (aligned_step hid haligned hstep).2

/-- Two lines, one before the client connects and one after, reach it once each. -/
theorem stream_exactly_once_two_lines :
    let buffer := (SessionOutputBuffer.empty 16).appendAll [[1, 2]]
    let events := [StreamEvent.append [3], .completeWrite, .sendPendingOutput none]
    ∃ w, Reaches step (connect buffer "s" "client" true none) events w ∧
      w.output ++ w.unsent = [1, 2, 3] := by
  have hends : (List.foldlM step
      (connect ((SessionOutputBuffer.empty 16).appendAll [[1, 2]]) "s" "client" true none)
      [StreamEvent.append [3], .completeWrite, .sendPendingOutput none]).isSome = true := by
    decide
  obtain ⟨w, hw⟩ := Option.isSome_iff_exists.mp hends
  have hrun := Reaches.iff_foldlM.mpr hw
  exact ⟨w, hrun, (stream_exactly_once 16 [[1, 2]] (by decide) "client" true none _ w hrun
    (by decide)).1⟩

end TerminalStream

end Sentrits.Net
