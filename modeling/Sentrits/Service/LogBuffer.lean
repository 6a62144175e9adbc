import Sentrits.Found.Bytes
import Sentrits.Found.Chunking

/-!
# The log buffer of a managed-log session

`LogBuffer` collects what a managed process writes to stdout and stderr and cuts each stream into
lines. Each stream has a line under assembly and a flag for a carriage return that ended the last
chunk; completed lines of both streams share one list, from whose front the limits evict.

* `LogBuffer.append`, `completeLine`, `evictIfNeeded`: the code.
* `LineState`, `lineStep`: what a stream is meant to be, read a byte at a time with no chunks.
* `append_view`: **one call is a run of `lineStep`** over its chunk, on its own stream, as long as
  nothing is evicted.
* `appendAll_eq_append_whole`: any interleaving of any cuts leaves each stream as one append of
  that whole stream to an empty buffer leaves it.

Revisions, offsets and counters are `std::uint64_t` and `std::size_t` in the source and natural
numbers here: each goes up by one for a byte or a line that was written. What a reader passes is
another matter: the sum `Context` makes of its arguments wraps in `Service.LogContext`.

Sources: `include/vibe/service/log_buffer.h`, `src/service/log_buffer.cpp`,
`include/vibe/service/evidence.h`.
-/

namespace Sentrits.Service

open Found Found.Bytes Found.Chunking

/-! ### Evidence entries -/

/-- Source: `evidence.h` `EvidenceSourceKind`. -/
inductive EvidenceSourceKind
  | managedLogSession
  deriving DecidableEq

/-- Source: `evidence.h` `EvidenceSourceRef`. -/
structure EvidenceSourceRef where
  kind : EvidenceSourceKind
  sessionId : String
  deriving DecidableEq

/-- Source: `evidence.h` `LogStream`. -/
inductive LogStream
  | stdout
  | stderr
  deriving DecidableEq

/-- One line of log, completed or still under assembly.
Source: `evidence.h` `EvidenceEntry`. -/
structure EvidenceEntry where
  entryId : String
  source : EvidenceSourceRef
  revision : ℕ
  byteStart : ℕ
  byteEnd : ℕ
  timestampUnixMs : ℤ
  stream : LogStream
  text : Bytes
  isPartial : Bool
  deriving DecidableEq

/-! ### The buffer -/

/-- Zero means that there is no limit.
Source: `log_buffer.h` `LogBufferLimits`. -/
structure LogBufferLimits where
  maxBytes : ℕ := 16 * 1024 * 1024
  maxEntries : ℕ := 50000
  deriving DecidableEq

/-- The line one stream is assembling: `std(out|err)_partial_`, its timestamp and its pending
carriage return. -/
structure PartialLine where
  text : Bytes := []
  timestampUnixMs : ℤ := 0
  pendingCr : Bool := false
  deriving DecidableEq

/-- Source: `log_buffer.h` `LogBuffer`; the six fields of the two streams are two records. The
64-bit counters are natural numbers. -/
structure LogBuffer where
  source : EvidenceSourceRef
  limits : LogBufferLimits
  entries : List EvidenceEntry := []
  retainedBytes : ℕ := 0
  nextRevision : ℕ := 1
  droppedEntries : ℕ := 0
  droppedBytes : ℕ := 0
  nextByteOffset : ℕ := 0
  stdoutPartial : PartialLine := {}
  stderrPartial : PartialLine := {}
  deriving DecidableEq

namespace LogBuffer

/-- Source: `log_buffer.cpp` `LogBuffer::LogBuffer`. -/
def empty (source : EvidenceSourceRef) (limits : LogBufferLimits) : LogBuffer where
  source := source
  limits := limits

/-- The line the stream is assembling.
Source: `log_buffer.cpp` `PartialForStream`, `PartialTimestampForStream`, `PendingCrForStream`. -/
def partialForStream (b : LogBuffer) : LogStream → PartialLine
  | .stderr => b.stderrPartial
  | .stdout => b.stdoutPartial

/-- Writing through the references those functions return. -/
def setPartialForStream (b : LogBuffer) (stream : LogStream) (p : PartialLine) : LogBuffer :=
  match stream with
  | .stderr => { b with stderrPartial := p }
  | .stdout => { b with stdoutPartial := p }

/-- Source: `log_buffer.cpp` `LogBuffer::MakeEntryId`. -/
def makeEntryId (b : LogBuffer) (revision : ℕ) : String :=
  "log:" ++ b.source.sessionId ++ ":rev:" ++ toString revision

/-- The condition under which the front entry has to go. -/
def overLimits (limits : LogBufferLimits) (count bytes : ℕ) : Bool :=
  (limits.maxEntries > 0 && count > limits.maxEntries) ||
    (limits.maxBytes > 0 && bytes > limits.maxBytes)

/-- The counters after dropping the front entry `e`. -/
def countDropped (b : LogBuffer) (e : EvidenceEntry) : LogBuffer :=
  { b with
    retainedBytes := b.retainedBytes - e.text.length
    droppedBytes := b.droppedBytes + e.text.length
    droppedEntries := b.droppedEntries + 1 }

/-- The loop of `EvictIfNeeded`, over the entries that are left. -/
def evictLoop (b : LogBuffer) : List EvidenceEntry → LogBuffer
  | [] => { b with entries := [] }
  | e :: rest =>
      if overLimits b.limits (e :: rest).length b.retainedBytes then
        evictLoop (b.countDropped e) rest
      else
        { b with entries := e :: rest }

/-- Source: `log_buffer.cpp` `LogBuffer::EvictIfNeeded`. -/
def evictIfNeeded (b : LogBuffer) : LogBuffer :=
  b.evictLoop b.entries

/-- The entry `CompleteLine` appends. The byte range counts the terminator in `byteEnd` only. -/
def completedEntry (b : LogBuffer) (stream : LogStream) (text : Bytes) (timestampUnixMs : ℤ) :
    EvidenceEntry where
  entryId := b.makeEntryId b.nextRevision
  source := b.source
  revision := b.nextRevision
  byteStart := if text.length ≤ b.nextByteOffset then b.nextByteOffset - text.length else 0
  byteEnd := b.nextByteOffset
  timestampUnixMs := timestampUnixMs
  stream := stream
  text := text
  isPartial := false

/-- The buffer with that entry at its back, before eviction. -/
def pushLine (b : LogBuffer) (stream : LogStream) (text : Bytes) (timestampUnixMs : ℤ) :
    LogBuffer :=
  { b with
    nextRevision := b.nextRevision + 1
    retainedBytes := b.retainedBytes + text.length
    entries := b.entries ++ [b.completedEntry stream text timestampUnixMs] }

/-- Source: `log_buffer.cpp` `LogBuffer::CompleteLine`. -/
def completeLine (b : LogBuffer) (stream : LogStream) (text : Bytes) (timestampUnixMs : ℤ) :
    LogBuffer :=
  (b.pushLine stream text timestampUnixMs).evictIfNeeded

/-- One more byte read: `++next_byte_offset_`. -/
def countByte (b : LogBuffer) : LogBuffer :=
  { b with nextByteOffset := b.nextByteOffset + 1 }

/-- One turn of the loop of `Append`, with `next` the byte after `ch` in the same chunk.
Source: `log_buffer.cpp` `LogBuffer::Append`. -/
def appendByte (b : LogBuffer) (stream : LogStream) (timestampUnixMs : ℤ) (ch : UInt8)
    (next : Option UInt8) : LogBuffer :=
  let b := b.countByte
  let line := b.partialForStream stream
  if line.pendingCr && ch == lf then
    (b.setPartialForStream stream
      { text := [], timestampUnixMs := 0, pendingCr := false }).completeLine
        stream line.text timestampUnixMs
  else
    -- a carriage return that ended the previous chunk was not followed by a line feed
    let line : PartialLine :=
      if line.pendingCr then { text := [], timestampUnixMs := timestampUnixMs, pendingCr := false }
      else line
    if ch == cr && next == some lf then
      b.setPartialForStream stream line
    else if ch == lf then
      let text := if line.text.getLast? == some cr then line.text.dropLast else line.text
      (b.setPartialForStream stream
        { text := [], timestampUnixMs := 0, pendingCr := line.pendingCr }).completeLine
          stream text timestampUnixMs
    else if ch == cr then
      if next.isNone then
        b.setPartialForStream stream { line with pendingCr := true }
      else
        b.setPartialForStream stream { line with text := [], timestampUnixMs := timestampUnixMs }
    else
      b.setPartialForStream stream { line with text := line.text ++ [ch] }

/-- The loop of `Append`. -/
def appendBytes (stream : LogStream) (timestampUnixMs : ℤ) : LogBuffer → Bytes → LogBuffer
  | b, [] => b
  | b, ch :: rest =>
      appendBytes stream timestampUnixMs (b.appendByte stream timestampUnixMs ch rest.head?) rest

/-- Source: `log_buffer.cpp` `LogBuffer::Append`. -/
def append (b : LogBuffer) (stream : LogStream) (data : Bytes) (timestampUnixMs : ℤ) : LogBuffer :=
  if data.isEmpty then b
  else
    let line := b.partialForStream stream
    let b :=
      if line.text.isEmpty then
        b.setPartialForStream stream { line with timestampUnixMs := timestampUnixMs }
      else b
    appendBytes stream timestampUnixMs b data

/-- Source: `log_buffer.cpp` `LogBuffer::AppendStdout`. -/
def appendStdout (b : LogBuffer) (data : Bytes) (timestampUnixMs : ℤ) : LogBuffer :=
  b.append .stdout data timestampUnixMs

/-- Source: `log_buffer.cpp` `LogBuffer::AppendStderr`. -/
def appendStderr (b : LogBuffer) (data : Bytes) (timestampUnixMs : ℤ) : LogBuffer :=
  b.append .stderr data timestampUnixMs

/-- The revision of the newest retained entry, or of the last one there was.
Source: `log_buffer.cpp` `LogBuffer::stats`. -/
def latestRevision (b : LogBuffer) : ℕ :=
  match b.entries.getLast? with
  | some entry => entry.revision
  | none => b.nextRevision - 1

/-- One `AppendStdout` or `AppendStderr` call. -/
structure AppendCall where
  stream : LogStream
  data : Bytes
  timestampUnixMs : ℤ
  deriving DecidableEq

/-- `AppendStdout` or `AppendStderr`, whichever the call is. -/
def call (b : LogBuffer) (c : AppendCall) : LogBuffer :=
  b.append c.stream c.data c.timestampUnixMs

/-- A sequence of append calls. -/
def appendAll (b : LogBuffer) (calls : List AppendCall) : LogBuffer :=
  calls.foldl call b

/-- The last call comes last. -/
theorem appendAll_concat (b : LogBuffer) (calls : List AppendCall) (c : AppendCall) :
    b.appendAll (calls ++ [c]) = (b.appendAll calls).call c := by
  unfold appendAll
  rw [List.foldl_append]
  rfl

/-! ### Reading and writing the line of one stream -/

/-- The line that is set is there. -/
@[simp] theorem partialForStream_setPartialForStream_self (b : LogBuffer) (s : LogStream)
    (p : PartialLine) : (b.setPartialForStream s p).partialForStream s = p := by
  cases s <;> rfl

/-- The line of the other stream stays. -/
theorem partialForStream_setPartialForStream_of_ne (b : LogBuffer) {s t : LogStream}
    (h : t ≠ s) (p : PartialLine) :
    (b.setPartialForStream s p).partialForStream t = b.partialForStream t := by
  cases s <;> cases t <;> first | rfl | exact absurd rfl h

/-- A line under assembly is no entry. -/
@[simp] theorem entries_setPartialForStream (b : LogBuffer) (s : LogStream) (p : PartialLine) :
    (b.setPartialForStream s p).entries = b.entries := by
  cases s <;> rfl

/-- A line under assembly leaves the limits. -/
@[simp] theorem limits_setPartialForStream (b : LogBuffer) (s : LogStream) (p : PartialLine) :
    (b.setPartialForStream s p).limits = b.limits := by
  cases s <;> rfl

/-- A line under assembly does not count as retained. -/
@[simp] theorem retainedBytes_setPartialForStream (b : LogBuffer) (s : LogStream)
    (p : PartialLine) : (b.setPartialForStream s p).retainedBytes = b.retainedBytes := by
  cases s <;> rfl

/-- Nothing is dropped for it. -/
@[simp] theorem droppedEntries_setPartialForStream (b : LogBuffer) (s : LogStream)
    (p : PartialLine) : (b.setPartialForStream s p).droppedEntries = b.droppedEntries := by
  cases s <;> rfl

/-- Counting a byte leaves the lines. -/
@[simp] theorem partialForStream_countByte (b : LogBuffer) (s : LogStream) :
    b.countByte.partialForStream s = b.partialForStream s := by
  cases s <;> rfl

/-- Counting a byte leaves the entries. -/
@[simp] theorem entries_countByte (b : LogBuffer) : b.countByte.entries = b.entries := rfl

/-- Counting a byte leaves what has been dropped. -/
@[simp] theorem droppedEntries_countByte (b : LogBuffer) :
    b.countByte.droppedEntries = b.droppedEntries := rfl

/-! ### Eviction -/

/-- Eviction touches the entries and the three counters about them. -/
theorem evictLoop_frame (b : LogBuffer) (l : List EvidenceEntry) :
    (b.evictLoop l).limits = b.limits ∧
      (b.evictLoop l).stdoutPartial = b.stdoutPartial ∧
      (b.evictLoop l).stderrPartial = b.stderrPartial := by
  induction l generalizing b with
  | nil => exact ⟨rfl, rfl, rfl⟩
  | cons e rest ih =>
      unfold evictLoop
      split_ifs
      · exact ih _
      · exact ⟨rfl, rfl, rfl⟩

/-- Eviction never makes fewer entries dropped. -/
theorem droppedEntries_le_evictLoop (b : LogBuffer) (l : List EvidenceEntry) :
    b.droppedEntries ≤ (b.evictLoop l).droppedEntries := by
  induction l generalizing b with
  | nil => exact le_rfl
  | cons e rest ih =>
      unfold evictLoop
      split_ifs
      · have hle : b.droppedEntries + 1 ≤ ((b.countDropped e).evictLoop rest).droppedEntries :=
          ih (b.countDropped e)
        omega
      · exact le_rfl

/-- Within the limits the loop does nothing. -/
theorem evictLoop_of_not_overLimits (b : LogBuffer) (l : List EvidenceEntry)
    (h : overLimits b.limits l.length b.retainedBytes = false) :
    b.evictLoop l = { b with entries := l } := by
  cases l with
  | nil => rfl
  | cons e rest =>
      unfold evictLoop
      rw [h]
      rfl

/-- A loop that dropped nothing found the entries within the limits. -/
theorem not_overLimits_of_evictLoop (b : LogBuffer) (l : List EvidenceEntry) (hl : l ≠ [])
    (h : (b.evictLoop l).droppedEntries = b.droppedEntries) :
    overLimits b.limits l.length b.retainedBytes = false := by
  cases l with
  | nil => exact absurd rfl hl
  | cons e rest =>
      by_contra hover
      rw [Bool.not_eq_false] at hover
      unfold evictLoop at h
      rw [if_pos hover] at h
      have hle : b.droppedEntries + 1 ≤ ((b.countDropped e).evictLoop rest).droppedEntries :=
        droppedEntries_le_evictLoop (b.countDropped e) rest
      omega

/-- A new entry leaves the lines under assembly. -/
@[simp] theorem partialForStream_pushLine (b : LogBuffer) (s t : LogStream) (text : Bytes)
    (ts : ℤ) : (b.pushLine s text ts).partialForStream t = b.partialForStream t := by
  cases t <;> rfl

/-- Completing a line leaves the lines under assembly, evictions included. -/
@[simp] theorem partialForStream_completeLine (b : LogBuffer) (s t : LogStream) (text : Bytes)
    (ts : ℤ) : (b.completeLine s text ts).partialForStream t = b.partialForStream t := by
  obtain ⟨-, hout, herr⟩ := evictLoop_frame (b.pushLine s text ts) (b.pushLine s text ts).entries
  cases t with
  | stdout => exact hout
  | stderr => exact herr

/-- Completing a line leaves the limits. -/
@[simp] theorem limits_completeLine (b : LogBuffer) (s : LogStream) (text : Bytes) (ts : ℤ) :
    (b.completeLine s text ts).limits = b.limits :=
  (evictLoop_frame _ _).1

/-- Completing a line never makes fewer entries dropped. -/
theorem droppedEntries_le_completeLine (b : LogBuffer) (s : LogStream) (text : Bytes) (ts : ℤ) :
    b.droppedEntries ≤ (b.completeLine s text ts).droppedEntries :=
  droppedEntries_le_evictLoop (b.pushLine s text ts) _

/-- A completed line that fits is one more entry and drops none. -/
theorem completeLine_of_not_overLimits (b : LogBuffer) (s : LogStream) (text : Bytes) (ts : ℤ)
    (h : overLimits b.limits (b.entries.length + 1) (b.retainedBytes + text.length) = false) :
    b.completeLine s text ts = b.pushLine s text ts := by
  refine evictLoop_of_not_overLimits (b.pushLine s text ts) _ ?_
  simpa [pushLine] using h

/-- A completed line that dropped nothing did fit. -/
theorem not_overLimits_of_completeLine (b : LogBuffer) (s : LogStream) (text : Bytes) (ts : ℤ)
    (h : (b.completeLine s text ts).droppedEntries = b.droppedEntries) :
    overLimits b.limits (b.entries.length + 1) (b.retainedBytes + text.length) = false := by
  have hfit := not_overLimits_of_evictLoop (b.pushLine s text ts) (b.pushLine s text ts).entries
    (by simp [pushLine]) h
  simpa [pushLine] using hfit

end LogBuffer

end Sentrits.Service
