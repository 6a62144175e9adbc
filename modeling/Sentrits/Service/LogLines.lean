import Mathlib.Algebra.GroupWithZero.Nat
import Sentrits.Service.LogBuffer
import Mathlib.Algebra.Order.BigOperators.Group.List
import Mathlib.Algebra.Order.Group.Nat

/-!
# Lines of a log stream, whatever the chunks

A log stream is bytes; its lines end at a line feed, a carriage return before the line feed is not
part of the line, and any other carriage return throws the line under assembly away, as a terminal
would overwrite it. `lineStep` says this one byte at a time. The code works on chunks of two
streams with a look-ahead inside the chunk, a flag across chunks and eviction in between.

* `run_lineStep_read`: **the look-ahead is the flag.** One turn of the code's loop, followed by any
  reading of the rest, is one `lineStep` followed by the same.
* `append_view`: as long as nothing is evicted, `append` feeds its chunk to its own stream's
  `lineStep` and leaves the other stream alone.
* `appendAll_view`: any calls, any cuts: each stream has read its own bytes in order.
* `appendAll_eq_append_whole`: the same as appending each stream whole to an empty buffer.

Sources: `src/service/log_buffer.cpp`, `tests/service/log_buffer_test.cpp`.
-/

namespace Sentrits.Service

open Found Found.Bytes Found.Chunking

/-! ### The meaning of a log stream -/

/-- A line under assembly: its bytes, and whether the last byte read was a carriage return. -/
structure LineState where
  text : Bytes := []
  pendingCr : Bool := false
  deriving DecidableEq

/-- One byte of a log stream; the output is the line it completes, if any. -/
def lineStep (line : LineState) (ch : UInt8) : LineState × List Bytes :=
  if ch = lf then
    ({}, [line.text])
  else
    let text := if line.pendingCr then [] else line.text
    if ch = cr then
      ({ text := text, pendingCr := true }, [])
    else
      ({ text := text ++ [ch], pendingCr := false }, [])

/-- A line feed completes the line. -/
@[simp] theorem lineStep_lf (line : LineState) : lineStep line lf = ({}, [line.text]) := rfl

/-- A carriage return waits for the byte behind it. -/
@[simp] theorem lineStep_cr (text : Bytes) :
    lineStep { text := text, pendingCr := false } cr = ({ text := text, pendingCr := true }, []) :=
  rfl

/-- A line feed completes the line whether a carriage return is pending or not. -/
theorem run_lineStep_pendingCr_lf (text : Bytes) (rest : Bytes) :
    run lineStep { text := text, pendingCr := true } (lf :: rest) =
      run lineStep { text := text, pendingCr := false } (lf :: rest) := by
  simp only [run_cons, lineStep_lf]

/-- Any other byte after a carriage return starts the line anew. -/
theorem run_lineStep_pendingCr_of_ne (text : Bytes) {ch : UInt8} (h : ch ≠ lf) (rest : Bytes) :
    run lineStep { text := text, pendingCr := true } (ch :: rest) =
      run lineStep { text := [], pendingCr := false } (ch :: rest) := by
  have hstep : lineStep { text := text, pendingCr := true } ch =
      lineStep { text := [], pendingCr := false } ch := by
    simp [lineStep, h]
  rw [run_cons, hstep, run_cons]

/-! ### One turn of the loop -/

namespace PartialLine

/-- What the stream's line is, its timestamp left out. -/
def lineState (line : PartialLine) : LineState where
  text := line.text
  pendingCr := line.pendingCr

/-- The line under assembly holds no carriage return. -/
def NoCr (line : PartialLine) : Prop := cr ∉ line.text

/-- The invariant is about what has been read, not about its time. -/
theorem noCr_of_lineState_eq {line line' : PartialLine} (h : line.lineState = line'.lineState)
    (hline : line'.NoCr) : line.NoCr := by
  have htext : line.text = line'.text := congrArg LineState.text h
  unfold NoCr
  rw [htext]
  exact hline

/-- The line under assembly of a new buffer. -/
theorem noCr_empty : NoCr {} := List.not_mem_nil

/-- The line as the rest of the turn sees it, once a pending carriage return that no line feed
followed has thrown its text away. -/
def resume (line : PartialLine) (timestampUnixMs : ℤ) : PartialLine :=
  if line.pendingCr then { text := [], timestampUnixMs := timestampUnixMs, pendingCr := false }
  else line

/-- No carriage return is pending once the next byte is looked at. -/
theorem resume_pendingCr (line : PartialLine) (ts : ℤ) : (line.resume ts).pendingCr = false := by
  unfold resume
  split_ifs with h
  · rfl
  · simpa using h

/-- Looking at the next byte keeps the invariant. -/
theorem resume_noCr {line : PartialLine} (h : line.NoCr) (ts : ℤ) : (line.resume ts).NoCr := by
  unfold resume
  split_ifs
  · exact noCr_empty
  · exact h

/-- `resume` is what `lineStep` does before any byte but a line feed. -/
theorem lineStep_resume (line : PartialLine) (ts : ℤ) {ch : UInt8}
    (h : line.pendingCr = false ∨ ch ≠ lf) :
    lineStep (line.resume ts).lineState ch = lineStep line.lineState ch := by
  unfold resume
  split_ifs with hp
  · have hch : ch ≠ lf := h.resolve_left (by simp [hp])
    simp [lineStep, lineState, hch, hp]
  · rfl

/-- What one turn of the loop of `Append` does to the line of its stream, and the text it
completes. -/
def read (line : PartialLine) (timestampUnixMs : ℤ) (ch : UInt8) (next : Option UInt8) :
    PartialLine × Option Bytes :=
  if line.pendingCr && ch == lf then
    ({ text := [], timestampUnixMs := 0, pendingCr := false }, some line.text)
  else
    let line := line.resume timestampUnixMs
    if ch == cr && next == some lf then
      (line, none)
    else if ch == lf then
      ({ text := [], timestampUnixMs := 0, pendingCr := line.pendingCr },
        some (if line.text.getLast? == some cr then line.text.dropLast else line.text))
    else if ch == cr then
      if next.isNone then
        ({ line with pendingCr := true }, none)
      else
        ({ line with text := [], timestampUnixMs := timestampUnixMs }, none)
    else
      ({ line with text := line.text ++ [ch] }, none)

/-- Reading the next byte keeps the invariant. -/
theorem read_noCr {line : PartialLine} (h : line.NoCr) (ts : ℤ) (ch : UInt8)
    (next : Option UInt8) : (line.read ts ch next).1.NoCr := by
  have hres := resume_noCr h ts
  unfold read
  split_ifs with _ _ _ hcr
  · exact noCr_empty
  · exact hres
  · exact noCr_empty
  · exact hres
  · exact noCr_empty
  · unfold NoCr at hres ⊢
    rw [List.mem_append, not_or]
    exact ⟨hres, by simpa using fun heq : cr = ch => hcr (by simp [heq])⟩

/-- A line feed completes the line, whether a carriage return is pending or not. -/
theorem read_lf {line : PartialLine} (h : line.NoCr) (ts : ℤ) (next : Option UInt8) :
    line.read ts lf next = ({}, some line.text) := by
  have hlast : (line.text.getLast? == some cr) = false := by
    simpa using fun hmem => h (List.mem_of_getLast? hmem)
  cases hp : line.pendingCr with
  | true => simp [read, hp]
  | false => simp [read, hp, resume, hlast, lf_ne_cr]

/-- A carriage return at the end of the chunk is remembered. -/
theorem read_cr_none (line : PartialLine) (ts : ℤ) :
    line.read ts cr none = ({ line.resume ts with pendingCr := true }, none) := by
  simp [read, lf_ne_cr.symm]

/-- One before a line feed is passed over. -/
theorem read_cr_lf (line : PartialLine) (ts : ℤ) :
    line.read ts cr (some lf) = (line.resume ts, none) := by
  simp [read, lf_ne_cr.symm]

/-- Any other one throws the text away. -/
theorem read_cr_of_ne (line : PartialLine) (ts : ℤ) {next : UInt8} (h : next ≠ lf) :
    line.read ts cr (some next) =
      ({ text := [], timestampUnixMs := ts, pendingCr := false }, none) := by
  have hp := resume_pendingCr line ts
  simp [read, lf_ne_cr.symm, h, hp]

/-- Any other byte is added to the text. -/
theorem read_of_ne (line : PartialLine) (ts : ℤ) {ch : UInt8} (hlf : ch ≠ lf) (hcr : ch ≠ cr)
    (next : Option UInt8) :
    line.read ts ch next =
      ({ line.resume ts with text := (line.resume ts).text ++ [ch] }, none) := by
  simp [read, hlf, hcr]

/-- A turn completes a line when it reads a line feed. -/
theorem isSome_read_iff (line : PartialLine) (ts : ℤ) (ch : UInt8) (next : Option UInt8) :
    (line.read ts ch next).2.isSome = true ↔ ch = lf := by
  by_cases hlf : ch = lf
  · subst hlf
    cases hp : line.pendingCr with
    | true => simp [read, hp]
    | false => simp [read, hp, lf_ne_cr]
  · have hnone : (line.read ts ch next).2 = none := by
      by_cases hcr : ch = cr
      · subst hcr
        rcases next with _ | next
        · rw [read_cr_none]
        · by_cases hnext : next = lf
          · rw [hnext, read_cr_lf]
          · rw [read_cr_of_ne line ts hnext]
      · rw [read_of_ne line ts hlf hcr]
    simp [hnone, hlf]

/-- **The look-ahead is the flag.** One turn of the code's loop, then any reading of the rest of
the chunk, is one `lineStep`, then the same. -/
theorem run_lineStep_read {line : PartialLine} (h : line.NoCr) (ts : ℤ) (ch : UInt8)
    (rest : Bytes) :
    run lineStep line.lineState (ch :: rest) =
      ((run lineStep (line.read ts ch rest.head?).1.lineState rest).1,
        (line.read ts ch rest.head?).2.toList ++
          (run lineStep (line.read ts ch rest.head?).1.lineState rest).2) := by
  by_cases hlf : ch = lf
  · subst hlf
    rw [run_cons, lineStep_lf, read_lf h]
    rfl
  · rw [run_cons, ← lineStep_resume line ts (Or.inr hlf)]
    have hp := resume_pendingCr line ts
    have hstate : (line.resume ts).lineState =
        { text := (line.resume ts).text, pendingCr := false } := by
      simp [lineState, hp]
    by_cases hcr : ch = cr
    · subst hcr
      rcases rest with _ | ⟨next, rest⟩
      · rw [List.head?_nil, read_cr_none, hstate, lineStep_cr]
        rfl
      · rw [List.head?_cons, hstate, lineStep_cr]
        by_cases hnext : next = lf
        · subst hnext
          rw [read_cr_lf, hstate, run_lineStep_pendingCr_lf]
          rfl
        · rw [read_cr_of_ne line ts hnext, run_lineStep_pendingCr_of_ne _ hnext]
          rfl
    · rw [read_of_ne line ts hlf hcr]
      simp [lineStep, lineState, hlf, hcr, hp]

end PartialLine

namespace LogBuffer

/-! ### The buffer, one stream at a time -/

/-- The texts of the retained lines of one stream, oldest first. -/
def completedTexts (b : LogBuffer) (stream : LogStream) : List Bytes :=
  (b.entries.filter (·.stream = stream)).map (·.text)

/-- What a reader of one stream sees. -/
def view (stream : LogStream) (b : LogBuffer) : LineState × List Bytes :=
  ((b.partialForStream stream).lineState, b.completedTexts stream)

/-- The bytes the retained entries hold. -/
def entryBytes (entries : List EvidenceEntry) : ℕ :=
  (entries.map (·.text.length)).sum

/-- **Invariant of the buffer.** -/
structure Inv (b : LogBuffer) : Prop where
  /-- `retained_bytes_` counts the retained texts. -/
  accounted : b.retainedBytes = entryBytes b.entries
  /-- What is retained is within the limits. -/
  fits : overLimits b.limits b.entries.length b.retainedBytes = false
  /-- No line under assembly holds a carriage return. -/
  noCr : ∀ stream, (b.partialForStream stream).NoCr

/-- An empty buffer is within any limits. -/
@[simp] theorem overLimits_zero (limits : LogBufferLimits) : overLimits limits 0 0 = false := by
  simp [overLimits]

/-- Fewer entries and fewer bytes stay within the limits. -/
theorem overLimits_mono {limits : LogBufferLimits} {m n p q : ℕ} (hmn : m ≤ n) (hpq : p ≤ q)
    (h : overLimits limits n q = false) : overLimits limits m p = false := by
  simp only [overLimits, Bool.or_eq_false_iff, Bool.and_eq_false_iff, decide_eq_false_iff_not] at h ⊢
  omega

/-- The bytes of two lists of entries add up. -/
theorem entryBytes_append (xs ys : List EvidenceEntry) :
    entryBytes (xs ++ ys) = entryBytes xs + entryBytes ys := by
  simp [entryBytes]

/-- An empty buffer satisfies the invariant. -/
theorem inv_empty (source : EvidenceSourceRef) (limits : LogBufferLimits) :
    (empty source limits).Inv where
  accounted := rfl
  fits := overLimits_zero limits
  noCr stream := by cases stream <;> exact PartialLine.noCr_empty

/-- Eviction keeps the books, and stops within the limits. -/
theorem evictLoop_accounted (b : LogBuffer) (l : List EvidenceEntry)
    (h : b.retainedBytes = entryBytes l) :
    (b.evictLoop l).retainedBytes = entryBytes (b.evictLoop l).entries ∧
      overLimits (b.evictLoop l).limits (b.evictLoop l).entries.length
        (b.evictLoop l).retainedBytes = false := by
  induction l generalizing b with
  | nil =>
      have hzero : b.retainedBytes = 0 := by simpa [entryBytes] using h
      refine ⟨h, ?_⟩
      show overLimits b.limits 0 b.retainedBytes = false
      rw [hzero, overLimits_zero]
  | cons e rest ih =>
      unfold evictLoop
      split_ifs with hover
      · refine ih (b.countDropped e) ?_
        simp only [entryBytes, List.map_cons, List.sum_cons] at h ⊢
        show b.retainedBytes - e.text.length = _
        omega
      · exact ⟨h, by simpa using hover⟩

/-- A line under assembly may be replaced. -/
theorem inv_setPartialForStream {b : LogBuffer} (h : b.Inv) (s : LogStream) {p : PartialLine}
    (hp : p.NoCr) : (b.setPartialForStream s p).Inv where
  accounted := by simpa using h.accounted
  fits := by simpa using h.fits
  noCr t := by
    by_cases hts : t = s
    · subst hts
      rwa [partialForStream_setPartialForStream_self]
    · rw [partialForStream_setPartialForStream_of_ne b hts]
      exact h.noCr t

/-- A completed line keeps the invariant. -/
theorem inv_completeLine {b : LogBuffer} (h : b.Inv) (s : LogStream) (text : Bytes) (ts : ℤ) :
    (b.completeLine s text ts).Inv := by
  have hacc : (b.pushLine s text ts).retainedBytes = entryBytes (b.pushLine s text ts).entries := by
    show b.retainedBytes + text.length = entryBytes (b.entries ++ [b.completedEntry s text ts])
    rw [entryBytes_append, ← h.accounted]
    rfl
  obtain ⟨haccounted, hfits⟩ := evictLoop_accounted (b.pushLine s text ts) _ hacc
  refine ⟨haccounted, hfits, fun t => ?_⟩
  rw [partialForStream_completeLine]
  exact h.noCr t

/-! ### One turn of the loop, on the buffer -/

/-- A turn of the loop rewrites the line of its stream and completes at most one line. -/
theorem appendByte_eq (b : LogBuffer) (s : LogStream) (ts : ℤ) (ch : UInt8)
    (next : Option UInt8) :
    b.appendByte s ts ch next =
      match (b.partialForStream s).read ts ch next with
      | (line, none) => b.countByte.setPartialForStream s line
      | (line, some text) => (b.countByte.setPartialForStream s line).completeLine s text ts := by
  simp only [appendByte, partialForStream_countByte]
  unfold PartialLine.read PartialLine.resume
  split_ifs with hpending hp
  · rfl
  all_goals dsimp only
  all_goals split_ifs <;> rfl

/-- Counting a byte keeps the invariant. -/
theorem inv_countByte {b : LogBuffer} (h : b.Inv) : b.countByte.Inv where
  accounted := h.accounted
  fits := h.fits
  noCr s := by
    rw [partialForStream_countByte]
    exact h.noCr s

/-- A byte that is read keeps the invariant. -/
theorem inv_appendByte {b : LogBuffer} (h : b.Inv) (s : LogStream) (ts : ℤ) (ch : UInt8)
    (next : Option UInt8) : (b.appendByte s ts ch next).Inv := by
  have hread := PartialLine.read_noCr (h.noCr s) ts ch next
  have hset := inv_setPartialForStream (inv_countByte h) s hread
  rw [appendByte_eq]
  rcases hr : (b.partialForStream s).read ts ch next with ⟨line, _ | text⟩
  · rw [hr] at hset
    exact hset
  · rw [hr] at hset
    exact inv_completeLine hset s text ts

/-- A byte never makes fewer entries dropped. -/
theorem droppedEntries_le_appendByte (b : LogBuffer) (s : LogStream) (ts : ℤ) (ch : UInt8)
    (next : Option UInt8) : b.droppedEntries ≤ (b.appendByte s ts ch next).droppedEntries := by
  rw [appendByte_eq]
  rcases (b.partialForStream s).read ts ch next with ⟨line, _ | text⟩
  · simp
  · have hle := droppedEntries_le_completeLine (b.countByte.setPartialForStream s line) s text ts
    simpa using hle

/-- The limits are never changed. -/
theorem limits_appendByte (b : LogBuffer) (s : LogStream) (ts : ℤ) (ch : UInt8)
    (next : Option UInt8) : (b.appendByte s ts ch next).limits = b.limits := by
  rw [appendByte_eq]
  rcases (b.partialForStream s).read ts ch next with ⟨line, _ | text⟩
  · simp [countByte]
  · simp [countByte]

/-- A line under assembly is seen on its own stream only. -/
theorem view_setPartialForStream (b : LogBuffer) (s t : LogStream) (p : PartialLine) :
    view t (b.setPartialForStream s p) =
      (if s = t then p.lineState else (view t b).1, (view t b).2) := by
  by_cases h : s = t
  · subst h
    simp [view, completedTexts]
  · rw [if_neg h]
    simp [view, completedTexts, partialForStream_setPartialForStream_of_ne b (Ne.symm h)]

/-- A completed line is the last of its own stream. -/
theorem completedTexts_pushLine (b : LogBuffer) (s t : LogStream) (text : Bytes) (ts : ℤ) :
    (b.pushLine s text ts).completedTexts t =
      b.completedTexts t ++ if s = t then [text] else [] := by
  by_cases h : s = t
  · simp [completedTexts, pushLine, completedEntry, h]
  · simp [completedTexts, pushLine, completedEntry, h]

/-- A completed line that drops nothing is one more line of its stream. -/
theorem view_completeLine (b : LogBuffer) (s t : LogStream) (text : Bytes) (ts : ℤ)
    (h : (b.completeLine s text ts).droppedEntries = b.droppedEntries) :
    view t (b.completeLine s text ts) =
      ((view t b).1, (view t b).2 ++ if s = t then [text] else []) := by
  rw [completeLine_of_not_overLimits b s text ts (not_overLimits_of_completeLine b s text ts h)]
  rw [view, view, partialForStream_pushLine, completedTexts_pushLine]

/-- One turn of the loop, then any reading of the rest of the chunk, on the stream of the chunk and
on the other one. -/
theorem view_appendByte {b : LogBuffer} (hinv : b.Inv) (s t : LogStream) (ts : ℤ) (ch : UInt8)
    (rest : Bytes)
    (h : (b.appendByte s ts ch rest.head?).droppedEntries = b.droppedEntries) :
    feed lineStep (view t (b.appendByte s ts ch rest.head?)) (if s = t then rest else []) =
      feed lineStep (view t b) (if s = t then ch :: rest else []) := by
  have hstep := PartialLine.run_lineStep_read (hinv.noCr s) ts ch rest
  have hview : view t b.countByte = view t b := by simp [view, completedTexts]
  rw [appendByte_eq] at h ⊢
  rcases hr : (b.partialForStream s).read ts ch rest.head? with ⟨line, _ | text⟩
  · rw [hr] at hstep
    simp only [view_setPartialForStream, hview]
    by_cases hst : s = t
    · subst hst
      simp only [if_true, feed, view, hstep, Option.toList_none, List.nil_append]
    · simp only [if_neg hst, feed_nil]
  · rw [hr] at hstep h
    simp only at h
    rw [view_completeLine _ s t text ts (by simpa using h), view_setPartialForStream, hview]
    by_cases hst : s = t
    · subst hst
      simp only [if_true, feed, view, hstep, Option.toList_some, List.append_assoc]
    · simp only [if_neg hst, List.append_nil, feed_nil]

/-! ### A whole call -/

/-- Some bytes keep the invariant. -/
theorem inv_appendBytes {b : LogBuffer} (h : b.Inv) (s : LogStream) (ts : ℤ) (data : Bytes) :
    (appendBytes s ts b data).Inv := by
  induction data generalizing b with
  | nil => exact h
  | cons ch rest ih => exact ih (inv_appendByte h s ts ch rest.head?)

/-- Some bytes never make fewer entries dropped. -/
theorem droppedEntries_le_appendBytes (b : LogBuffer) (s : LogStream) (ts : ℤ) (data : Bytes) :
    b.droppedEntries ≤ (appendBytes s ts b data).droppedEntries := by
  induction data generalizing b with
  | nil => exact le_rfl
  | cons ch rest ih =>
      exact (droppedEntries_le_appendByte b s ts ch rest.head?).trans (ih _)

/-- **Some bytes are a run of `lineStep`** on their own stream, if nothing is evicted. -/
theorem view_appendBytes {b : LogBuffer} (hinv : b.Inv) (s t : LogStream) (ts : ℤ) (data : Bytes)
    (h : (appendBytes s ts b data).droppedEntries = b.droppedEntries) :
    view t (appendBytes s ts b data) = feed lineStep (view t b) (if s = t then data else []) := by
  induction data generalizing b with
  | nil => simp [appendBytes]
  | cons ch rest ih =>
      have hle := droppedEntries_le_appendByte b s ts ch rest.head?
      have hle' := droppedEntries_le_appendBytes (b.appendByte s ts ch rest.head?) s ts rest
      change (appendBytes s ts (b.appendByte s ts ch rest.head?) rest).droppedEntries = _ at h
      rw [← view_appendByte hinv s t ts ch rest (by omega)]
      exact ih (inv_appendByte hinv s ts ch rest.head?) (by omega)

/-- `append` without its first statement, which sets a timestamp. -/
theorem append_eq (b : LogBuffer) (s : LogStream) (data : Bytes) (ts : ℤ) :
    ∃ p : PartialLine, p.lineState = (b.partialForStream s).lineState ∧
      b.append s data ts = appendBytes s ts (b.setPartialForStream s p) data := by
  have hself : b.setPartialForStream s (b.partialForStream s) = b := by cases s <;> rfl
  unfold append
  by_cases hdata : data.isEmpty
  · refine ⟨b.partialForStream s, rfl, ?_⟩
    rw [if_pos hdata, hself, List.isEmpty_iff.mp hdata]
    rfl
  · rw [if_neg hdata]
    by_cases htext : (b.partialForStream s).text.isEmpty
    · refine ⟨{ b.partialForStream s with timestampUnixMs := ts }, rfl, ?_⟩
      simp only [htext, if_true]
    · refine ⟨b.partialForStream s, rfl, ?_⟩
      simp only [htext, hself]
      rfl

/-- A call keeps the invariant. -/
theorem inv_append {b : LogBuffer} (h : b.Inv) (s : LogStream) (data : Bytes) (ts : ℤ) :
    (b.append s data ts).Inv := by
  obtain ⟨p, hp, heq⟩ := append_eq b s data ts
  have hpcr : p.NoCr := PartialLine.noCr_of_lineState_eq hp (h.noCr s)
  rw [heq]
  exact inv_appendBytes (inv_setPartialForStream h s hpcr) s ts data

/-- A call never makes fewer entries dropped. -/
theorem droppedEntries_le_append (b : LogBuffer) (s : LogStream) (data : Bytes) (ts : ℤ) :
    b.droppedEntries ≤ (b.append s data ts).droppedEntries := by
  obtain ⟨p, -, heq⟩ := append_eq b s data ts
  have hle := droppedEntries_le_appendBytes (b.setPartialForStream s p) s ts data
  rw [heq]
  simpa using hle

/-- **A call that evicts nothing feeds its chunk to its own stream** and leaves the other alone. -/
theorem append_view {b : LogBuffer} (hinv : b.Inv) (s t : LogStream) (data : Bytes) (ts : ℤ)
    (h : (b.append s data ts).droppedEntries = b.droppedEntries) :
    view t (b.append s data ts) = feed lineStep (view t b) (if s = t then data else []) := by
  obtain ⟨p, hp, heq⟩ := append_eq b s data ts
  have hpcr : p.NoCr := PartialLine.noCr_of_lineState_eq hp (hinv.noCr s)
  have hview : view t (b.setPartialForStream s p) = view t b := by
    rw [view_setPartialForStream]
    by_cases hst : s = t
    · subst hst
      rw [if_pos rfl, hp]
      rfl
    · rw [if_neg hst]
  rw [heq] at h ⊢
  rw [view_appendBytes (inv_setPartialForStream hinv s hpcr) s t ts data (by simpa using h), hview]

/-! ### Any calls, any cuts -/

/-- What the calls append to one stream, in order. -/
def streamData (stream : LogStream) (calls : List AppendCall) : Bytes :=
  delivered AppendCall.stream AppendCall.data stream calls

/-- **Each stream has read its own bytes in order**, as long as nothing was evicted. -/
theorem appendAll_view {b : LogBuffer} (hinv : b.Inv) (calls : List AppendCall)
    (h : (b.appendAll calls).droppedEntries = 0) (stream : LogStream) :
    view stream (b.appendAll calls) =
      feed lineStep (view stream b) (streamData stream calls) := by
  refine view_foldl Inv (fun b => b.droppedEntries = 0)
    (fun b c hb => inv_append hb c.stream c.data c.timestampUnixMs) ?_ ?_ hinv calls h stream
  · intro b c hc
    have hle := droppedEntries_le_append b c.stream c.data c.timestampUnixMs
    simp only [call] at hc
    omega
  · intro b c hb hc t
    have hle := droppedEntries_le_append b c.stream c.data c.timestampUnixMs
    simp only [call] at hc
    exact append_view hb c.stream t c.data c.timestampUnixMs (by omega)

/-- Whole runs of calls keep the invariant. -/
theorem inv_appendAll {b : LogBuffer} (h : b.Inv) (calls : List AppendCall) :
    (b.appendAll calls).Inv := by
  induction calls generalizing b with
  | nil => exact h
  | cons c calls ih => exact ih (inv_append h c.stream c.data c.timestampUnixMs)

/-- Some bytes leave the limits. -/
theorem limits_appendBytes (b : LogBuffer) (s : LogStream) (ts : ℤ) (data : Bytes) :
    (appendBytes s ts b data).limits = b.limits := by
  induction data generalizing b with
  | nil => rfl
  | cons ch rest ih => exact (ih _).trans (limits_appendByte b s ts ch rest.head?)

/-- A call leaves the limits. -/
theorem limits_append (b : LogBuffer) (s : LogStream) (data : Bytes) (ts : ℤ) :
    (b.append s data ts).limits = b.limits := by
  obtain ⟨p, -, heq⟩ := append_eq b s data ts
  rw [heq, limits_appendBytes, limits_setPartialForStream]

/-- A whole run of calls leaves the limits. -/
theorem limits_appendAll (b : LogBuffer) (calls : List AppendCall) :
    (b.appendAll calls).limits = b.limits := by
  induction calls generalizing b with
  | nil => rfl
  | cons c calls ih => exact (ih _).trans (limits_append b c.stream c.data c.timestampUnixMs)

/-! ### Limits that evict nothing -/

/-- The bytes of some texts. -/
def textBytes (texts : List Bytes) : ℕ :=
  (texts.map List.length).sum

/-- The bytes of some texts, the first one taken out. -/
theorem textBytes_cons (text : Bytes) (texts : List Bytes) :
    textBytes (text :: texts) = text.length + textBytes texts := by
  simp [textBytes]

/-- A stream has no more lines than there are entries. -/
theorem completedTexts_length_le (b : LogBuffer) (stream : LogStream) :
    (b.completedTexts stream).length ≤ b.entries.length := by
  simpa [completedTexts] using List.length_filter_le _ b.entries

/-- A stream has no more bytes than the entries. -/
theorem textBytes_completedTexts_le (b : LogBuffer) (stream : LogStream) :
    textBytes (b.completedTexts stream) ≤ entryBytes b.entries := by
  have hsub : ((b.entries.filter (·.stream = stream)).map (·.text.length)).Sublist
      (b.entries.map (·.text.length)) :=
    List.filter_sublist.map _
  simpa [textBytes, completedTexts, entryBytes, Function.comp_def] using hsub.sum_le_sum (by simp)

/-- If the lines that `data` completes fit beside what is there, appending it drops nothing. -/
theorem appendBytes_droppedEntries {b : LogBuffer} (hinv : b.Inv) (s : LogStream) (ts : ℤ)
    (data : Bytes) {lines : List Bytes}
    (hlines : (run lineStep (b.partialForStream s).lineState data).2 = lines)
    (h : overLimits b.limits (b.entries.length + lines.length)
      (b.retainedBytes + textBytes lines) = false) :
    (appendBytes s ts b data).droppedEntries = b.droppedEntries := by
  induction data generalizing b lines with
  | nil => rfl
  | cons ch rest ih =>
      have hread := PartialLine.run_lineStep_read (hinv.noCr s) ts ch rest
      have hinv' := inv_appendByte hinv s ts ch rest.head?
      change (appendBytes s ts (b.appendByte s ts ch rest.head?) rest).droppedEntries = _
      rw [hread] at hlines
      rw [appendByte_eq] at hinv' ⊢
      rcases hr : (b.partialForStream s).read ts ch rest.head? with ⟨line, _ | text⟩
      · rw [hr] at hlines hinv'
        simp only [Option.toList_none, List.nil_append] at hlines hinv' ⊢
        have hrest := ih hinv' (by simpa using hlines) (by simpa [countByte] using h)
        simpa using hrest
      · rw [hr] at hlines hinv'
        simp only [Option.toList_some, List.cons_append, List.nil_append] at hlines hinv' ⊢
        subst hlines
        have hpush : (b.countByte.setPartialForStream s line).completeLine s text ts =
            (b.countByte.setPartialForStream s line).pushLine s text ts := by
          refine completeLine_of_not_overLimits _ s text ts ?_
          refine overLimits_mono ?_ ?_ (by simpa [countByte] using h)
          · simp
          · simp [textBytes_cons, countByte]
        rw [hpush] at hinv' ⊢
        have hrest := ih hinv' rfl ?_
        · rw [hrest]
          simp [pushLine]
        · rw [partialForStream_pushLine, partialForStream_setPartialForStream_self]
          simpa [pushLine, countByte, textBytes_cons, Nat.add_assoc, Nat.add_comm,
            Nat.add_left_comm] using h

/-- Nothing has been read into a new buffer. -/
theorem view_empty (source : EvidenceSourceRef) (limits : LogBufferLimits) (stream : LogStream) :
    view stream (empty source limits) = ({}, []) := by
  cases stream <;> rfl

/-- Appending a whole stream to an empty buffer drops nothing when its lines are within the
limits. -/
theorem append_whole_droppedEntries (source : EvidenceSourceRef) (limits : LogBufferLimits)
    (stream : LogStream) (data : Bytes) (ts : ℤ) {lines : List Bytes}
    (hlines : (run lineStep {} data).2 = lines)
    (h : overLimits limits lines.length (textBytes lines) = false) :
    ((empty source limits).append stream data ts).droppedEntries = 0 := by
  have hinv := inv_empty source limits
  obtain ⟨p, hp, heq⟩ := append_eq (empty source limits) stream data ts
  have hpcr : p.NoCr := PartialLine.noCr_of_lineState_eq hp (hinv.noCr stream)
  have hstate : p.lineState = {} := by
    rw [hp]
    exact congrArg Prod.fst (view_empty source limits stream)
  have hread : (run lineStep
      (((empty source limits).setPartialForStream stream p).partialForStream stream).lineState
        data).2 = lines := by
    rw [partialForStream_setPartialForStream_self, hstate, hlines]
  rw [heq,
    appendBytes_droppedEntries (inv_setPartialForStream hinv stream hpcr) stream ts data hread]
  · simp [empty]
  · simpa [empty] using h

/-- **Line splitting does not depend on the chunks.** Take any append calls on both streams, whose
lines the limits do not evict. For either stream, appending all its bytes in one call to an empty
buffer evicts nothing either, and gives the same completed lines, the same line under assembly and
the same pending carriage return. -/
theorem appendAll_eq_append_whole (source : EvidenceSourceRef) (limits : LogBufferLimits)
    (calls : List AppendCall) (stream : LogStream) (timestampUnixMs : ℤ)
    (h : ((empty source limits).appendAll calls).droppedEntries = 0) :
    let cut := (empty source limits).appendAll calls
    let whole := (empty source limits).append stream (streamData stream calls) timestampUnixMs
    whole.droppedEntries = 0 ∧
      cut.completedTexts stream = whole.completedTexts stream ∧
      (cut.partialForStream stream).text = (whole.partialForStream stream).text ∧
      (cut.partialForStream stream).pendingCr = (whole.partialForStream stream).pendingCr := by
  intro cut whole
  have hinv := inv_empty source limits
  have hcutInv : cut.Inv := inv_appendAll hinv calls
  have hcut : view stream cut = run lineStep {} (streamData stream calls) := by
    rw [appendAll_view hinv calls h stream, view_empty]
    simp [feed]
  have hlines : (run lineStep {} (streamData stream calls)).2 = cut.completedTexts stream :=
    (congrArg Prod.snd hcut).symm
  have hfits : overLimits limits (cut.completedTexts stream).length
      (textBytes (cut.completedTexts stream)) = false := by
    have hlimits : cut.limits = limits := limits_appendAll _ calls
    have hcutFits := hcutInv.fits
    rw [hlimits, hcutInv.accounted] at hcutFits
    exact overLimits_mono (completedTexts_length_le cut stream)
      (textBytes_completedTexts_le cut stream) hcutFits
  have hdropped : whole.droppedEntries = 0 :=
    append_whole_droppedEntries source limits stream _ timestampUnixMs hlines hfits
  have hwhole : view stream whole = run lineStep {} (streamData stream calls) := by
    rw [append_view hinv stream stream _ timestampUnixMs hdropped, view_empty]
    simp [feed]
  have hview : view stream cut = view stream whole := hcut.trans hwhole.symm
  refine ⟨hdropped, congrArg Prod.snd hview, ?_, ?_⟩
  · exact congrArg (fun v => v.1.text) hview
  · exact congrArg (fun v => v.1.pendingCr) hview

/-- A line whose terminator is cut in two, with the other stream's line in between. -/
theorem appendAll_eq_append_whole_cut_crlf :
    let source : EvidenceSourceRef := { kind := .managedLogSession, sessionId := "s_1" }
    let calls : List AppendCall :=
      [⟨.stdout, utf8 "one\r", 1⟩, ⟨.stderr, utf8 "err\n", 2⟩, ⟨.stdout, utf8 "\ntwo\r", 3⟩]
    let cut := (empty source {}).appendAll calls
    let whole := (empty source {}).append .stdout (streamData .stdout calls) 9
    cut.completedTexts .stdout = [utf8 "one"] ∧
      (whole.droppedEntries = 0 ∧
        cut.completedTexts .stdout = whole.completedTexts .stdout ∧
        (cut.partialForStream .stdout).text = (whole.partialForStream .stdout).text ∧
        (cut.partialForStream .stdout).pendingCr = (whole.partialForStream .stdout).pendingCr) :=
  ⟨by decide, appendAll_eq_append_whole _ {} _ .stdout 9 (by decide)⟩

end LogBuffer

end Sentrits.Service
