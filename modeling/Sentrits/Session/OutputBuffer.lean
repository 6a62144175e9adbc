import Mathlib.Algebra.BigOperators.Group.List.Basic
import Mathlib.Data.List.TakeWhile
import Sentrits.Found.Bytes

/-!
# The output buffer of a terminal session

`SessionOutputBuffer` keeps the last bytes a session wrote, in the chunks they were read in, each
with a sequence number; the oldest chunks go when the capacity is exceeded. Readers ask for the
tail or for everything from a sequence number on.

* `SessionOutputBuffer.Inv`: the retained chunks carry consecutive numbers that end just below the
  next one, and the tracked size is their size and within the capacity; `inv_empty`, `inv_append`.
* `append_chunks`: an append keeps a suffix of the old chunks and adds the new one.
* `tail_data`: the tail is the last bytes of everything retained.
* `chunksFrom`, `chunksFrom_append`: **what a reader has not seen yet** grows by exactly the new
  chunk, as long as nothing at or after its position is evicted.

Sequence numbers are `std::uint64_t` and sizes `std::size_t` in the source, and natural numbers
here: a sequence number goes up by one for each chunk that was read.

Source: `src/session/session_output_buffer.cpp`.
-/

namespace Sentrits.Session

open Found

/-- Source: `session_output_buffer.h` `OutputChunk`. -/
structure OutputChunk where
  seq : ℕ
  data : Bytes
  deriving DecidableEq

/-- Source: `session_output_buffer.h` `OutputSlice`. -/
structure OutputSlice where
  seqStart : ℕ := 0
  seqEnd : ℕ := 0
  data : Bytes := []
  deriving DecidableEq

/-- Source: `session_output_buffer.h` `SessionOutputBuffer`. -/
structure SessionOutputBuffer where
  capacityBytes : ℕ
  sizeBytes : ℕ := 0
  nextSequence : ℕ := 1
  chunks : List OutputChunk := []
  deriving DecidableEq

/-- The data of some chunks, concatenated. -/
def chunkData (chunks : List OutputChunk) : Bytes :=
  chunks.flatMap (·.data)

/-- No chunks, no bytes. -/
@[simp] theorem chunkData_nil : chunkData [] = [] := rfl

/-- The bytes of the first chunk come first. -/
@[simp] theorem chunkData_cons (chunk : OutputChunk) (chunks : List OutputChunk) :
    chunkData (chunk :: chunks) = chunk.data ++ chunkData chunks := by
  simp [chunkData]

/-- The bytes of two lists of chunks, one after the other. -/
@[simp] theorem chunkData_append (xs ys : List OutputChunk) :
    chunkData (xs ++ ys) = chunkData xs ++ chunkData ys := by
  simp [chunkData]

/-- The last `n` bytes. -/
def lastBytes (n : ℕ) (data : Bytes) : Bytes :=
  data.drop (data.length - n)

/-- All there is, if more is asked for. -/
theorem lastBytes_of_length_le {n : ℕ} {data : Bytes} (h : data.length ≤ n) :
    lastBytes n data = data := by
  rw [lastBytes, Nat.sub_eq_zero_of_le h, List.drop_zero]

/-- What is far enough back does not matter for the last bytes. -/
theorem lastBytes_append {n : ℕ} (older : Bytes) {data : Bytes} (h : n ≤ data.length) :
    lastBytes n (older ++ data) = lastBytes n data := by
  have hlen : (older ++ data).length - n = older.length + (data.length - n) := by
    rw [List.length_append]
    omega
  rw [lastBytes, hlen, ← List.drop_drop, List.drop_left, lastBytes]

/-- There are so many last bytes as are asked for, or all. -/
theorem lastBytes_length (n : ℕ) (data : Bytes) :
    (lastBytes n data).length = min n data.length := by
  rw [lastBytes, List.length_drop]
  omega

/-- The last bytes are none only if there are none. -/
theorem lastBytes_eq_nil {n : ℕ} (hn : 0 < n) {data : Bytes} (h : lastBytes n data = []) :
    data = [] := by
  have hlen := congrArg List.length h
  rw [lastBytes_length, List.length_nil] at hlen
  exact List.length_eq_zero_iff.mp (by omega)

namespace SessionOutputBuffer

/-- Source: `session_output_buffer.cpp` `SessionOutputBuffer::EvictIfNeeded`; the loop, over the
chunks that are left. -/
def evictLoop (b : SessionOutputBuffer) : List OutputChunk → SessionOutputBuffer
  | [] => { b with chunks := [] }
  | chunk :: rest =>
      if b.sizeBytes > b.capacityBytes then
        evictLoop { b with sizeBytes := b.sizeBytes - chunk.data.length } rest
      else
        { b with chunks := chunk :: rest }

/-- What `Append` keeps of a piece of data that exceeds the capacity. -/
def clip (b : SessionOutputBuffer) (data : Bytes) : Bytes :=
  if data.length > b.capacityBytes then data.drop (data.length - b.capacityBytes) else data

/-- The buffer with the new chunk at its back, before eviction. -/
def push (b : SessionOutputBuffer) (data : Bytes) : SessionOutputBuffer :=
  { b with
    sizeBytes := b.sizeBytes + data.length
    chunks := b.chunks ++ [{ seq := b.nextSequence, data := data }]
    nextSequence := b.nextSequence + 1 }

/-- Source: `session_output_buffer.cpp` `SessionOutputBuffer::Append`. -/
def append (b : SessionOutputBuffer) (data : Bytes) : SessionOutputBuffer :=
  if data.isEmpty then b
  else
    let pushed := b.push (b.clip data)
    pushed.evictLoop pushed.chunks

/-- Source: `session_output_buffer.cpp` `SessionOutputBuffer::latest_sequence`. -/
def latestSequence (b : SessionOutputBuffer) : Option ℕ :=
  b.chunks.getLast?.map (·.seq)

/-- The slice that starts and ends with the given chunks. -/
def sliceOf : List OutputChunk → OutputSlice
  | [] => {}
  | chunk :: rest =>
      { seqStart := chunk.seq
        seqEnd := ((chunk :: rest).getLast (List.cons_ne_nil chunk rest)).seq
        data := chunkData (chunk :: rest) }

/-- The backward loop of `Tail`: `newest` holds the chunks still to look at, the newest first;
`kept` those from `first_index` on, in order. -/
def tailLoop (maxBytes : ℕ) (bytesCollected : ℕ) (kept : List OutputChunk) :
    List OutputChunk → List OutputChunk
  | [] => kept
  | chunk :: older =>
      if maxBytes ≤ bytesCollected then kept
      else
        let bytesCollected := bytesCollected + min chunk.data.length maxBytes
        if maxBytes ≤ bytesCollected then chunk :: kept
        else tailLoop maxBytes bytesCollected (chunk :: kept) older

/-- Source: `session_output_buffer.cpp` `SessionOutputBuffer::Tail`. -/
def tail (b : SessionOutputBuffer) (maxBytes : ℕ) : OutputSlice :=
  if b.chunks.isEmpty || maxBytes == 0 then {}
  else
    let slice := sliceOf (tailLoop maxBytes 0 [] b.chunks.reverse)
    if slice.data.length > maxBytes then
      { slice with data := slice.data.drop (slice.data.length - maxBytes) }
    else slice

/-- The retained chunks from a sequence number on. -/
def chunksFrom (b : SessionOutputBuffer) (firstSequence : ℕ) : List OutputChunk :=
  b.chunks.dropWhile (·.seq < firstSequence)

/-- Source: `session_output_buffer.cpp` `SessionOutputBuffer::SliceFromSequence`. -/
def sliceFromSequence (b : SessionOutputBuffer) (firstSequence : ℕ) : OutputSlice :=
  sliceOf (b.chunksFrom firstSequence)

/-- Source: `session_output_buffer.cpp` `SessionOutputBuffer::SessionOutputBuffer`. -/
def empty (capacityBytes : ℕ) : SessionOutputBuffer where
  capacityBytes := capacityBytes

/-! ### Slices -/

/-- A slice has the bytes of its chunks. -/
@[simp] theorem sliceOf_data (chunks : List OutputChunk) :
    (sliceOf chunks).data = chunkData chunks := by
  cases chunks <;> rfl

/-- A slice ends with its last chunk. -/
theorem sliceOf_append_singleton (chunks : List OutputChunk) (chunk : OutputChunk) :
    (sliceOf (chunks ++ [chunk])).seqEnd = chunk.seq := by
  cases chunks with
  | nil => rfl
  | cons c cs => simp [sliceOf]

/-! ### The invariant -/

/-- **Invariant of the buffer.** -/
structure Inv (b : SessionOutputBuffer) : Prop where
  /-- The sequence numbers are consecutive and end just below the next one. -/
  seqs : b.chunks.map (·.seq) =
    List.range' (b.nextSequence - b.chunks.length) b.chunks.length
  /-- They start above zero. -/
  positive : b.chunks.length < b.nextSequence
  /-- `size_bytes_` counts the retained data. -/
  sized : b.sizeBytes = (chunkData b.chunks).length
  /-- The data is within the capacity. -/
  bounded : b.sizeBytes ≤ b.capacityBytes

/-- An empty buffer. -/
theorem inv_empty (capacityBytes : ℕ) : (empty capacityBytes).Inv where
  seqs := rfl
  positive := Nat.zero_lt_one
  sized := rfl
  bounded := Nat.zero_le _

/-- No chunk has the next number yet. -/
theorem Inv.seq_lt {b : SessionOutputBuffer} (h : b.Inv) {chunk : OutputChunk}
    (hmem : chunk ∈ b.chunks) : chunk.seq < b.nextSequence := by
  have hseq : chunk.seq ∈ b.chunks.map (·.seq) := List.mem_map_of_mem hmem
  have hpos := h.positive
  rw [h.seqs, List.mem_range'_1] at hseq
  omega

/-- Two retained chunks have different numbers. -/
theorem Inv.nodup {b : SessionOutputBuffer} (h : b.Inv) : (b.chunks.map (·.seq)).Nodup := by
  rw [h.seqs]
  exact List.nodup_range'

/-- A slice of the newest chunks ends just below the next sequence number. -/
theorem Inv.sliceOf_seqEnd {b : SessionOutputBuffer} (h : b.Inv) {older kept : List OutputChunk}
    (hchunks : b.chunks = older ++ kept) (hne : kept ≠ []) :
    (sliceOf kept).seqEnd + 1 = b.nextSequence := by
  obtain ⟨ks, last, rfl⟩ := (List.eq_nil_or_concat kept).resolve_left hne
  rw [List.concat_eq_append] at hchunks ⊢
  have hseqs := h.seqs
  have hpos := h.positive
  have hlen : b.chunks.length = (older ++ ks).length + 1 := by
    rw [hchunks]
    simp [Nat.add_assoc]
  rw [hlen, List.range'_concat, hchunks, ← List.append_assoc, List.map_append, List.map_cons,
    List.map_nil] at hseqs
  have hlast := List.append_inj_right hseqs (by simp)
  rw [List.cons.injEq, ← hlen] at hlast
  rw [sliceOf_append_singleton, hlast.1]
  omega

/-! ### Appending -/

/-- Eviction drops chunks from the front until the rest fits; what is left is accounted for. -/
theorem evictLoop_spec (b : SessionOutputBuffer) (l : List OutputChunk)
    (hsize : b.sizeBytes = (chunkData l).length) :
    ∃ dropped kept, l = dropped ++ kept ∧
      b.evictLoop l = { b with chunks := kept, sizeBytes := (chunkData kept).length } ∧
      (chunkData kept).length ≤ b.capacityBytes := by
  induction l generalizing b with
  | nil => exact ⟨[], [], rfl, by simp [evictLoop, hsize], by simp⟩
  | cons chunk rest ih =>
      unfold evictLoop
      split_ifs with hover
      · obtain ⟨dropped, kept, hl, heq, hle⟩ :=
          ih { b with sizeBytes := b.sizeBytes - chunk.data.length } (by simp [hsize])
        exact ⟨chunk :: dropped, kept, by rw [hl, List.cons_append], heq, hle⟩
      · refine ⟨[], chunk :: rest, rfl, by rw [← hsize], ?_⟩
        rw [← hsize]
        omega

/-- Eviction never drops a last chunk that fits by itself. -/
theorem evictLoop_keeps_last (b : SessionOutputBuffer) (l : List OutputChunk) (last : OutputChunk)
    (hsize : b.sizeBytes = (chunkData (l ++ [last])).length)
    (hfit : last.data.length ≤ b.capacityBytes) :
    ∃ dropped kept, l = dropped ++ kept ∧
      (b.evictLoop (l ++ [last])).chunks = kept ++ [last] := by
  induction l generalizing b with
  | nil =>
      refine ⟨[], [], rfl, ?_⟩
      have hover : ¬ b.sizeBytes > b.capacityBytes := by
        simp at hsize
        omega
      simp [evictLoop, hover]
  | cons chunk rest ih =>
      rw [List.cons_append, evictLoop]
      split_ifs with hover
      · obtain ⟨dropped, kept, hl, heq⟩ :=
          ih { b with sizeBytes := b.sizeBytes - chunk.data.length } (by simp [hsize]) hfit
        exact ⟨chunk :: dropped, kept, by rw [hl, List.cons_append], heq⟩
      · exact ⟨[], chunk :: rest, rfl, rfl⟩

/-- Eviction changes neither the next number nor the capacity. -/
theorem evictLoop_frame (b : SessionOutputBuffer) (l : List OutputChunk) :
    (b.evictLoop l).nextSequence = b.nextSequence ∧
      (b.evictLoop l).capacityBytes = b.capacityBytes := by
  induction l generalizing b with
  | nil => exact ⟨rfl, rfl⟩
  | cons chunk rest ih =>
      unfold evictLoop
      split_ifs
      · exact ih _
      · exact ⟨rfl, rfl⟩

/-- What is kept of an append fits. -/
theorem clip_length_le (b : SessionOutputBuffer) (data : Bytes) :
    (b.clip data).length ≤ b.capacityBytes := by
  unfold clip
  split_ifs with h
  · rw [List.length_drop]
    omega
  · omega

/-- What fits is kept as it is. -/
theorem clip_of_length_le {b : SessionOutputBuffer} {data : Bytes}
    (h : data.length ≤ b.capacityBytes) : b.clip data = data :=
  if_neg (by omega)

/-- Nothing is appended. -/
@[simp] theorem append_nil (b : SessionOutputBuffer) : b.append [] = b := rfl

/-- **An append keeps a suffix of the old chunks and adds the new one.** -/
theorem append_chunks {b : SessionOutputBuffer} (h : b.Inv) {data : Bytes} (hdata : data ≠ []) :
    ∃ dropped kept, b.chunks = dropped ++ kept ∧
      (b.append data).chunks = kept ++ [{ seq := b.nextSequence, data := b.clip data }] := by
  have hsize : (b.push (b.clip data)).sizeBytes =
      (chunkData (b.chunks ++ [{ seq := b.nextSequence, data := b.clip data }])).length := by
    simp [push, h.sized]
  obtain ⟨dropped, kept, hl, heq⟩ := evictLoop_keeps_last (b.push (b.clip data)) b.chunks _ hsize
    (b.clip_length_le data)
  refine ⟨dropped, kept, hl, ?_⟩
  rw [append, if_neg (by simpa using hdata)]
  exact heq

/-- An append takes one number, and leaves the capacity. -/
theorem append_frame (b : SessionOutputBuffer) {data : Bytes} (hdata : data ≠ []) :
    (b.append data).nextSequence = b.nextSequence + 1 ∧
      (b.append data).capacityBytes = b.capacityBytes := by
  rw [append, if_neg (by simpa using hdata)]
  exact evictLoop_frame (b.push (b.clip data)) _

/-- **An append keeps the invariant.** -/
theorem inv_append {b : SessionOutputBuffer} (h : b.Inv) (data : Bytes) : (b.append data).Inv := by
  by_cases hdata : data = []
  · rw [hdata, append_nil]
    exact h
  have hsize : (b.push (b.clip data)).sizeBytes =
      (chunkData (b.push (b.clip data)).chunks).length := by
    simp [push, h.sized]
  obtain ⟨dropped, kept, hl, heq, hle⟩ := evictLoop_spec (b.push (b.clip data)) _ hsize
  have happend : b.append data =
      { b.push (b.clip data) with chunks := kept, sizeBytes := (chunkData kept).length } := by
    rw [append, if_neg (by simpa using hdata)]
    exact heq
  have hpos := h.positive
  have hlen : dropped.length + kept.length = b.chunks.length + 1 := by
    have := congrArg List.length hl
    simpa [push] using this.symm
  rw [happend]
  refine ⟨?_, ?_, rfl, hle⟩
  · -- the numbers of all chunks with the new one are consecutive, and `kept` is a suffix of them
    have hall : (dropped ++ kept).map (·.seq) =
        List.range' (b.nextSequence - b.chunks.length) (dropped.length + kept.length) := by
      rw [← hl, hlen, List.range'_concat]
      simp only [push, List.map_append, h.seqs, List.map_cons, List.map_nil]
      rw [Nat.one_mul, Nat.sub_add_cancel hpos.le]
    have hkept := congrArg (List.drop dropped.length) hall
    rw [List.map_append, List.drop_left' (by simp), List.drop_range'] at hkept
    show kept.map (·.seq) = List.range' (b.nextSequence + 1 - kept.length) kept.length
    rw [hkept]
    congr 1 <;> omega
  · show kept.length < b.nextSequence + 1
    omega

/-- A buffer with a history: every piece of data that was appended, in order. -/
def appendAll (b : SessionOutputBuffer) (pieces : List Bytes) : SessionOutputBuffer :=
  pieces.foldl append b

/-- Any appends keep the invariant. -/
theorem inv_appendAll {b : SessionOutputBuffer} (h : b.Inv) (pieces : List Bytes) :
    (b.appendAll pieces).Inv := by
  induction pieces generalizing b with
  | nil => exact h
  | cons data pieces ih => exact ih (inv_append h data)

/-! ### The tail -/

/-- The backward loop keeps a suffix: all of it, or one with enough bytes. -/
theorem tailLoop_spec (maxBytes collected : ℕ) (kept newest : List OutputChunk)
    (hcollected : collected ≤ (chunkData kept).length) :
    ∃ older, newest.reverse ++ kept = older ++ tailLoop maxBytes collected kept newest ∧
      (older = [] ∨ maxBytes ≤ (chunkData (tailLoop maxBytes collected kept newest)).length) := by
  induction newest generalizing collected kept with
  | nil => exact ⟨[], by simp [tailLoop], Or.inl rfl⟩
  | cons chunk newest ih =>
      unfold tailLoop
      dsimp only
      split_ifs with henough henough'
      · exact ⟨(chunk :: newest).reverse, rfl, Or.inr (henough.trans hcollected)⟩
      · refine ⟨newest.reverse, by simp, Or.inr ?_⟩
        rw [chunkData_cons, List.length_append]
        omega
      · obtain ⟨older, heq, hor⟩ := ih (collected + min chunk.data.length maxBytes) (chunk :: kept)
          (by rw [chunkData_cons, List.length_append]; omega)
        exact ⟨older, by rw [← heq]; simp, hor⟩

/-- **The tail is the last bytes of everything retained.** -/
theorem tail_data (b : SessionOutputBuffer) (maxBytes : ℕ) :
    (b.tail maxBytes).data = lastBytes maxBytes (chunkData b.chunks) := by
  unfold tail
  split_ifs with hnone
  · rcases Bool.or_eq_true_iff.mp hnone with hempty | hzero
    · rw [List.isEmpty_iff.mp hempty]
      simp [lastBytes]
    · rw [beq_iff_eq.mp hzero]
      simp [lastBytes]
  · obtain ⟨older, heq, hor⟩ := tailLoop_spec maxBytes 0 [] b.chunks.reverse (Nat.zero_le _)
    rw [List.reverse_reverse, List.append_nil] at heq
    generalize tailLoop maxBytes 0 [] b.chunks.reverse = kept at heq hor
    have hlast : lastBytes maxBytes (chunkData b.chunks) =
        lastBytes maxBytes (chunkData kept) := by
      rw [heq, chunkData_append]
      rcases hor with rfl | hle
      · rw [chunkData_nil, List.nil_append]
      · rw [lastBytes_append _ hle]
    rw [hlast]
    dsimp only
    split_ifs with hlong
    · rw [sliceOf_data, lastBytes]
    · rw [sliceOf_data] at hlong ⊢
      rw [lastBytes_of_length_le (by omega)]

/-- A tail of a non-empty buffer ends with the newest chunk. -/
theorem tail_seqEnd {b : SessionOutputBuffer} (h : b.Inv) {maxBytes : ℕ} (hmax : 0 < maxBytes)
    (hne : b.chunks ≠ []) : (b.tail maxBytes).seqEnd + 1 = b.nextSequence := by
  obtain ⟨older, heq, hor⟩ := tailLoop_spec maxBytes 0 [] b.chunks.reverse (Nat.zero_le _)
  rw [List.reverse_reverse, List.append_nil] at heq
  have hkept : tailLoop maxBytes 0 [] b.chunks.reverse ≠ [] := by
    intro hnil
    rw [hnil] at heq hor
    rcases hor with rfl | hle
    · exact hne heq
    · rw [chunkData_nil, List.length_nil] at hle
      omega
  have hend := h.sliceOf_seqEnd heq hkept
  unfold tail
  rw [if_neg (by simp [hne, hmax.ne'])]
  dsimp only
  split_ifs
  · exact hend
  · exact hend

/-- A tail without data is the tail of a buffer without data. -/
theorem chunkData_of_tail_data {b : SessionOutputBuffer} {maxBytes : ℕ} (hmax : 0 < maxBytes)
    (hdata : (b.tail maxBytes).data = []) : chunkData b.chunks = [] :=
  lastBytes_eq_nil hmax ((b.tail_data maxBytes).symm.trans hdata)

/-- An empty buffer has an empty tail. -/
theorem tail_of_chunks_nil {b : SessionOutputBuffer} (h : b.chunks = []) (maxBytes : ℕ) :
    b.tail maxBytes = {} := by
  simp [tail, h]

/-- The tail ends below the next sequence number. -/
theorem tail_seqEnd_lt {b : SessionOutputBuffer} (h : b.Inv) {maxBytes : ℕ} (hmax : 0 < maxBytes) :
    (b.tail maxBytes).seqEnd < b.nextSequence := by
  have hpos := h.positive
  by_cases hnone : b.chunks = []
  · rw [tail_of_chunks_nil hnone]
    exact Nat.zero_lt_of_lt hpos
  · have hseq := tail_seqEnd h hmax hnone
    omega

/-! ### Reading on from a sequence number -/

/-- **What a reader at `first` has not seen yet grows by the new chunk**, as long as the append
evicts nothing at or after its position. -/
theorem chunksFrom_append {b : SessionOutputBuffer} (h : b.Inv) {data : Bytes} (hdata : data ≠ [])
    {first : ℕ} (hfirst : first ≤ b.nextSequence)
    (hkeep : ∀ chunk ∈ b.chunks, first ≤ chunk.seq → chunk ∈ (b.append data).chunks) :
    (b.append data).chunksFrom first =
      b.chunksFrom first ++ [{ seq := b.nextSequence, data := b.clip data }] := by
  obtain ⟨dropped, kept, hl, happend⟩ := append_chunks h hdata
  have hdropped : ∀ chunk ∈ dropped, chunk.seq < first := by
    intro chunk hmem
    by_contra hge
    have hin : chunk ∈ b.chunks := by
      rw [hl]
      exact List.mem_append_left _ hmem
    have hkept := hkeep chunk hin (by omega)
    rw [happend, List.mem_append, List.mem_singleton] at hkept
    have hlt := h.seq_lt hin
    rcases hkept with hkept | rfl
    · have hnodup := h.nodup
      rw [hl, List.map_append] at hnodup
      exact (List.nodup_append.mp hnodup).2.2 _ (List.mem_map_of_mem hmem) _
        (List.mem_map_of_mem hkept) rfl
    · exact absurd hlt (lt_irrefl _)
  have hnew : ¬ b.nextSequence < first := by omega
  have hold : ∀ chunk ∈ dropped, decide (chunk.seq < first) = true := by simpa using hdropped
  rw [chunksFrom, chunksFrom, happend, hl, List.dropWhile_append_of_pos hold,
    List.dropWhile_append]
  split_ifs with hnone
  · rw [List.isEmpty_iff.mp hnone]
    simp [hnew]
  · rfl

/-- Nothing is left from the next sequence number on. -/
theorem chunksFrom_nextSequence {b : SessionOutputBuffer} (h : b.Inv) :
    b.chunksFrom b.nextSequence = [] := by
  rw [chunksFrom, List.dropWhile_eq_nil_iff]
  intro chunk hmem
  simpa using h.seq_lt hmem

/-- A buffer without data has none from any position on. -/
theorem chunkData_chunksFrom_of_nil {b : SessionOutputBuffer} (h : chunkData b.chunks = [])
    (first : ℕ) : chunkData (b.chunksFrom first) = [] := by
  have hsplit : chunkData b.chunks =
      chunkData (b.chunks.takeWhile (·.seq < first)) ++ chunkData (b.chunksFrom first) := by
    rw [← chunkData_append, chunksFrom, List.takeWhile_append_dropWhile]
  rw [h] at hsplit
  exact (List.append_eq_nil_iff.mp hsplit.symm).2

/-- A slice that is not empty ends with the newest chunk. -/
theorem sliceFromSequence_seqEnd {b : SessionOutputBuffer} (h : b.Inv) {first : ℕ}
    (hne : b.chunksFrom first ≠ []) : (b.sliceFromSequence first).seqEnd + 1 = b.nextSequence :=
  h.sliceOf_seqEnd (List.takeWhile_append_dropWhile).symm hne

/-- A slice that carries data ends at or behind the position it was asked for. -/
theorem le_sliceFromSequence_seqEnd {b : SessionOutputBuffer} (h : b.Inv) {first : ℕ}
    (hdata : (b.sliceFromSequence first).data ≠ []) :
    first ≤ (b.sliceFromSequence first).seqEnd + 1 := by
  rw [sliceFromSequence, sliceOf_data] at hdata
  rcases hfrom : b.chunksFrom first with _ | ⟨chunk, chunks⟩
  · rw [hfrom] at hdata
    exact absurd rfl hdata
  · have hne : b.chunksFrom first ≠ [] := by rw [hfrom]; exact List.cons_ne_nil _ _
    have hfirst : ¬ chunk.seq < first := by
      have hhead : decide (((b.chunksFrom first).head hne).seq < first) = false :=
        List.head_dropWhile_not _ hne
      have heq : (b.chunksFrom first).head hne = chunk := by simp only [hfrom, List.head_cons]
      rw [heq] at hhead
      simpa using hhead
    have hmem : chunk ∈ b.chunks :=
      (List.dropWhile_suffix _).subset (hfrom ▸ List.mem_cons_self : chunk ∈ b.chunksFrom first)
    have hlt := h.seq_lt hmem
    rw [sliceFromSequence_seqEnd h hne]
    omega

end SessionOutputBuffer

end Sentrits.Session
