import Sentrits.Found.Runs
import Sentrits.Session.OutputBuffer

/-!
# Reading the output of a session

A reader asks the output buffer for everything from one number on, and next for what is behind the
last number it was given. What was evicted before it asked is lost to it.

* `tail_seqStart`: a tail starts with the chunk that holds its first byte.
* `OutputReader`, `step`: the buffer, everything that was appended to it, and what the reader asked
  for and was given.
* `ReadInv`, `readInv_step`: **the reader has everything** with a lower number than it asks for
  next, once and in order, but what was lost.
* `outputBuffer_law`: the books, the tails and the reader, in every run.

Source: `src/session/session_output_buffer.cpp`.
-/

namespace Sentrits.Session

open Found Found.Runs

namespace SessionOutputBuffer

/-! ### The first chunk of a tail -/

/-- The chunks of a tail but the first have fewer bytes than are asked for. -/
theorem tailLoop_first (maxBytes collected : ℕ) (kept newest : List OutputChunk)
    (hcollected : collected = (chunkData kept).length) (hfew : collected < maxBytes)
    (hnewest : newest ≠ []) :
    ∃ chunk newer, tailLoop maxBytes collected kept newest = chunk :: newer ∧
      (chunkData newer).length < maxBytes := by
  induction newest generalizing collected kept with
  | nil => exact absurd rfl hnewest
  | cons chunk older ih =>
      unfold tailLoop
      dsimp only
      rw [if_neg (Nat.not_le.mpr hfew)]
      split_ifs with henough
      · exact ⟨chunk, kept, rfl, hcollected ▸ hfew⟩
      · rcases older with _ | ⟨next, older⟩
        · exact ⟨chunk, kept, rfl, hcollected ▸ hfew⟩
        · apply ih
          · rw [chunkData_cons, List.length_append]
            omega
          · omega
          · exact List.cons_ne_nil _ _

/-- The chunk holds the byte at some place of the retained data. -/
def Holds (b : SessionOutputBuffer) (chunk : OutputChunk) (place : ℕ) : Prop :=
  ∃ older newer, b.chunks = older ++ chunk :: newer ∧ (chunkData older).length ≤ place ∧
    place < (chunkData older).length + chunk.data.length

/-- **A tail starts with the chunk that holds its first byte.** -/
theorem tail_seqStart {b : SessionOutputBuffer} (h : b.Inv)
    (hnonempty : ∀ chunk ∈ b.chunks, chunk.data ≠ []) {maxBytes : ℕ} (hmax : 1 ≤ maxBytes)
    (hne : b.chunks ≠ []) :
    ∃ chunk, (b.tail maxBytes).seqStart = chunk.seq ∧
      b.Holds chunk (b.sizeBytes - min maxBytes b.sizeBytes) := by
  have hnewest : b.chunks.reverse ≠ [] := fun hnil => hne (List.reverse_eq_nil_iff.mp hnil)
  obtain ⟨older, heq, hor⟩ := tailLoop_spec maxBytes 0 [] b.chunks.reverse (Nat.zero_le _)
  obtain ⟨chunk, newer, hkept, hfew⟩ :=
    tailLoop_first maxBytes 0 [] b.chunks.reverse rfl hmax hnewest
  rw [List.reverse_reverse, List.append_nil, hkept] at heq
  rw [hkept] at hor
  have hchunk : 0 < chunk.data.length := by
    apply List.length_pos_iff.mpr
    apply hnonempty chunk
    rw [heq]
    exact List.mem_append_right _ List.mem_cons_self
  have hsize : b.sizeBytes =
      (chunkData older).length + (chunk.data.length + (chunkData newer).length) := by
    rw [h.sized, heq, chunkData_append, chunkData_cons, List.length_append, List.length_append]
  refine ⟨chunk, ?_, older, newer, heq, ?_⟩
  · unfold tail
    rw [if_neg (by simp [hne, Nat.one_le_iff_ne_zero.mp hmax]), hkept]
    dsimp only
    split_ifs
    · rfl
    · rfl
  · rcases hor with rfl | hle
    · rw [chunkData_nil, List.length_nil] at hsize ⊢
      omega
    · rw [chunkData_cons, List.length_append] at hle
      omega

/-- A tail is exact: the last bytes, as many as there are, under the number of the chunk that holds
the first of them. -/
structure TailExact (b : SessionOutputBuffer) (maxBytes : ℕ) : Prop where
  data : (b.tail maxBytes).data = lastBytes maxBytes (chunkData b.chunks)
  length : (b.tail maxBytes).data.length = min maxBytes b.sizeBytes
  start : ∃ chunk, (b.tail maxBytes).seqStart = chunk.seq ∧
    b.Holds chunk (b.sizeBytes - min maxBytes b.sizeBytes)

/-- **A tail is exact** when no chunk is empty. -/
theorem tailExact {b : SessionOutputBuffer} (h : b.Inv)
    (hnonempty : ∀ chunk ∈ b.chunks, chunk.data ≠ []) {maxBytes : ℕ} (hmax : 1 ≤ maxBytes)
    (hne : b.chunks ≠ []) : b.TailExact maxBytes where
  data := b.tail_data maxBytes
  length := by rw [b.tail_data, lastBytes_length, h.sized]
  start := tail_seqStart h hnonempty hmax hne

end SessionOutputBuffer

/-! ### A reader -/

/-- What a reader asked for, the number that was to be given next and what the buffer held then, and
what the reader was given. -/
structure OutputRead where
  asked : ℕ
  nextSequence : ℕ
  retained : List OutputChunk
  slice : OutputSlice
  deriving DecidableEq

/-- The chunk had been appended and was asked for, but it was evicted before. -/
def OutputRead.Lost (read : OutputRead) (chunk : OutputChunk) : Prop :=
  read.asked ≤ chunk.seq ∧ chunk.seq < read.nextSequence ∧ chunk ∉ read.retained

instance (read : OutputRead) (chunk : OutputChunk) : Decidable (read.Lost chunk) :=
  inferInstanceAs (Decidable (_ ∧ _))

/-- The buffer, every piece that was appended to it under the number that it got, the number the
reader asks for next, and what it asked for so far. -/
structure OutputReader where
  buffer : SessionOutputBuffer
  appended : List OutputChunk := []
  requested : ℕ := 1
  reads : List OutputRead := []
  deriving DecidableEq

namespace OutputReader

/-- Something is appended, or the reader asks. -/
inductive Op
  | append (data : Bytes)
  | read
  deriving DecidableEq

/-- The reader asks for what is behind the last number it was given. -/
def read (s : OutputReader) : OutputReader :=
  let slice := s.buffer.sliceFromSequence s.requested
  { s with
    requested := if slice.data = [] then s.requested else slice.seqEnd + 1
    reads := s.reads ++
      [{ asked := s.requested
         nextSequence := s.buffer.nextSequence
         retained := s.buffer.chunks
         slice }] }

/-- A piece of data is appended. -/
def append (s : OutputReader) (data : Bytes) : OutputReader :=
  { s with
    buffer := s.buffer.append data
    appended :=
      if data = [] then s.appended
      else s.appended ++ [{ seq := s.buffer.nextSequence, data }] }

/-- Both are possible at any time. -/
def step (s : OutputReader) : Op → Option OutputReader
  | .append data => some (s.append data)
  | .read => some s.read

/-- Nothing is appended yet, and the reader asks for the first number that is given. -/
def start (capacityBytes : ℕ) : OutputReader where
  buffer := .empty capacityBytes

/-- All that the reader was given. -/
def received (s : OutputReader) : Bytes := s.reads.flatMap (·.slice.data)

/-- What was appended under lower numbers than the reader asks for next, but what was lost. -/
def delivered (s : OutputReader) : List OutputChunk :=
  s.appended.filter fun chunk =>
    chunk.seq < s.requested ∧ ¬∃ read ∈ s.reads, read.Lost chunk

/-! ### The books -/

/-- The buffer's books are right, and no chunk is empty. -/
structure Books (capacityBytes : ℕ) (s : OutputReader) : Prop where
  buffer : s.buffer.Inv
  capacity : s.buffer.capacityBytes = capacityBytes
  nonempty : ∀ chunk ∈ s.buffer.chunks, chunk.data ≠ []

/-- Something is kept of every append. -/
theorem clip_ne_nil {b : SessionOutputBuffer} (hcapacity : 1 ≤ b.capacityBytes) {data : Bytes}
    (h : data ≠ []) : b.clip data ≠ [] := by
  have hdata := List.length_pos_iff.mpr h
  unfold SessionOutputBuffer.clip
  split_ifs
  · apply List.length_pos_iff.mp
    rw [List.length_drop]
    omega
  · exact h

/-- An append keeps the books. -/
theorem books_append {capacityBytes : ℕ} (hcapacity : 1 ≤ capacityBytes) {s : OutputReader}
    (h : s.Books capacityBytes) (data : Bytes) : (s.append data).Books capacityBytes := by
  by_cases hdata : data = []
  · subst hdata
    exact ⟨h.buffer, h.capacity, h.nonempty⟩
  · obtain ⟨dropped, kept, hl, happend⟩ := SessionOutputBuffer.append_chunks h.buffer hdata
    refine ⟨SessionOutputBuffer.inv_append h.buffer data,
      (s.buffer.append_frame hdata).2.trans h.capacity, ?_⟩
    intro chunk hchunk
    have hmem : chunk ∈ kept ++ [{ seq := s.buffer.nextSequence, data := s.buffer.clip data }] := by
      rw [← happend]
      exact hchunk
    rcases List.mem_append.mp hmem with hkept | hnew
    · apply h.nonempty chunk
      rw [hl]
      exact List.mem_append_right _ hkept
    · rw [List.mem_singleton.mp hnew]
      exact clip_ne_nil (by rw [h.capacity]; exact hcapacity) hdata

/-- Every step keeps the books. -/
theorem books_step {capacityBytes : ℕ} (hcapacity : 1 ≤ capacityBytes) {s s' : OutputReader}
    {op : Op} (h : s.Books capacityBytes) (hstep : s.step op = some s') :
    s'.Books capacityBytes := by
  rcases op with data | _
  · obtain rfl := Option.some.inj hstep
    exact books_append hcapacity h data
  · obtain rfl := Option.some.inj hstep
    exact ⟨h.buffer, h.capacity, h.nonempty⟩

/-- **The books are right in every reachable state.** -/
theorem books_reaches {capacityBytes : ℕ} (hcapacity : 1 ≤ capacityBytes) {ops : List Op}
    {s : OutputReader} (h : Reaches step (start capacityBytes) ops s) : s.Books capacityBytes := by
  apply h.invariant (Books capacityBytes)
  · intro s op s' hbooks hstep
    exact books_step hcapacity hbooks hstep
  · exact ⟨SessionOutputBuffer.inv_empty capacityBytes, rfl,
      fun _ hchunk => absurd hchunk List.not_mem_nil⟩

/-! ### What the reader is given -/

/-- What is in front in a list is dropped together when the rest is never like it. -/
theorem dropWhile_eq_filter {α : Type} {p : α → Bool} {l : List α}
    (h : l.Pairwise fun a b => p b = true → p a = true) :
    l.dropWhile p = l.filter fun a => !p a := by
  induction l with
  | nil => rfl
  | cons a l ih =>
      rw [List.pairwise_cons] at h
      rcases ha : p a with _ | _
      · have hall : ∀ b ∈ l, (!p b) = true := by
          intro b hb
          rcases hpb : p b with _ | _
          · rfl
          · exact absurd (h.1 b hb hpb) (by rw [ha]; exact Bool.false_ne_true)
        rw [List.dropWhile_cons_of_neg (by simp [ha]), List.filter_cons_of_pos (by simp [ha]),
          List.filter_eq_self.mpr hall]
      · rw [List.dropWhile_cons_of_pos ha, List.filter_cons_of_neg (by simp [ha]), ih h.2]

/-- Two kinds are filtered one after the other when all of the one are in front. -/
theorem filter_or_of_pairwise {α : Type} {p q : α → Bool} {l : List α}
    (h : l.Pairwise fun a b => q a = true → p b = false)
    (hdisjoint : ∀ a, q a = true → p a = false) :
    (l.filter fun a => p a || q a) = l.filter p ++ l.filter q := by
  induction l with
  | nil => rfl
  | cons a l ih =>
      rw [List.pairwise_cons] at h
      rcases hq : q a with _ | _
      · rcases hp : p a with _ | _
        · rw [List.filter_cons_of_neg (by simp [hp, hq]), List.filter_cons_of_neg (by simp [hp]),
            List.filter_cons_of_neg (by simp [hq]), ih h.2]
        · rw [List.filter_cons_of_pos (by simp [hp]), List.filter_cons_of_pos hp,
            List.filter_cons_of_neg (by simp [hq]), ih h.2, List.cons_append]
      · have hnone : l.filter p = [] := by
          rw [List.filter_eq_nil_iff]
          intro b hb
          rw [h.1 b hb hq]
          exact Bool.false_ne_true
        have hrest := ih h.2
        rw [hnone, List.nil_append] at hrest
        have hp : ¬p a = true := by
          rw [hdisjoint a hq]
          exact Bool.false_ne_true
        rw [List.filter_cons_of_pos (by simp [hq]), List.filter_cons_of_neg hp,
          List.filter_cons_of_pos hq, hnone, hrest, List.nil_append]

/-- What holds of the reader when no piece that was appended exceeds the capacity. -/
structure ReadInv (s : OutputReader) : Prop where
  /-- Every piece has a number of its own, without gaps. -/
  numbered : s.appended.map (·.seq) = List.range' 1 s.appended.length
  next : s.buffer.nextSequence = s.appended.length + 1
  nonempty : ∀ chunk ∈ s.appended, chunk.data ≠ []
  /-- The buffer holds the newest pieces, the last one always. -/
  retained : s.buffer.chunks <:+ s.appended
  newest : s.appended ≠ [] → s.buffer.chunks ≠ []
  requested : 1 ≤ s.requested ∧ s.requested ≤ s.buffer.nextSequence
  /-- What was asked for is below what is asked for next. -/
  asked : ∀ read ∈ s.reads, read.nextSequence ≤ s.requested
  /-- The reader was given everything in order, but what was lost. -/
  order : s.received = chunkData s.delivered
  /-- The reader sees when something was lost. -/
  shown : ∀ read ∈ s.reads,
    read.asked < read.slice.seqStart ↔ ∃ chunk ∈ s.appended, read.Lost chunk

/-- The numbers of the appends ascend. -/
theorem ReadInv.pairwise {s : OutputReader} (h : s.ReadInv) :
    s.appended.Pairwise fun older newer => older.seq < newer.seq := by
  have hsorted : (List.range' 1 s.appended.length).Pairwise (· < ·) := List.pairwise_lt_range'
  rwa [← h.numbered, List.pairwise_map] at hsorted

/-- The numbers of the appends begin with one, and end before the next. -/
theorem ReadInv.seq_lt {s : OutputReader} (h : s.ReadInv) {chunk : OutputChunk}
    (hchunk : chunk ∈ s.appended) : 1 ≤ chunk.seq ∧ chunk.seq < s.buffer.nextSequence := by
  have hseq : chunk.seq ∈ s.appended.map (·.seq) := List.mem_map_of_mem hchunk
  rw [h.numbered, List.mem_range'_1] at hseq
  rw [h.next]
  omega

/-- Every number that was given is one of a piece. -/
theorem ReadInv.exists_seq {s : OutputReader} (h : s.ReadInv) {seq : ℕ} (hpos : 1 ≤ seq)
    (hlt : seq < s.buffer.nextSequence) : ∃ chunk ∈ s.appended, chunk.seq = seq := by
  have hmem : seq ∈ s.appended.map (·.seq) := by
    rw [h.numbered, List.mem_range'_1]
    rw [h.next] at hlt
    omega
  exact List.mem_map.mp hmem

/-- What is from a number on is what has no smaller number. -/
theorem ReadInv.chunksFrom_eq {s : OutputReader} (h : s.ReadInv) (first : ℕ) :
    s.buffer.chunksFrom first = s.buffer.chunks.filter fun chunk => first ≤ chunk.seq := by
  unfold SessionOutputBuffer.chunksFrom
  rw [dropWhile_eq_filter]
  · congr 1
    funext chunk
    rw [← decide_not]
    exact decide_eq_decide.mpr Nat.not_lt
  · apply (h.pairwise.sublist h.retained.sublist).imp
    intro older newer hlt hnewer
    simp only [decide_eq_true_eq] at hnewer ⊢
    omega

/-- What is left from some number on has all that is retained of it. -/
theorem ReadInv.filter_retained {s : OutputReader} (h : s.ReadInv) (first : ℕ) :
    (s.appended.filter fun chunk => decide (first ≤ chunk.seq ∧ chunk ∈ s.buffer.chunks)) =
      s.buffer.chunksFrom first := by
  obtain ⟨evicted, hsplit⟩ := h.retained
  have hsorted := h.pairwise
  rw [← hsplit, List.pairwise_append] at hsorted
  have hnone : (evicted.filter fun chunk =>
      decide (first ≤ chunk.seq ∧ chunk ∈ s.buffer.chunks)) = [] := by
    rw [List.filter_eq_nil_iff]
    intro chunk hchunk
    simp only [decide_eq_true_eq, not_and]
    intro _ hretained
    exact absurd (hsorted.2.2 chunk hchunk chunk hretained) (lt_irrefl _)
  have hall : (s.buffer.chunks.filter fun chunk =>
      decide (first ≤ chunk.seq ∧ chunk ∈ s.buffer.chunks)) =
        s.buffer.chunks.filter fun chunk => first ≤ chunk.seq := by
    apply List.filter_congr
    intro chunk hchunk
    simp [hchunk]
  conv_lhs => rw [← hsplit]
  rw [List.filter_append, hnone, List.nil_append, hall, h.chunksFrom_eq]

/-- What was evicted is older than everything retained. -/
theorem ReadInv.lt_of_notMem {s : OutputReader} (h : s.ReadInv) {chunk retained : OutputChunk}
    (hchunk : chunk ∈ s.appended) (hevicted : chunk ∉ s.buffer.chunks)
    (hretained : retained ∈ s.buffer.chunks) : chunk.seq < retained.seq := by
  obtain ⟨evicted, hsplit⟩ := h.retained
  have hsorted := h.pairwise
  rw [← hsplit, List.pairwise_append] at hsorted
  rw [← hsplit, List.mem_append] at hchunk
  exact hsorted.2.2 chunk (hchunk.resolve_right hevicted) retained hretained

/-- The newest piece is retained. -/
theorem ReadInv.exists_newest {s : OutputReader} (h : s.ReadInv)
    (hsome : 1 < s.buffer.nextSequence) :
    ∃ chunk ∈ s.buffer.chunks, chunk.seq + 1 = s.buffer.nextSequence := by
  have hpos : 1 ≤ s.buffer.nextSequence - 1 := by omega
  obtain ⟨chunk, hchunk, hseq⟩ := h.exists_seq hpos (by omega)
  have hne : s.appended ≠ [] := List.ne_nil_of_mem hchunk
  obtain ⟨retained, hretained⟩ := List.exists_mem_of_ne_nil _ (h.newest hne)
  refine ⟨chunk, ?_, by omega⟩
  by_contra hevicted
  have hlt := h.lt_of_notMem hchunk hevicted hretained
  have hbound := (h.seq_lt (h.retained.subset hretained)).2
  omega

/-- When a chunk is from a number on. -/
theorem ReadInv.mem_chunksFrom_iff {s : OutputReader} (h : s.ReadInv) {first : ℕ}
    {chunk : OutputChunk} :
    chunk ∈ s.buffer.chunksFrom first ↔ chunk ∈ s.buffer.chunks ∧ first ≤ chunk.seq := by
  rw [h.chunksFrom_eq, List.mem_filter, decide_eq_true_iff]

/-- Nothing is left only behind everything that was given. -/
theorem ReadInv.requested_eq {s : OutputReader} (h : s.ReadInv)
    (hnone : s.buffer.chunksFrom s.requested = []) : s.requested = s.buffer.nextSequence := by
  by_contra hne
  obtain ⟨hpos, hle⟩ := h.requested
  obtain ⟨chunk, hchunk, hseq⟩ := h.exists_newest (by omega)
  have hmem : chunk ∈ s.buffer.chunksFrom s.requested :=
    h.mem_chunksFrom_iff.mpr ⟨hchunk, by omega⟩
  rw [hnone] at hmem
  exact absurd hmem List.not_mem_nil

/-- The call that is made now. -/
def nextRead (s : OutputReader) : OutputRead where
  asked := s.requested
  nextSequence := s.buffer.nextSequence
  retained := s.buffer.chunks
  slice := s.buffer.sliceFromSequence s.requested

/-- Chunks that are not empty have bytes. -/
theorem chunkData_ne_nil {chunks : List OutputChunk} (h : ∀ chunk ∈ chunks, chunk.data ≠ [])
    (hne : chunks ≠ []) : chunkData chunks ≠ [] := by
  obtain ⟨chunk, rest, rfl⟩ := List.exists_cons_of_ne_nil hne
  rw [chunkData_cons]
  exact List.append_ne_nil_of_left_ne_nil (h chunk List.mem_cons_self) _

/-- Afterwards the reader asks for what comes next. -/
theorem ReadInv.requested_read {s : OutputReader} (h : s.ReadInv) (hbuffer : s.buffer.Inv) :
    s.read.requested = s.buffer.nextSequence := by
  have hdata : (s.buffer.sliceFromSequence s.requested).data =
      chunkData (s.buffer.chunksFrom s.requested) := SessionOutputBuffer.sliceOf_data _
  unfold read
  dsimp only
  rw [hdata]
  by_cases hnone : s.buffer.chunksFrom s.requested = []
  · rw [hnone, if_pos chunkData_nil]
    exact h.requested_eq hnone
  · have hne : chunkData (s.buffer.chunksFrom s.requested) ≠ [] := by
      apply chunkData_ne_nil _ hnone
      intro chunk hchunk
      exact h.nonempty chunk (h.retained.subset (h.mem_chunksFrom_iff.mp hchunk).1)
    rw [if_neg hne]
    exact SessionOutputBuffer.sliceFromSequence_seqEnd hbuffer hnone

/-- **The reader sees a loss**: a slice starts behind what was asked for exactly when something that
was asked for had been evicted. -/
theorem ReadInv.shown_nextRead {s : OutputReader} (h : s.ReadInv) :
    s.nextRead.asked < s.nextRead.slice.seqStart ↔
      ∃ chunk ∈ s.appended, s.nextRead.Lost chunk := by
  show s.requested < (SessionOutputBuffer.sliceOf (s.buffer.chunksFrom s.requested)).seqStart ↔ _
  rcases hfrom : s.buffer.chunksFrom s.requested with _ | ⟨first, rest⟩
  · apply iff_of_false (Nat.not_lt_zero _)
    rintro ⟨chunk, -, hasked, hlt, -⟩
    have heq := h.requested_eq hfrom
    change s.requested ≤ chunk.seq at hasked
    change chunk.seq < s.buffer.nextSequence at hlt
    omega
  · have hmem : first ∈ s.buffer.chunksFrom s.requested := by
      rw [hfrom]
      exact List.mem_cons_self
    obtain ⟨hretained, hasked⟩ := h.mem_chunksFrom_iff.mp hmem
    show s.requested < first.seq ↔ _
    constructor
    · intro hlt
      have hbound := (h.seq_lt (h.retained.subset hretained)).2
      obtain ⟨chunk, hchunk, hseq⟩ := h.exists_seq h.requested.1 (by omega)
      refine ⟨chunk, hchunk, hseq.ge, by rw [hseq]; exact hlt.trans hbound, ?_⟩
      -- if it were left, the slice would start with it
      intro hleft
      have hin : chunk ∈ first :: rest := by
        rw [← hfrom]
        exact h.mem_chunksFrom_iff.mpr ⟨hleft, hseq.ge⟩
      have hsublist : List.Sublist (s.buffer.chunksFrom s.requested) s.appended :=
        (List.dropWhile_sublist _).trans h.retained.sublist
      have hsorted := h.pairwise.sublist hsublist
      rw [hfrom, List.pairwise_cons] at hsorted
      rcases List.mem_cons.mp hin with rfl | hin
      · omega
      · have hbehind := hsorted.1 chunk hin
        omega
    · rintro ⟨chunk, hchunk, hrequested, -, hevicted⟩
      exact hrequested.trans_lt (h.lt_of_notMem hchunk hevicted hretained)

/-- What is delivered when the reader asks, behind what was delivered before. -/
theorem ReadInv.delivered_read {s : OutputReader} (h : s.ReadInv) (hbuffer : s.buffer.Inv) :
    s.read.delivered = s.delivered ++ s.buffer.chunksFrom s.requested := by
  have hrequested := h.requested_read hbuffer
  have hreads : s.read.reads = s.reads ++ [s.nextRead] := rfl
  have hkinds : s.read.delivered = s.appended.filter fun chunk =>
      decide (chunk.seq < s.requested ∧ ¬∃ read ∈ s.reads, read.Lost chunk) ||
        decide (s.requested ≤ chunk.seq ∧ chunk ∈ s.buffer.chunks) := by
    apply List.filter_congr
    intro chunk hchunk
    rw [← Bool.decide_or]
    apply decide_eq_decide.mpr
    rw [hrequested, hreads]
    have hlt := (h.seq_lt hchunk).2
    have hnow : s.nextRead.Lost chunk ↔ s.requested ≤ chunk.seq ∧ chunk ∉ s.buffer.chunks := by
      show (_ ∧ _ ∧ _) ↔ _
      rw [and_iff_right (show chunk.seq < s.nextRead.nextSequence from hlt)]
      rfl
    have hbefore : (∃ read ∈ s.reads, read.Lost chunk) → chunk.seq < s.requested := by
      rintro ⟨read, hread, -, hgiven, -⟩
      exact hgiven.trans_le (h.asked read hread)
    simp only [List.mem_append, List.mem_singleton, or_and_right, exists_or, exists_eq_left, hnow]
    by_cases hbelow : chunk.seq < s.requested
    · simp only [hbelow, hlt, Nat.not_le.mpr hbelow, false_and, or_false, true_and]
    · have hnever : ¬∃ read ∈ s.reads, read.Lost chunk := fun hlost => hbelow (hbefore hlost)
      simp only [hbelow, hlt, Nat.not_lt.mp hbelow, hnever, false_and, false_or, true_and,
        Decidable.not_not]
  rw [hkinds, filter_or_of_pairwise, h.filter_retained]
  · rfl
  · apply h.pairwise.imp
    intro older newer hlt holder
    rw [decide_eq_true_eq] at holder
    exact decide_eq_false fun hnewer => by omega
  · intro chunk hchunk
    rw [decide_eq_true_eq] at hchunk
    exact decide_eq_false fun hbelow => by omega

/-- A read keeps the invariant. -/
theorem readInv_read {s : OutputReader} (h : s.ReadInv) (hbuffer : s.buffer.Inv) :
    s.read.ReadInv := by
  have hrequested := h.requested_read hbuffer
  have hnext : s.read.buffer.nextSequence = s.buffer.nextSequence := rfl
  refine ⟨h.numbered, h.next, h.nonempty, h.retained, h.newest, ?_, ?_, ?_, ?_⟩
  · rw [hrequested, hnext]
    exact ⟨h.requested.1.trans h.requested.2, le_refl _⟩
  · intro read hread
    rw [hrequested]
    rcases List.mem_append.mp hread with hread | hread
    · exact (h.asked read hread).trans h.requested.2
    · rw [List.mem_singleton.mp hread]
  · have hreceived : s.read.received =
        s.received ++ chunkData (s.buffer.chunksFrom s.requested) := by
      show (s.reads ++ [s.nextRead]).flatMap _ = _
      rw [List.flatMap_append, List.flatMap_singleton]
      exact congrArg (s.received ++ ·) (SessionOutputBuffer.sliceOf_data _)
    rw [hreceived, h.order, h.delivered_read hbuffer, chunkData_append]
  · intro read hread
    rcases List.mem_append.mp hread with hread | hread
    · exact h.shown read hread
    · rw [List.mem_singleton.mp hread]
      exact h.shown_nextRead

/-- An append that fits keeps the invariant. -/
theorem readInv_append {capacityBytes : ℕ} {s : OutputReader} (h : s.ReadInv)
    (hbooks : s.Books capacityBytes) {data : Bytes} (hfits : data.length ≤ capacityBytes) :
    (s.append data).ReadInv := by
  by_cases hdata : data = []
  · subst hdata
    exact h
  · have hclip : s.buffer.clip data = data := by
      apply SessionOutputBuffer.clip_of_length_le
      rw [hbooks.capacity]
      exact hfits
    obtain ⟨dropped, kept, hl, happend⟩ := SessionOutputBuffer.append_chunks hbooks.buffer hdata
    rw [hclip] at happend
    have hnext := (s.buffer.append_frame hdata).1
    have happended : (s.append data).appended =
        s.appended ++ [{ seq := s.buffer.nextSequence, data }] := if_neg hdata
    have hnumber := h.next
    have hdelivered : (s.append data).delivered = s.delivered := by
      unfold delivered
      rw [happended, List.filter_append, List.filter_cons_of_neg, List.filter_nil, List.append_nil]
      · rfl
      · rw [decide_eq_true_eq]
        rintro ⟨hlt, -⟩
        exact absurd hlt (Nat.not_lt.mpr h.requested.2)
    refine ⟨?_, ?_, ?_, ?_, ?_, ?_, h.asked, ?_, ?_⟩
    · rw [happended, List.map_append, h.numbered, List.length_append, List.length_singleton,
        List.range'_concat, List.map_singleton, hnumber, Nat.one_mul, Nat.add_comm 1]
    · show (s.buffer.append data).nextSequence = _
      rw [hnext, happended, List.length_append, List.length_singleton, hnumber]
    · intro chunk hchunk
      rw [happended, List.mem_append, List.mem_singleton] at hchunk
      rcases hchunk with hchunk | rfl
      · exact h.nonempty chunk hchunk
      · exact hdata
    · show (s.buffer.append data).chunks <:+ _
      rw [happend, happended]
      obtain ⟨evicted, hsplit⟩ := h.retained
      refine ⟨evicted ++ dropped, ?_⟩
      rw [← hsplit, hl]
      simp only [List.append_assoc]
    · intro _
      show (s.buffer.append data).chunks ≠ []
      rw [happend]
      exact List.append_ne_nil_of_right_ne_nil _ (List.cons_ne_nil _ _)
    · show _ ∧ s.requested ≤ (s.buffer.append data).nextSequence
      rw [hnext]
      exact ⟨h.requested.1, h.requested.2.trans (Nat.le_succ _)⟩
    · rw [hdelivered]
      exact h.order
    · intro read hread
      rw [happended]
      refine (h.shown read hread).trans ?_
      constructor
      · rintro ⟨chunk, hchunk, hlost⟩
        exact ⟨chunk, List.mem_append_left _ hchunk, hlost⟩
      · rintro ⟨chunk, hchunk, hlost⟩
        rcases List.mem_append.mp hchunk with hchunk | hchunk
        · exact ⟨chunk, hchunk, hlost⟩
        · -- the new piece came after the call
          obtain ⟨-, hgiven, -⟩ := hlost
          rw [List.mem_singleton.mp hchunk] at hgiven
          exact absurd (hgiven.trans_le ((h.asked read hread).trans h.requested.2))
            (lt_irrefl _)

/-- No piece that was appended exceeds the capacity. -/
def Fitting (capacityBytes : ℕ) (s : OutputReader) : Prop :=
  ∀ chunk ∈ s.appended, chunk.data.length ≤ capacityBytes

/-- **Every call keeps it**, as long as no piece exceeds the capacity. -/
theorem readInv_step {capacityBytes : ℕ} {s s' : OutputReader} {op : Op}
    (hbooks : s.Books capacityBytes) (h : s.Fitting capacityBytes → s.ReadInv)
    (hstep : s.step op = some s') (hfitting : s'.Fitting capacityBytes) : s'.ReadInv := by
  rcases op with data | _
  · obtain rfl := Option.some.inj hstep
    by_cases hdata : data = []
    · subst hdata
      exact h hfitting
    · have happended : (s.append data).appended =
          s.appended ++ [{ seq := s.buffer.nextSequence, data }] := if_neg hdata
      unfold Fitting at hfitting
      rw [happended, List.forall_mem_append, List.forall_mem_singleton] at hfitting
      exact readInv_append (h hfitting.1) hbooks hfitting.2
  · obtain rfl := Option.some.inj hstep
    exact readInv_read (h hfitting) hbooks.buffer

/-- **The invariant holds in every run** in which all appends fit. -/
theorem readInv_reaches {capacityBytes : ℕ} (hcapacity : 1 ≤ capacityBytes) {ops : List Op}
    {s : OutputReader} (h : Reaches step (start capacityBytes) ops s)
    (hfitting : s.Fitting capacityBytes) : s.ReadInv := by
  have hboth : s.Books capacityBytes ∧ (s.Fitting capacityBytes → s.ReadInv) := by
    apply h.invariant fun s => s.Books capacityBytes ∧ (s.Fitting capacityBytes → s.ReadInv)
    · intro s op s' hinv hstep
      exact ⟨books_step hcapacity hinv.1 hstep, readInv_step hinv.1 hinv.2 hstep⟩
    · refine ⟨books_reaches hcapacity (.refl _), fun _ => ?_⟩
      exact ⟨rfl, rfl, fun _ hchunk => absurd hchunk List.not_mem_nil, List.nil_suffix,
        fun hne => absurd rfl hne, ⟨le_refl _, le_refl _⟩,
        fun _ hread => absurd hread List.not_mem_nil, rfl,
        fun _ hread => absurd hread List.not_mem_nil⟩
  exact hboth.2 hfitting

/-! ### The law -/

/-- The reader has everything that was appended under lower numbers than it asks for next, once and
in order, but what had been evicted when it asked for it; and it sees every such loss. -/
structure ReadsOn (s : OutputReader) : Prop where
  once : s.appended.map (·.seq) = List.range' 1 s.appended.length
  order : s.received = chunkData s.delivered
  shown : ∀ read ∈ s.reads,
    read.asked < read.slice.seqStart ↔ ∃ chunk ∈ s.appended, read.Lost chunk
  /-- When it asks now, it has everything. -/
  upToDate : s.read.requested = s.appended.length + 1

/-- **The books, the tails and the reader**, in every run. -/
theorem outputBuffer_law {capacityBytes : ℕ} (hcapacity : 1 ≤ capacityBytes) {ops : List Op}
    {s : OutputReader} (hrun : Reaches step (start capacityBytes) ops s) :
    s.buffer.Inv ∧ s.buffer.capacityBytes = capacityBytes ∧
      (∀ maxBytes, 1 ≤ maxBytes → s.buffer.chunks ≠ [] → s.buffer.TailExact maxBytes) ∧
      (s.Fitting capacityBytes → s.ReadsOn) := by
  have hbooks := books_reaches hcapacity hrun
  refine ⟨hbooks.buffer, hbooks.capacity, ?_, ?_⟩
  · intro maxBytes hmax hne
    exact SessionOutputBuffer.tailExact hbooks.buffer hbooks.nonempty hmax hne
  · intro hfitting
    have h := readInv_reaches hcapacity hrun hfitting
    exact ⟨h.numbered, h.order, h.shown, (h.requested_read hbooks.buffer).trans h.next⟩

/-- Of two pieces the first is evicted before the reader asks. -/
def lateReader : OutputReader := (((start 4).append [1, 2, 3]).append [4, 5]).read

/-- A reader that comes when a chunk is gone reads on. -/
theorem outputBuffer_law_late :
    lateReader.buffer.Inv ∧ lateReader.buffer.capacityBytes = 4 ∧
      (∀ maxBytes, 1 ≤ maxBytes → lateReader.buffer.chunks ≠ [] →
        lateReader.buffer.TailExact maxBytes) ∧ lateReader.ReadsOn := by
  have hrun : Reaches step (start 4) [.append [1, 2, 3], .append [4, 5], .read] lateReader :=
    .cons rfl (.cons rfl (.cons rfl (.refl _)))
  have hfitting : lateReader.Fitting 4 := by
    unfold Fitting
    decide
  obtain ⟨hinv, hcapacity, htail, hreads⟩ := outputBuffer_law (by decide) hrun
  exact ⟨hinv, hcapacity, htail, hreads hfitting⟩

example : lateReader.received = [4, 5] ∧ lateReader.reads.map (·.slice.seqStart) = [2] := by
  decide

end OutputReader

end Sentrits.Session
