import Mathlib.Algebra.GroupWithZero.Nat
import Sentrits.Found.Utf8Cuts
import Sentrits.Service.SessionEntry

/-!
# Tails as text

The tails of a session are sent as JSON strings. They are cut by bytes: by the capacity of the
buffer, which drops whole pieces, and by what is asked for.

* `keptBytes`: how many bytes of the output the buffer keeps, by the sizes of the pieces it came in.
* `chunkData_appendAll`: **what is retained** are the last bytes of the output, so many of them.
* `isText_lastBytes_iff`: the end of a text is text exactly when it begins between two characters.
* `tails_areText_iff`: **the tails are text exactly when** they begin between two characters of the
  output.

Sources: `src/session/session_output_buffer.cpp`, `src/session/session_runtime.cpp`,
`src/service/session_manager.cpp`.
-/

namespace Sentrits.Session

open Found Found.Bytes

/-! ### What is retained -/

/-- How many bytes are kept of pieces with some sizes, the oldest first: of the newest pieces as
many as fit all together. -/
def keptBytes (capacityBytes : ℕ) : List ℕ → ℕ
  | [] => 0
  | size :: newer =>
      if size + newer.sum ≤ capacityBytes then size + newer.sum else keptBytes capacityBytes newer

/-- The oldest piece stays if all fit. -/
theorem keptBytes_cons (capacityBytes size : ℕ) (newer : List ℕ) :
    keptBytes capacityBytes (size :: newer) =
      if size + newer.sum ≤ capacityBytes then size + newer.sum
      else keptBytes capacityBytes newer := by
  rfl

/-- What fits is kept. -/
theorem keptBytes_of_fits {capacityBytes : ℕ} {sizes : List ℕ} (h : sizes.sum ≤ capacityBytes) :
    keptBytes capacityBytes sizes = sizes.sum := by
  rcases sizes with _ | ⟨size, newer⟩
  · rfl
  · rw [List.sum_cons] at h ⊢
    exact if_pos h

/-- Where the oldest piece does not fit it is left out. -/
theorem keptBytes_cons_of_not_fits {capacityBytes size : ℕ} {newer : List ℕ}
    (h : capacityBytes < size + newer.sum) :
    keptBytes capacityBytes (size :: newer) = keptBytes capacityBytes newer := by
  exact if_neg (Nat.not_le.mpr h)

/-- A piece without bytes makes no difference. -/
theorem keptBytes_zero (capacityBytes : ℕ) (sizes newer : List ℕ) :
    keptBytes capacityBytes (sizes ++ 0 :: newer) = keptBytes capacityBytes (sizes ++ newer) := by
  induction sizes with
  | nil =>
      rw [List.nil_append, List.nil_append, keptBytes_cons, Nat.zero_add]
      split_ifs with hfits
      · exact (keptBytes_of_fits hfits).symm
      · rfl
  | cons size sizes ih =>
      rw [List.cons_append, List.cons_append, keptBytes_cons, keptBytes_cons, ih, List.sum_append,
        List.sum_append, List.sum_cons, Nat.zero_add]

/-- The bytes of chunks, counted. -/
theorem length_chunkData (chunks : List OutputChunk) :
    (chunkData chunks).length = (chunks.map (·.data.length)).sum := by
  unfold chunkData
  rw [List.length_flatMap]

namespace SessionOutputBuffer

/-- What eviction drops would not be kept later either. -/
theorem keptBytes_evictLoop (b : SessionOutputBuffer) (l : List OutputChunk)
    (hsize : b.sizeBytes = (chunkData l).length) (newer : List ℕ) :
    keptBytes b.capacityBytes ((b.evictLoop l).chunks.map (·.data.length) ++ newer) =
      keptBytes b.capacityBytes (l.map (·.data.length) ++ newer) := by
  induction l generalizing b with
  | nil => rfl
  | cons chunk rest ih =>
      unfold evictLoop
      split_ifs with hover
      · have hrest := ih { b with sizeBytes := b.sizeBytes - chunk.data.length } (by simp [hsize])
        rw [chunkData_cons, List.length_append, length_chunkData] at hsize
        have hlong : b.capacityBytes <
            chunk.data.length + (rest.map (·.data.length) ++ newer).sum := by
          rw [List.sum_append]
          omega
        rw [List.map_cons, List.cons_append, keptBytes_cons_of_not_fits hlong]
        exact hrest
      · rfl

/-- The sizes that count: no piece has more bytes than the buffer. -/
def sizes (capacityBytes : ℕ) (pieces : List Bytes) : List ℕ :=
  pieces.map fun data => min data.length capacityBytes

/-- So many bytes of an append are kept. -/
theorem length_clip (b : SessionOutputBuffer) (data : Bytes) :
    (b.clip data).length = min data.length b.capacityBytes := by
  unfold clip
  split_ifs with hlong
  · rw [List.length_drop]
    omega
  · omega

/-- What is retained after some pieces: a suffix of them, as much as the sizes tell. -/
structure Retains (b : SessionOutputBuffer) (pieces : List Bytes) : Prop where
  inv : b.Inv
  suffix : chunkData b.chunks <:+ pieces.flatten
  kept : ∀ newer, keptBytes b.capacityBytes (b.chunks.map (·.data.length) ++ newer) =
    keptBytes b.capacityBytes (sizes b.capacityBytes pieces ++ newer)

/-- An append keeps what is said of the bytes. -/
theorem retains_append {b : SessionOutputBuffer} {pieces : List Bytes} (h : b.Retains pieces)
    (data : Bytes) : (b.append data).Retains (pieces ++ [data]) := by
  have hpieces : sizes b.capacityBytes (pieces ++ [data]) =
      sizes b.capacityBytes pieces ++ [min data.length b.capacityBytes] := List.map_append
  by_cases hdata : data = []
  · subst hdata
    rw [append_nil]
    refine ⟨h.inv, ?_, ?_⟩
    · rw [List.flatten_concat, List.append_nil]
      exact h.suffix
    · intro newer
      rw [h.kept, hpieces, List.append_assoc, List.length_nil, Nat.zero_min]
      exact (keptBytes_zero _ _ _).symm
  · obtain ⟨dropped, kept, hl, happend⟩ := append_chunks h.inv hdata
    have hcapacity := (b.append_frame hdata).2
    have hsize : (b.push (b.clip data)).sizeBytes =
        (chunkData (b.push (b.clip data)).chunks).length := by
      simp [push, h.inv.sized]
    refine ⟨inv_append h.inv data, ?_, ?_⟩
    · rw [happend, chunkData_append, chunkData_cons, chunkData_nil, List.append_nil,
        List.flatten_concat]
      by_cases hlong : data.length ≤ b.capacityBytes
      · rw [clip_of_length_le hlong]
        have hkept : chunkData kept <:+ pieces.flatten := by
          refine List.IsSuffix.trans ?_ h.suffix
          rw [hl, chunkData_append]
          exact List.suffix_append _ _
        obtain ⟨front, hfront⟩ := hkept
        refine ⟨front, ?_⟩
        rw [← List.append_assoc, hfront]
      · -- the piece fills the buffer, so nothing else is left
        have hbounded := (inv_append h.inv data).bounded
        rw [(inv_append h.inv data).sized, happend, chunkData_append, chunkData_cons, chunkData_nil,
          List.append_nil, List.length_append, length_clip, hcapacity] at hbounded
        have hnone : chunkData kept = [] := by
          apply List.eq_nil_of_length_eq_zero
          omega
        have hclip : b.clip data <:+ data := by
          unfold clip
          split_ifs
          · exact List.drop_suffix _ _
          · exact List.suffix_refl _
        rw [hnone, List.nil_append]
        exact hclip.trans (List.suffix_append _ _)
    · intro newer
      have hevict := keptBytes_evictLoop (b.push (b.clip data)) _ hsize newer
      have heq : b.append data =
          (b.push (b.clip data)).evictLoop (b.push (b.clip data)).chunks := by
        unfold append
        rw [if_neg (by simpa using hdata)]
      have hpushed : (b.push (b.clip data)).chunks.map (·.data.length) =
          b.chunks.map (·.data.length) ++ [min data.length b.capacityBytes] := by
        unfold push
        rw [List.map_append, List.map_singleton, length_clip]
      rw [hcapacity, hpieces, List.append_assoc, ← h.kept, ← List.append_assoc, ← hpushed, heq]
      exact hevict

/-- Any appends keep what is said of the bytes. -/
theorem retains_appendAll {b : SessionOutputBuffer} {before : List Bytes} (h : b.Retains before)
    (pieces : List Bytes) : (b.appendAll pieces).Retains (before ++ pieces) := by
  induction pieces generalizing b before with
  | nil =>
      rw [List.append_nil]
      exact h
  | cons data pieces ih =>
      have hnext := ih (retains_append h data)
      rw [List.append_assoc] at hnext
      exact hnext

/-- Nothing is kept of nothing. -/
theorem retains_empty (capacityBytes : ℕ) : (empty capacityBytes).Retains [] :=
  ⟨inv_empty capacityBytes, List.suffix_refl _, fun _ => rfl⟩

/-- The capacity stays. -/
theorem capacityBytes_appendAll (b : SessionOutputBuffer) (pieces : List Bytes) :
    (b.appendAll pieces).capacityBytes = b.capacityBytes := by
  induction pieces generalizing b with
  | nil => rfl
  | cons data pieces ih =>
      refine (ih (b.append data)).trans ?_
      by_cases hdata : data = []
      · rw [hdata, append_nil]
      · exact (b.append_frame hdata).2

/-- **What is retained** are the last bytes of all the pieces, as many as the sizes tell. -/
theorem chunkData_appendAll (capacityBytes : ℕ) (pieces : List Bytes) :
    chunkData ((empty capacityBytes).appendAll pieces).chunks =
      lastBytes (keptBytes capacityBytes (sizes capacityBytes pieces)) pieces.flatten := by
  have h := retains_appendAll (retains_empty capacityBytes) pieces
  have hcapacity := capacityBytes_appendAll (empty capacityBytes) pieces
  have hlength := h.kept []
  have hbounded := h.inv.bounded
  rw [h.inv.sized, length_chunkData] at hbounded
  rw [List.append_nil, List.append_nil, keptBytes_of_fits hbounded, ← length_chunkData, hcapacity]
    at hlength
  have hsuffix := List.suffix_iff_eq_drop.mp h.suffix
  rw [hlength] at hsuffix
  exact hsuffix

end SessionOutputBuffer

/-! ### Where the tails begin -/

/-- The end of the end. -/
theorem lastBytes_lastBytes (n kept : ℕ) (data : Bytes) :
    lastBytes n (lastBytes kept data) = lastBytes (min n kept) data := by
  unfold lastBytes
  rw [List.drop_drop, List.length_drop]
  congr 1
  rcases Nat.le_total n kept with hle | hle
  · rw [Nat.min_eq_left hle]
    omega
  · rw [Nat.min_eq_right hle]
    omega

/-- **The end of a text is text exactly when** it begins between two characters. -/
theorem isText_lastBytes_iff (n : ℕ) (chars : List Char) :
    IsText (lastBytes n (encode chars)) ↔ IsCut chars ((encode chars).length - n) := by
  exact isText_drop_iff (Nat.sub_le _ _)

namespace SessionRuntime

/-- A session reads some output. Source: the loop of `session_runtime.cpp` `PollOnce`. -/
def readOutput (r : SessionRuntime) (data : Bytes) : SessionRuntime :=
  if data.isEmpty then r else r.recordOutput data

/-- What a session is after it has read some pieces of output. -/
def readAll (r : SessionRuntime) (pieces : List Bytes) : SessionRuntime :=
  pieces.foldl readOutput r

/-- What is read is appended. -/
theorem outputBuffer_readOutput (r : SessionRuntime) (data : Bytes) :
    (r.readOutput data).outputBuffer = r.outputBuffer.append data := by
  unfold readOutput
  split_ifs with hnone
  · rw [List.isEmpty_iff.mp hnone, SessionOutputBuffer.append_nil]
  · rfl

/-- All that is read is appended. -/
theorem outputBuffer_readAll (r : SessionRuntime) (pieces : List Bytes) :
    (r.readAll pieces).outputBuffer = r.outputBuffer.appendAll pieces := by
  induction pieces generalizing r with
  | nil => rfl
  | cons data pieces ih =>
      refine (ih (r.readOutput data)).trans ?_
      rw [outputBuffer_readOutput]
      rfl

/-- The record shows the tail of the buffer. -/
theorem recentTerminalTail_readAll {r : SessionRuntime}
    (h : r.record.recentTerminalTail = (r.outputBuffer.tail (64 * 1024)).data)
    (pieces : List Bytes) :
    (r.readAll pieces).record.recentTerminalTail =
      ((r.readAll pieces).outputBuffer.tail (64 * 1024)).data := by
  induction pieces generalizing r with
  | nil => exact h
  | cons data pieces ih =>
      apply ih
      unfold readOutput
      split_ifs
      · exact h
      · rfl

end SessionRuntime

/-- The tails that are sent of a session are text: of what its buffer holds, what its record shows,
and what is left of that when the session is recovered and so many bytes are asked for. -/
structure TailsAreText (r : SessionRuntime) (maxBytes : ℕ) : Prop where
  tail : IsText (r.outputBuffer.tail maxBytes).data
  recent : IsText r.record.recentTerminalTail
  recovered : ∀ snapshot : Service.SessionSnapshot,
    snapshot.recentTerminalTail = r.record.recentTerminalTail →
      IsText (Service.makeRecoveredTailSlice snapshot maxBytes).data

/-- The place in the output where a tail of some bytes begins. -/
def tailStart (capacityBytes : ℕ) (pieces : List Bytes) (maxBytes : ℕ) : ℕ :=
  pieces.flatten.length -
    min maxBytes (keptBytes capacityBytes (SessionOutputBuffer.sizes capacityBytes pieces))

/-- **A tail is text exactly when** it begins between two characters. -/
theorem isText_tail_iff {capacityBytes : ℕ} {pieces : List Bytes} {chars : List Char}
    (h : encode chars = pieces.flatten) (maxBytes : ℕ) :
    IsText (((SessionOutputBuffer.empty capacityBytes).appendAll pieces).tail maxBytes).data ↔
      IsCut chars (tailStart capacityBytes pieces maxBytes) := by
  rw [SessionOutputBuffer.tail_data, SessionOutputBuffer.chunkData_appendAll, lastBytes_lastBytes,
    ← h, isText_lastBytes_iff, h]
  rfl

/-- **The tails are text exactly when** they begin between two characters of the output. -/
theorem tails_areText_iff (metadata : SessionMetadata) (launchSpec : LaunchSpec)
    (capacityBytes maxBytes : ℕ) {pieces : List Bytes} {chars : List Char}
    (h : encode chars = pieces.flatten) :
    TailsAreText ((SessionRuntime.new { metadata } launchSpec capacityBytes).readAll pieces)
        maxBytes ↔
      IsCut chars (tailStart capacityBytes pieces maxBytes) ∧
        IsCut chars (tailStart capacityBytes pieces (64 * 1024)) := by
  have hbuffer : ((SessionRuntime.new { metadata } launchSpec capacityBytes).readAll
      pieces).outputBuffer = (SessionOutputBuffer.empty capacityBytes).appendAll pieces :=
    SessionRuntime.outputBuffer_readAll _ pieces
  have hrecent : ((SessionRuntime.new { metadata } launchSpec capacityBytes).readAll
      pieces).record.recentTerminalTail =
        (((SessionOutputBuffer.empty capacityBytes).appendAll pieces).tail (64 * 1024)).data := by
    rw [← hbuffer]
    exact SessionRuntime.recentTerminalTail_readAll rfl pieces
  rw [← isText_tail_iff h, ← isText_tail_iff h]
  constructor
  · intro htext
    refine ⟨?_, ?_⟩
    · rw [← hbuffer]
      exact htext.tail
    · rw [← hrecent]
      exact htext.recent
  · rintro ⟨htail, hrecord⟩
    refine ⟨by rw [hbuffer]; exact htail, by rw [hrecent]; exact hrecord, ?_⟩
    intro snapshot hsnapshot
    rw [Service.makeRecoveredTailSlice_data, hsnapshot, hrecent]
    -- whichever of the two cuts is the later one
    rcases le_total maxBytes (64 * 1024) with hle | hle
    · rw [SessionOutputBuffer.tail_data, lastBytes_lastBytes, min_eq_left hle,
        ← SessionOutputBuffer.tail_data]
      exact htail
    · rw [SessionOutputBuffer.tail_data, lastBytes_lastBytes, min_eq_right hle,
        ← SessionOutputBuffer.tail_data]
      exact hrecord

/-- A session that has read two letters of two bytes each, in pieces that cut them. -/
def lettersRead : SessionRuntime :=
  let metadata : SessionMetadata :=
    { id := "s_1", provider := .codex, workspaceRoot := "/", title := "letters" }
  let launchSpec := buildLaunchSpec metadata (defaultProviderConfig .codex)
  (SessionRuntime.new { metadata } launchSpec 8).readAll [[0xc3], [0xa9, 0xc3], [0xa9]]

/-- Its last two bytes are a letter, and the last one is none. -/
theorem tails_areText_iff_letters :
    TailsAreText lettersRead 2 ∧ ¬TailsAreText lettersRead 1 := by
  have hletters : ∀ maxBytes, TailsAreText lettersRead maxBytes ↔ _ := fun maxBytes =>
    tails_areText_iff _ _ 8 maxBytes (show encode ['é', 'é'] = _ by decide)
  refine ⟨(hletters 2).mpr ⟨⟨['é'], by decide, by decide⟩, ⟨[], by decide, by decide⟩⟩, ?_⟩
  rw [hletters 1]
  rintro ⟨⟨front, hprefix, hlength⟩, -⟩
  have hnone : ∀ count < 3, (encode (['é', 'é'].take count)).length ≠
      tailStart 8 [[0xc3], [0xa9, 0xc3], [0xa9]] 1 := by
    decide
  rw [List.prefix_iff_eq_take.mp hprefix] at hlength
  exact hnone front.length (Nat.lt_succ_of_le hprefix.length_le) hlength

/-- The last byte of a letter of two bytes is no text. -/
theorem letter_tail_notText :
    ¬∀ (capacityBytes : ℕ) (pieces : List Bytes) (maxBytes : ℕ), IsText pieces.flatten →
      IsText (((SessionOutputBuffer.empty capacityBytes).appendAll pieces).tail maxBytes).data := by
  intro h
  have hwhole : encode ['é'] = [[0xc3], [0xa9]].flatten := by decide
  have htail := h 8 [[0xc3], [0xa9]] 1 (by rw [← hwhole]; exact isText_encode _)
  have hsplit : String.utf8EncodeChar 'é' = [0xc3] ++ 0xa9 :: [] := by decide
  have hnot : ¬IsText (0xa9 :: [] ++ []) := not_isText_of_within (List.cons_ne_nil _ _) hsplit
  exact hnot htail

end Sentrits.Session
