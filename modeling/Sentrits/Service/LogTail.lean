import Mathlib.Data.List.Nodup
import Sentrits.Service.LogGrowth

/-!
# The tail of the log

`Tail` returns the newest retained entries and behind them the lines still under assembly, each as
an entry of its own.

* `makePartialEntry`, `tail`: the code.
* `partialStreams`: the streams that have a line under assembly.
* `tail_eq`: what is returned.
* `tail_distinct_iff`: **the ids of a tail are distinct** unless both streams are in it with a line
  under assembly.

Source: `src/service/log_buffer.cpp`.
-/

namespace Sentrits.Service

open Found Found.Bytes

namespace LogBuffer

/-- The line under assembly takes the revision the next completed line of either stream will have.
Source: `log_buffer.cpp` `LogBuffer::MakePartialEntry`. -/
def makePartialEntry (b : LogBuffer) (stream : LogStream) (text : Bytes) (timestampUnixMs : ℤ) :
    EvidenceEntry where
  entryId := b.makeEntryId b.nextRevision
  source := b.source
  revision := b.nextRevision
  byteStart := if b.nextByteOffset ≥ text.length then b.nextByteOffset - text.length else 0
  byteEnd := b.nextByteOffset
  timestampUnixMs := timestampUnixMs
  stream := stream
  text := text
  isPartial := true

/-- The number of lines under assembly that are asked for. -/
def partialCount (b : LogBuffer) (includePartial : Bool) : ℕ :=
  if includePartial then
    (if b.stdoutPartial.text.isEmpty then 0 else 1) + (if b.stderrPartial.text.isEmpty then 0 else 1)
  else 0

/-- The line one stream is assembling goes behind what is returned so far, if there is room. -/
def pushPartial (b : LogBuffer) (limit : ℕ) (includePartial : Bool) (stream : LogStream)
    (tail : List EvidenceEntry) : List EvidenceEntry :=
  let line := b.partialForStream stream
  if includePartial && !line.text.isEmpty && tail.length < limit then
    tail ++ [b.makePartialEntry stream line.text line.timestampUnixMs]
  else tail

/-- The index of the first completed entry that is returned. -/
def tailStart (b : LogBuffer) (limit : ℕ) (includePartial : Bool) : ℕ :=
  let completedLimit :=
    if limit > b.partialCount includePartial then limit - b.partialCount includePartial else 0
  if b.entries.length > completedLimit then b.entries.length - completedLimit else 0

/-- Source: `log_buffer.cpp` `LogBuffer::Tail`. -/
def tail (b : LogBuffer) (limit : ℕ) (includePartial : Bool) : List EvidenceEntry :=
  if limit = 0 then []
  else
    b.pushPartial limit includePartial .stderr
      (b.pushPartial limit includePartial .stdout
        (b.entries.drop (b.tailStart limit includePartial)))

/-! ### What is returned -/

/-- The streams with a line under assembly, when these are asked for. -/
def partialStreams (b : LogBuffer) (includePartial : Bool) : List LogStream :=
  if includePartial then
    [LogStream.stdout, .stderr].filter fun stream => !(b.partialForStream stream).text.isEmpty
  else []

/-- The entry of the line a stream is assembling. -/
def partialEntry (b : LogBuffer) (stream : LogStream) : EvidenceEntry :=
  b.makePartialEntry stream (b.partialForStream stream).text
    (b.partialForStream stream).timestampUnixMs

/-- A line under assembly is shown with the next revision. -/
@[simp]
theorem revision_partialEntry (b : LogBuffer) (stream : LogStream) :
    (b.partialEntry stream).revision = b.nextRevision := rfl

/-- A line under assembly is shown under the id of the next revision. -/
@[simp]
theorem entryId_partialEntry (b : LogBuffer) (stream : LogStream) :
    (b.partialEntry stream).entryId = b.makeEntryId b.nextRevision := rfl

/-- So many lines under assembly are shown. -/
theorem length_partialStreams (b : LogBuffer) (includePartial : Bool) :
    (b.partialStreams includePartial).length = b.partialCount includePartial := by
  unfold partialStreams partialCount
  cases includePartial
  · rfl
  · by_cases hout : b.stdoutPartial.text.isEmpty <;> by_cases herr : b.stderrPartial.text.isEmpty <;>
      simp [partialForStream, hout, herr]

/-- A line under assembly is shown if it is asked for and not empty. -/
theorem mem_partialStreams {b : LogBuffer} {includePartial : Bool} {stream : LogStream} :
    stream ∈ b.partialStreams includePartial ↔
      includePartial = true ∧ (b.partialForStream stream).text ≠ [] := by
  unfold partialStreams
  cases includePartial
  · simp
  · cases stream <;> simp

/-- A line under assembly is pushed when it is asked for and there is room. -/
theorem pushPartial_eq (b : LogBuffer) (limit : ℕ) (stream : LogStream)
    (tail : List EvidenceEntry) :
    b.pushPartial limit true stream tail =
      if (b.partialForStream stream).text ≠ [] ∧ tail.length < limit then
        tail ++ [b.partialEntry stream]
      else tail := by
  unfold pushPartial partialEntry
  simp only [Bool.true_and, Bool.and_eq_true, Bool.not_eq_true', decide_eq_true_eq,
    List.isEmpty_eq_false_iff]

/-- The lines under assembly of some streams, pushed one after the other. -/
theorem foldl_pushPartial (b : LogBuffer) (limit : ℕ) (streams : List LogStream)
    (tail : List EvidenceEntry) :
    streams.foldl (fun tail stream => b.pushPartial limit true stream tail) tail =
      tail ++ ((streams.filter fun stream => !(b.partialForStream stream).text.isEmpty).take
        (limit - tail.length)).map b.partialEntry := by
  induction streams generalizing tail with
  | nil => simp
  | cons stream streams ih =>
      rw [List.foldl_cons, ih, pushPartial_eq]
      by_cases htext : (b.partialForStream stream).text = []
      · simp [htext]
      · by_cases hroom : tail.length < limit
        · have hleft : limit - tail.length = limit - (tail.length + 1) + 1 := by omega
          rw [if_pos ⟨htext, hroom⟩, hleft, List.filter_cons_of_pos (by simpa using htext)]
          simp
        · have hleft : limit - tail.length = 0 := by omega
          rw [if_neg (fun h => hroom h.2), hleft]
          simp

/-- The completed entries leave room for the lines under assembly, or there are none of them. -/
theorem tailStart_room (b : LogBuffer) (limit : ℕ) (includePartial : Bool) :
    (b.entries.drop (b.tailStart limit includePartial)).length + b.partialCount includePartial ≤
        limit ∨
      (b.entries.drop (b.tailStart limit includePartial)).length = 0 := by
  rw [List.length_drop]
  unfold tailStart
  dsimp only
  split_ifs <;> omega

/-- **What a tail is**: the newest completed entries, then the lines under assembly, of stdout
first, as many as there is room for. -/
theorem tail_eq (b : LogBuffer) {limit : ℕ} (hlimit : 0 < limit) (includePartial : Bool) :
    b.tail limit includePartial =
      b.entries.drop (b.tailStart limit includePartial) ++
        ((b.partialStreams includePartial).take limit).map b.partialEntry := by
  have hroom := b.tailStart_room limit includePartial
  rw [← length_partialStreams] at hroom
  unfold tail
  rw [if_neg (Nat.ne_of_gt hlimit)]
  cases includePartial with
  | false => simp [pushPartial, partialStreams]
  | true =>
      have hpushed := b.foldl_pushPartial limit [.stdout, .stderr]
        (b.entries.drop (b.tailStart limit true))
      rw [List.foldl_cons, List.foldl_cons, List.foldl_nil] at hpushed
      rw [hpushed]
      unfold partialStreams at hroom ⊢
      simp only [if_true] at hroom ⊢
      have htake : ∀ streams : List LogStream,
          (b.entries.drop (b.tailStart limit true)).length + streams.length ≤ limit ∨
            (b.entries.drop (b.tailStart limit true)).length = 0 →
          streams.take (limit - (b.entries.drop (b.tailStart limit true)).length) =
            streams.take limit := by
        rintro streams (hfits | hnone)
        · rw [List.take_of_length_le (Nat.le_sub_of_add_le' hfits),
            List.take_of_length_le (Nat.le_of_add_left_le hfits)]
        · rw [hnone, Nat.sub_zero]
      rw [htake _ hroom]

/-! ### Ids -/

/-- No two entries have an id or a revision in common. -/
def Distinct (entries : List EvidenceEntry) : Prop :=
  (entries.map (·.entryId)).Nodup ∧ (entries.map (·.revision)).Nodup

/-- Entries with ids of their revisions are as distinct as these. -/
theorem Labelled.distinct_iff {b : LogBuffer} {entries : List EvidenceEntry}
    (h : b.Labelled entries) : Distinct entries ↔ (entries.map (·.revision)).Nodup := by
  have hids : entries.map (·.entryId) = (entries.map (·.revision)).map b.makeEntryId := by
    rw [List.map_map]
    exact List.map_congr_left h
  unfold Distinct
  rw [hids, List.nodup_map_iff fun _ _ => (b.makeEntryId_inj).mp]
  exact and_self_iff

/-- The revision of every line under assembly is the next one. -/
theorem revisions_partialEntry (b : LogBuffer) (streams : List LogStream) :
    (streams.map b.partialEntry).map (·.revision) =
      List.replicate streams.length b.nextRevision := by
  rw [List.map_map]
  exact List.map_const'

/-- What a tail returns is labelled when what is retained is. -/
theorem Labelled.tail {b : LogBuffer} (h : b.Labelled b.entries) {limit : ℕ} (hlimit : 0 < limit)
    (includePartial : Bool) : b.Labelled (b.tail limit includePartial) := by
  rw [tail_eq b hlimit]
  intro entry hentry
  rcases List.mem_append.mp hentry with hentry | hentry
  · exact h entry (List.mem_of_mem_drop hentry)
  · obtain ⟨stream, -, rfl⟩ := List.mem_map.mp hentry
    rfl

/-- Both streams have a line under assembly when two are asked for and found. -/
theorem two_le_partialCount_iff (b : LogBuffer) (includePartial : Bool) :
    2 ≤ b.partialCount includePartial ↔
      includePartial = true ∧ b.stdoutPartial.text ≠ [] ∧ b.stderrPartial.text ≠ [] := by
  unfold partialCount
  cases includePartial with
  | false => simp
  | true =>
      by_cases hout : b.stdoutPartial.text = [] <;> by_cases herr : b.stderrPartial.text = [] <;>
        simp [hout, herr]

/-- **The ids of a tail are distinct**, and so are the revisions, exactly when it does not have the
lines of both streams under assembly. -/
theorem tail_distinct_iff {log b : LogBuffer} (h : Window log b) (hids : b.Labelled b.entries)
    (limit : ℕ) (includePartial : Bool) :
    Distinct (b.tail limit includePartial) ↔
      ¬ (includePartial = true ∧ 2 ≤ limit ∧ b.stdoutPartial.text ≠ [] ∧
        b.stderrPartial.text ≠ []) := by
  rcases Nat.eq_zero_or_pos limit with rfl | hlimit
  · simp [tail, Distinct]
  · have hcount := two_le_partialCount_iff b includePartial
    rw [← length_partialStreams] at hcount
    rw [(hids.tail hlimit includePartial).distinct_iff, tail_eq b hlimit, List.map_append,
      revisions_partialEntry, List.nodup_append, List.nodup_replicate, List.length_take]
    constructor
    · rintro ⟨-, hone, -⟩ ⟨hinclude, htwo, hboth⟩
      have hle := hcount.mpr ⟨hinclude, hboth⟩
      omega
    · intro hnot
      refine ⟨?_, ?_, ?_⟩
      · have hslice := h.numbered.drop (b.tailStart limit includePartial)
        rw [hslice]
        exact List.nodup_range'
      · by_contra hmany
        have htwo : 2 ≤ (b.partialStreams includePartial).length := by omega
        obtain ⟨hinclude, hboth⟩ := hcount.mp htwo
        exact hnot ⟨hinclude, by omega, hboth⟩
      · -- completed entries have revisions before the next one
        intro revision hrevision next hnext
        obtain ⟨entry, hentry, rfl⟩ := List.mem_map.mp hrevision
        obtain ⟨-, hlast⟩ := (h.numbered.exists_iff entry.revision).mp
          ⟨entry, List.mem_of_mem_drop hentry, rfl⟩
        rw [List.eq_of_mem_replicate hnext, h.nextRevision_eq]
        exact Nat.ne_of_lt hlast

end LogBuffer

end Sentrits.Service
