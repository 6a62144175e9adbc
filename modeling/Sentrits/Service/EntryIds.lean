import Sentrits.Found.Runs
import Sentrits.Service.LogContext
import Sentrits.Service.LogSearch
import Sentrits.Service.LogTail

/-!
# Whether an entry id identifies one line

Completed lines of both streams are numbered from one counter, and the number a line under assembly
is shown with is the one the next completed line will have, of whichever stream that is.

* `WatchedLog`, `LogEvent`, `step`: a buffer with what its readers were given.
* `Identified`: what is asked of the ids that were given out.
* `Consistent.step`: what every run keeps.
* `identified_iff`: **an id identifies one line exactly when** no tail shows the lines of both
  streams under assembly, and no line is completed under a number that a line of the other stream
  was shown with.

Source: `src/service/log_buffer.cpp`.
-/

namespace Sentrits.Service

open Found Found.Bytes Found.Runs

namespace LogBuffer

/-! ### Readers -/

/-- A log buffer, all that was returned from it, and the log itself: what the same appends leave
without any limits. -/
structure WatchedLog where
  buffer : LogBuffer
  log : LogBuffer
  answers : List (List EvidenceEntry) := []
  deriving DecidableEq

/-- Appends, and the reads of the buffer. -/
inductive LogEvent
  | append (c : AppendCall)
  | tail (limit : ℕ) (includePartial : Bool)
  | range (revisionStart revisionEnd limit : ℕ)
  | search (query : Bytes) (limit : ℕ)
  | context (revision before after : ℕ)
  deriving DecidableEq

/-- Somebody was given the entries. -/
def WatchedLog.answered (w : WatchedLog) (entries : List EvidenceEntry) : WatchedLog :=
  { w with answers := w.answers ++ [entries] }

/-- One event; a read that throws is not possible. -/
def step (w : WatchedLog) : LogEvent → Option WatchedLog
  | .append c => some { w with buffer := w.buffer.call c, log := w.log.call c }
  | .tail limit includePartial => some (w.answered (w.buffer.tail limit includePartial))
  | .range revisionStart revisionEnd limit =>
      (w.buffer.range revisionStart revisionEnd limit).map w.answered
  | .search query limit => some (w.answered (w.buffer.search query limit).entries)
  | .context revision before after => (w.buffer.context revision before after).map w.answered

/-- A buffer nothing was appended to or read from. -/
def watch (source : EvidenceSourceRef) (limits : LogBufferLimits) : WatchedLog where
  buffer := empty source limits
  log := empty source noLimits

/-- The ids of one answer are distinct, and the id of an entry that was returned is not that of a
completed line of the other stream. -/
structure Identified (w : WatchedLog) : Prop where
  distinct : ∀ answer ∈ w.answers, Distinct answer
  stable : ∀ answer ∈ w.answers, ∀ shown ∈ answer, ∀ line ∈ w.log.entries,
    shown.entryId = line.entryId → shown.stream = line.stream

instance (entries : List EvidenceEntry) : Decidable (Distinct entries) :=
  inferInstanceAs (Decidable (_ ∧ _))

instance : DecidablePred Identified := fun w =>
  decidable_of_iff
    ((∀ answer ∈ w.answers, Distinct answer) ∧
      ∀ answer ∈ w.answers, ∀ shown ∈ answer, ∀ line ∈ w.log.entries,
        shown.entryId = line.entryId → shown.stream = line.stream)
    ⟨fun h => ⟨h.1, h.2⟩, fun h => ⟨h.1, h.2⟩⟩

/-- Not both streams under assembly in one tail, and no line completed under a number that a line of
the other stream was shown with. -/
def KeepsApart (w : WatchedLog) : LogEvent → Prop
  | .append c => lf ∈ c.data → ∀ answer ∈ w.answers, ∀ shown ∈ answer,
      shown.revision = w.buffer.nextRevision → shown.stream = c.stream
  | .tail limit includePartial =>
      ¬ (includePartial = true ∧ 2 ≤ limit ∧ w.buffer.stdoutPartial.text ≠ [] ∧
        w.buffer.stderrPartial.text ≠ [])
  | _ => True

/-! ### The invariant of a run -/

/-- **Invariant.** The buffer is a window on the log, all ids are those of the revisions, and what
was returned was numbered up to the next revision. -/
structure Consistent (w : WatchedLog) : Prop where
  window : Window w.log w.buffer
  labelled : w.log.Labelled w.log.entries
  answers : ∀ answer ∈ w.answers, w.log.Labelled answer
  past : ∀ answer ∈ w.answers, ∀ shown ∈ answer, shown.revision ≤ w.log.nextRevision

/-- A new buffer has shown nothing. -/
theorem consistent_watch (source : EvidenceSourceRef) (limits : LogBufferLimits) :
    Consistent (watch source limits) where
  window := window_empty source limits
  labelled := fun _ h => absurd h List.not_mem_nil
  answers := fun _ h => absurd h List.not_mem_nil
  past := fun _ h => absurd h List.not_mem_nil

/-- What is retained is labelled. -/
theorem Consistent.labelled_buffer {w : WatchedLog} (h : Consistent w) :
    w.buffer.Labelled w.buffer.entries := by
  apply Labelled.congr _ h.window.source
  intro entry hentry
  rw [h.window.entries] at hentry
  exact h.labelled entry (List.mem_of_mem_drop hentry)

/-- A call keeps what has been shown. -/
theorem Consistent.call {w : WatchedLog} (h : Consistent w) (c : AppendCall) :
    Consistent { w with buffer := w.buffer.call c, log := w.log.call c } := by
  obtain ⟨added, hadds⟩ := h.window.exists_completed c
  have hwindow := h.window.append c.stream c.data c.timestampUnixMs
  have hnext : w.log.nextRevision ≤ (w.log.call c).nextRevision := by
    have hcomplete : (w.log.call c).nextRevision = (w.log.call c).entries.length + 1 :=
      hwindow.complete.nextRevision
    rw [hcomplete, hadds.entries, h.window.complete.nextRevision, List.length_append]
    omega
  refine ⟨hwindow, ?_, ?_, ?_⟩
  · show (w.log.call c).Labelled (w.log.call c).entries
    rw [hadds.entries]
    intro entry hentry
    rcases List.mem_append.mp hentry with hentry | hentry
    · exact h.labelled.congr hadds.source entry hentry
    · exact hadds.labelled.congr hadds.source entry hentry
  · intro answer hanswer
    exact (h.answers answer hanswer).congr hadds.source
  · intro answer hanswer shown hshown
    exact (h.past answer hanswer shown hshown).trans hnext

/-- A read keeps the invariant when what it returns is labelled and not numbered too far. -/
theorem Consistent.answered {w : WatchedLog} (h : Consistent w) {entries : List EvidenceEntry}
    (hlabelled : w.buffer.Labelled entries)
    (hpast : ∀ shown ∈ entries, shown.revision ≤ w.buffer.nextRevision) :
    Consistent (w.answered entries) := by
  refine ⟨h.window, h.labelled, ?_, ?_⟩
  · intro answer hanswer
    rcases List.mem_append.mp hanswer with hanswer | hanswer
    · exact h.answers answer hanswer
    · rw [List.mem_singleton.mp hanswer]
      exact hlabelled.congr h.window.source.symm
  · intro answer hanswer
    rcases List.mem_append.mp hanswer with hanswer | hanswer
    · exact h.past answer hanswer
    · rw [List.mem_singleton.mp hanswer]
      rw [h.window.nextRevision] at hpast
      exact hpast

/-- What is retained has revisions before the next one. -/
theorem Consistent.revision_lt {w : WatchedLog} (h : Consistent w) {entry : EvidenceEntry}
    (hentry : entry ∈ w.buffer.entries) : entry.revision < w.buffer.nextRevision := by
  rw [h.window.nextRevision_eq]
  exact ((h.window.numbered.exists_iff entry.revision).mp ⟨entry, hentry, rfl⟩).2

/-- A read of retained entries keeps it. -/
theorem Consistent.answered_of_sublist {w : WatchedLog} (h : Consistent w)
    {entries : List EvidenceEntry} (hsub : entries.Sublist w.buffer.entries) :
    Consistent (w.answered entries) := by
  apply h.answered
  · intro entry hentry
    exact h.labelled_buffer entry (hsub.subset hentry)
  · intro entry hentry
    exact (h.revision_lt (hsub.subset hentry)).le

/-! ### What each event does to the ids -/

/-- Lines of the log with one id are one line. -/
theorem Consistent.eq_of_entryId {w : WatchedLog} (h : Consistent w) {entry line : EvidenceEntry}
    (hentry : entry ∈ w.log.entries) (hline : line ∈ w.log.entries)
    (hid : entry.entryId = line.entryId) : entry = line := by
  rw [h.labelled entry hentry, h.labelled line hline, makeEntryId_inj] at hid
  exact h.window.complete.numbered.eq_of_num_eq hentry hline hid

/-- The ids of retained entries are distinct. -/
theorem Consistent.distinct_of_sublist {w : WatchedLog} (h : Consistent w)
    {entries : List EvidenceEntry} (hsub : entries.Sublist w.buffer.entries) :
    Distinct entries := by
  have hlabelled : w.buffer.Labelled entries := by
    intro entry hentry
    exact h.labelled_buffer entry (hsub.subset hentry)
  have hnodup : (w.buffer.entries.map (·.revision)).Nodup := by
    rw [h.window.numbered]
    exact List.nodup_range'
  rw [hlabelled.distinct_iff]
  exact hnodup.sublist (hsub.map _)

/-- One more answer. -/
theorem identified_answered_iff {w : WatchedLog} (hw : Identified w)
    (entries : List EvidenceEntry) :
    Identified (w.answered entries) ↔ Distinct entries ∧
      ∀ shown ∈ entries, ∀ line ∈ w.log.entries,
        shown.entryId = line.entryId → shown.stream = line.stream := by
  constructor
  · intro h
    have hmem : entries ∈ (w.answered entries).answers :=
      List.mem_append_right _ (List.mem_singleton_self entries)
    exact ⟨h.distinct entries hmem, h.stable entries hmem⟩
  · rintro ⟨hdistinct, hstable⟩
    refine ⟨?_, ?_⟩
    · intro answer hanswer
      rcases List.mem_append.mp hanswer with hanswer | hanswer
      · exact hw.distinct answer hanswer
      · exact List.mem_singleton.mp hanswer ▸ hdistinct
    · intro answer hanswer
      rcases List.mem_append.mp hanswer with hanswer | hanswer
      · exact hw.stable answer hanswer
      · exact List.mem_singleton.mp hanswer ▸ hstable

/-- A retained entry is a line of the log, and has its id alone. -/
theorem Consistent.stream_eq_of_mem {w : WatchedLog} (h : Consistent w) {shown line : EvidenceEntry}
    (hshown : shown ∈ w.buffer.entries) (hline : line ∈ w.log.entries)
    (hid : shown.entryId = line.entryId) : shown.stream = line.stream := by
  rw [h.window.entries] at hshown
  rw [h.eq_of_entryId (List.mem_of_mem_drop hshown) hline hid]

/-- A line under assembly has an id no line of the log has yet. -/
theorem Consistent.entryId_partialEntry_ne {w : WatchedLog} (h : Consistent w) (stream : LogStream)
    {line : EvidenceEntry} (hline : line ∈ w.log.entries) :
    (w.buffer.partialEntry stream).entryId ≠ line.entryId := by
  have hlabel : line.entryId = w.buffer.makeEntryId line.revision :=
    h.labelled.congr h.window.source line hline
  have hlast := ((h.window.complete.numbered.exists_iff line.revision).mp ⟨line, hline, rfl⟩).2
  have hnext := h.window.nextRevision.trans h.window.complete.nextRevision
  rw [hlabel, entryId_partialEntry, ne_eq, makeEntryId_inj]
  omega

/-- **A tail.** -/
theorem Consistent.identified_tail_iff {w : WatchedLog} (h : Consistent w) (hw : Identified w)
    (limit : ℕ) (includePartial : Bool) :
    Identified (w.answered (w.buffer.tail limit includePartial)) ↔
      KeepsApart w (.tail limit includePartial) := by
  rw [identified_answered_iff hw, tail_distinct_iff h.window h.labelled_buffer]
  refine and_iff_left ?_
  intro shown hshown line hline hid
  rcases Nat.eq_zero_or_pos limit with rfl | hlimit
  · exact absurd hshown List.not_mem_nil
  · rw [tail_eq w.buffer hlimit] at hshown
    rcases List.mem_append.mp hshown with hshown | hshown
    · exact h.stream_eq_of_mem (List.mem_of_mem_drop hshown) hline hid
    · obtain ⟨stream, -, rfl⟩ := List.mem_map.mp hshown
      exact absurd hid (h.entryId_partialEntry_ne stream hline)

/-- **A read of retained entries.** -/
theorem Consistent.identified_of_sublist {w : WatchedLog} (h : Consistent w) (hw : Identified w)
    {entries : List EvidenceEntry} (hsub : entries.Sublist w.buffer.entries) :
    Identified (w.answered entries) := by
  rw [identified_answered_iff hw]
  refine ⟨h.distinct_of_sublist hsub, ?_⟩
  intro shown hshown line hline hid
  exact h.stream_eq_of_mem (hsub.subset hshown) hline hid

/-- **An append.** The lines it completes are numbered from the next revision on, and only that one
was shown before. -/
theorem Consistent.identified_call_iff {w : WatchedLog} (h : Consistent w) (hw : Identified w)
    (c : AppendCall) :
    Identified { w with buffer := w.buffer.call c, log := w.log.call c } ↔
      KeepsApart w (.append c) := by
  obtain ⟨added, hadds⟩ := h.window.exists_completed c
  have hnumbered := h.window.numbered_added hadds
  have hnext := h.window.nextRevision
  constructor
  · intro hid hlf answer hanswer shown hshown hrevision
    -- the first line it completes takes the number the entry was shown with
    have hpos : 0 < added.length := List.length_pos_iff.mpr (hadds.ne_nil_iff.mpr hlf)
    obtain ⟨line, hline, hfirst⟩ :=
      (hnumbered.exists_iff w.log.nextRevision).mpr ⟨Nat.le_refl _, by omega⟩
    have hmem : line ∈ (w.log.call c).entries := by
      rw [hadds.entries]
      exact List.mem_append_right _ hline
    have hsame : shown.entryId = line.entryId := by
      rw [h.answers answer hanswer shown hshown, hadds.labelled line hline, hrevision, hnext, hfirst]
    rw [hid.stable answer hanswer shown hshown line hmem hsame]
    exact hadds.stream line hline
  · intro hapart
    refine ⟨hw.distinct, ?_⟩
    intro answer hanswer shown hshown line hline hid
    have hline' : line ∈ (w.log.call c).entries := hline
    rw [hadds.entries] at hline'
    rcases List.mem_append.mp hline' with hold | hnew
    · exact hw.stable answer hanswer shown hshown line hold hid
    · have hlf : lf ∈ c.data := hadds.ne_nil_iff.mp (List.ne_nil_of_mem hnew)
      obtain ⟨hfrom, -⟩ := (hnumbered.exists_iff line.revision).mp ⟨line, hnew, rfl⟩
      have hpast := h.past answer hanswer shown hshown
      rw [h.answers answer hanswer shown hshown, hadds.labelled line hnew, makeEntryId_inj] at hid
      rw [hadds.stream line hnew]
      exact hapart hlf answer hanswer shown hshown (by omega)

/-! ### Runs -/

/-- What a read of retained entries returns. -/
theorem sublist_of_range {w : WatchedLog} (h : Consistent w) {revisionStart revisionEnd limit : ℕ}
    {entries : List EvidenceEntry}
    (hrange : w.buffer.range revisionStart revisionEnd limit = some entries) :
    entries.Sublist w.buffer.entries := by
  rw [range_eq h.window.numbered] at hrange
  cases hrange
  exact (List.take_sublist _ _).trans List.filter_sublist

/-- **The step lemma**: the invariant is kept. -/
theorem Consistent.step {w w' : WatchedLog} {event : LogEvent} (h : Consistent w)
    (hstep : step w event = some w') : Consistent w' := by
  cases event with
  | append c =>
      cases hstep
      exact h.call c
  | tail limit includePartial =>
      cases hstep
      rcases Nat.eq_zero_or_pos limit with rfl | hlimit
      · exact h.answered_of_sublist (List.nil_sublist _)
      · apply h.answered (h.labelled_buffer.tail hlimit includePartial)
        rw [tail_eq w.buffer hlimit]
        intro shown hshown
        rcases List.mem_append.mp hshown with hshown | hshown
        · exact (h.revision_lt (List.mem_of_mem_drop hshown)).le
        · obtain ⟨stream, -, rfl⟩ := List.mem_map.mp hshown
          exact Nat.le_refl _
  | range revisionStart revisionEnd limit =>
      obtain ⟨entries, hrange, rfl⟩ := Option.map_eq_some_iff.mp hstep
      exact h.answered_of_sublist (sublist_of_range h hrange)
  | search query limit =>
      cases hstep
      exact h.answered_of_sublist (sublist_of_search w.buffer query limit)
  | context revision before after =>
      obtain ⟨entries, hcontext, rfl⟩ := Option.map_eq_some_iff.mp hstep
      exact h.answered_of_sublist (sublist_of_context hcontext)

/-- **The step lemma**: the ids stay right exactly when the lines are kept apart. -/
theorem Consistent.identified_step_iff {w w' : WatchedLog} {event : LogEvent} (h : Consistent w)
    (hw : Identified w) (hstep : LogBuffer.step w event = some w') :
    Identified w' ↔ KeepsApart w event := by
  cases event with
  | append c =>
      cases hstep
      exact h.identified_call_iff hw c
  | tail limit includePartial =>
      cases hstep
      exact h.identified_tail_iff hw limit includePartial
  | range revisionStart revisionEnd limit =>
      obtain ⟨entries, hrange, rfl⟩ := Option.map_eq_some_iff.mp hstep
      exact iff_of_true (h.identified_of_sublist hw (sublist_of_range h hrange)) trivial
  | search query limit =>
      cases hstep
      exact iff_of_true (h.identified_of_sublist hw (sublist_of_search w.buffer query limit)) trivial
  | context revision before after =>
      obtain ⟨entries, hcontext, rfl⟩ := Option.map_eq_some_iff.mp hstep
      exact iff_of_true (h.identified_of_sublist hw (sublist_of_context hcontext)) trivial

/-- **When an entry id identifies one line.** Over any run of appends and reads on a buffer with any
limits: in every state, the ids and revisions of each answer are distinct and no id that was
returned is the id of a completed line of the other stream, exactly when at every step the lines of
the two streams are kept apart. -/
theorem identified_iff (source : EvidenceSourceRef) (limits : LogBufferLimits)
    (events : List LogEvent) :
    AllStates step Identified (watch source limits) events ↔
      AllSteps step KeepsApart (watch source limits) events :=
  allStates_iff_allSteps Consistent (fun _ _ _ h _ hstep => h.step hstep)
    (fun _ _ _ h hw hstep => h.identified_step_iff hw hstep) (consistent_watch source limits)
    ⟨fun _ h => absurd h List.not_mem_nil, fun _ h => absurd h List.not_mem_nil⟩ events

/-- With a line of each stream under assembly, a tail shows both under one id; and a line of stdout
is shown under the id that the next line of stderr gets. -/
theorem not_identified :
    ¬ AllStates step Identified (watch { kind := .managedLogSession, sessionId := "s" } {})
        [.append ⟨.stdout, [97], 1⟩, .append ⟨.stderr, [98], 2⟩, .tail 2 true] ∧
      ¬ AllStates step Identified (watch { kind := .managedLogSession, sessionId := "s" } {})
        [.append ⟨.stdout, [97], 1⟩, .tail 1 true, .append ⟨.stderr, [98, lf], 2⟩] := by
  decide

end LogBuffer

end Sentrits.Service
