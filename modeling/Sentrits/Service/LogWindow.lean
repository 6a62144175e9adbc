import Sentrits.Found.Numbered
import Sentrits.Service.LogLines

/-!
# What a log buffer retains

A log buffer is meant as a window on the log: of all lines completed since it was made, it keeps
the newest ones that fit its limits, and counts the others.

* `completedEntries`: the log, as the buffer without limits collects it.
* `Window`: the buffer is the rest of the log behind the entries it dropped; every operation keeps
  that (`window_appendAll`).
* `texts_completedEntries`: its texts are the lines that are read from the bytes.
* `range_eq`, `containsRevision_iff`: the lookups by revision, on any consecutively numbered buffer.
* `Window.stats`: the revisions it reports.
* `logBuffer_window`: **the representation invariant**, after any appends and with any limits.

Sources: `include/vibe/service/log_buffer.h`, `src/service/log_buffer.cpp`.
-/

namespace Sentrits.Service

open Found Found.Bytes

namespace LogBuffer

/-! ### Lookups by revision -/

/-- The loop that copies `count` entries from `start`; `none` when it would leave the deque. -/
def entriesFrom (entries : List EvidenceEntry) (start : ℕ) : ℕ → Option (List EvidenceEntry)
  | 0 => some []
  | count + 1 => do
      let copied ← entriesFrom entries start count
      let entry ← entries[start + count]?
      return copied ++ [entry]

/-- Source: `log_buffer.cpp` `LogBuffer::Range`. -/
def range (b : LogBuffer) (revisionStart revisionEnd limit : ℕ) : Option (List EvidenceEntry) :=
  match b.entries.head?, b.entries.getLast? with
  | some front, some back =>
      if limit = 0 ∨ revisionStart > revisionEnd then some []
      else
        let oldestRevision := front.revision
        let latestRevision := back.revision
        if revisionEnd < oldestRevision ∨ revisionStart > latestRevision then some []
        else
          let clampedStart := max revisionStart oldestRevision
          let clampedEnd := min revisionEnd latestRevision
          let startIndex := clampedStart - oldestRevision
          let endIndex := clampedEnd - oldestRevision
          entriesFrom b.entries startIndex (min limit (endIndex - startIndex + 1))
  | _, _ => some []

/-- Source: `log_buffer.cpp` `LogBuffer::ContainsRevision`. -/
def containsRevision (b : LogBuffer) (revision : ℕ) : Bool :=
  match b.entries.head?, b.entries.getLast? with
  | some front, some back => decide (revision ≥ front.revision) && decide (revision ≤ back.revision)
  | _, _ => false

/-- Source: `log_buffer.h` `LogBufferStats`. -/
structure LogBufferStats where
  oldestRevision : ℕ
  latestRevision : ℕ
  nextRevision : ℕ
  retainedEntries : ℕ
  retainedBytes : ℕ
  droppedEntries : ℕ
  droppedBytes : ℕ
  deriving DecidableEq

/-- Source: `log_buffer.cpp` `LogBuffer::stats`. -/
def stats (b : LogBuffer) : LogBufferStats where
  oldestRevision :=
    match b.entries.head? with
    | some front => front.revision
    | none => b.nextRevision
  latestRevision := b.latestRevision
  nextRevision := b.nextRevision
  retainedEntries := b.entries.length
  retainedBytes := b.retainedBytes
  droppedEntries := b.droppedEntries
  droppedBytes := b.droppedBytes

/-- Copying inside the deque gives the slice. -/
theorem entriesFrom_eq (entries : List EvidenceEntry) (start count : ℕ)
    (h : start + count ≤ entries.length) :
    entriesFrom entries start count = some ((entries.drop start).take count) := by
  induction count with
  | zero => simp [entriesFrom]
  | succ count ih =>
      have hlt : start + count < entries.length := by omega
      rw [entriesFrom, ih (by omega), List.getElem?_eq_getElem hlt, List.take_add_one,
        List.getElem?_drop, List.getElem?_eq_getElem hlt]
      rfl

/-- Copying never gives anything but a slice. -/
theorem eq_slice_of_entriesFrom {entries copied : List EvidenceEntry} {start count : ℕ}
    (h : entriesFrom entries start count = some copied) :
    copied = (entries.drop start).take count := by
  induction count generalizing copied with
  | zero =>
      rw [entriesFrom, Option.some.injEq] at h
      rw [List.take_zero, h]
  | succ count ih =>
      simp only [entriesFrom, Option.bind_eq_bind, Option.bind_eq_some_iff, Option.pure_def,
        Option.some.injEq] at h
      obtain ⟨before, hbefore, entry, hentry, rfl⟩ := h
      rw [List.take_add_one, List.getElem?_drop, hentry, ih hbefore]
      rfl

/-- What is copied is among the entries, in their order. -/
theorem sublist_of_entriesFrom {entries copied : List EvidenceEntry} {start count : ℕ}
    (h : entriesFrom entries start count = some copied) : copied.Sublist entries := by
  rw [eq_slice_of_entriesFrom h]
  exact (List.take_sublist _ _).trans (List.drop_sublist _ _)

/-- The front and the back of a buffer that is not empty, when its revisions are consecutive. -/
theorem exists_ends {b : LogBuffer} {first : ℕ} (h : Numbered (·.revision) first b.entries)
    (hne : b.entries ≠ []) :
    ∃ front back, b.entries.head? = some front ∧ b.entries.getLast? = some back ∧
      front.revision = first ∧ back.revision + 1 = first + b.entries.length := by
  obtain ⟨front, rest, hcons⟩ := List.exists_cons_of_ne_nil hne
  have hlast := List.getLast?_eq_some_getLast hne
  refine ⟨front, b.entries.getLast hne, by rw [hcons]; rfl, hlast, ?_, h.num_getLast hlast⟩
  rw [hcons] at h
  exact (Numbered.cons_iff.mp h).1

/-- No place is left in an interval that is empty or ends before the buffer. -/
theorem placesLeft_eq_zero {limit revisionStart revisionEnd first : ℕ}
    (h : limit = 0 ∨ revisionEnd < revisionStart ∨ revisionEnd < first) :
    min limit (revisionEnd + 1 - max revisionStart first) = 0 := by
  rcases h with rfl | h | h
  · exact Nat.zero_min _
  · rw [Nat.sub_eq_zero_of_le (le_trans h (Nat.le_max_left _ _)), Nat.min_zero]
  · rw [Nat.sub_eq_zero_of_le (le_trans h (Nat.le_max_right _ _)), Nat.min_zero]

/-- **`Range` is a filter.** On consecutive revisions it never reads outside the buffer, and returns
the first entries of the interval. -/
theorem range_eq {b : LogBuffer} {first : ℕ} (h : Numbered (·.revision) first b.entries)
    (revisionStart revisionEnd limit : ℕ) :
    b.range revisionStart revisionEnd limit =
      some ((b.entries.filter fun entry =>
        revisionStart ≤ entry.revision ∧ entry.revision ≤ revisionEnd).take limit) := by
  by_cases hne : b.entries = []
  · simp [range, hne]
  · obtain ⟨front, back, hhead, hlast, hfront, hback⟩ := exists_ends h hne
    have hpos : 0 < b.entries.length := List.length_pos_iff.mpr hne
    rw [h.filter_between, List.take_take]
    simp only [range, hhead, hlast]
    split_ifs with hempty hout
    · -- no limit or no interval
      rw [placesLeft_eq_zero (hempty.imp_right Or.inl), List.take_zero]
    · -- the interval lies beside the buffer
      rcases Nat.lt_or_ge revisionEnd first with hbelow | habove
      · rw [placesLeft_eq_zero (Or.inr (Or.inr hbelow)), List.take_zero]
      · rw [List.drop_of_length_le (by omega), List.take_nil]
    · obtain ⟨hend, hstart⟩ := not_or.mp hout
      have hlow : revisionStart ≤ revisionEnd := Nat.le_of_not_lt (not_or.mp hempty).2
      have hwithin : first + (revisionStart - first) ≤ back.revision := by
        omega
      have hbefore : first + (revisionStart - first) ≤ revisionEnd := by
        omega
      have hskip : first + (revisionStart - first) = max revisionStart first := by
        rw [Nat.add_comm, Nat.sub_add_eq_max]
      rw [hfront, ← hskip]
      clear hempty hout hlow hskip hstart
      generalize revisionStart - first = skipped at hwithin hbefore ⊢
      rw [Nat.add_sub_cancel_left]
      -- an interval that ends behind the buffer takes all that is left of it
      rcases Nat.lt_or_ge back.revision revisionEnd with hbehind | hbehind
      · have hall : back.revision - first - skipped + 1 = b.entries.length - skipped := by
          omega
        have hrest : b.entries.length - skipped ≤ revisionEnd + 1 - (first + skipped) := by
          omega
        rw [Nat.min_eq_right hbehind.le, hall, entriesFrom_eq _ _ _ (by omega), Option.some.injEq,
          List.take_eq_take_iff, List.length_drop, Nat.min_assoc, Nat.min_self, Nat.min_assoc,
          Nat.min_eq_right hrest]
      · have hcount : revisionEnd - first - skipped + 1 = revisionEnd + 1 - (first + skipped) := by
          omega
        rw [Nat.min_eq_left hbehind, hcount, entriesFrom_eq _ _ _ (by omega)]

/-- **`ContainsRevision` is membership**, on consecutive revisions. -/
theorem containsRevision_iff {b : LogBuffer} {first : ℕ}
    (h : Numbered (·.revision) first b.entries) (revision : ℕ) :
    b.containsRevision revision = true ↔ ∃ entry ∈ b.entries, entry.revision = revision := by
  by_cases hne : b.entries = []
  · simp [containsRevision, hne]
  · obtain ⟨front, back, hhead, hlast, hfront, hback⟩ := exists_ends h hne
    have hpos : 0 < b.entries.length := List.length_pos_iff.mpr hne
    rw [h.exists_iff]
    simp only [containsRevision, hhead, hlast, Bool.and_eq_true, decide_eq_true_iff]
    omega

/-! ### The log -/

/-- No limit on entries or bytes. -/
def noLimits : LogBufferLimits where
  maxBytes := 0
  maxEntries := 0

/-- All lines the calls complete, in order: what a buffer without limits holds. -/
def completedEntries (source : EvidenceSourceRef) (calls : List AppendCall) : List EvidenceEntry :=
  ((empty source noLimits).appendAll calls).entries

/-- A buffer that dropped nothing and never will: its entries are all that were completed, numbered
from one. -/
structure Complete (log : LogBuffer) : Prop where
  limits : log.limits = noLimits
  numbered : Numbered (·.revision) 1 log.entries
  nextRevision : log.nextRevision = log.entries.length + 1

/-- The buffer is what the log has behind the entries dropped from it. -/
structure Window (log b : LogBuffer) : Prop where
  complete : log.Complete
  source : b.source = log.source
  nextRevision : b.nextRevision = log.nextRevision
  nextByteOffset : b.nextByteOffset = log.nextByteOffset
  partials : ∀ stream, b.partialForStream stream = log.partialForStream stream
  entries : b.entries = log.entries.drop b.droppedEntries
  dropped : b.droppedEntries ≤ log.entries.length
  droppedBytes : b.droppedBytes = entryBytes (log.entries.take b.droppedEntries)

/-- A new buffer is a window on an empty log. -/
theorem window_empty (source : EvidenceSourceRef) (limits : LogBufferLimits) :
    Window (empty source noLimits) (empty source limits) where
  complete := { limits := rfl, numbered := Numbered.nil, nextRevision := rfl }
  source := rfl
  nextRevision := rfl
  nextByteOffset := rfl
  partials := fun stream => by cases stream <;> rfl
  entries := rfl
  dropped := Nat.le_refl 0
  droppedBytes := rfl

/-! ### What keeps the window -/

/-- Counting a byte keeps the window. -/
theorem Window.countByte {log b : LogBuffer} (h : Window log b) :
    Window log.countByte b.countByte where
  complete :=
    { limits := h.complete.limits
      numbered := h.complete.numbered
      nextRevision := h.complete.nextRevision }
  source := h.source
  nextRevision := h.nextRevision
  nextByteOffset := congrArg (· + 1) h.nextByteOffset
  partials := fun stream => by
    rw [partialForStream_countByte, partialForStream_countByte]
    exact h.partials stream
  entries := h.entries
  dropped := h.dropped
  droppedBytes := h.droppedBytes

/-- A new line under assembly keeps the window. -/
theorem Window.setPartialForStream {log b : LogBuffer} (h : Window log b) (s : LogStream)
    (p : PartialLine) : Window (log.setPartialForStream s p) (b.setPartialForStream s p) := by
  have hpartials : ∀ stream, (b.setPartialForStream s p).partialForStream stream =
      (log.setPartialForStream s p).partialForStream stream := by
    intro stream
    by_cases hs : stream = s
    · subst hs
      rw [partialForStream_setPartialForStream_self, partialForStream_setPartialForStream_self]
    · rw [partialForStream_setPartialForStream_of_ne b hs,
        partialForStream_setPartialForStream_of_ne log hs]
      exact h.partials stream
  cases s with
  | stdout =>
      exact { h with
        complete := { h.complete with limits := h.complete.limits }
        partials := hpartials }
  | stderr =>
      exact { h with
        complete := { h.complete with limits := h.complete.limits }
        partials := hpartials }

/-- Both make the same entry of a completed line. -/
theorem Window.completedEntry {log b : LogBuffer} (h : Window log b) (s : LogStream) (text : Bytes)
    (ts : ℤ) : b.completedEntry s text ts = log.completedEntry s text ts := by
  simp only [LogBuffer.completedEntry, makeEntryId, h.source, h.nextRevision, h.nextByteOffset]

/-- A new entry is one of both. -/
theorem Window.pushLine {log b : LogBuffer} (h : Window log b) (s : LogStream) (text : Bytes)
    (ts : ℤ) : Window (log.pushLine s text ts) (b.pushLine s text ts) where
  complete :=
    { limits := h.complete.limits
      numbered := h.complete.numbered.snoc (by
        show log.nextRevision = 1 + log.entries.length
        rw [h.complete.nextRevision, Nat.add_comm])
      nextRevision := by
        show log.nextRevision + 1 = (log.entries ++ [_]).length + 1
        rw [h.complete.nextRevision, List.length_append, List.length_singleton] }
  source := h.source
  nextRevision := congrArg (· + 1) h.nextRevision
  nextByteOffset := h.nextByteOffset
  partials := fun stream => by
    rw [partialForStream_pushLine, partialForStream_pushLine]
    exact h.partials stream
  entries := by
    show b.entries ++ [b.completedEntry s text ts] =
      (log.entries ++ [log.completedEntry s text ts]).drop b.droppedEntries
    rw [List.drop_append_of_le_length h.dropped, h.entries, h.completedEntry]
  dropped := by
    show b.droppedEntries ≤ (log.entries ++ [_]).length
    rw [List.length_append]
    exact h.dropped.trans (Nat.le_add_right _ _)
  droppedBytes := by
    show b.droppedBytes = entryBytes ((log.entries ++ [_]).take b.droppedEntries)
    rw [List.take_append_of_le_length h.dropped]
    exact h.droppedBytes

/-- One turn of the eviction loop moves the front of the window by one entry. -/
theorem Window.countDropped {log b : LogBuffer} {entry : EvidenceEntry}
    {rest : List EvidenceEntry} (h : Window log { b with entries := entry :: rest }) :
    Window log { b.countDropped entry with entries := rest } := by
  have hentries : entry :: rest = log.entries.drop b.droppedEntries := h.entries
  have hlt : b.droppedEntries < log.entries.length := by
    have hlength := congrArg List.length hentries
    rw [List.length_cons, List.length_drop] at hlength
    omega
  have hget : entry :: rest =
      log.entries[b.droppedEntries] :: log.entries.drop (b.droppedEntries + 1) := by
    rw [hentries, List.drop_eq_getElem_cons hlt]
  obtain ⟨hentry, hrest⟩ := List.cons.inj hget
  refine { h with entries := hrest, dropped := hlt, droppedBytes := ?_ }
  show b.droppedBytes + entry.text.length = entryBytes (log.entries.take (b.droppedEntries + 1))
  have hbytes : b.droppedBytes = entryBytes (log.entries.take b.droppedEntries) := h.droppedBytes
  rw [List.take_add_one, List.getElem?_eq_getElem hlt, entryBytes_append, hbytes, hentry]
  rfl

/-- **Eviction makes the window smaller.** -/
theorem Window.evictLoop {log b : LogBuffer} {entries : List EvidenceEntry}
    (h : Window log { b with entries := entries }) : Window log (b.evictLoop entries) := by
  induction entries generalizing b with
  | nil => exact h
  | cons entry rest ih =>
      unfold LogBuffer.evictLoop
      split_ifs
      · exact ih h.countDropped
      · exact h

/-- The log itself evicts nothing. -/
theorem Complete.completeLine {log : LogBuffer} (h : log.Complete) (s : LogStream) (text : Bytes)
    (ts : ℤ) : log.completeLine s text ts = log.pushLine s text ts := by
  apply completeLine_of_not_overLimits
  rw [h.limits]
  simp [overLimits, noLimits]

/-- Completing a line keeps the window. -/
theorem Window.completeLine {log b : LogBuffer} (h : Window log b) (s : LogStream) (text : Bytes)
    (ts : ℤ) : Window (log.completeLine s text ts) (b.completeLine s text ts) := by
  rw [h.complete.completeLine]
  exact (h.pushLine s text ts).evictLoop

/-- A byte keeps the window. -/
theorem Window.appendByte {log b : LogBuffer} (h : Window log b) (s : LogStream) (ts : ℤ)
    (ch : UInt8) (next : Option UInt8) :
    Window (log.appendByte s ts ch next) (b.appendByte s ts ch next) := by
  rw [appendByte_eq, appendByte_eq, h.partials s]
  rcases (log.partialForStream s).read ts ch next with ⟨line, _ | text⟩
  · exact h.countByte.setPartialForStream s line
  · exact (h.countByte.setPartialForStream s line).completeLine s text ts

/-- Some bytes keep the window. -/
theorem Window.appendBytes {log b : LogBuffer} (h : Window log b) (s : LogStream) (ts : ℤ)
    (data : Bytes) : Window (log.appendBytes s ts data) (b.appendBytes s ts data) := by
  induction data generalizing log b with
  | nil => exact h
  | cons ch rest ih => exact ih (h.appendByte s ts ch rest.head?)

/-- A call keeps the window. -/
theorem Window.append {log b : LogBuffer} (h : Window log b) (s : LogStream) (data : Bytes)
    (ts : ℤ) : Window (log.append s data ts) (b.append s data ts) := by
  unfold LogBuffer.append
  by_cases hdata : data.isEmpty
  · rw [if_pos hdata, if_pos hdata]
    exact h
  · rw [if_neg hdata, if_neg hdata]
    dsimp only
    rw [h.partials s]
    apply Window.appendBytes
    split_ifs
    · exact h.setPartialForStream s _
    · exact h

/-- **The run lemma.** -/
theorem window_appendAll {log b : LogBuffer} (h : Window log b) (calls : List AppendCall) :
    Window (log.appendAll calls) (b.appendAll calls) := by
  induction calls generalizing log b with
  | nil => exact h
  | cons c calls ih => exact ih (h.append c.stream c.data c.timestampUnixMs)

/-- A buffer without limits drops nothing. -/
theorem droppedEntries_noLimits (source : EvidenceSourceRef) (calls : List AppendCall) :
    ((empty source noLimits).appendAll calls).droppedEntries = 0 := by
  have hwindow := window_appendAll (window_empty source noLimits) calls
  have hlength := congrArg List.length hwindow.entries
  have hdropped := hwindow.dropped
  rw [List.length_drop] at hlength
  omega

/-- **The log is read from the bytes:** the texts of its entries for either stream are the lines
that `lineStep` reads from all the bytes of that stream. -/
theorem texts_completedEntries (source : EvidenceSourceRef) (calls : List AppendCall)
    (stream : LogStream) :
    ((completedEntries source calls).filter (·.stream = stream)).map (·.text) =
      (Chunking.run lineStep {} (streamData stream calls)).2 := by
  have hview := appendAll_view (inv_empty source noLimits) calls
    (droppedEntries_noLimits source calls) stream
  rw [view_empty] at hview
  have htexts : completedTexts _ stream = _ := congrArg Prod.snd hview
  rw [Chunking.feed, List.nil_append] at htexts
  exact htexts

/-! ### The representation invariant -/

/-- The retained revisions are consecutive. -/
theorem Window.numbered {log b : LogBuffer} (h : Window log b) :
    Numbered (·.revision) (b.droppedEntries + 1) b.entries := by
  rw [h.entries, Nat.add_comm]
  exact h.complete.numbered.drop b.droppedEntries

/-- They end at the revision before the next one. -/
theorem Window.nextRevision_eq {log b : LogBuffer} (h : Window log b) :
    b.nextRevision = b.droppedEntries + 1 + b.entries.length := by
  have hdropped := h.dropped
  rw [h.nextRevision, h.complete.nextRevision, h.entries, List.length_drop]
  omega

/-- The revisions a buffer reports: the oldest is behind the dropped ones, the latest before the
next, also when nothing is retained. -/
theorem Window.stats {log b : LogBuffer} (h : Window log b) :
    b.stats.oldestRevision = b.droppedEntries + 1 ∧
      b.stats.latestRevision + 1 = b.stats.nextRevision ∧
      b.stats.oldestRevision + b.stats.retainedEntries = b.stats.nextRevision := by
  have hnext := h.nextRevision_eq
  by_cases hne : b.entries = []
  · simp only [LogBuffer.stats, latestRevision, hne, List.head?_nil, List.getLast?_nil,
      List.length_nil] at hnext ⊢
    omega
  · obtain ⟨front, back, hhead, hlast, hfront, hback⟩ := exists_ends h.numbered hne
    simp only [LogBuffer.stats, latestRevision, hhead, hlast]
    omega

/-- **What a log buffer retains.** After any appends to a buffer with any limits: the retained
entries are what is left of all completed lines behind the dropped ones, which the counters count;
their revisions are consecutive and end before `next_revision_`; the sizes are right and within
every limit that is not zero; and the two lookups answer by revision. -/
theorem logBuffer_window (source : EvidenceSourceRef) (limits : LogBufferLimits)
    (calls : List AppendCall) :
    let b := (empty source limits).appendAll calls
    (∃ first, Numbered (·.revision) first b.entries ∧
        first + b.entries.length = b.nextRevision) ∧
      b.retainedBytes = entryBytes b.entries ∧
      (limits.maxEntries ≠ 0 → b.entries.length ≤ limits.maxEntries) ∧
      (limits.maxBytes ≠ 0 → b.retainedBytes ≤ limits.maxBytes) ∧
      (∃ dropped, completedEntries source calls = dropped ++ b.entries ∧
        b.droppedEntries = dropped.length ∧ b.droppedBytes = entryBytes dropped) ∧
      (∀ revisionStart revisionEnd limit,
        b.range revisionStart revisionEnd limit =
          some ((b.entries.filter fun entry =>
            revisionStart ≤ entry.revision ∧ entry.revision ≤ revisionEnd).take limit)) ∧
      ∀ revision, b.containsRevision revision = true ↔
        ∃ entry ∈ b.entries, entry.revision = revision := by
  intro b
  have hwindow : Window ((empty source noLimits).appendAll calls) b :=
    window_appendAll (window_empty source limits) calls
  have hinv : b.Inv := inv_appendAll (inv_empty source limits) calls
  have hlimits : b.limits = limits := limits_appendAll (empty source limits) calls
  have hfits := hinv.fits
  rw [hlimits] at hfits
  simp only [overLimits, Bool.or_eq_false_iff, Bool.and_eq_false_iff, decide_eq_false_iff_not]
    at hfits
  refine ⟨⟨_, hwindow.numbered, hwindow.nextRevision_eq.symm⟩, hinv.accounted, by omega, by omega,
    ⟨_, ?_, ?_, hwindow.droppedBytes⟩, range_eq hwindow.numbered,
    containsRevision_iff hwindow.numbered⟩
  · rw [hwindow.entries]
    exact (List.take_append_drop _ _).symm
  · rw [List.length_take]
    exact (Nat.min_eq_left hwindow.dropped).symm

end LogBuffer

end Sentrits.Service
