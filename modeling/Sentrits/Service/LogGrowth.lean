import Sentrits.Service.LogWindow

/-!
# What an append adds to the log

The lines a call completes go behind those there are, with ids made of their revisions.

* `makeEntryId_inj`: an id stands for a revision.
* `Adds`: what reading some bytes adds to a log.
* `Window.exists_completed`: **an append adds such lines**, numbered from the next revision on.

Source: `src/service/log_buffer.cpp`.
-/

namespace Sentrits.Service

open Found Found.Bytes

namespace LogBuffer

/-! ### Ids -/

/-- **An id stands for a revision.** -/
theorem makeEntryId_inj (b : LogBuffer) {first second : ℕ} :
    b.makeEntryId first = b.makeEntryId second ↔ first = second := by
  constructor
  · intro h
    unfold makeEntryId at h
    have htext : toString first = toString second := (String.append_right_inj _).mp h
    simp only [Nat.toString_eq_ofList_toDigits] at htext
    rw [← Nat.ofDigitChars_ten_toDigits (n := first), String.ofList_injective htext,
      Nat.ofDigitChars_ten_toDigits]
  · rintro rfl
    rfl

/-- The entries have ids of their revisions. -/
def Labelled (b : LogBuffer) (entries : List EvidenceEntry) : Prop :=
  ∀ entry ∈ entries, entry.entryId = b.makeEntryId entry.revision

/-- A label of one buffer is a label of another one with the same source. -/
theorem Labelled.congr {b b' : LogBuffer} {entries : List EvidenceEntry} (h : b.Labelled entries)
    (hsource : b'.source = b.source) : b'.Labelled entries := by
  intro entry hentry
  have hlabel := h entry hentry
  unfold makeEntryId at hlabel ⊢
  rw [hsource]
  exact hlabel

/-! ### Lines added -/

/-- A line under assembly leaves the source. -/
theorem source_setPartialForStream (b : LogBuffer) (s : LogStream) (p : PartialLine) :
    (b.setPartialForStream s p).source = b.source := by
  cases s <;> rfl

/-- The lines that reading some bytes adds to a log: of its stream, with the ids of their revisions,
and at least one exactly when there is a line feed among the bytes. -/
structure Adds (log log' : LogBuffer) (stream : LogStream) (data : Bytes)
    (added : List EvidenceEntry) : Prop where
  source : log'.source = log.source
  entries : log'.entries = log.entries ++ added
  stream : ∀ entry ∈ added, entry.stream = stream
  completed : ∀ entry ∈ added, entry.isPartial = false
  labelled : log.Labelled added
  ne_nil_iff : added ≠ [] ↔ lf ∈ data

/-- No bytes add nothing. -/
theorem Adds.refl (log : LogBuffer) (stream : LogStream) : Adds log log stream [] [] where
  source := rfl
  entries := (List.append_nil _).symm
  stream := fun _ h => absurd h List.not_mem_nil
  completed := fun _ h => absurd h List.not_mem_nil
  labelled := fun _ h => absurd h List.not_mem_nil
  ne_nil_iff := by simp

/-- What some bytes add, and then others. -/
theorem Adds.trans {first second third : LogBuffer} {stream : LogStream} {data data' : Bytes}
    {added added' : List EvidenceEntry} (h : Adds first second stream data added)
    (h' : Adds second third stream data' added') :
    Adds first third stream (data ++ data') (added ++ added') where
  source := h'.source.trans h.source
  entries := by rw [h'.entries, h.entries, List.append_assoc]
  stream := by
    intro entry hentry
    rcases List.mem_append.mp hentry with hentry | hentry
    · exact h.stream entry hentry
    · exact h'.stream entry hentry
  completed := by
    intro entry hentry
    rcases List.mem_append.mp hentry with hentry | hentry
    · exact h.completed entry hentry
    · exact h'.completed entry hentry
  labelled := by
    intro entry hentry
    rcases List.mem_append.mp hentry with hentry | hentry
    · exact h.labelled entry hentry
    · exact h'.labelled.congr h.source.symm entry hentry
  ne_nil_iff := by
    rw [List.mem_append, ← h.ne_nil_iff, ← h'.ne_nil_iff, ne_eq, List.append_eq_nil_iff,
      Classical.not_and_iff_not_or_not]

/-- One turn of the loop. -/
theorem Complete.adds_appendByte {log : LogBuffer} (h : log.Complete) (s : LogStream) (ts : ℤ)
    (ch : UInt8) (next : Option UInt8) :
    ∃ added, Adds log (log.appendByte s ts ch next) s [ch] added := by
  have hsome := ((log.partialForStream s).isSome_read_iff ts ch next).trans eq_comm
  rw [appendByte_eq]
  generalize (log.partialForStream s).read ts ch next = turn at hsome ⊢
  rcases turn with ⟨line, _ | text⟩
  · refine ⟨[], source_setPartialForStream _ s line, ?_, fun _ h => absurd h List.not_mem_nil,
      fun _ h => absurd h List.not_mem_nil, fun _ h => absurd h List.not_mem_nil, ?_⟩
    · simp
    · simpa using hsome
  · have hset : (log.countByte.setPartialForStream s line).Complete := by
      cases s with
      | stdout => exact { h with limits := h.limits }
      | stderr => exact { h with limits := h.limits }
    dsimp only
    rw [hset.completeLine]
    refine ⟨[(log.countByte.setPartialForStream s line).completedEntry s text ts],
      ?_, ?_, ?_, ?_, ?_, ?_⟩
    · exact source_setPartialForStream _ s line
    · simp [pushLine]
    · intro entry hentry
      rw [List.mem_singleton.mp hentry]
      rfl
    · intro entry hentry
      rw [List.mem_singleton.mp hentry]
      rfl
    · intro entry hentry
      rw [List.mem_singleton.mp hentry]
      cases s <;> rfl
    · simpa using hsome

/-- The loop of an append. -/
theorem Window.adds_appendBytes {log b : LogBuffer} (h : Window log b) (s : LogStream) (ts : ℤ)
    (data : Bytes) : ∃ added, Adds log (log.appendBytes s ts data) s data added := by
  induction data generalizing log b with
  | nil => exact ⟨[], Adds.refl log s⟩
  | cons ch rest ih =>
      obtain ⟨added, hfirst⟩ := h.complete.adds_appendByte s ts ch rest.head?
      obtain ⟨added', hrest⟩ := ih (h.appendByte s ts ch rest.head?)
      exact ⟨added ++ added', hfirst.trans hrest⟩

/-- **What an append adds to the log.** -/
theorem Window.exists_completed {log b : LogBuffer} (h : Window log b) (c : AppendCall) :
    ∃ added, Adds log (log.call c) c.stream c.data added := by
  obtain ⟨line, -, heq⟩ := append_eq log c.stream c.data c.timestampUnixMs
  obtain ⟨added, hadds⟩ :=
    (h.setPartialForStream c.stream line).adds_appendBytes c.stream c.timestampUnixMs c.data
  have hsource := source_setPartialForStream log c.stream line
  unfold call
  rw [heq]
  refine ⟨added, hadds.source.trans hsource, ?_, hadds.stream, hadds.completed,
    hadds.labelled.congr hsource.symm, hadds.ne_nil_iff⟩
  rw [hadds.entries, entries_setPartialForStream]

/-- The added lines are numbered from the next revision on. -/
theorem Window.numbered_added {log b : LogBuffer} {c : AppendCall} {added : List EvidenceEntry}
    (h : Window log b) (hadds : Adds log (log.call c) c.stream c.data added) :
    Numbered (·.revision) log.nextRevision added := by
  have hcomplete : (log.call c).Complete :=
    (h.append c.stream c.data c.timestampUnixMs).complete
  have hnumbered := hcomplete.numbered.drop log.entries.length
  rw [hadds.entries, List.drop_left] at hnumbered
  rw [h.complete.nextRevision, Nat.add_comm]
  exact hnumbered

end LogBuffer

end Sentrits.Service
