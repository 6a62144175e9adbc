import Sentrits.Store.StoredDocuments

/-!
# What the store of evidence keeps

A piece of evidence is stored when its metadata is written, which is the last that is written of it.
What a call does to the directory it is about is told by what stood there and by what its writes
come to; it does nothing to the others.

* `Stored`, `stored_iff_find`: the evidence there is.
* `find_createEvidence_of_ne`, `find_removeEvidence_of_ne`: **the other directories stay**.
* `find_createEvidence`, `createEvidence_snd`: what stands there afterwards, and what is answered.
* `stored_createEvidence_of_absent`, `stored_createEvidence_of_present`: which evidence is stored
  then.

Source: `src/store/file_stores.cpp`.
-/

namespace Sentrits.Store

open Found Found.Bytes Found.Keyed

/-- The next outcome, and those behind it. -/
theorem nextOutcome_eq (outcomes : List Bool) :
    nextOutcome outcomes = (outcomes.headD true, outcomes.tail) := by
  rcases outcomes with _ | ⟨outcome, outcomes⟩
  · rfl
  · rfl

/-- A document is written under the same key. -/
@[simp]
theorem EvidenceDirectory.key_withDocument (directory : EvidenceDirectory) (document : Bytes)
    (kind : EvidenceKind) : (directory.withDocument document kind).key = directory.key := by
  cases kind <;> rfl

/-- The metadata stays. -/
@[simp]
theorem EvidenceDirectory.metadata_withDocument (directory : EvidenceDirectory) (document : Bytes)
    (kind : EvidenceKind) :
    (directory.withDocument document kind).metadata = directory.metadata := by
  cases kind <;> rfl

/-- Writes the metadata of a directory. -/
def EvidenceDirectory.withMetadata (directory : EvidenceDirectory)
    (summary : StoredEvidenceSummary) : EvidenceDirectory :=
  { directory with metadata := some summary }

/-- Metadata are written under the same key. -/
@[simp]
theorem EvidenceDirectory.key_withMetadata (directory : EvidenceDirectory)
    (summary : StoredEvidenceSummary) : (directory.withMetadata summary).key = directory.key := by
  rfl

namespace StoredEvidenceStore

variable {store : StoredEvidenceStore}

/-! ### Stored evidence -/

/-- The directory is there, with its metadata. -/
def Stored (store : StoredEvidenceStore) (directory : EvidenceDirectory) : Prop :=
  directory ∈ store.directories ∧ directory.metadata.isSome = true

/-- **What is stored is found** under its names. -/
theorem stored_iff_find {directory : EvidenceDirectory} :
    store.Stored directory ↔
      find EvidenceDirectory.key directory.key store.directories = some directory ∧
        directory.metadata.isSome = true := by
  unfold Stored
  refine and_congr_left' ⟨?_, fun h => (mem_of_find h).1⟩
  exact find_of_mem store.distinct

/-! ### Writes -/

/-- What a write leaves, whether it succeeds or not. -/
theorem write_eq (store : StoredEvidenceStore) (directory : EvidenceDirectory) :
    (store.write directory).1.directories =
        (if store.outcomes.headD true then
          upsert EvidenceDirectory.key directory store.directories
        else store.directories) ∧
      (store.write directory).1.outcomes = store.outcomes.tail ∧
      (store.write directory).2 = store.outcomes.headD true := by
  unfold write
  rw [nextOutcome_eq]
  rcases store.outcomes.headD true <;> exact ⟨rfl, rfl, rfl⟩

/-- What a removal leaves. -/
theorem removeAll_eq (store : StoredEvidenceStore) (key : SafeIdentifier × SafeIdentifier) :
    (store.removeAll key).1.directories =
      if store.outcomes.headD true then remove EvidenceDirectory.key key store.directories
      else store.directories := by
  unfold removeAll
  rw [nextOutcome_eq]
  rcases store.outcomes.headD true <;> rfl

/-- A write is about one directory. -/
theorem find_write_of_ne {key : SafeIdentifier × SafeIdentifier} {directory : EvidenceDirectory}
    (h : directory.key ≠ key) :
    find EvidenceDirectory.key key (store.write directory).1.directories =
      find EvidenceDirectory.key key store.directories := by
  rw [(write_eq store directory).1]
  split_ifs
  · exact find_upsert_of_ne h _
  · rfl

/-- What is found under the key after a write. -/
theorem find_write (store : StoredEvidenceStore) (directory : EvidenceDirectory) :
    find EvidenceDirectory.key directory.key (store.write directory).1.directories =
      if store.outcomes.headD true then some directory
      else find EvidenceDirectory.key directory.key store.directories := by
  rw [(write_eq store directory).1]
  split_ifs
  · exact find_upsert_self directory _
  · rfl

/-- So is a removal. -/
theorem find_removeAll_of_ne {key other : SafeIdentifier × SafeIdentifier} (h : other ≠ key) :
    find EvidenceDirectory.key other (store.removeAll key).1.directories =
      find EvidenceDirectory.key other store.directories := by
  rw [removeAll_eq]
  split_ifs
  · exact find_remove_of_ne h _
  · rfl

/-- What is found under the key after a removal. -/
theorem find_removeAll (store : StoredEvidenceStore) (key : SafeIdentifier × SafeIdentifier) :
    find EvidenceDirectory.key key (store.removeAll key).1.directories =
      if store.outcomes.headD true then none
      else find EvidenceDirectory.key key store.directories := by
  rw [removeAll_eq]
  split_ifs
  · exact find_remove_self key _
  · rfl

/-- Other evidence is not removed. -/
theorem find_removeEvidence_of_ne {sessionId evidenceId : Bytes}
    {other : SafeIdentifier × SafeIdentifier} (h : directoryKey sessionId evidenceId ≠ some other) :
    find EvidenceDirectory.key other
        (store.removeEvidence sessionId evidenceId).1.directories =
      find EvidenceDirectory.key other store.directories := by
  unfold removeEvidence
  split
  · rfl
  · rename_i key hkey
    split_ifs
    · refine find_removeAll_of_ne fun heq => h ?_
      rw [hkey, heq]
    · rfl

/-! ### The evidence under a key -/

section Record

variable {key : SafeIdentifier × SafeIdentifier}

/-- The evidence under a key, when some is stored there. -/
def record? (store : StoredEvidenceStore) (key : SafeIdentifier × SafeIdentifier) :
    Option EvidenceDirectory :=
  (find EvidenceDirectory.key key store.directories).filter (·.metadata.isSome)

/-- A record is read exactly when it is stored under the key. -/
theorem record?_eq_some_iff {directory : EvidenceDirectory} :
    store.record? key = some directory ↔ store.Stored directory ∧ directory.key = key := by
  unfold record?
  rw [Option.filter_eq_some_iff, stored_iff_find]
  constructor
  · rintro ⟨hfind, hmetadata⟩
    obtain rfl := (mem_of_find hfind).2
    exact ⟨⟨hfind, hmetadata⟩, rfl⟩
  · rintro ⟨hstored, rfl⟩
    exact hstored

/-- With the same directory under a key, the same evidence is stored under it. -/
theorem record?_congr {store' : StoredEvidenceStore}
    (h : find EvidenceDirectory.key key store'.directories =
      find EvidenceDirectory.key key store.directories) :
    store'.record? key = store.record? key := by
  unfold record?
  rw [h]

/-- Evidence is stored exactly when it is read under its own key. -/
theorem stored_iff_record? {directory : EvidenceDirectory} :
    store.Stored directory ↔ store.record? directory.key = some directory := by
  rw [record?_eq_some_iff, and_iff_left rfl]

/-- With the same evidence under every key, the same evidence is stored. -/
theorem stored_congr {store' : StoredEvidenceStore}
    (h : ∀ key, store'.record? key = store.record? key) (directory : EvidenceDirectory) :
    store'.Stored directory ↔ store.Stored directory := by
  rw [stored_iff_record?, stored_iff_record?, h]

end Record

/-! ### A piece of evidence -/

section Create

variable {kind : EvidenceKind} {sessionId evidenceId title document : Bytes} {createdAtUnixMs : ℤ}
  {key : SafeIdentifier × SafeIdentifier}

/-- The directory with the document that is to be kept. -/
def withNew (store : StoredEvidenceStore) (kind : EvidenceKind)
    (key : SafeIdentifier × SafeIdentifier) (document : Bytes) : EvidenceDirectory :=
  ((find EvidenceDirectory.key key store.directories).getD
    { sessionId := key.1, evidenceId := key.2 }).withDocument document kind

/-- New evidence has the key it is created under. -/
@[simp]
theorem key_withNew : (store.withNew kind key document).key = key := by
  unfold withNew
  rw [EvidenceDirectory.key_withDocument]
  rcases h : find EvidenceDirectory.key key store.directories with _ | directory
  · rfl
  · exact (mem_of_find h).2

/-- What is written of the evidence beside its document. -/
def summaryOf (kind : EvidenceKind) (sessionId evidenceId title document : Bytes)
    (createdAtUnixMs : ℤ) : StoredEvidenceSummary :=
  { evidenceId, sessionId, kind := kind.name, title, contentType := kind.contentType
    createdAtUnixMs, sizeBytes := document.length }

/-- What two writes, and a removal after a write that failed, make of a directory. -/
def afterWrites (before : Option EvidenceDirectory) (written : EvidenceDirectory)
    (summary : StoredEvidenceSummary) (outcomes : List Bool) : Option EvidenceDirectory :=
  if outcomes.headD true then
    if outcomes.tail.headD true then some (written.withMetadata summary)
    else if outcomes.tail.tail.headD true then none
    else some written
  else if outcomes.tail.headD true then none
  else before

/-- Nothing is done without a directory, a title or a document. -/
theorem createEvidence_of_rejected
    (h : directoryKey sessionId evidenceId = none ∨ title = [] ∨ document = []) :
    store.createEvidence kind sessionId evidenceId title document createdAtUnixMs =
      (store, none) := by
  unfold createEvidence
  split
  · rfl
  · rename_i key hkey
    rcases h with h | rfl | rfl
    · rw [hkey] at h
      cases h
    · rfl
    · rw [if_pos (by simp)]

/-- The two writes, and what is done when one of them fails. -/
theorem createEvidence_of_key (hkey : directoryKey sessionId evidenceId = some key)
    (htitle : title ≠ []) (hdocument : document ≠ []) :
    store.createEvidence kind sessionId evidenceId title document createdAtUnixMs =
      let summary := summaryOf kind sessionId evidenceId title document createdAtUnixMs
      let directory := store.withNew kind key document
      let first := store.write directory
      let second := first.1.write (directory.withMetadata summary)
      if first.2 then
        if second.2 then (second.1, some summary) else ((second.1.removeAll key).1, none)
      else ((first.1.removeAll key).1, none) := by
  unfold createEvidence
  rw [hkey]
  dsimp only
  rw [if_neg (by simp [htitle, hdocument])]
  split
  next first hfirst =>
    rw [show store.write (store.withNew kind key document) = (first, false) from hfirst]
    rfl
  next first hfirst =>
    rw [show store.write (store.withNew kind key document) = (first, true) from hfirst]
    dsimp only
    split
    next second hsecond =>
      rw [show first.write ((store.withNew kind key document).withMetadata
        (summaryOf kind sessionId evidenceId title document createdAtUnixMs)) =
          (second, false) from hsecond]
      rfl
    next second hsecond =>
      rw [show first.write ((store.withNew kind key document).withMetadata
        (summaryOf kind sessionId evidenceId title document createdAtUnixMs)) =
          (second, true) from hsecond]
      rfl

/-- **The other directories stay.** -/
theorem find_createEvidence_of_ne {other : SafeIdentifier × SafeIdentifier}
    (h : directoryKey sessionId evidenceId ≠ some other) :
    find EvidenceDirectory.key other
        (store.createEvidence kind sessionId evidenceId title document
          createdAtUnixMs).1.directories =
      find EvidenceDirectory.key other store.directories := by
  by_cases hrejected : directoryKey sessionId evidenceId = none ∨ title = [] ∨ document = []
  · rw [createEvidence_of_rejected hrejected]
  · rw [not_or, not_or] at hrejected
    obtain ⟨hnone, htitle, hdocument⟩ := hrejected
    obtain ⟨key, hkey⟩ := Option.ne_none_iff_exists'.mp hnone
    have hne : other ≠ key := fun heq => h (by rw [hkey, heq])
    have hwritten : (store.withNew kind key document).key ≠ other := by
      rw [key_withNew]
      exact Ne.symm hne
    have hmetadata : ∀ summary,
        ((store.withNew kind key document).withMetadata summary).key ≠ other := fun _ => hwritten
    rw [createEvidence_of_key hkey htitle hdocument]
    dsimp only
    split_ifs
    · dsimp only
      rw [find_write_of_ne (hmetadata _), find_write_of_ne hwritten]
    · rw [find_removeAll_of_ne hne, find_write_of_ne (hmetadata _), find_write_of_ne hwritten]
    · rw [find_removeAll_of_ne hne, find_write_of_ne hwritten]

/-- **What stands in the directory then.** -/
theorem find_createEvidence (hkey : directoryKey sessionId evidenceId = some key)
    (htitle : title ≠ []) (hdocument : document ≠ []) :
    find EvidenceDirectory.key key
        (store.createEvidence kind sessionId evidenceId title document
          createdAtUnixMs).1.directories =
      afterWrites (find EvidenceDirectory.key key store.directories)
        (store.withNew kind key document)
        (summaryOf kind sessionId evidenceId title document createdAtUnixMs) store.outcomes := by
  rw [createEvidence_of_key hkey htitle hdocument]
  generalize summaryOf kind sessionId evidenceId title document createdAtUnixMs = summary
  generalize hwritten : store.withNew kind key document = written
  obtain rfl : written.key = key := by rw [← hwritten, key_withNew]
  have hfirst := find_write store written
  obtain ⟨-, houtcomes, hsucceeds⟩ := write_eq store written
  have hsecond := find_write (store.write written).1 (written.withMetadata summary)
  obtain ⟨-, houtcomes', hsucceeds'⟩ := write_eq (store.write written).1
    (written.withMetadata summary)
  rw [EvidenceDirectory.key_withMetadata] at hsecond
  unfold afterWrites
  dsimp only
  rw [hsucceeds, hsucceeds', houtcomes]
  rw [houtcomes] at houtcomes' hsecond
  split_ifs with h1 h2 h3 h4
  · rw [hsecond, if_pos h2]
  · rw [find_removeAll, houtcomes', if_pos h3]
  · rw [find_removeAll, houtcomes', if_neg h3, hsecond, if_neg h2, hfirst, if_pos h1]
  · rw [find_removeAll, houtcomes, if_pos h4]
  · rw [find_removeAll, houtcomes, if_neg h4, hfirst, if_neg h1]

/-- What is answered: the evidence is stored when both writes succeed. -/
theorem createEvidence_snd (hkey : directoryKey sessionId evidenceId = some key)
    (htitle : title ≠ []) (hdocument : document ≠ []) :
    (store.createEvidence kind sessionId evidenceId title document createdAtUnixMs).2 =
      if store.outcomes.headD true ∧ store.outcomes.tail.headD true then
        some (summaryOf kind sessionId evidenceId title document createdAtUnixMs)
      else none := by
  rw [createEvidence_of_key hkey htitle hdocument]
  dsimp only
  rw [(write_eq _ _).2.2, (write_eq _ _).2.2, (write_eq _ _).2.1]
  by_cases hfirst : store.outcomes.headD true = true
  · by_cases hsecond : store.outcomes.tail.headD true = true
    · rw [if_pos hfirst, if_pos hsecond, if_pos ⟨hfirst, hsecond⟩]
    · rw [if_pos hfirst, if_neg hsecond, if_neg fun h => hsecond h.2]
  · rw [if_neg hfirst, if_neg fun h => hfirst h.1]

/-! ### Which evidence is stored then -/

/-- What has no metadata yet gets none with its document. -/
theorem metadata_withNew (h : store.record? key = none) (kind : EvidenceKind) (document : Bytes) :
    (store.withNew kind key document).metadata = none := by
  unfold withNew
  rw [EvidenceDirectory.metadata_withDocument]
  rw [record?] at h
  rcases hfind : find EvidenceDirectory.key key store.directories with _ | directory
  · rfl
  · rw [hfind] at h
    simpa using h

/-- Other evidence is read as before. -/
theorem record?_createEvidence_of_ne {other : SafeIdentifier × SafeIdentifier}
    (h : directoryKey sessionId evidenceId ≠ some other) :
    (store.createEvidence kind sessionId evidenceId title document
      createdAtUnixMs).1.record? other =
      store.record? other := by
  exact record?_congr (find_createEvidence_of_ne h)

/-- **Where nothing is stored yet**, what is written is stored when both writes succeed, and nothing
is when one of them fails. -/
theorem stored_createEvidence_of_absent (hkey : directoryKey sessionId evidenceId = some key)
    (htitle : title ≠ []) (hdocument : document ≠ []) (habsent : store.record? key = none)
    (directory : EvidenceDirectory) :
    (store.createEvidence kind sessionId evidenceId title document createdAtUnixMs).1.Stored
        directory ↔
      store.Stored directory ∨
        store.outcomes.headD true = true ∧ store.outcomes.tail.headD true = true ∧
          directory = (store.withNew kind key document).withMetadata
            (summaryOf kind sessionId evidenceId title document createdAtUnixMs) := by
  by_cases hother : directory.key = key
  · have hbefore : ¬ store.Stored directory := by
      rw [stored_iff_record?, hother, habsent]
      exact Option.some_ne_none directory ∘ Eq.symm
    have hwritten := metadata_withNew habsent kind document
    rw [or_iff_right hbefore, stored_iff_record?, hother, record?,
      find_createEvidence hkey htitle hdocument, afterWrites]
    rw [record?] at habsent
    split_ifs with hfirst hsecond
    · rw [and_iff_right hfirst, and_iff_right hsecond]
      exact ⟨fun h => (Option.some.inj h).symm, fun h => congrArg some h.symm⟩
    · exact iff_of_false (Option.some_ne_none directory ∘ Eq.symm) fun h => hsecond h.2.1
    · refine iff_of_false ?_ fun h => hsecond h.2.1
      rw [Option.filter_some, if_neg (by simp [hwritten])]
      exact Option.some_ne_none directory ∘ Eq.symm
    · exact iff_of_false (Option.some_ne_none directory ∘ Eq.symm) fun h => hfirst h.1
    · refine iff_of_false ?_ fun h => hfirst h.1
      rw [habsent]
      exact Option.some_ne_none directory ∘ Eq.symm
  · have hne : directory ≠ (store.withNew kind key document).withMetadata
        (summaryOf kind sessionId evidenceId title document createdAtUnixMs) := by
      rintro rfl
      exact hother key_withNew
    have hleft : directoryKey sessionId evidenceId ≠ some directory.key := by
      rw [hkey]
      exact fun heq => hother (Option.some.inj heq).symm
    rw [stored_iff_record?, record?_createEvidence_of_ne hleft, ← stored_iff_record?]
    exact ⟨Or.inl, fun h => h.resolve_right fun hnew => hne hnew.2.2⟩

/-- Two writes and what follows them leave the record as it is: what they write is there already,
and after a write that fails the removal fails as well. -/
def LeftBy (record : EvidenceDirectory) (document : Bytes) (summary : StoredEvidenceSummary)
    (outcomes : List Bool) : Prop :=
  if outcomes.headD true then
    record.evidence = some document ∧
      if outcomes.tail.headD true then record.metadata = some summary
      else ¬ outcomes.tail.tail.headD true = true
  else ¬ outcomes.tail.headD true = true

/-- **Where a record is stored already**, it stays stored exactly when it is left as it is. -/
theorem stored_createEvidence_of_present (hkey : directoryKey sessionId evidenceId = some key)
    (htitle : title ≠ []) (hdocument : document ≠ []) {record : EvidenceDirectory}
    (hpresent : store.record? key = some record) :
    (store.createEvidence .logSnapshot sessionId evidenceId title document
        createdAtUnixMs).1.Stored record ↔
      LeftBy record document
        (summaryOf .logSnapshot sessionId evidenceId title document createdAtUnixMs)
        store.outcomes := by
  obtain ⟨hstored, rfl⟩ := record?_eq_some_iff.mp hpresent
  obtain ⟨hfind, hmetadata⟩ := stored_iff_find.mp hstored
  have hwritten : store.withNew .logSnapshot record.key document =
      { record with evidence := some document } := by
    rw [withNew, hfind]
    rfl
  have hsame : { record with evidence := some document } = record ↔
      record.evidence = some document := by
    refine ⟨fun h => ?_, fun h => ?_⟩
    · rw [← h]
    · rw [← h]
  rw [stored_iff_record?, record?, find_createEvidence hkey htitle hdocument, hfind, afterWrites,
    LeftBy, hwritten]
  split_ifs with hfirst hsecond hthird hremoved
  · have hboth : ({ record with evidence := some document } : EvidenceDirectory).withMetadata
          (summaryOf .logSnapshot sessionId evidenceId title document createdAtUnixMs) = record ↔
        record.evidence = some document ∧ record.metadata =
          some (summaryOf .logSnapshot sessionId evidenceId title document createdAtUnixMs) := by
      refine ⟨fun h => ⟨?_, ?_⟩, fun h => ?_⟩
      · rw [← h]
        rfl
      · rw [← h]
        rfl
      · rw [EvidenceDirectory.withMetadata, ← h.1, ← h.2]
    rw [← hboth]
    exact ⟨fun h => Option.some.inj h, fun h => congrArg some h⟩
  · exact iff_of_false (Option.some_ne_none record ∘ Eq.symm) fun h => h.2 hthird
  · rw [Option.filter_some, if_pos hmetadata, Option.some.injEq, hsame, and_iff_left hthird]
  · exact iff_of_false (Option.some_ne_none record ∘ Eq.symm) fun h => h hremoved
  · rw [Option.filter_some, if_pos hmetadata]
    exact iff_of_true rfl hremoved

/-- **Then nothing is changed** at all. -/
theorem stored_createEvidence_of_leftBy (hkey : directoryKey sessionId evidenceId = some key)
    (htitle : title ≠ []) (hdocument : document ≠ []) {record : EvidenceDirectory}
    (hpresent : store.record? key = some record)
    (hleft : LeftBy record document
      (summaryOf .logSnapshot sessionId evidenceId title document createdAtUnixMs) store.outcomes)
    (directory : EvidenceDirectory) :
    (store.createEvidence .logSnapshot sessionId evidenceId title document
        createdAtUnixMs).1.Stored directory ↔ store.Stored directory := by
  have hstays := (stored_createEvidence_of_present hkey htitle hdocument hpresent).mpr hleft
  refine stored_congr (fun other => ?_) directory
  by_cases hother : directoryKey sessionId evidenceId = some other
  · obtain rfl := Option.some.inj (hkey.symm.trans hother)
    rw [hpresent, record?_eq_some_iff]
    exact ⟨hstays, (record?_eq_some_iff.mp hpresent).2⟩
  · exact record?_createEvidence_of_ne hother

end Create

end StoredEvidenceStore

end Sentrits.Store
