import Sentrits.Service.Tracking

/-!
# The session store beside the sessions

The store is followed through every operation of the manager whose writes succeed.

* `RecordedIn`, `Recorded`: **the store holds every session without a log buffer as it is shown**,
  and no session that is gone.
* `Applied`, `Applied.follows`: the operations on sessions that are there write the records of those
  they change.
* `follows_createSession`, `follows_createLogSession`, `follows_clearInactiveSessions`: the other
  ones; a managed-log session is the only new one that is not written.
* `recorded_perform`: **every operation keeps the store up with the sessions**.

Source: `src/service/session_manager.cpp`.
-/

namespace Sentrits.Service

open Found Found.Keyed Session Store

/-! ### The store beside the sessions -/

namespace SessionManager

/-- **The records and the sessions**: no record is of a session that is gone, and every session
without a log buffer has a record that stands for it. -/
structure RecordedIn (sessions : List SessionEntry) (records : List PersistedSessionRecord) :
    Prop where
  held : ∀ record ∈ records, (SessionId.tryCreate record.sessionId).isSome = true →
    record.sessionId ∈ sessions.map (·.id)
  written : ∀ e ∈ sessions, e.logBuffer = none → ∃ record,
    find PersistedSessionRecord.sessionId e.id records = some record ∧ e.StandsFor record

/-- The store keeps up with the sessions. -/
structure Recorded (m : SessionManager) : Prop where
  inv : m.Inv
  recoverable : ∀ e ∈ m.sessions, e.Recoverable
  store : ∃ records, m.sessionStore = some records ∧ RecordedIn m.sessions records

/-- A session put behind the others, and its record if it is not a managed log. -/
theorem RecordedIn.append {sessions : List SessionEntry} {records : List PersistedSessionRecord}
    (h : RecordedIn sessions records) {e : SessionEntry} (hnew : e.id ∉ sessions.map (·.id))
    {record : PersistedSessionRecord} (hid : record.sessionId = e.id)
    (hstands : e.StandsFor record) :
    RecordedIn (sessions ++ [e]) (upsert PersistedSessionRecord.sessionId record records) where
  held := by
    intro record' hmem hvalid
    rw [List.map_append]
    rcases mem_of_mem_upsert hmem with rfl | hmem
    · exact List.mem_append_right _ (by simp [hid])
    · exact List.mem_append_left _ (h.held record' hmem hvalid)
  written := by
    intro e' he' hplain
    rcases List.mem_append.mp he' with he' | he'
    · obtain ⟨record', hfind, hrecord'⟩ := h.written e' he' hplain
      have hne : record.sessionId ≠ e'.id := by
        rw [hid]
        exact fun heq => hnew (List.mem_map.mpr ⟨e', he', heq.symm⟩)
      exact ⟨record', (find_upsert_of_ne hne records).trans hfind, hrecord'⟩
    · obtain rfl := List.mem_singleton.mp he'
      exact ⟨record, hid ▸ find_upsert_self record records, hstands⟩

/-- A managed-log session put behind the others is not written. -/
theorem RecordedIn.append_log {sessions : List SessionEntry}
    {records : List PersistedSessionRecord} (h : RecordedIn sessions records) {e : SessionEntry}
    (hlog : e.logBuffer ≠ none) : RecordedIn (sessions ++ [e]) records where
  held := by
    intro record hmem hvalid
    rw [List.map_append]
    exact List.mem_append_left _ (h.held record hmem hvalid)
  written := by
    intro e' he' hplain
    rcases List.mem_append.mp he' with he' | he'
    · exact h.written e' he' hplain
    · exact absurd hplain (List.mem_singleton.mp he' ▸ hlog)

/-! ### Operations on the sessions that are there -/

/-- The records an operation writes. -/
def writtenRecords (sessions : List SessionEntry) (f : SessionEntry → EntryResult) :
    List PersistedSessionRecord :=
  (((sessions.map f).filter (·.persist)).map (·.entry)).filterMap (·.persistedRecord)

/-- An operation went through all the sessions, and all its writes succeeded. -/
structure Applied (m m' : SessionManager) (f : SessionEntry → EntryResult) : Prop where
  sessions : m'.sessions = m.sessions.map fun e => (f e).entry
  store : m'.sessionStore = m.sessionStore.map fun records =>
    (writtenRecords m.sessions f).foldl
      (fun records record => upsert PersistedSessionRecord.sessionId record records) records

/-- Storing an entry puts its record into the store. -/
theorem sessionStore_persistEntry (m : SessionManager) (e : SessionEntry) :
    (m.persistEntry (fun _ => true) e).sessionStore = m.sessionStore.map fun records =>
      e.persistedRecord.toList.foldl
        (fun records record => upsert PersistedSessionRecord.sessionId record records) records := by
  unfold persistEntry
  split
  next hnone => simp [hnone]
  next record hsome =>
    rw [hsome, if_pos rfl]
    exact Option.map_congr fun records _ => upsertSessionRecord_eq record records

/-- Storing several puts in all of theirs. -/
theorem sessionStore_foldl_persistEntry (entries : List SessionEntry) (m : SessionManager) :
    (entries.foldl (fun m e => m.persistEntry (fun _ => true) e) m).sessionStore =
      m.sessionStore.map fun records => (entries.filterMap (·.persistedRecord)).foldl
        (fun records record => upsert PersistedSessionRecord.sessionId record records) records := by
  induction entries generalizing m with
  | nil => simp
  | cons e entries ih =>
      rw [List.foldl_cons, ih, sessionStore_persistEntry, Option.map_map]
      refine Option.map_congr fun records _ => ?_
      rcases hrecord : e.persistedRecord with _ | record
      · simp [hrecord]
      · simp [hrecord]

/-- An operation on all sessions, with what it stores. -/
theorem applied_applyAll (m : SessionManager) (f : SessionEntry → EntryResult) :
    Applied m (m.applyAll (fun _ => true) f) f where
  sessions := sessions_applyAll m _ f
  store := sessionStore_foldl_persistEntry _ _

/-- What an operation on one session makes of any session. -/
def onlyOn (sessionId : String) (f : SessionEntry → EntryResult) (e : SessionEntry) : EntryResult :=
  if e.id = sessionId then f e else { entry := e }

/-- Nothing is stored of a session that is not there. -/
theorem writtenRecords_onlyOn_of_not_mem {sessions : List SessionEntry} {sessionId : String}
    (h : sessionId ∉ sessions.map (·.id)) (f : SessionEntry → EntryResult) :
    writtenRecords sessions (onlyOn sessionId f) = [] := by
  induction sessions with
  | nil => rfl
  | cons e entries ih =>
      rw [List.map_cons, List.mem_cons, not_or] at h
      have hrest := ih h.2
      simp only [writtenRecords] at hrest ⊢
      simpa [onlyOn, if_neg (Ne.symm h.1)] using hrest

/-- One record is stored for one session, if any. -/
theorem writtenRecords_onlyOn {sessions : List SessionEntry} {e : SessionEntry}
    (hnodup : (sessions.map (·.id)).Nodup) (he : e ∈ sessions) (f : SessionEntry → EntryResult) :
    writtenRecords sessions (onlyOn e.id f) =
      if (f e).persist then (f e).entry.persistedRecord.toList else [] := by
  induction sessions with
  | nil => exact absurd he List.not_mem_nil
  | cons e' entries ih =>
      rw [List.map_cons, List.nodup_cons] at hnodup
      rcases List.mem_cons.mp he with rfl | hmem
      · have hrest := writtenRecords_onlyOn_of_not_mem hnodup.1 f
        simp only [writtenRecords] at hrest ⊢
        rcases hpersist : (f e).persist with _ | _
        · simpa [onlyOn, hpersist] using hrest
        · rcases hrecord : (f e).entry.persistedRecord with _ | record
          · simpa [onlyOn, hpersist, hrecord] using hrest
          · simpa [onlyOn, hpersist, hrecord] using hrest
      · have hne : e'.id ≠ e.id := fun heq => hnodup.1 (heq ▸ List.mem_map_of_mem hmem)
        rw [← ih hnodup.2 hmem]
        simp [writtenRecords, onlyOn, hne]

/-- An operation on one session, with what it stores. -/
theorem applied_applyOne {m : SessionManager} (h : (m.sessions.map (·.id)).Nodup)
    (sessionId : String) (f : SessionEntry → EntryResult) :
    Applied m (m.applyOne (fun _ => true) sessionId f).1 (onlyOn sessionId f) where
  sessions := by
    rw [sessions_applyOne m h]
    refine List.map_congr_left fun e _ => ?_
    unfold onlyOn
    split_ifs <;> rfl
  store := by
    unfold applyOne
    split
    next hfind =>
      rw [writtenRecords_onlyOn_of_not_mem (notMem_of_findEntry hfind)]
      simp
    next e hfind =>
      have hid : e.id = sessionId := by simpa using List.find?_some hfind
      subst hid
      rw [writtenRecords_onlyOn h (List.mem_of_find?_eq_some hfind)]
      dsimp only
      split_ifs
      · exact sessionStore_persistEntry _ _
      · simp

/-- What is stored is the record of a session that asks for it. -/
theorem mem_writtenRecords {sessions : List SessionEntry} {f : SessionEntry → EntryResult}
    {record : PersistedSessionRecord} : record ∈ writtenRecords sessions f ↔
      ∃ e ∈ sessions, (f e).persist = true ∧ (f e).entry.persistedRecord = some record := by
  simp only [writtenRecords, List.mem_filterMap, List.mem_map, List.mem_filter]
  constructor
  · rintro ⟨entry, ⟨result, ⟨⟨e, he, rfl⟩, hpersist⟩, rfl⟩, hrecord⟩
    exact ⟨e, he, hpersist, hrecord⟩
  · rintro ⟨e, he, hpersist, hrecord⟩
    exact ⟨_, ⟨_, ⟨⟨e, he, rfl⟩, hpersist⟩, rfl⟩, hrecord⟩

/-- The records of different sessions have different ids. -/
theorem writtenRecords_sublist {sessions : List SessionEntry} {f : SessionEntry → EntryResult}
    (h : ∀ e ∈ sessions, ∀ record, (f e).entry.persistedRecord = some record →
      record.sessionId = e.id) :
    ((writtenRecords sessions f).map (·.sessionId)).Sublist (sessions.map (·.id)) := by
  induction sessions with
  | nil => exact List.Sublist.refl _
  | cons e entries ih =>
      have hrest := ih fun e' he' => h e' (List.mem_cons_of_mem e he')
      simp only [writtenRecords] at hrest ⊢
      rcases hpersist : (f e).persist with _ | _
      · simpa [hpersist] using hrest.cons _
      · rcases hrecord : (f e).entry.persistedRecord with _ | record
        · simpa [hpersist, hrecord] using hrest.cons _
        · have hid := h e List.mem_cons_self record hrecord
          simpa [hpersist, hrecord, hid] using hrest

/-- **An operation that tracks every session** keeps the store up with them. -/
theorem Applied.recordedIn {m m' : SessionManager} {f : SessionEntry → EntryResult}
    (happlied : Applied m m' f) (h : m.Recorded)
    (hinv : ∀ e ∈ m.sessions, (f e).entry.Inv) (htracks : ∀ e ∈ m.sessions, e.Tracks (f e)) :
    ∃ records, m'.sessionStore = some records ∧ RecordedIn m'.sessions records := by
  obtain ⟨records, hrecords, hin⟩ := h.store
  have hstands := fun e he => SessionEntry.standsFor_persistedRecord (hinv e he)
    ((htracks e he).recoverable (h.recoverable e he))
  have hids : ∀ e ∈ m.sessions, ∀ record, (f e).entry.persistedRecord = some record →
      record.sessionId = e.id := by
    intro e he record hrecord
    obtain ⟨record', hrecord', hid, -⟩ := hstands e he
    rw [hrecord] at hrecord'
    rw [Option.some.inj hrecord', hid, (htracks e he).id_eq]
  refine ⟨_, by rw [happlied.store, hrecords, Option.map_some], ?_, ?_⟩
  · intro record hmem hvalid
    rw [happlied.sessions, List.map_map]
    rcases mem_of_mem_foldl_upsert hmem with hmem | hmem
    · obtain ⟨e, he, -, hrecord⟩ := mem_writtenRecords.mp hmem
      rw [hids e he record hrecord]
      exact List.mem_map.mpr ⟨e, he, (htracks e he).id_eq⟩
    · obtain ⟨e, he, heq⟩ := List.mem_map.mp (hin.held record hmem hvalid)
      exact List.mem_map.mpr ⟨e, he, (htracks e he).id_eq.trans heq⟩
  · intro e' he' hplain
    rw [happlied.sessions] at he'
    obtain ⟨e, he, rfl⟩ := List.mem_map.mp he'
    have hplain₀ := (htracks e he).plain.mp hplain
    rw [(htracks e he).id_eq]
    rcases hpersist : (f e).persist with _ | _
    · -- nothing is written of this session, and it is shown as before
      have hsame := ((htracks e he).written hplain₀).resolve_left (by simp [hpersist])
      obtain ⟨record, hfind, hrecord⟩ := hin.written e he hplain₀
      refine ⟨record, ?_, ?_⟩
      · rw [find_foldl_upsert_of_not_has]
        · exact hfind
        · rintro ⟨record', hmem, hid⟩
          obtain ⟨e'', he'', hpersist'', hrecord''⟩ := mem_writtenRecords.mp hmem
          have hid' : e''.id = e.id := (hids e'' he'' _ hrecord'').symm.trans hid
          have heq : e'' = e := List.inj_on_of_nodup_map h.inv.nodup he'' he hid'
          rw [heq, hpersist] at hpersist''
          exact absurd hpersist'' (by decide)
      · rw [SessionEntry.StandsFor, (htracks e he).id_eq,
          SessionEntry.kept_eq (htracks e he).id_eq (htracks e he).category hsame]
        exact hrecord
    · obtain ⟨record, hrecord, hid, hfor⟩ := hstands e he
      have hfind := find_foldl_upsert_of_mem
        ((writtenRecords_sublist hids).nodup h.inv.nodup)
        (mem_writtenRecords.mpr ⟨e, he, hpersist, hrecord⟩) records
      rw [hid, (htracks e he).id_eq] at hfind
      exact ⟨record, hfind, hfor hplain⟩

/-- **What one operation does**; `startsLog` says whether it starts a managed-log session. -/
structure Follows (m m' : SessionManager) (startsLog : Prop) : Prop where
  recoverable : ∀ e ∈ m'.sessions, e.Recoverable
  store : ∃ records, m'.sessionStore = some records ∧ RecordedIn m'.sessions records
  plain_iff : (∀ e ∈ m.sessions, e.logBuffer = none) →
    ((∀ e ∈ m'.sessions, e.logBuffer = none) ↔ ¬ startsLog)

/-- **The store follows the sessions** through an operation that tracks its changes. -/
theorem Applied.follows {m m' : SessionManager} {f : SessionEntry → EntryResult}
    (happlied : Applied m m' f) (h : m.Recorded)
    (hinv : ∀ e ∈ m.sessions, (f e).entry.Inv) (htracks : ∀ e ∈ m.sessions, e.Tracks (f e)) :
    Follows m m' False where
  recoverable := by
    rw [happlied.sessions]
    intro e' he'
    obtain ⟨e, he, rfl⟩ := List.mem_map.mp he'
    exact (htracks e he).recoverable (h.recoverable e he)
  store := happlied.recordedIn h hinv htracks
  plain_iff := by
    intro hplain
    refine iff_of_true ?_ not_false
    rw [happlied.sessions]
    intro e' he'
    obtain ⟨e, he, rfl⟩ := List.mem_map.mp he'
    exact (htracks e he).plain.mpr (hplain e he)

/-- An operation on one session that keeps its invariant and tracks it. -/
theorem follows_applyOne {m : SessionManager} (h : m.Recorded) (sessionId : String)
    {f : SessionEntry → EntryResult} (hkeeps : ∀ e : SessionEntry, e.Inv → e.Keeps (f e).entry)
    (htracks : ∀ e : SessionEntry, e.Inv → e.Tracks (f e)) :
    Follows m (m.applyOne (fun _ => true) sessionId f).1 False := by
  refine (applied_applyOne h.inv.nodup sessionId f).follows h ?_ ?_
  · intro e he
    unfold onlyOn
    split_ifs
    · exact (hkeeps e (h.inv.entries e he)).inv
    · exact h.inv.entries e he
  · intro e he
    unfold onlyOn
    split_ifs
    · exact htracks e (h.inv.entries e he)
    · exact .refl e true

/-- Nothing has changed that matters here. -/
theorem Recorded.follows_of_eq {m m' : SessionManager} (h : m.Recorded)
    (hsessions : m'.sessions = m.sessions) (hstore : m'.sessionStore = m.sessionStore)
    {startsLog : Prop} (hno : ¬ startsLog) : Follows m m' startsLog where
  recoverable := hsessions ▸ h.recoverable
  store := by
    rw [hsessions, hstore]
    exact h.store
  plain_iff := by
    intro hplain
    rw [hsessions]
    exact iff_of_true hplain hno

/-! ### Loading -/

/-- When every record is of a session that is there, loading adds nothing. -/
theorem loadLoop_of_held {sessions : List SessionEntry} {records : List PersistedSessionRecord}
    (h : ∀ record ∈ records, (SessionId.tryCreate record.sessionId).isSome = true →
      record.sessionId ∈ sessions.map (·.id)) : loadLoop sessions records = sessions := by
  induction records with
  | nil => rfl
  | cons record records ih =>
      have hrest := ih fun record' hmem => h record' (List.mem_cons_of_mem record hmem)
      unfold loadLoop
      split_ifs with hfound
      · exact hrest
      · split
        next => exact hrest
        next id hid =>
          obtain ⟨e, he, heq⟩ := List.mem_map.mp (h record List.mem_cons_self (hid ▸ rfl))
          simp only [Option.not_isSome_iff_eq_none, List.find?_eq_none] at hfound
          exact absurd (by simpa using heq) (hfound e he)

/-! ### New sessions and removed ones -/

/-- A terminal session is put behind the others and written. -/
theorem Recorded.follows_persistEntry {m m' : SessionManager} (h : m.Recorded)
    (hstore : m'.sessionStore = m.sessionStore) {e : SessionEntry}
    (hsessions : m'.sessions = m.sessions ++ [e]) (hnew : e.id ∉ m.sessions.map (·.id))
    (hinv : e.Inv) (hrec : e.Recoverable) (hplain : e.logBuffer = none) :
    Follows m (m'.persistEntry (fun _ => true) e) False where
  recoverable := by
    rw [sessions_persistEntry, hsessions]
    intro e' he'
    rcases List.mem_append.mp he' with he' | he'
    · exact h.recoverable e' he'
    · exact List.mem_singleton.mp he' ▸ hrec
  store := by
    obtain ⟨records, hrecords, hin⟩ := h.store
    obtain ⟨record, hrecord, hid, hfor⟩ := SessionEntry.standsFor_persistedRecord hinv hrec
    refine ⟨upsert PersistedSessionRecord.sessionId record records, ?_, ?_⟩
    · rw [sessionStore_persistEntry, hstore, hrecords, hrecord]
      rfl
    · rw [sessions_persistEntry, hsessions]
      exact hin.append hnew hid (hfor hplain)
  plain_iff := by
    intro hall
    refine iff_of_true ?_ not_false
    rw [sessions_persistEntry, hsessions]
    intro e' he'
    rcases List.mem_append.mp he' with he' | he'
    · exact hall e' he'
    · exact List.mem_singleton.mp he' ▸ hplain

/-- A managed-log session is put behind the others. -/
theorem Recorded.follows_append_log {m m' : SessionManager} (h : m.Recorded)
    (hstore : m'.sessionStore = m.sessionStore) {e : SessionEntry}
    (hsessions : m'.sessions = m.sessions ++ [e]) (hrec : e.Recoverable)
    (hlog : e.logBuffer ≠ none) {startsLog : Prop} (hstarts : startsLog) :
    Follows m m' startsLog where
  recoverable := by
    rw [hsessions]
    intro e' he'
    rcases List.mem_append.mp he' with he' | he'
    · exact h.recoverable e' he'
    · exact List.mem_singleton.mp he' ▸ hrec
  store := by
    obtain ⟨records, hrecords, hin⟩ := h.store
    exact ⟨records, hstore.trans hrecords, hsessions ▸ hin.append_log hlog⟩
  plain_iff := by
    intro _
    refine iff_of_false (fun hall => ?_) (fun hno => hno hstarts)
    exact hlog (hall e (hsessions ▸ List.mem_append_right _ (List.mem_singleton_self e)))

/-- An id that is made is valid. -/
theorem makeSessionId_valid {m : SessionManager} {candidates : List String} {id : String}
    (h : m.makeSessionId candidates = some id) : SessionId.tryCreate id = some id := by
  rw [makeSessionId, Option.bind_eq_some_iff] at h
  obtain ⟨candidate, -, hid⟩ := h
  rw [← SessionId.tryCreate_eq_some hid] at hid
  exact hid

/-- A session that could not be created can be recovered as failed. -/
theorem recoverable_failureEntry (metadata : SessionMetadata)
    (hvalid : SessionId.tryCreate metadata.id = some metadata.id)
    (htags : NormalTags metadata.groupTags) (environment : Option EffectiveEnvironment)
    (message : String) : (failureEntry metadata environment message).Recoverable :=
  SessionEntry.recoverable_of_snapshot hvalid (iff_of_true rfl rfl) rfl rfl htags

/-- A session that was started can be recovered. -/
theorem recoverable_startedEntry (metadata : SessionMetadata) {launchSpec : LaunchSpec}
    {environment : EffectiveEnvironment} {result : StartResult} {status : SessionStatus}
    {sequence : ℕ} (hvalid : SessionId.tryCreate metadata.id = some metadata.id)
    (htags : NormalTags metadata.groupTags) :
    ({ terminalEntry metadata launchSpec environment with
        runtime := some ((SessionRuntime.new { metadata := metadata } launchSpec).start result).1
        lastObservedStatus := status
        lastObservedSequence := sequence } : SessionEntry).Recoverable := by
  obtain ⟨status', hmetadata⟩ :=
    metadata_start (SessionRuntime.new { metadata := metadata } launchSpec) result
  have hname := congrArg SessionMetadata.id hmetadata
  have hsame := congrArg SessionMetadata.groupTags hmetadata
  exact SessionEntry.recoverable_of_snapshot hvalid (iff_of_true rfl rfl) rfl hname
    (hsame.symm ▸ htags)

/-- **Creating a terminal session**: whatever is put behind the others is written. -/
theorem follows_createSession {m : SessionManager} (h : m.Recorded) (request : CreateSessionRequest)
    (answers : CreateAnswers) :
    Follows m (m.createSession (fun _ => true) request answers).1 False := by
  unfold createSession
  dsimp only
  split
  next => exact h.follows_of_eq (by rfl) (by rfl) not_false
  next id hid =>
    obtain ⟨hnew, hnamed⟩ : id ∉ m.sessions.map (·.id) ∧ id.isEmpty = false :=
      makeSessionId_spec hid
    have hvalid : SessionId.tryCreate id = some id := makeSessionId_valid hid
    have htags := normalTags_normalizeGroupTags request.groupTags
    have hfailure : ∀ environment message, Follows m (m.recordCreateFailureSession (fun _ => true)
        (requestedMetadata id request) environment message) False := by
      intro environment message
      exact h.follows_persistEntry (by rfl) (by rfl) hnew
        (fresh_failureEntry (requestedMetadata id request) hnamed environment message).inv
        (recoverable_failureEntry (requestedMetadata id request) hvalid htags environment message)
        rfl
    split
    next => exact hfailure _ _
    next =>
      split
      next => exact hfailure _ _
      next =>
        split_ifs with havailable hstarted
        · refine h.follows_persistEntry (by rfl) (by rfl) hnew
            (fresh_startedEntry (requestedMetadata id request) hnamed rfl rfl hstarted).inv ?_ rfl
          exact recoverable_startedEntry (requestedMetadata id request) hvalid htags
        · exact hfailure _ _
        · exact hfailure _ _

/-- Whether a request starts a managed-log session: an id is found, the command is in order, and if
there is one its environment is resolved and its process starts. -/
def StartsLog (m : SessionManager) (request : LogSessionCreateRequest)
    (answers : LogCreateAnswers) : Prop :=
  (m.makeSessionId answers.candidates).isSome = true ∧
    match requestedLogCommand request with
    | .error _ => False
    | .ok none => True
    | .ok (some _) => (∃ environment, answers.resolved = .ok environment) ∧
        answers.start.started = true

/-- **Creating a managed-log session** puts it behind the others and writes nothing. -/
theorem follows_createLogSession {m : SessionManager} (h : m.Recorded)
    (request : LogSessionCreateRequest) (answers : LogCreateAnswers) :
    Follows m (m.createLogSession request answers).1 (m.StartsLog request answers) := by
  have htags := normalTags_normalizeGroupTags request.groupTags
  unfold createLogSession
  dsimp only
  split
  next hid =>
    have hid : m.makeSessionId answers.candidates = none := hid
    exact h.follows_of_eq (by rfl) (by rfl) (by simp [StartsLog, hid])
  next id hid =>
    have hid : m.makeSessionId answers.candidates = some id := hid
    have hvalid : SessionId.tryCreate id = some id := makeSessionId_valid hid
    have hlog := fun (environment : Option EffectiveEnvironment)
        (process : Option ManagedLogProcess) (m' : SessionManager)
        (hstore : m'.sessionStore = m.sessionStore)
        (hsessions : m'.sessions = m.sessions ++
          [{ logEntry id request environment with logProcess := process }])
        (hstarts : m.StartsLog request answers) =>
      h.follows_append_log hstore hsessions
        (SessionEntry.recoverable_of_snapshot hvalid (iff_of_false (by simp [logEntry])
          (by simp [logEntry])) rfl rfl htags) (by simp [logEntry]) hstarts
    split
    next message hcommand =>
      exact h.follows_of_eq (by rfl) (by rfl) (by simp [StartsLog, hcommand])
    next hcommand => exact hlog none none _ rfl rfl (by simp [StartsLog, hcommand, hid])
    next command hcommand =>
      split
      next error hresolved =>
        exact h.follows_of_eq (by rfl) (by rfl) (by simp [StartsLog, hcommand, hresolved])
      next environment hresolved =>
        by_cases hstarted : answers.start.started = true
        · rw [if_pos hstarted]
          exact hlog (some environment) _ _ rfl rfl
            (by simp [StartsLog, hcommand, hid, hresolved, hstarted])
        · rw [if_neg hstarted]
          have hnew := (makeSessionId_spec hid).1
          exact h.follows_of_eq
            (filter_pushed (e := logEntry id request (some environment)) rfl hnew) (by rfl)
            (by simp [StartsLog, hcommand, hstarted])

/-- **Clearing** removes the sessions that take no input together with their records. -/
theorem follows_clearInactiveSessions {m : SessionManager} (h : m.Recorded) :
    Follows m (m.clearInactiveSessions fun _ => true) False where
  recoverable := fun e he => h.recoverable e (List.mem_of_mem_filter he)
  store := by
    obtain ⟨records, hrecords, hin⟩ := h.store
    have hremoved : ∀ id, id ∈ ((m.sessions.filter (!·.isActive)).filterMap
        fun e => e.metadata?.map (·.id)).filter (fun _ => true) ↔
          ∃ e ∈ m.sessions, e.isActive = false ∧ e.id = id := by
      intro id
      have hname : ∀ e ∈ m.sessions, e.metadata?.map (·.id) = some e.id := fun e he =>
        SessionEntry.metadata?_id (h.inv.entries e he) (h.recoverable e he)
      simp only [List.filter_true, List.mem_filterMap, List.mem_filter, Bool.not_eq_true']
      constructor
      · rintro ⟨e, ⟨he, hactive⟩, hid⟩
        rw [hname e he] at hid
        exact ⟨e, he, hactive, Option.some.inj hid⟩
      · rintro ⟨e, he, hactive, rfl⟩
        exact ⟨e, ⟨he, hactive⟩, hname e he⟩
    refine ⟨_, by rw [clearInactiveSessions, hrecords]; rfl, ?_, ?_⟩
    · intro record hmem hvalid
      obtain ⟨hmem, hkept⟩ := mem_foldl_remove.mp hmem
      obtain ⟨e, he, heq⟩ := List.mem_map.mp (hin.held record hmem hvalid)
      refine List.mem_map.mpr ⟨e, List.mem_filter.mpr ⟨he, ?_⟩, heq⟩
      by_contra hactive
      exact hkept ((hremoved _).mpr ⟨e, he, by simpa using hactive, heq⟩)
    · intro e he hplain
      obtain ⟨he, hactive⟩ := List.mem_filter.mp he
      obtain ⟨record, hfind, hrecord⟩ := hin.written e he hplain
      refine ⟨record, (find_foldl_remove_of_not_mem (mt (hremoved _).mp ?_) records).trans hfind,
        hrecord⟩
      rintro ⟨e', he', hinactive, hid⟩
      rw [List.inj_on_of_nodup_map h.inv.nodup he' he hid, hactive] at hinactive
      exact absurd hinactive (by decide)
  plain_iff := fun hplain => iff_of_true
    (fun e he => hplain e (List.mem_of_mem_filter he)) not_false

/-! ### One operation -/

/-- The operation starts a managed-log session. -/
def StartsLogSession (m : SessionManager) : Op → Prop
  | .createLogSession request answers => m.StartsLog request answers
  | _ => False

/-- **One operation** whose writes succeed keeps the store up with the sessions. -/
theorem follows_perform {m : SessionManager} (h : m.Recorded) (op : Op) :
    Follows m (m.perform (fun _ => true) op).1 (m.StartsLogSession op) := by
  cases op with
  | createSession request answers => exact follows_createSession h request answers
  | createLogSession request answers => exact follows_createLogSession h request answers
  | appendLogStdout id data ts | appendLogStderr id data ts =>
      exact follows_applyOne h id (fun _ hinv => SessionEntry.appendLog_keeps hinv _ data ts)
        fun e _ => e.appendLog_tracks _ data ts
  | loadPersistedSessions =>
      obtain ⟨records, hrecords, hin⟩ := h.store
      refine h.follows_of_eq ?_ (by rfl) not_false
      show loadLoop m.sessions (m.sessionStore.getD []) = m.sessions
      rw [hrecords]
      exact loadLoop_of_held hin.held
  | updateSessionGroupTags id mode tags =>
      exact follows_applyOne h id (fun _ hinv => SessionEntry.updateGroupTags_keeps hinv mode tags)
        fun e _ => e.updateGroupTags_tracks mode tags
  | resizeSession id size ptyResized =>
      exact follows_applyOne h id (fun _ hinv => SessionEntry.resize_keeps hinv size ptyResized)
        fun e _ => e.resize_tracks size ptyResized
  | stopSession id terminated =>
      exact follows_applyOne h id (fun _ hinv => SessionEntry.stop_keeps hinv terminated)
        fun _ hinv => SessionEntry.stop_tracks hinv terminated
  | clearInactiveSessions => exact follows_clearInactiveSessions h
  | requestControl id clientId kind =>
      exact follows_applyOne h id
        (fun _ hinv => SessionEntry.requestControl_keeps hinv clientId kind)
        fun e _ => e.requestControl_tracks clientId kind
  | releaseControl id clientId =>
      exact follows_applyOne h id (fun _ hinv => SessionEntry.releaseControl_keeps hinv clientId)
        fun e _ => e.releaseControl_tracks clientId
  | shutdown terminated =>
      exact (applied_applyAll m _).follows h
        (fun e he => (SessionEntry.shutdown_keeps (h.inv.entries e he) _).inv)
        fun e he => SessionEntry.shutdown_tracks (h.inv.entries e he) _
  | pollSession id answers =>
      exact follows_applyOne h id (fun _ hinv => SessionEntry.poll_keeps hinv answers)
        fun _ hinv => SessionEntry.poll_tracks hinv answers
  | pollAll answers =>
      refine (applied_applyAll m _).follows h (fun e he => ?_) fun e he => ?_
      · split_ifs
        · exact h.inv.entries e he
        · exact (SessionEntry.poll_keeps (h.inv.entries e he) _).inv
      · split_ifs
        · exact .refl e true
        · exact SessionEntry.poll_tracks (h.inv.entries e he) _

/-- **Every operation keeps the sessions recorded.** -/
theorem recorded_perform {m : SessionManager} (h : m.Recorded) (op : Op) :
    (m.perform (fun _ => true) op).1.Recorded where
  inv := inv_perform h.inv _ op
  recoverable := (follows_perform h op).recoverable
  store := (follows_perform h op).store

end SessionManager

end Sentrits.Service
