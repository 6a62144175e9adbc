import Sentrits.Service.ManagerRuns

/-!
# What is written when a session changes

The manager writes the record of a session whenever an operation asks for it. Here each operation is
followed on one session: what is shown of it afterwards, and whether that was written.

* `snapshot?`, `persistedRecord_eq`: the record is made of what is shown.
* `metadata_shutdown`, `metadata_pollOnce`, …: the runtime changes nothing of the metadata but the
  status.
* `Tracks`, `stop_tracks`, `shutdown_tracks`, `poll_tracks`, …: **an operation that changes what is
  shown of a session without a log buffer also writes it**, and none renames a session.
* `Kept`, `standsFor_persistedRecord`: **the record written of a session gives it back**, unless it
  is a managed log, which comes back as a terminal session.

Sources: `src/service/session_manager.cpp`, `src/session/session_runtime.cpp`.
-/

namespace Sentrits.Service

open Found Session Store

/-! ### Normal tags under a change -/

/-- Fewer tags are still normal. -/
theorem normalTags_filter {tags : List String} (h : NormalTags tags) (keep : String → Bool) :
    NormalTags (tags.filter keep) where
  nodup := h.nodup.filter keep
  nonempty := fun tag htag => h.nonempty tag (List.mem_of_mem_filter htag)
  normal := fun tag htag => h.normal tag (List.mem_of_mem_filter htag)

/-- Tags that are added one by one, when they are not there, stay normal. -/
theorem normalTags_foldl_add {tags added : List String} (h : NormalTags tags)
    (hadded : NormalTags added) :
    NormalTags (added.foldl
      (fun result tag => if tag ∈ result then result else result ++ [tag]) tags) := by
  have hnonempty := hadded.nonempty
  have hnormal := hadded.normal
  clear hadded
  induction added generalizing tags with
  | nil => exact h
  | cons tag added ih =>
      rw [List.foldl_cons]
      refine ih ?_ (fun t ht => hnonempty t (List.mem_cons_of_mem tag ht))
        fun t ht => hnormal t (List.mem_cons_of_mem tag ht)
      split_ifs with hmem
      · exact h
      · refine ⟨?_, ?_, ?_⟩
        · rw [List.nodup_append]
          refine ⟨h.nodup, List.nodup_singleton tag, ?_⟩
          rintro t ht t' ht' rfl
          exact hmem (List.mem_singleton.mp ht' ▸ ht)
        · intro t ht
          rcases List.mem_append.mp ht with ht | ht
          · exact h.nonempty t ht
          · exact hnonempty t (List.mem_singleton.mp ht ▸ List.mem_cons_self)
        · intro t ht
          rcases List.mem_append.mp ht with ht | ht
          · exact h.normal t ht
          · exact hnormal t (List.mem_singleton.mp ht ▸ List.mem_cons_self)

/-- Every update leaves normal tags. -/
theorem normalTags_applyGroupTagMutation (existingTags : List String)
    (mode : SessionGroupTagsUpdateMode) (tags : List String) :
    NormalTags (applyGroupTagMutation existingTags mode tags) := by
  have hexisting := normalTags_normalizeGroupTags existingTags
  have hinput := normalTags_normalizeGroupTags tags
  cases mode with
  | set => exact hinput
  | add => exact normalTags_foldl_add hexisting hinput
  | remove => exact normalTags_filter hexisting _

/-! ### What is shown of a session -/

namespace SessionEntry

/-- What is shown of a session beside its controller and its environment.
Source: `session_manager.cpp` `SessionManager::GetSnapshot`. -/
def snapshot? (e : SessionEntry) : Option SessionSnapshot :=
  match e.runtime with
  | some r => some
      { metadata := r.record.metadata
        currentSequence := r.record.currentSequence
        recentTerminalTail := r.record.recentTerminalTail }
  | none => e.recoveredSnapshot

/-- The record that is written is made of what is shown. -/
theorem persistedRecord_eq (e : SessionEntry) :
    e.persistedRecord = e.snapshot?.map fun snapshot =>
      persistedRecord.toRecord snapshot.metadata snapshot.currentSequence
        snapshot.recentTerminalTail := by
  rcases hr : e.runtime with _ | r
  · simp only [persistedRecord, snapshot?, hr]
  · simp only [persistedRecord, snapshot?, hr, Option.map_some]

/-- Every entry can be shown. -/
theorem Inv.exists_snapshot? {e : SessionEntry} (h : e.Inv) :
    ∃ snapshot, e.snapshot? = some snapshot := by
  unfold snapshot?
  split
  next => exact ⟨_, rfl⟩
  next hr => exact h.exists_snapshot hr

/-- With a runtime, it is the runtime that is shown. -/
theorem snapshot?_of_runtime {e : SessionEntry} {r : SessionRuntime} (hr : e.runtime = some r) :
    e.snapshot? = some
      { metadata := r.record.metadata
        currentSequence := r.record.currentSequence
        recentTerminalTail := r.record.recentTerminalTail } := by
  rw [snapshot?, hr]

/-- The same runtime is shown the same. -/
theorem snapshot?_of_runtime_eq {e e' : SessionEntry} {r : SessionRuntime}
    (hr : e.runtime = some r) (h : e'.runtime = e.runtime) : e'.snapshot? = e.snapshot? := by
  rw [snapshot?_of_runtime hr, snapshot?_of_runtime (h.trans hr)]

/-- Without one, what was recovered is shown. -/
theorem snapshot?_of_none {e : SessionEntry} (hr : e.runtime = none) :
    e.snapshot? = e.recoveredSnapshot := by
  rw [snapshot?, hr]

end SessionEntry

/-! ### What the runtime leaves of the metadata -/

/-- A transition changes nothing of the metadata but the status. -/
theorem metadata_tryTransition (record : SessionRecord) (nextStatus : SessionStatus) :
    ∃ status, (record.tryTransition nextStatus).1.metadata =
      { record.metadata with status := status } := by
  rcases record.tryTransition_spec nextStatus with ⟨-, heq⟩ | ⟨-, heq⟩
  · exact ⟨record.metadata.status, by rw [heq]⟩
  · exact ⟨nextStatus, by rw [heq]⟩

/-- Starting a runtime changes nothing of the metadata but the status. -/
theorem metadata_start (r : SessionRuntime) (result : StartResult) :
    ∃ status, (r.start result).1.record.metadata = { r.record.metadata with status := status } := by
  obtain ⟨status, hstarting⟩ := metadata_tryTransition r.record .starting
  unfold SessionRuntime.start
  split
  next => exact ⟨r.record.metadata.status, rfl⟩
  next record heq =>
    rw [heq] at hstarting
    have hnext : ∀ next, ∃ status, (record.tryTransition next).1.metadata =
        { r.record.metadata with status := status } := by
      intro next
      obtain ⟨status', h⟩ := metadata_tryTransition record next
      exact ⟨status', h.trans (by rw [hstarting])⟩
    dsimp only
    split_ifs
    · exact hnext .running
    · exact hnext .error
    · exact hnext .error

/-- Shutting a runtime down changes nothing of the metadata but the status. -/
theorem metadata_shutdown (r : SessionRuntime) (terminated : Bool) :
    ∃ status, (r.shutdown terminated).1.record.metadata =
      { r.record.metadata with status := status } := by
  unfold SessionRuntime.shutdown
  dsimp only
  split_ifs
  · exact ⟨r.record.metadata.status, rfl⟩
  · exact ⟨r.record.metadata.status, rfl⟩
  · exact metadata_tryTransition r.record .exited
  · exact metadata_tryTransition r.record .error
  · exact ⟨r.record.metadata.status, rfl⟩

/-- An exit that is observed changes the status only. -/
theorem metadata_observeExit (r : SessionRuntime) (exitCode : Option ℤ) :
    ∃ status, (r.observeExit exitCode).record.metadata =
      { r.record.metadata with status := status } := by
  unfold SessionRuntime.observeExit
  cases exitCode with
  | none => exact ⟨r.record.metadata.status, rfl⟩
  | some code =>
      obtain ⟨status, h⟩ := metadata_tryTransition r.record (if code == 0 then .exited else .error)
      dsimp only
      unfold SessionRuntime.handleExit
      split
      next => exact ⟨r.record.metadata.status, rfl⟩
      next record heq =>
        rw [heq] at h
        exact ⟨status, h⟩

/-- All that a poll reads changes the status only. -/
theorem metadata_pollLoop (exitCode : Option ℤ) (r : SessionRuntime) (reads : List ReadResult) :
    ∃ status, (SessionRuntime.pollLoop exitCode r reads).record.metadata =
      { r.record.metadata with status := status } := by
  induction reads generalizing r with
  | nil => exact metadata_observeExit r exitCode
  | cons read reads ih =>
      unfold SessionRuntime.pollLoop
      dsimp only
      by_cases hdata : read.data.isEmpty
      · simp only [hdata, if_true, ite_self]
        exact metadata_observeExit r exitCode
      · simp only [if_neg hdata]
        split_ifs
        · exact metadata_observeExit (r.recordOutput read.data) exitCode
        · exact ih (r.recordOutput read.data)

/-- Neither does polling it. -/
theorem metadata_pollOnce (r : SessionRuntime) (reads : List ReadResult) (exitCode : Option ℤ) :
    ∃ status, (r.pollOnce reads exitCode).record.metadata =
      { r.record.metadata with status := status } := by
  unfold SessionRuntime.pollOnce
  split_ifs
  · exact ⟨r.record.metadata.status, rfl⟩
  · exact metadata_pollLoop exitCode r reads

/-- A shutdown that is refused leaves the record as it was. -/
theorem record_shutdown_of_refused {r : SessionRuntime} (h : r.Inv) {terminated : Bool}
    (hrefused : (r.shutdown terminated).2 = false) :
    (r.shutdown terminated).1.record = r.record := by
  rcases SessionRuntime.shutdown_spec h terminated with heq | ⟨status, -, -, heq⟩
  · rw [heq]
  · simp [heq] at hrefused

/-! ### What is changed is written -/

namespace SessionEntry

/-- The session is the same, and its tags stay as a record keeps them. -/
structure SameNames (snapshot snapshot' : SessionSnapshot) : Prop where
  id_eq : snapshot'.metadata.id = snapshot.metadata.id
  tags : NormalTags snapshot.metadata.groupTags → NormalTags snapshot'.metadata.groupTags

/-- A snapshot has its own names. -/
theorem SameNames.refl (snapshot : SessionSnapshot) : SameNames snapshot snapshot :=
  ⟨rfl, fun h => h⟩

/-- **What an operation on one session leaves, and whether it is written.** -/
structure Tracks (e : SessionEntry) (result : EntryResult) : Prop where
  id_eq : result.entry.id = e.id
  category : result.entry.category = e.category
  plain : result.entry.logBuffer = none ↔ e.logBuffer = none
  names : ∀ snapshot', result.entry.snapshot? = some snapshot' →
    ∃ snapshot, e.snapshot? = some snapshot ∧ SameNames snapshot snapshot'
  /-- A session without a log buffer is written, or is shown as before. -/
  written : e.logBuffer = none → result.persist = true ∨ result.entry.snapshot? = e.snapshot?

/-- Nothing that is shown has changed. -/
theorem Tracks.of_snapshot_eq {e : SessionEntry} {result : EntryResult}
    (hid : result.entry.id = e.id) (hcategory : result.entry.category = e.category)
    (hlog : result.entry.logBuffer = e.logBuffer)
    (hsnapshot : result.entry.snapshot? = e.snapshot?) : Tracks e result where
  id_eq := hid
  category := hcategory
  plain := by rw [hlog]
  names := fun snapshot' h => ⟨snapshot', hsnapshot ▸ h, .refl snapshot'⟩
  written := fun _ => Or.inr hsnapshot

/-- What does not change an entry changes nothing that is kept of it. -/
theorem Tracks.refl (e : SessionEntry) (result : Bool) :
    Tracks e { entry := e, result := result } :=
  .of_snapshot_eq rfl rfl rfl rfl

/-- The runtime has changed and the session is written. -/
theorem Tracks.of_runtime {e : SessionEntry} {result : EntryResult} {r r' : SessionRuntime}
    (hr : e.runtime = some r) (hr' : result.entry.runtime = some r')
    (hid : result.entry.id = e.id) (hcategory : result.entry.category = e.category)
    (hlog : result.entry.logBuffer = e.logBuffer) (hpersist : result.persist = true)
    (hname : r'.record.metadata.id = r.record.metadata.id)
    (htags : NormalTags r.record.metadata.groupTags → NormalTags r'.record.metadata.groupTags) :
    Tracks e result where
  id_eq := hid
  category := hcategory
  plain := by rw [hlog]
  names := by
    intro snapshot' h
    rw [snapshot?_of_runtime hr'] at h
    obtain rfl := Option.some.inj h
    exact ⟨_, snapshot?_of_runtime hr, hname, htags⟩
  written := fun _ => Or.inl hpersist

/-- Only the status of the runtime has moved, and the session is written. -/
theorem Tracks.of_status {e : SessionEntry} {result : EntryResult} {r r' : SessionRuntime}
    (hr : e.runtime = some r) (hr' : result.entry.runtime = some r')
    (hid : result.entry.id = e.id) (hcategory : result.entry.category = e.category)
    (hlog : result.entry.logBuffer = e.logBuffer) (hpersist : result.persist = true)
    (hmetadata : ∃ status, r'.record.metadata = { r.record.metadata with status := status }) :
    Tracks e result := by
  obtain ⟨status, hmetadata⟩ := hmetadata
  refine .of_runtime hr hr' hid hcategory hlog hpersist ?_ ?_
  · rw [hmetadata]
  · rw [hmetadata]
    exact fun h => h

/-- The snapshot of a session without a runtime has changed and the session is written, or the
session has a log buffer. -/
theorem Tracks.of_map {e : SessionEntry} {result : EntryResult}
    (hr : e.runtime = none) (hr' : result.entry.runtime = none)
    (hid : result.entry.id = e.id) (hcategory : result.entry.category = e.category)
    (hlog : result.entry.logBuffer = none ↔ e.logBuffer = none)
    (hpersist : e.logBuffer = none → result.persist = true)
    {f : SessionSnapshot → SessionSnapshot}
    (hs : result.entry.recoveredSnapshot = e.recoveredSnapshot.map f)
    (hf : ∀ snapshot, SameNames snapshot (f snapshot)) : Tracks e result where
  id_eq := hid
  category := hcategory
  plain := hlog
  names := by
    intro snapshot' h
    rw [snapshot?_of_none hr', hs] at h
    obtain ⟨snapshot, hsnapshot, rfl⟩ := Option.map_eq_some_iff.mp h
    exact ⟨snapshot, (snapshot?_of_none hr).trans hsnapshot, hf snapshot⟩
  written := fun h => Or.inl (hpersist h)

/-- Writing to a managed log is the one operation that shows something new without writing it. -/
theorem appendLog_tracks (e : SessionEntry) (stream : LogStream) (data : Bytes) (ts : ℤ) :
    Tracks e (e.appendLog stream data ts) := by
  unfold appendLog
  rcases hb : e.logBuffer with _ | buffer
  · exact .refl e false
  · have hsome : e.logBuffer ≠ none := by simp [hb]
    dsimp only
    by_cases hr : e.runtime = none
    · exact .of_map hr hr rfl rfl (iff_of_false (by simp) hsome) (fun h => absurd h hsome) rfl
        fun snapshot => ⟨rfl, fun h => h⟩
    · obtain ⟨r, hr⟩ := Option.ne_none_iff_exists'.mp hr
      refine ⟨rfl, rfl, iff_of_false (by simp) hsome, ?_, fun h => absurd h hsome⟩
      intro snapshot' h
      rw [snapshot?_of_runtime_eq hr (by rfl)] at h
      exact ⟨snapshot', h, .refl snapshot'⟩

/-- An update of the tags changes the tags only. -/
theorem updateGroupTags_tracks (e : SessionEntry) (mode : SessionGroupTagsUpdateMode)
    (tags : List String) : Tracks e (e.updateGroupTags mode tags) := by
  unfold updateGroupTags
  split
  next r hr =>
    exact .of_runtime hr rfl rfl rfl rfl rfl rfl fun _ => normalTags_applyGroupTagMutation _ _ _
  next hr =>
    refine .of_map hr hr rfl rfl Iff.rfl (fun _ => rfl) rfl fun snapshot => ⟨rfl, fun _ => ?_⟩
    exact normalTags_applyGroupTagMutation _ _ _

/-- A new size changes nothing that is kept. -/
theorem resize_tracks (e : SessionEntry) (size : TerminalSize) (ptyResized : Bool) :
    Tracks e (e.resize size ptyResized) := by
  unfold resize
  rcases hr : e.runtime with _ | r
  · exact .refl e false
  · have hrecord : (r.resizeTerminal size ptyResized).1.record = r.record := by
      unfold SessionRuntime.resizeTerminal
      split_ifs <;> rfl
    dsimp only
    refine .of_snapshot_eq ?_ ?_ ?_ ?_
    · split_ifs <;> rfl
    · split_ifs <;> rfl
    · split_ifs <;> rfl
    · rw [snapshot?_of_runtime hr, ← hrecord]
      split_ifs <;> rfl

/-- A claim of control changes nothing that is kept. -/
theorem requestControl_tracks (e : SessionEntry) (clientId : String) (kind : ControllerKind) :
    Tracks e (e.requestControl clientId kind) := by
  unfold requestControl
  split_ifs
  · exact .refl e false
  · exact .of_snapshot_eq rfl rfl rfl rfl
  · exact .of_snapshot_eq rfl rfl rfl rfl
  · exact .refl e _

/-- Giving control up changes nothing that is kept. -/
theorem releaseControl_tracks (e : SessionEntry) (clientId : String) :
    Tracks e (e.releaseControl clientId) := by
  unfold releaseControl
  split_ifs
  · exact .refl e true
  · rcases e.controllerClientId with _ | current
    · exact .refl e _
    · dsimp only
      split_ifs
      · exact .refl e false
      · exact .of_snapshot_eq rfl rfl rfl rfl

/-- Writing the status of a session without a runtime renames nothing. -/
theorem Tracks.of_setRecoveredStatus {e : SessionEntry} {result : EntryResult}
    (hr : e.runtime = none) (hr' : result.entry.runtime = none) (hid : result.entry.id = e.id)
    (hcategory : result.entry.category = e.category) (hlog : result.entry.logBuffer = e.logBuffer)
    (hpersist : result.persist = true) (status : SessionStatus)
    (hs : result.entry.recoveredSnapshot = (e.setRecoveredStatus status).recoveredSnapshot) :
    Tracks e result :=
  .of_map hr hr' hid hcategory (by rw [hlog]) (fun _ => hpersist) hs
    fun _ => ⟨rfl, fun h => h⟩

/-- A stop changes the status only. -/
theorem stop_tracks {e : SessionEntry} (h : e.Inv) (terminated : Bool) :
    Tracks e (e.stop terminated) := by
  unfold stop
  split_ifs with hover
  · exact .of_snapshot_eq rfl rfl rfl rfl
  · split
    next process hp =>
      have hr := h.runtime_none hp
      dsimp only
      split_ifs
      · exact .of_setRecoveredStatus hr hr rfl rfl rfl rfl .exited rfl
      · exact .of_snapshot_eq rfl rfl rfl rfl
    next => exact .refl e false
    next r _ hr =>
      dsimp only
      split_ifs with hstopped
      · exact .of_status hr rfl rfl rfl rfl rfl (metadata_shutdown r terminated)
      · have hrecord := record_shutdown_of_refused (h.runtime r hr) (by simpa using hstopped)
        refine .of_snapshot_eq rfl rfl rfl ?_
        rw [snapshot?_of_runtime hr, ← hrecord]
        rfl

/-- A log process that ends during `Shutdown` takes its session along, and that is written. -/
theorem finishShutdown_tracks {e : SessionEntry} (hr : e.runtime = none)
    (changed terminated : Bool) : Tracks e (e.finishShutdown changed terminated) := by
  unfold finishShutdown shutdownLogProcess
  split
  next process snapshot hp hs =>
    dsimp only
    by_cases hended :
        ((process.terminate terminated).2 && !snapshot.metadata.status.isTerminal) = true
    · simp only [if_pos hended]
      split_ifs
      · exact .of_setRecoveredStatus hr hr rfl rfl rfl rfl .exited rfl
      · exact .of_setRecoveredStatus hr hr rfl rfl rfl (by simp) .exited rfl
    · simp only [if_neg hended]
      split_ifs
      · exact .of_snapshot_eq rfl rfl rfl rfl
      · exact .of_snapshot_eq rfl rfl rfl rfl
  next =>
    dsimp only
    split_ifs
    · exact .of_snapshot_eq rfl rfl rfl rfl
    · exact .of_snapshot_eq rfl rfl rfl rfl

/-- The end of the daemon changes the status only. -/
theorem shutdown_tracks {e : SessionEntry} (h : e.Inv) (terminated : Bool) :
    Tracks e (e.shutdown terminated) := by
  unfold shutdown
  split
  next hr => exact finishShutdown_tracks hr false terminated
  next r hr =>
    dsimp only
    split_ifs with hstopped
    · simp only [finishShutdown, shutdownLogProcess, h.noProcess r hr]
      split_ifs
      · exact .of_status hr rfl rfl rfl rfl rfl (metadata_shutdown r terminated)
      · exact .of_status hr rfl rfl rfl rfl rfl (metadata_shutdown r terminated)
    · have hrecord := record_shutdown_of_refused (h.runtime r hr) (by simpa using hstopped)
      refine .of_snapshot_eq rfl rfl rfl ?_
      rw [snapshot?_of_runtime hr, ← hrecord]
      rfl

/-- A poll changes the status only. -/
theorem poll_tracks {e : SessionEntry} (h : e.Inv) (answers : PollAnswers) :
    Tracks e (e.poll answers) := by
  unfold poll
  split
  next process hp =>
    have hr := h.runtime_none hp
    dsimp only
    split
    next => exact .of_snapshot_eq rfl rfl rfl rfl
    next code _ =>
      by_cases hs : e.recoveredSnapshot.isSome = true
      · rw [if_pos hs]
        exact .of_setRecoveredStatus hr hr rfl rfl rfl rfl _ rfl
      · rw [if_neg hs]
        exact .of_snapshot_eq rfl rfl rfl rfl
  next => exact .refl e false
  next r _ hr =>
    exact .of_status hr rfl rfl rfl rfl rfl (metadata_pollOnce r answers.reads answers.exitCode)

end SessionEntry

/-! ### What a restart keeps -/

/-- What is kept of a session. -/
structure Kept where
  id : String
  category : SessionCategory
  provider : ProviderType
  workspaceRoot : String
  title : String
  status : SessionStatus
  conversationId : Option String
  groupTags : List String
  currentSequence : ℕ
  recentTerminalTail : Bytes
  deriving DecidableEq

/-- The same session, over if it was not. -/
def Kept.ended (kept : Kept) : Kept :=
  { kept with status := SessionManager.normalizeRecoveredStatus kept.status }

namespace SessionManager

/-- A recovered session is over. -/
@[simp] theorem isTerminal_normalizeRecoveredStatus (status : SessionStatus) :
    (normalizeRecoveredStatus status).isTerminal = true := by
  unfold normalizeRecoveredStatus
  split_ifs with h
  · exact h
  · rfl

/-- Recovering it again changes nothing. -/
@[simp] theorem normalizeRecoveredStatus_idem (status : SessionStatus) :
    normalizeRecoveredStatus (normalizeRecoveredStatus status) = normalizeRecoveredStatus status :=
  if_pos (isTerminal_normalizeRecoveredStatus status)

end SessionManager

namespace SessionEntry

/-- What there is to keep of a session. -/
def kept (e : SessionEntry) : Option Kept :=
  e.snapshot?.map fun snapshot =>
    { id := e.id
      category := e.category
      provider := snapshot.metadata.provider
      workspaceRoot := snapshot.metadata.workspaceRoot
      title := snapshot.metadata.title
      status := snapshot.metadata.status
      conversationId := snapshot.metadata.conversationId
      groupTags := snapshot.metadata.groupTags
      currentSequence := snapshot.currentSequence
      recentTerminalTail := snapshot.recentTerminalTail }

/-- What is kept depends on the id, the category and the snapshot. -/
theorem kept_eq {e e' : SessionEntry} (hid : e'.id = e.id) (hcategory : e'.category = e.category)
    (hsnapshot : e'.snapshot? = e.snapshot?) : e'.kept = e.kept := by
  rw [kept, kept, hid, hcategory, hsnapshot]

/-- What is kept of a session is kept under its id. -/
theorem id_of_kept {e : SessionEntry} {k : Kept} (h : e.kept = some k) : k.id = e.id := by
  obtain ⟨snapshot, -, rfl⟩ := Option.map_eq_some_iff.mp h
  rfl

/-- What is kept of a session is kept with its category. -/
theorem category_of_kept {e : SessionEntry} {k : Kept} (h : e.kept = some k) :
    k.category = e.category := by
  obtain ⟨snapshot, -, rfl⟩ := Option.map_eq_some_iff.mp h
  rfl

/-- Something is kept of every entry. -/
theorem Inv.exists_kept {e : SessionEntry} (h : e.Inv) : ∃ k, e.kept = some k := by
  obtain ⟨snapshot, hs⟩ := h.exists_snapshot?
  rw [kept, hs]
  exact ⟨_, rfl⟩

/-- **A session that a record can stand for.** -/
structure Recoverable (e : SessionEntry) : Prop where
  valid : SessionId.tryCreate e.id = some e.id
  /-- The sessions with a log buffer are the managed-log sessions. -/
  plain : e.logBuffer = none ↔ e.category = .pty
  named : ∀ snapshot, e.snapshot? = some snapshot → snapshot.metadata.id = e.id
  tags : ∀ snapshot, e.snapshot? = some snapshot → NormalTags snapshot.metadata.groupTags

/-- An entry that can be recovered can be so after the operation. -/
theorem Tracks.recoverable {e : SessionEntry} {result : EntryResult} (h : e.Recoverable)
    (htracks : Tracks e result) : result.entry.Recoverable where
  valid := by
    rw [htracks.id_eq]
    exact h.valid
  plain := by
    rw [htracks.plain, htracks.category]
    exact h.plain
  named := by
    intro snapshot' hs'
    obtain ⟨snapshot, hs, hnames⟩ := htracks.names snapshot' hs'
    rw [hnames.id_eq, htracks.id_eq]
    exact h.named snapshot hs
  tags := by
    intro snapshot' hs'
    obtain ⟨snapshot, hs, hnames⟩ := htracks.names snapshot' hs'
    exact hnames.tags (h.tags snapshot hs)

/-- A record stands for a session when recovering it gives the session back, over if it was not. -/
def StandsFor (record : PersistedSessionRecord) (e : SessionEntry) : Prop :=
  (SessionManager.recoveredEntry e.id record).kept = e.kept.map Kept.ended

/-- **The record that is written stands for its session**, unless that is a managed log. -/
theorem standsFor_persistedRecord {e : SessionEntry} (h : e.Inv) (hrec : e.Recoverable) :
    ∃ record, e.persistedRecord = some record ∧ record.sessionId = e.id ∧
      (e.logBuffer = none → StandsFor record e) := by
  obtain ⟨snapshot, hs⟩ := h.exists_snapshot?
  rw [persistedRecord_eq, hs]
  refine ⟨_, rfl, hrec.named snapshot hs, fun hplain => ?_⟩
  have htags := normalizeGroupTags_of_normalTags (hrec.tags snapshot hs)
  rw [StandsFor, kept, kept, hs, hrec.plain.mp hplain]
  simp [SessionManager.recoveredEntry, snapshot?, persistedRecord.toRecord, Kept.ended, htags]

/-- When an entry can be recovered: its id is valid, and it is shown under it. -/
theorem recoverable_of_snapshot {e : SessionEntry} {snapshot : SessionSnapshot}
    (hvalid : SessionId.tryCreate e.id = some e.id)
    (hplain : e.logBuffer = none ↔ e.category = .pty) (hs : e.snapshot? = some snapshot)
    (hname : snapshot.metadata.id = e.id) (htags : NormalTags snapshot.metadata.groupTags) :
    e.Recoverable where
  valid := hvalid
  plain := hplain
  named := by
    intro snapshot' hs'
    rw [hs] at hs'
    exact Option.some.inj hs' ▸ hname
  tags := by
    intro snapshot' hs'
    rw [hs] at hs'
    exact Option.some.inj hs' ▸ htags

/-- The id the manager removes is the id of the session. -/
theorem metadata?_id {e : SessionEntry} (h : e.Inv) (hrec : e.Recoverable) :
    e.metadata?.map (·.id) = some e.id := by
  obtain ⟨snapshot, hs⟩ := h.exists_snapshot?
  have hname := hrec.named snapshot hs
  rcases hr : e.runtime with _ | r
  · rw [snapshot?_of_none hr] at hs
    simp only [metadata?, hr, hs, Option.map_some, hname]
  · rw [snapshot?_of_runtime hr] at hs
    obtain rfl := Option.some.inj hs
    simp only [metadata?, hr, Option.map_some]
    exact congrArg some hname

/-- What has been recovered can be recovered again. -/
theorem recoverable_recoveredEntry {id : String} (hvalid : SessionId.tryCreate id = some id)
    (persisted : PersistedSessionRecord) :
    (SessionManager.recoveredEntry id persisted).Recoverable :=
  recoverable_of_snapshot hvalid (iff_of_true rfl rfl) rfl rfl (normalTags_normalizeGroupTags _)

end SessionEntry

end Sentrits.Service
