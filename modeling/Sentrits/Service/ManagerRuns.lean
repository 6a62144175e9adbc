import Sentrits.Service.SessionManager

/-!
# Runs of the session manager

What every operation does to the list of sessions is said once, for all operations: the sessions
that were there go through `SessionEntry.after`, and new ones come behind them. The invariants of
the manager follow entry by entry.

* `perform_sessions`: the sessions after an operation.
* `SessionManager.Inv`, `reachable_inv`: **ids are unique and every entry keeps its invariant**.
* `mem_perform`, `after_of_step`: a session of the state after an operation was there before, and
  went through `after`, or is a new one.

Source: `src/service/session_manager.cpp`.
-/

namespace Sentrits.Service

open Found Found.Runs Session Store

/-! ### What an operation makes of one session -/

namespace SessionEntry

/-- What an operation makes of a session that is there; `none` when the operation removes it. -/
def after (e : SessionEntry) : Op → Option SessionEntry
  | .createSession _ _ => some e
  | .createLogSession _ _ => some e
  | .appendLogStdout id data ts => some (if e.id = id then (e.appendLog .stdout data ts).entry else e)
  | .appendLogStderr id data ts => some (if e.id = id then (e.appendLog .stderr data ts).entry else e)
  | .loadPersistedSessions => some e
  | .updateSessionGroupTags id mode tags =>
      some (if e.id = id then (e.updateGroupTags mode tags).entry else e)
  | .resizeSession id size ptyResized =>
      some (if e.id = id then (e.resize size ptyResized).entry else e)
  | .stopSession id terminated => some (if e.id = id then (e.stop terminated).entry else e)
  | .clearInactiveSessions => if e.isActive then some e else none
  | .requestControl id clientId kind =>
      some (if e.id = id then (e.requestControl clientId kind).entry else e)
  | .releaseControl id clientId =>
      some (if e.id = id then (e.releaseControl clientId).entry else e)
  | .shutdown terminated => some (e.shutdown (terminated e.id)).entry
  | .pollSession id answers => some (if e.id = id then (e.poll answers).entry else e)
  | .pollAll answers =>
      some (if e.skippedByPollAll then e else (e.poll (answers e.id)).entry)

/-- What is done on a condition keeps what is kept either way. -/
theorem keeps_ite {e e' : SessionEntry} (h : e.Inv) (hkeeps : Keeps e e') (c : Prop) [Decidable c] :
    Keeps e (if c then e' else e) := by
  split_ifs
  · exact hkeeps
  · exact .refl h

/-- **Every operation** keeps the invariant of a session and moves its status along at most one
transition. -/
theorem keeps_of_after {e e' : SessionEntry} (h : e.Inv) {op : Op} (hafter : e.after op = some e') :
    Keeps e e' := by
  cases op with
  | createSession | createLogSession | loadPersistedSessions =>
      obtain rfl := Option.some.inj hafter
      exact .refl h
  | appendLogStdout id data ts | appendLogStderr id data ts =>
      obtain rfl := Option.some.inj hafter
      exact keeps_ite h (appendLog_keeps h _ data ts) _
  | updateSessionGroupTags id mode tags =>
      obtain rfl := Option.some.inj hafter
      exact keeps_ite h (updateGroupTags_keeps h mode tags) _
  | resizeSession id size ptyResized =>
      obtain rfl := Option.some.inj hafter
      exact keeps_ite h (resize_keeps h size ptyResized) _
  | stopSession id terminated =>
      obtain rfl := Option.some.inj hafter
      exact keeps_ite h (stop_keeps h terminated) _
  | clearInactiveSessions =>
      simp only [after] at hafter
      split_ifs at hafter
      obtain rfl := Option.some.inj hafter
      exact .refl h
  | requestControl id clientId kind =>
      obtain rfl := Option.some.inj hafter
      exact keeps_ite h (requestControl_keeps h clientId kind) _
  | releaseControl id clientId =>
      obtain rfl := Option.some.inj hafter
      exact keeps_ite h (releaseControl_keeps h clientId) _
  | shutdown terminated =>
      obtain rfl := Option.some.inj hafter
      exact shutdown_keeps h _
  | pollSession id answers =>
      obtain rfl := Option.some.inj hafter
      exact keeps_ite h (poll_keeps h answers) _
  | pollAll answers =>
      obtain rfl := Option.some.inj hafter
      split_ifs
      · exact .refl h
      · exact poll_keeps h _

/-- **A session just added**: nobody controls it from outside, a runtime in it is running in a
terminal of the size new ones have, and a log in it has no lines yet. -/
structure Fresh (e : SessionEntry) : Prop where
  inv : e.Inv
  noClient : e.controllerClientId = none
  running : ∀ r, e.runtime = some r → r.status = .running
  sized : ∀ r, e.runtime = some r →
    r.launchSpec.terminalSize = {} ∧ r.multiplexerSize = {} ∧ e.currentTerminalSize = {}
  emptyLog : ∀ buffer, e.logBuffer = some buffer → ∃ source limits, buffer = .empty source limits

end SessionEntry

namespace SessionManager

/-! ### The list of sessions -/

/-- Storing an entry leaves the sessions. -/
@[simp] theorem sessions_persistEntry (m : SessionManager) (storeOk : String → Bool)
    (e : SessionEntry) : (m.persistEntry storeOk e).sessions = m.sessions := by
  unfold persistEntry
  split
  · rfl
  · split_ifs <;> rfl

/-- Storing several entries leaves the sessions. -/
theorem sessions_foldl_persistEntry (storeOk : String → Bool) (entries : List SessionEntry)
    (m : SessionManager) :
    (entries.foldl (fun m e => m.persistEntry storeOk e) m).sessions = m.sessions := by
  induction entries generalizing m with
  | nil => rfl
  | cons e entries ih => rw [List.foldl_cons, ih, sessions_persistEntry]

/-- An operation on all sessions is done to each. -/
theorem sessions_applyAll (m : SessionManager) (storeOk : String → Bool)
    (f : SessionEntry → EntryResult) :
    (m.applyAll storeOk f).sessions = m.sessions.map fun e => (f e).entry := by
  rw [applyAll, sessions_foldl_persistEntry, List.map_map]
  rfl

/-- Changing the entries of an id nobody has changes nothing. -/
theorem map_ite_of_ne {sessionId : String} {f : SessionEntry → SessionEntry}
    {entries : List SessionEntry} (h : ∀ e ∈ entries, e.id ≠ sessionId) :
    entries.map (fun e => if e.id = sessionId then f e else e) = entries := by
  refine (List.map_congr_left fun e he => ?_).trans (List.map_id _)
  rw [if_neg (h e he)]
  rfl

/-- With unique ids, changing the entry found is changing every entry of that id. -/
theorem modifyEntry_eq_map {entries : List SessionEntry} (h : (entries.map (·.id)).Nodup)
    (sessionId : String) (f : SessionEntry → SessionEntry) :
    modifyEntry sessionId f entries =
      entries.map fun e => if e.id = sessionId then f e else e := by
  induction entries with
  | nil => rfl
  | cons e entries ih =>
      rw [List.map_cons, List.nodup_cons] at h
      rw [modifyEntry, List.map_cons]
      split_ifs with hid
      · rw [map_ite_of_ne]
        intro e' he' heq
        exact h.1 (List.mem_map.mpr ⟨e', he', heq.trans hid.symm⟩)
      · rw [ih h.2]

/-- An operation on one session is done to that one. -/
theorem sessions_applyOne (m : SessionManager) (h : (m.sessions.map (·.id)).Nodup)
    (storeOk : String → Bool) (sessionId : String) (f : SessionEntry → EntryResult) :
    (m.applyOne storeOk sessionId f).1.sessions =
      m.sessions.map fun e => if e.id = sessionId then (f e).entry else e := by
  unfold applyOne
  split
  next hfind =>
    rw [findEntry, List.find?_eq_none] at hfind
    exact (map_ite_of_ne fun e he => by simpa using hfind e he).symm
  next e hfind =>
    rw [← modifyEntry_eq_map h]
    dsimp only
    split_ifs
    · rw [sessions_persistEntry]
    · rfl

/-- The session an operation names is the one that is found. -/
theorem findEntry_of_mem {m : SessionManager} (h : (m.sessions.map (·.id)).Nodup)
    {e : SessionEntry} (he : e ∈ m.sessions) : m.findEntry e.id = some e := by
  rcases hfind : m.findEntry e.id with _ | e'
  · rw [findEntry, List.find?_eq_none] at hfind
    exact absurd (hfind e he) (by simp)
  · have hid : e'.id = e.id := by simpa using List.find?_some hfind
    rw [List.inj_on_of_nodup_map h (List.mem_of_find?_eq_some hfind) he hid]

/-- What is not found has no entry. -/
theorem notMem_of_findEntry {m : SessionManager} {sessionId : String}
    (h : m.findEntry sessionId = none) : sessionId ∉ m.sessions.map (·.id) := by
  rw [findEntry, List.find?_eq_none] at h
  intro hmem
  obtain ⟨e, he, hid⟩ := List.mem_map.mp hmem
  exact h e he (by simpa using hid)

/-- A new session gets an id no session has. -/
theorem makeSessionId_spec {m : SessionManager} {candidates : List String} {id : String}
    (h : m.makeSessionId candidates = some id) :
    id ∉ m.sessions.map (·.id) ∧ id.isEmpty = false := by
  rw [makeSessionId, Option.bind_eq_some_iff] at h
  obtain ⟨candidate, hfind, hid⟩ := h
  have hnone := List.find?_some hfind
  have hnamed := SessionId.nonempty_of_tryCreate hid
  obtain rfl := SessionId.tryCreate_eq_some hid
  exact ⟨notMem_of_findEntry (by simpa using hnone), hnamed⟩

/-! ### New sessions -/

/-- What creating and recovering put behind the sessions that are there. -/
structure Added (m : SessionManager) (added : List SessionEntry) : Prop where
  fresh : ∀ e ∈ added, e.Fresh
  new : ∀ e ∈ added, e.id ∉ m.sessions.map (·.id)
  nodup : (added.map (·.id)).Nodup

/-- No session more. -/
theorem added_nil (m : SessionManager) : m.Added [] where
  fresh := fun _ he => absurd he List.not_mem_nil
  new := fun _ he => absurd he List.not_mem_nil
  nodup := List.nodup_nil

/-- One session more, under a new id. -/
theorem added_singleton {m : SessionManager} {e : SessionEntry} (hfresh : e.Fresh)
    (hnew : e.id ∉ m.sessions.map (·.id)) : m.Added [e] where
  fresh := fun _ he => List.mem_singleton.mp he ▸ hfresh
  new := fun _ he => List.mem_singleton.mp he ▸ hnew
  nodup := List.nodup_singleton _

/-- A session without a runtime or a process, whose snapshot shows it over or taking input. -/
theorem fresh_of_snapshot {e : SessionEntry} {snapshot : SessionSnapshot}
    (hnamed : e.id.isEmpty = false) (hr : e.runtime = none)
    (hs : e.recoveredSnapshot = some snapshot) (hclient : e.controllerClientId = none)
    (hkind : e.controllerKind = .none ∨ e.controllerKind = .host)
    (hsettled : snapshot.metadata.status.isInteractive = true ∨
      snapshot.metadata.status.isTerminal = true)
    (hlive : ∀ process, e.logProcess = some process → process.pid.isSome = true →
      snapshot.metadata.status.isInteractive = true)
    (htail : e.logBuffer.isSome = true → snapshot.recentTerminalTail = [])
    (hempty : ∀ buffer, e.logBuffer = some buffer → ∃ source limits, buffer = .empty source limits) :
    e.Fresh := by
  have hstatus := SessionEntry.status_of_snapshot hr hs
  refine ⟨⟨hnamed, ?_, ?_, ?_, ?_, ?_, fun h => ?_, ?_⟩, hclient, ?_, ?_, hempty⟩
  · intro r h
    rw [hr] at h
    exact absurd h (by simp)
  · rw [hr, hs]
    rfl
  · intro r h
    rw [hr] at h
    exact absurd h (by simp)
  · rw [hstatus]
    exact hsettled
  · rw [hstatus]
    exact hlive
  · rw [h] at hkind
    exact absurd hkind (by decide)
  · intro hlog snapshot' hs'
    rw [hs] at hs'
    exact Option.some.inj hs' ▸ htail hlog
  · intro r h
    rw [hr] at h
    exact absurd h (by simp)
  · intro r h
    rw [hr] at h
    exact absurd h (by simp)

/-- The entry of a session that could not be created is in order. -/
theorem fresh_failureEntry (metadata : SessionMetadata) (hnamed : metadata.id.isEmpty = false)
    (environment : Option EffectiveEnvironment) (message : String) :
    (failureEntry metadata environment message).Fresh :=
  fresh_of_snapshot hnamed rfl rfl rfl (Or.inl rfl) (Or.inr rfl)
    (fun _ h => absurd h (by simp [failureEntry])) (fun h => absurd h (by simp [failureEntry]))
    fun _ h => absurd h (by simp [failureEntry])

/-- The entry of a new log session is in order. -/
theorem fresh_logEntry {id : String} (hnamed : id.isEmpty = false)
    (request : LogSessionCreateRequest)
    (environment : Option EffectiveEnvironment) (process : Option ManagedLogProcess) :
    ({ logEntry id request environment with logProcess := process } : SessionEntry).Fresh :=
  fresh_of_snapshot hnamed rfl rfl rfl (Or.inr rfl) (Or.inl rfl) (fun _ _ _ => rfl) (fun _ => rfl)
    fun _ h => ⟨_, _, (Option.some.inj h).symm⟩

/-- The entry of a recovered session is in order. -/
theorem fresh_recoveredEntry {id : String} (hnamed : id.isEmpty = false)
    (persisted : PersistedSessionRecord) : (recoveredEntry id persisted).Fresh := by
  refine fresh_of_snapshot hnamed rfl rfl rfl (Or.inr rfl) (Or.inr ?_)
    (fun _ h => absurd h (by simp [recoveredEntry])) (fun h => absurd h (by simp [recoveredEntry]))
    fun _ h => absurd h (by simp [recoveredEntry])
  show (normalizeRecoveredStatus persisted.status).isTerminal = true
  unfold normalizeRecoveredStatus
  split_ifs with hterminal
  · exact hterminal
  · rfl

/-- The entry of a terminal session whose process has started. -/
theorem fresh_startedEntry (metadata : SessionMetadata) {launchSpec : LaunchSpec}
    {environment : EffectiveEnvironment} {result : StartResult}
    (hnamed : metadata.id.isEmpty = false) (hcreated : metadata.status = .created)
    (hsize : launchSpec.terminalSize = {})
    (hstarted : ((SessionRuntime.new { metadata := metadata } launchSpec).start result).2 = true) :
    ({ terminalEntry metadata launchSpec environment with
        runtime := some ((SessionRuntime.new { metadata := metadata } launchSpec).start result).1
        lastObservedStatus :=
          ((SessionRuntime.new { metadata := metadata } launchSpec).start result).1.status
        lastObservedSequence :=
          ((SessionRuntime.new { metadata := metadata } launchSpec).start
            result).1.record.currentSequence } : SessionEntry).Fresh := by
  have hnew : (SessionRuntime.new { metadata := metadata } launchSpec).Inv :=
    SessionRuntime.inv_new { metadata := metadata } hcreated hcreated launchSpec _
  obtain ⟨hinv, hcases⟩ := SessionRuntime.start_spec hnew hcreated result
  have hrunning : ((SessionRuntime.new { metadata := metadata } launchSpec).start
      result).1.status = .running := by
    rcases hcases with ⟨-, hstatus⟩ | ⟨hfailed, -⟩
    · exact hstatus
    · rw [hstarted] at hfailed
      exact absurd hfailed (by decide)
  refine ⟨⟨hnamed, ?_, rfl, fun _ _ => rfl, ?_, ?_, fun h => absurd h (by simp [terminalEntry]),
    fun h => absurd h (by simp [terminalEntry])⟩, rfl, ?_, ?_,
    fun _ h => absurd h (by simp [terminalEntry])⟩
  · intro r hr
    obtain rfl := Option.some.inj hr
    exact hinv
  · refine Or.inl ?_
    rw [SessionEntry.status_of_runtime rfl, hrunning]
    rfl
  · intro process hp
    exact absurd hp (by simp [terminalEntry])
  · intro r hr
    obtain rfl := Option.some.inj hr
    exact hrunning
  · intro r hr
    obtain rfl := Option.some.inj hr
    obtain ⟨hspec, hmultiplexer⟩ := SessionRuntime.sizes_start
      (SessionRuntime.new { metadata := metadata } launchSpec) result
    rw [hspec, hmultiplexer]
    refine ⟨hsize, ?_, hsize⟩
    show normalizeSize launchSpec.terminalSize = {}
    rw [hsize]
    decide

/-- A failure is recorded behind the other sessions. -/
theorem sessions_recordCreateFailureSession (m : SessionManager) (storeOk : String → Bool)
    (metadata : SessionMetadata) (environment : Option EffectiveEnvironment) (message : String) :
    (m.recordCreateFailureSession storeOk metadata environment message).sessions =
      m.sessions ++ [failureEntry metadata environment message] := by
  rw [recordCreateFailureSession, sessions_persistEntry]

/-- **Creating a terminal session** adds nothing, the new session, or one that shows the failure. -/
theorem createSession_sessions (m : SessionManager) (storeOk : String → Bool)
    (request : CreateSessionRequest) (answers : CreateAnswers) :
    ∃ added, (m.createSession storeOk request answers).1.sessions = m.sessions ++ added ∧
      m.Added added := by
  unfold createSession
  dsimp only
  split
  next => exact ⟨[], (List.append_nil _).symm, added_nil m⟩
  next id hid =>
    obtain ⟨hnew, hnamed⟩ : id ∉ m.sessions.map (·.id) ∧ id.isEmpty = false :=
      makeSessionId_spec hid
    have hfailure := fun environment message =>
      added_singleton (m := m) (fresh_failureEntry (requestedMetadata id request)
        hnamed environment message) hnew
    split
    next => exact ⟨_, sessions_recordCreateFailureSession _ _ _ _ _, hfailure _ _⟩
    next =>
      split
      next => exact ⟨_, sessions_recordCreateFailureSession _ _ _ _ _, hfailure _ _⟩
      next =>
        split_ifs with havailable hstarted
        · exact ⟨_, sessions_persistEntry _ _ _, added_singleton
            (fresh_startedEntry (requestedMetadata id request) hnamed rfl rfl hstarted) hnew⟩
        · exact ⟨_, sessions_recordCreateFailureSession _ _ _ _ _, hfailure _ _⟩
        · exact ⟨_, sessions_recordCreateFailureSession _ _ _ _ _, hfailure _ _⟩

/-- Erasing the entry just pushed leaves the others. -/
theorem filter_pushed {entries : List SessionEntry} {e : SessionEntry} {id : String}
    (hid : e.id = id) (hnew : id ∉ entries.map (·.id)) :
    (entries ++ [e]).filter (·.id ≠ id) = entries := by
  rw [List.filter_append, List.filter_eq_self.mpr, List.filter_eq_nil_iff.mpr, List.append_nil]
  · intro e' he'
    obtain rfl := List.mem_singleton.mp he'
    simpa using hid
  · intro e' he'
    have hne : e'.id ≠ id := fun heq => hnew (List.mem_map.mpr ⟨e', he', heq⟩)
    simpa using hne

/-- **Creating a managed-log session** adds it, or nothing. -/
theorem createLogSession_sessions (m : SessionManager) (request : LogSessionCreateRequest)
    (answers : LogCreateAnswers) :
    ∃ added, (m.createLogSession request answers).1.sessions = m.sessions ++ added ∧
      m.Added added := by
  unfold createLogSession
  dsimp only
  split
  next => exact ⟨[], (List.append_nil _).symm, added_nil m⟩
  next id hid =>
    obtain ⟨hnew, hnamed⟩ : id ∉ m.sessions.map (·.id) ∧ id.isEmpty = false :=
      makeSessionId_spec hid
    split
    next => exact ⟨[], (List.append_nil _).symm, added_nil m⟩
    next => exact ⟨_, rfl, added_singleton (fresh_logEntry hnamed request none none) hnew⟩
    next =>
      split
      next => exact ⟨[], (List.append_nil _).symm, added_nil m⟩
      next environment _ =>
        by_cases hstarted : answers.start.started = true
        · rw [if_pos hstarted]
          exact ⟨_, rfl, added_singleton (fresh_logEntry hnamed request (some environment) _) hnew⟩
        · rw [if_neg hstarted]
          exact ⟨[], (filter_pushed (e := logEntry id request (some environment)) rfl hnew).trans
            (List.append_nil _).symm, added_nil m⟩

/-- The loop of `LoadPersistedSessions` puts recovered sessions behind those that are there. -/
theorem loadLoop_sessions (records : List PersistedSessionRecord) (m : SessionManager)
    (added : List SessionEntry) (h : m.Added added) :
    ∃ added', loadLoop (m.sessions ++ added) records = m.sessions ++ added' ∧ m.Added added' := by
  induction records generalizing added with
  | nil => exact ⟨added, rfl, h⟩
  | cons persisted records ih =>
      unfold loadLoop
      split_ifs with hfound
      · exact ih added h
      · split
        next => exact ih added h
        next id hid =>
          have hnamed := SessionId.nonempty_of_tryCreate hid
          obtain rfl := SessionId.tryCreate_eq_some hid
          have hnew : ∀ e ∈ m.sessions ++ added, e.id ≠ persisted.sessionId := by
            intro e he
            simp only [Option.not_isSome_iff_eq_none, List.find?_eq_none] at hfound
            simpa using hfound e he
          rw [List.append_assoc]
          refine ih _ ⟨?_, ?_, ?_⟩
          · intro e he
            rcases List.mem_append.mp he with he | he
            · exact h.fresh e he
            · exact List.mem_singleton.mp he ▸ fresh_recoveredEntry hnamed persisted
          · intro e he hmem
            rcases List.mem_append.mp he with he | he
            · exact h.new e he hmem
            · obtain rfl := List.mem_singleton.mp he
              obtain ⟨e', he', heq⟩ := List.mem_map.mp hmem
              exact hnew e' (List.mem_append_left _ he') heq
          · rw [List.map_append, List.nodup_append]
            refine ⟨h.nodup, List.nodup_singleton _, ?_⟩
            intro id hid id' hid' heq
            obtain ⟨e', he', rfl⟩ := List.mem_map.mp hid
            obtain rfl := List.mem_singleton.mp hid'
            exact hnew e' (List.mem_append_right _ he') heq

/-! ### The sessions after an operation -/

/-- An operation on one session, or on all of them, leaves every session there. -/
theorem filterMap_of_after {m : SessionManager} {op : Op} {f : SessionEntry → SessionEntry}
    (h : ∀ e, e.after op = some (f e)) : m.sessions.filterMap (·.after op) = m.sessions.map f := by
  rw [List.filterMap_congr fun e _ => h e]
  exact congrFun (List.filterMap_eq_map (f := f)) _

/-- **What an operation does to the list of sessions**: the ones that were there go through
`SessionEntry.after`, new ones come behind them. -/
theorem perform_sessions {m : SessionManager} (h : (m.sessions.map (·.id)).Nodup)
    (storeOk : String → Bool) (op : Op) :
    ∃ added, (m.perform storeOk op).1.sessions = m.sessions.filterMap (·.after op) ++ added ∧
      m.Added added := by
  have hkept : ∀ f : SessionEntry → SessionEntry, (∀ e, e.after op = some (f e)) →
      (m.perform storeOk op).1.sessions = m.sessions.map f →
      ∃ added, (m.perform storeOk op).1.sessions = m.sessions.filterMap (·.after op) ++ added ∧
        m.Added added := by
    intro f hafter hsessions
    exact ⟨[], by rw [filterMap_of_after hafter, List.append_nil, hsessions], added_nil m⟩
  have hsame : (∀ e : SessionEntry, e.after op = some e) →
      m.sessions.filterMap (·.after op) = m.sessions := by
    intro hafter
    rw [filterMap_of_after (f := id) hafter, List.map_id]
  cases op with
  | createSession request answers =>
      rw [hsame fun _ => rfl]
      exact createSession_sessions m storeOk request answers
  | createLogSession request answers =>
      rw [hsame fun _ => rfl]
      exact createLogSession_sessions m request answers
  | loadPersistedSessions =>
      rw [hsame fun _ => rfl]
      have hload := loadLoop_sessions (m.sessionStore.getD []) m [] (added_nil m)
      rw [List.append_nil] at hload
      exact hload
  | clearInactiveSessions =>
      refine ⟨[], ?_, added_nil m⟩
      rw [List.append_nil]
      show m.sessions.filter (·.isActive) = _
      rw [← List.filterMap_eq_filter]
      refine List.filterMap_congr fun e _ => ?_
      simp only [Option.guard, SessionEntry.after]
  | appendLogStdout | appendLogStderr | updateSessionGroupTags | resizeSession | stopSession
  | requestControl | releaseControl | pollSession =>
      exact hkept _ (fun _ => rfl) (sessions_applyOne m h _ _ _)
  | shutdown => exact hkept _ (fun _ => rfl) (sessions_applyAll m _ _)
  | pollAll answers =>
      refine hkept _ (fun _ => rfl) ?_
      rw [perform, sessions_applyAll]
      refine List.map_congr_left fun e _ => ?_
      split_ifs <;> rfl

/-! ### The invariant -/

/-- **Invariant of the manager.** -/
structure Inv (m : SessionManager) : Prop where
  nodup : (m.sessions.map (·.id)).Nodup
  entries : ∀ e ∈ m.sessions, e.Inv

/-- The ids of the sessions that stay are among those that were there. -/
theorem map_id_filterMap_after {entries : List SessionEntry} (h : ∀ e ∈ entries, e.Inv) (op : Op) :
    ((entries.filterMap (·.after op)).map (·.id)).Sublist (entries.map (·.id)) := by
  induction entries with
  | nil => exact List.Sublist.refl _
  | cons e entries ih =>
      have ih := ih fun e' he' => h e' (List.mem_cons_of_mem e he')
      rw [List.filterMap_cons]
      split
      next => exact ih.cons _
      next e' hafter =>
        rw [List.map_cons, List.map_cons,
          (SessionEntry.keeps_of_after (h e List.mem_cons_self) hafter).id_eq]
        exact ih.cons_cons _

/-- **The sessions of the state after an operation** were there before or are new. -/
theorem mem_perform {m : SessionManager} (h : m.Inv) {storeOk : String → Bool} {op : Op}
    {e' : SessionEntry} (he' : e' ∈ (m.perform storeOk op).1.sessions) :
    (∃ e ∈ m.sessions, e.after op = some e' ∧ e.Keeps e') ∨
      (e'.Fresh ∧ e'.id ∉ m.sessions.map (·.id)) := by
  obtain ⟨added, hsessions, hadded⟩ := perform_sessions h.nodup storeOk op
  rw [hsessions] at he'
  rcases List.mem_append.mp he' with hold | hnew
  · obtain ⟨e, he, hafter⟩ := List.mem_filterMap.mp hold
    exact Or.inl ⟨e, he, hafter, SessionEntry.keeps_of_after (h.entries e he) hafter⟩
  · exact Or.inr ⟨hadded.fresh e' hnew, hadded.new e' hnew⟩

/-- **Every operation keeps the invariant.** -/
theorem inv_perform {m : SessionManager} (h : m.Inv) (storeOk : String → Bool) (op : Op) :
    (m.perform storeOk op).1.Inv where
  nodup := by
    obtain ⟨added, hsessions, hadded⟩ := perform_sessions h.nodup storeOk op
    have hsub := map_id_filterMap_after h.entries op
    rw [hsessions, List.map_append, List.nodup_append]
    refine ⟨hsub.nodup h.nodup, hadded.nodup, ?_⟩
    rintro id hid id' hid' rfl
    obtain ⟨e, he, rfl⟩ := List.mem_map.mp hid'
    exact hadded.new e he (hsub.subset hid)
  entries := by
    intro e' he'
    rcases mem_perform h he' with ⟨e, -, -, hkeeps⟩ | ⟨hfresh, -⟩
    · exact hkeeps.inv
    · exact hfresh.inv

/-- A new manager has the invariant. -/
theorem inv_of_init {m : SessionManager} (h : Init m) : m.Inv where
  nodup := by rw [h]; exact List.nodup_nil
  entries := by rw [h]; exact fun _ he => absurd he List.not_mem_nil

/-- Every step keeps the invariant. -/
theorem inv_step (m : SessionManager) (call : Call) (m' : SessionManager) (h : m.Inv)
    (hstep : step m call = some m') : m'.Inv := by
  obtain rfl := Option.some.inj hstep
  exact inv_perform h _ _

/-- **In every reachable state** ids are unique and every session keeps its invariant. -/
theorem reachable_inv {m : SessionManager} (h : Reachable step Init m) : m.Inv :=
  h.invariant (fun _ => inv_of_init) inv_step

/-- A session keeps its id, so after a step it is found under the id it had before. -/
theorem after_of_step {m m' : SessionManager} (h : m.Inv) {call : Call}
    (hstep : step m call = some m') {e e' : SessionEntry} (he : e ∈ m.sessions)
    (he' : e' ∈ m'.sessions) (hid : e'.id = e.id) : e.after call.op = some e' := by
  obtain rfl := Option.some.inj hstep
  rcases mem_perform h he' with ⟨e₀, he₀, hafter, hkeeps⟩ | ⟨-, hnew⟩
  · have heq : e₀ = e := List.inj_on_of_nodup_map h.nodup he₀ he (hkeeps.id_eq.symm.trans hid)
    exact heq ▸ hafter
  · exact absurd (List.mem_map.mpr ⟨e, he, hid.symm⟩) hnew

/-- A session that an operation does not remove is there after it. -/
theorem mem_of_after {m m' : SessionManager} (h : m.Inv) {call : Call}
    (hstep : step m call = some m') {e e' : SessionEntry} (he : e ∈ m.sessions)
    (hafter : e.after call.op = some e') : e' ∈ m'.sessions := by
  obtain rfl := Option.some.inj hstep
  obtain ⟨added, hsessions, -⟩ := perform_sessions h.nodup call.storeOk call.op
  rw [hsessions]
  exact List.mem_append_left _ (List.mem_filterMap.mpr ⟨e, he, hafter⟩)

/-! ### Running calls -/

/-- No call is refused, so calls can be run one after the other. -/
def run (m : SessionManager) (calls : List Call) : SessionManager :=
  calls.foldl (fun m call => (m.perform call.storeOk call.op).1) m

/-- A run leads where it leads. -/
theorem reaches_run (m : SessionManager) (calls : List Call) :
    Reaches step m calls (m.run calls) := by
  induction calls generalizing m with
  | nil => exact .refl m
  | cons call calls ih => exact .cons rfl (ih _)

/-- Every run of a new manager is one from the start. -/
theorem reachable_run (calls : List Call) : Reachable step Init (run {} calls) :=
  ⟨{}, calls, rfl, reaches_run {} calls⟩

/-- A call that starts a terminal session in `Clean` mode under an id. -/
def startCall (id : String) : Call where
  op := .createSession { title := "terminal", envMode := some .clean }
    { candidates := [id]
      resolved := .ok { mode := .clean }
      bootstrapShell := []
      start := { started := true, pid := 7 } }

end SessionManager

end Sentrits.Service
