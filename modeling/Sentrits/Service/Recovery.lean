import Sentrits.Service.Recorded

/-!
# What a restart recovers

A new daemon reads the session store and shows what it finds there, so the sessions that survive a
restart are those whose last state was written.

* `mem_restartOn`: what a restart shows comes from the first record of its id.
* `recoversAll_iff`: what a restart brings back is exactly what was there when and only when there
  is no managed-log session.
* `recoversAll_iff_noLogSession`: **over whole runs** in which all writes succeed, a restart at any
  point loses no session exactly when no managed-log session is started.

Source: `src/service/session_manager.cpp`.
-/

namespace Sentrits.Service

open Found Found.Keyed Found.Runs Session Store

namespace SessionManager

/-! ### What a load adds -/

/-- The sessions a load adds are recovered from the first record of their id. -/
theorem mem_loadLoop {sessions : List SessionEntry} {records : List PersistedSessionRecord}
    {e : SessionEntry} (h : e ∈ loadLoop sessions records) : e ∈ sessions ∨
      e.id ∉ sessions.map (·.id) ∧ SessionId.tryCreate e.id = some e.id ∧ ∃ record,
        find PersistedSessionRecord.sessionId e.id records = some record ∧
          e = recoveredEntry e.id record := by
  induction records generalizing sessions with
  | nil => exact Or.inl h
  | cons record records ih =>
      unfold loadLoop at h
      split_ifs at h with hfound
      · refine (ih h).imp id ?_
        rintro ⟨hnew, hvalid, record', hfind, heq⟩
        obtain ⟨e', hfind'⟩ := Option.isSome_iff_exists.mp hfound
        have hid : e'.id = record.sessionId := by simpa using List.find?_some hfind'
        have hne : record.sessionId ≠ e.id := fun heq =>
          hnew (heq ▸ hid ▸ List.mem_map_of_mem (List.mem_of_find?_eq_some hfind'))
        exact ⟨hnew, hvalid, record', (find_cons_of_ne hne records).trans hfind, heq⟩
      · split at h
        next hnone =>
          refine (ih h).imp id ?_
          rintro ⟨hnew, hvalid, record', hfind, heq⟩
          have hne : record.sessionId ≠ e.id := by
            intro heq
            rw [heq, hvalid] at hnone
            exact absurd hnone (by simp)
          exact ⟨hnew, hvalid, record', (find_cons_of_ne hne records).trans hfind, heq⟩
        next id hid =>
          have hvalid := hid
          obtain rfl := SessionId.tryCreate_eq_some hid
          rcases ih h with hmem | ⟨hnew, hvalid', record', hfind, heq⟩
          · rcases List.mem_append.mp hmem with hmem | hmem
            · exact Or.inl hmem
            · obtain rfl := List.mem_singleton.mp hmem
              refine Or.inr ⟨?_, hvalid, record, find_cons_self rfl records, rfl⟩
              intro hin
              obtain ⟨e', he', hid'⟩ := List.mem_map.mp hin
              simp only [Option.not_isSome_iff_eq_none, List.find?_eq_none] at hfound
              exact absurd (by simpa [recoveredEntry] using hid') (hfound e' he')
          · rw [List.map_append, List.mem_append, not_or] at hnew
            have hne : record.sessionId ≠ e.id := by
              intro heq'
              exact hnew.2 (by simp [recoveredEntry, heq'])
            exact Or.inr
              ⟨hnew.1, hvalid', record', (find_cons_of_ne hne records).trans hfind, heq⟩

/-- What has been loaded stays. -/
theorem subset_loadLoop (sessions : List SessionEntry) (records : List PersistedSessionRecord) :
    sessions ⊆ loadLoop sessions records := by
  induction records generalizing sessions with
  | nil => exact List.Subset.refl sessions
  | cons record records ih =>
      unfold loadLoop
      split_ifs
      · exact ih sessions
      · split
        next => exact ih sessions
        next id _ => exact List.Subset.trans (List.subset_append_left sessions _) (ih _)

/-- Every record with an id is loaded, or its session was there. -/
theorem mem_ids_loadLoop (sessions : List SessionEntry) {records : List PersistedSessionRecord}
    {record : PersistedSessionRecord} (hmem : record ∈ records)
    (hvalid : (SessionId.tryCreate record.sessionId).isSome = true) :
    record.sessionId ∈ (loadLoop sessions records).map (·.id) := by
  induction records generalizing sessions with
  | nil => exact absurd hmem List.not_mem_nil
  | cons record' records ih =>
      unfold loadLoop
      rcases List.mem_cons.mp hmem with rfl | hmem
      · split_ifs with hfound
        · obtain ⟨e, hfind⟩ := Option.isSome_iff_exists.mp hfound
          have hid : e.id = record.sessionId := by simpa using List.find?_some hfind
          rw [← hid]
          exact List.mem_map_of_mem (subset_loadLoop _ _ (List.mem_of_find?_eq_some hfind))
        · split
          next hnone =>
            rw [hnone] at hvalid
            exact absurd hvalid (by decide)
          next id hid =>
            obtain rfl := SessionId.tryCreate_eq_some hid
            have hlast : recoveredEntry record.sessionId record ∈
                sessions ++ [recoveredEntry record.sessionId record] :=
              List.mem_append_right _ (List.mem_singleton_self _)
            exact List.mem_map_of_mem (f := (·.id)) (subset_loadLoop _ _ hlast)
      · split_ifs
        · exact ih sessions hmem
        · split
          next => exact ih sessions hmem
          next => exact ih _ hmem

/-! ### A restart -/

/-- A new manager on a store, after it has loaded what is there. -/
def restartOn (sessionStore : Option (List PersistedSessionRecord)) : SessionManager :=
  loadPersistedSessions { sessionStore := sessionStore }

/-- A daemon that has restarted is in order. -/
theorem inv_restartOn (sessionStore : Option (List PersistedSessionRecord)) :
    (restartOn sessionStore).Inv :=
  inv_perform (m := { sessionStore := sessionStore }) (inv_of_init rfl) (fun _ => true)
    .loadPersistedSessions

/-- What a restart shows is recovered from the first record of its id. -/
theorem mem_restartOn {records : List PersistedSessionRecord} {e : SessionEntry}
    (h : e ∈ (restartOn (some records)).sessions) : SessionId.tryCreate e.id = some e.id ∧
      ∃ record, find PersistedSessionRecord.sessionId e.id records = some record ∧
        e = recoveredEntry e.id record := by
  rcases mem_loadLoop h with hmem | ⟨-, hvalid, hrecord⟩
  · exact absurd hmem List.not_mem_nil
  · exact ⟨hvalid, hrecord⟩

/-- Recovering a session that is over changes nothing of it. -/
theorem kept_ended_recoveredEntry (id : String) (record : PersistedSessionRecord) :
    (recoveredEntry id record).kept.map Kept.ended = (recoveredEntry id record).kept := by
  simp [SessionEntry.kept, SessionEntry.snapshot?, recoveredEntry, Kept.ended]

/-- Whatever the store holds, a daemon that has loaded it is up with it. -/
theorem recorded_restartOn (records : List PersistedSessionRecord) :
    (restartOn (some records)).Recorded where
  inv := inv_restartOn _
  recoverable := by
    intro e he
    obtain ⟨hvalid, record, -, heq⟩ := mem_restartOn he
    rw [heq]
    exact SessionEntry.recoverable_recoveredEntry hvalid record
  store := by
    refine ⟨records, rfl, fun record hmem hvalid => mem_ids_loadLoop [] hmem hvalid, ?_⟩
    intro e he _
    obtain ⟨-, record, hfind, heq⟩ := mem_restartOn he
    refine ⟨record, hfind, ?_⟩
    rw [SessionEntry.StandsFor, ← heq, heq, kept_ended_recoveredEntry]

/-- **A restart loses no session.** -/
structure RecoversAll (m : SessionManager) : Prop where
  /-- What a new manager on the store holds is what this one holds, with every session over. -/
  exactly : ((restartOn m.sessionStore).sessions.map (·.kept)).Perm
    (m.sessions.map fun e => e.kept.map Kept.ended)
  terminal : ∀ e ∈ (restartOn m.sessionStore).sessions, e.status.isTerminal = true
  /-- However the new manager goes on, the id of a session it has recovered is not given to another
  one before `ClearInactiveSessions` has removed it. -/
  newIds : ∀ calls m' candidates id, Reaches step (restartOn m.sessionStore) calls m' →
    (∀ call ∈ calls, call.op ≠ .clearInactiveSessions) → m'.makeSessionId candidates = some id →
      id ∉ m.sessions.map (·.id)

/-- Different sessions are kept as different ones. -/
theorem nodup_map_kept {entries : List SessionEntry} (hnodup : (entries.map (·.id)).Nodup)
    (hinv : ∀ e ∈ entries, e.Inv) (f : Kept → Kept) (hf : ∀ k, (f k).id = k.id) :
    (entries.map fun e => e.kept.map f).Nodup := by
  apply List.Nodup.of_map (Option.map Kept.id)
  have hids : (entries.map fun e => e.kept.map f).map (Option.map Kept.id) =
      (entries.map (·.id)).map some := by
    rw [List.map_map, List.map_map]
    refine List.map_congr_left fun e he => ?_
    obtain ⟨k, hk⟩ := (hinv e he).exists_kept
    simp only [Function.comp_apply, hk, Option.map_some, hf, SessionEntry.id_of_kept hk]
  rw [hids]
  exact hnodup.map fun _ _ h => Option.some.inj h

/-- An operation other than clearing leaves every session there. -/
theorem ids_subset_perform {m : SessionManager} (h : m.Inv) (storeOk : String → Bool) {op : Op}
    (hop : op ≠ .clearInactiveSessions) :
    m.sessions.map (·.id) ⊆ (m.perform storeOk op).1.sessions.map (·.id) := by
  intro id hid
  obtain ⟨e, he, rfl⟩ := List.mem_map.mp hid
  obtain ⟨e', hafter⟩ : ∃ e', e.after op = some e' := by
    cases op with
    | clearInactiveSessions => exact absurd rfl hop
    | _ => exact ⟨_, rfl⟩
  obtain ⟨added, hsessions, -⟩ := perform_sessions h.nodup storeOk op
  rw [hsessions, List.map_append]
  refine List.mem_append_left _ (List.mem_map.mpr
    ⟨e', List.mem_filterMap.mpr ⟨e, he, hafter⟩, ?_⟩)
  exact (SessionEntry.keeps_of_after (h.entries e he) hafter).id_eq

/-- Sessions stay over runs in which none is cleared. -/
theorem ids_subset_of_reaches {m m' : SessionManager} {calls : List Call} (h : m.Inv)
    (hrun : Reaches step m calls m') (hcalls : ∀ call ∈ calls, call.op ≠ .clearInactiveSessions) :
    m.sessions.map (·.id) ⊆ m'.sessions.map (·.id) := by
  induction hrun with
  | refl m => exact List.Subset.refl _
  | @cons m m₁ m' call calls hstep _ ih =>
      have hinv := inv_step m call m₁ h hstep
      obtain rfl := Option.some.inj hstep
      have hfirst := ids_subset_perform h call.storeOk (hcalls call List.mem_cons_self)
      have hrest := ih hinv fun call' hmem => hcalls call' (List.mem_cons_of_mem call hmem)
      exact List.Subset.trans hfirst hrest

/-- **Without a managed-log session a restart loses no session.** -/
theorem Recorded.recoversAll {m : SessionManager} (h : m.Recorded)
    (hplain : ∀ e ∈ m.sessions, e.logBuffer = none) : RecoversAll m := by
  obtain ⟨records, hrecords, hin⟩ := h.store
  have hfresh := recorded_restartOn records
  have hexactly : ((restartOn (some records)).sessions.map (·.kept)).Perm
      (m.sessions.map fun e => e.kept.map Kept.ended) := by
    have hnodup := nodup_map_kept hfresh.inv.nodup hfresh.inv.entries id fun _ => rfl
    simp only [Option.map_id_fun, id_eq] at hnodup
    refine (List.perm_ext_iff_of_nodup hnodup
      (nodup_map_kept h.inv.nodup h.inv.entries Kept.ended fun _ => rfl)).mpr fun k => ?_
    constructor
    · intro hk
      obtain ⟨e', he', rfl⟩ := List.mem_map.mp hk
      obtain ⟨hvalid, record, hfind, heq⟩ := mem_restartOn he'
      obtain ⟨hmem, hid⟩ := mem_of_find hfind
      obtain ⟨e, he, heid⟩ := List.mem_map.mp (hin.held record hmem (by rw [hid, hvalid]; rfl))
      obtain ⟨record', hfind', hstands⟩ := hin.written e he (hplain e he)
      have heid : e.id = e'.id := heid.trans hid
      rw [heid, hfind] at hfind'
      obtain rfl := Option.some.inj hfind'
      refine List.mem_map.mpr ⟨e, he, ?_⟩
      rw [← hstands, heid, ← heq]
    · intro hk
      obtain ⟨e, he, rfl⟩ := List.mem_map.mp hk
      obtain ⟨record, hfind, hstands⟩ := hin.written e he (hplain e he)
      obtain ⟨hmem, hid⟩ := mem_of_find hfind
      have hvalid : (SessionId.tryCreate record.sessionId).isSome = true := by
        rw [hid, (h.recoverable e he).valid]
        rfl
      obtain ⟨e', he', heid⟩ := List.mem_map.mp (mem_ids_loadLoop [] hmem hvalid)
      obtain ⟨-, record', hfind', heq⟩ := mem_restartOn he'
      have heid : e'.id = e.id := heid.trans hid
      rw [heid, hfind] at hfind'
      obtain rfl := Option.some.inj hfind'
      refine List.mem_map.mpr ⟨e', he', ?_⟩
      rw [heq, heid]
      exact hstands
  refine ⟨hrecords ▸ hexactly, ?_, ?_⟩
  · intro e' he'
    rw [hrecords] at he'
    obtain ⟨-, record, -, heq⟩ := mem_restartOn he'
    rw [heq]
    exact isTerminal_normalizeRecoveredStatus record.status
  · intro calls m' candidates id hrun hcalls hid hmem
    rw [hrecords] at hrun
    obtain ⟨e, he, rfl⟩ := List.mem_map.mp hmem
    obtain ⟨k, hk⟩ := (h.inv.entries e he).exists_kept
    obtain ⟨e', he', heq⟩ := List.mem_map.mp
      (hexactly.symm.subset (List.mem_map.mpr ⟨e, he, rfl⟩))
    simp only [hk, Option.map_some] at heq
    have hkid : k.id = e.id := SessionEntry.id_of_kept hk
    have heid : e'.id = e.id := (SessionEntry.id_of_kept heq).symm.trans hkid
    have hheld := ids_subset_of_reaches hfresh.inv hrun hcalls (List.mem_map_of_mem he')
    exact (makeSessionId_spec hid).1 (heid ▸ hheld)

/-- **What a restart brings back is what was there exactly when there is no managed-log session**:
a recovered session is a terminal session. -/
theorem recoversAll_iff {m : SessionManager} (h : m.Recorded) :
    RecoversAll m ↔ ∀ e ∈ m.sessions, e.logBuffer = none := by
  refine ⟨fun hall e he => ?_, h.recoversAll⟩
  obtain ⟨records, hrecords, -⟩ := h.store
  obtain ⟨k, hk⟩ := (h.inv.entries e he).exists_kept
  obtain ⟨e', he', heq⟩ := List.mem_map.mp
    (hall.exactly.symm.subset (List.mem_map.mpr ⟨e, he, rfl⟩))
  simp only [hk, Option.map_some] at heq
  rw [hrecords] at he'
  obtain ⟨-, record, -, hrecovered⟩ := mem_restartOn he'
  have hkcategory : k.category = e.category := SessionEntry.category_of_kept hk
  have hcategory : e'.category = e.category :=
    (SessionEntry.category_of_kept heq).symm.trans hkcategory
  rw [(h.recoverable e he).plain, ← hcategory, hrecovered]
  rfl

/-! ### Over whole runs -/

/-- One step of a run in which every write to the store succeeds. -/
def writingStep (m : SessionManager) (op : Op) : Option SessionManager :=
  step m { op := op }

/-- **A restart at any point of a run loses no session exactly when the run starts no managed-log
session.** The daemon begins on any store, after it has loaded what is there. -/
theorem recoversAll_iff_noLogSession (records : List PersistedSessionRecord) (ops : List Op) :
    AllStates writingStep RecoversAll (restartOn (some records)) ops ↔
      AllSteps writingStep (fun m op => ¬ m.StartsLogSession op) (restartOn (some records))
        ops := by
  have hstart := recorded_restartOn records
  have hplain : ∀ e ∈ (restartOn (some records)).sessions, e.logBuffer = none := by
    intro e he
    obtain ⟨-, record, -, heq⟩ := mem_restartOn he
    rw [heq]
    rfl
  refine allStates_iff_allSteps Recorded ?_ ?_ hstart (hstart.recoversAll hplain) ops
  · intro m op m' h _ hstep
    obtain rfl := Option.some.inj hstep
    exact recorded_perform h op
  · intro m op m' h hall hstep
    obtain rfl := Option.some.inj hstep
    rw [recoversAll_iff (recorded_perform h op)]
    exact (follows_perform h op).plain_iff ((recoversAll_iff h).mp hall)

/-- A managed-log session that has just been started is gone after a restart. -/
theorem recoversAll_fails :
    ¬ AllStates writingStep RecoversAll (restartOn (some []))
      [.createLogSession { title := "build" }
        { candidates := ["s_1"]
          resolved := .ok { mode := .clean }
          start := { started := true } }] := by
  intro h
  have hlast := h _ _ (List.prefix_refl _) (.cons rfl (.refl _))
  have hperm := hlast.exactly.length_eq
  exact absurd hperm (by decide)

end SessionManager

end Sentrits.Service
