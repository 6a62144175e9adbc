import Sentrits.Service.ManagerRuns

/-!
# Who controls a session

A session is controlled by the host, by a remote client or by nobody. `RequestControl` and
`ReleaseControl` pass control on; stopping, shutting down and clearing take it away; the natural end
of a session, found by a poll, leaves it where it was.

* `controller_after`: what an operation does to the controller of one session.
* `reachable_exclusion`: **a remote controller keeps control** until it releases it, the host takes
  it, or the session is stopped, shut down or removed.
* `clear_iff_exits_uncontrolled`: **a session that is over has no controller exactly when** no poll
  of the run finds the end of a session somebody controls.

Source: `src/service/session_manager.cpp`.
-/

namespace Sentrits.Service

open Found Found.Runs Session Store

namespace SessionEntry

/-! ### The controller of one session -/

/-- Control is where it was. -/
def SameController (e e' : SessionEntry) : Prop :=
  e'.controllerKind = e.controllerKind ∧ e'.controllerClientId = e.controllerClientId

/-- An entry has its own controller. -/
theorem SameController.refl (e : SessionEntry) : SameController e e := ⟨rfl, rfl⟩

/-- Log output leaves control where it is. -/
theorem appendLog_sameController (e : SessionEntry) (stream : LogStream) (data : Bytes) (ts : ℤ) :
    SameController e (e.appendLog stream data ts).entry := by
  unfold appendLog
  split
  · exact .refl e
  · exact ⟨rfl, rfl⟩

/-- New tags leave control where it is. -/
theorem updateGroupTags_sameController (e : SessionEntry) (mode : SessionGroupTagsUpdateMode)
    (tags : List String) : SameController e (e.updateGroupTags mode tags).entry := by
  unfold updateGroupTags
  split
  · exact ⟨rfl, rfl⟩
  · exact ⟨rfl, rfl⟩

/-- A new size leaves control where it is. -/
theorem resize_sameController (e : SessionEntry) (size : TerminalSize) (ptyResized : Bool) :
    SameController e (e.resize size ptyResized).entry := by
  unfold resize
  split
  · exact .refl e
  · dsimp only
    split_ifs
    · exact ⟨rfl, rfl⟩
    · exact ⟨rfl, rfl⟩

/-- **A poll** leaves control where it is, also when it finds the end of the session. -/
theorem poll_sameController (e : SessionEntry) (answers : PollAnswers) :
    SameController e (e.poll answers).entry := by
  unfold poll
  split
  next process _ =>
    dsimp only
    split
    · exact ⟨rfl, rfl⟩
    · by_cases hs : e.recoveredSnapshot.isSome = true
      · rw [if_pos hs]
        exact ⟨rfl, rfl⟩
      · rw [if_neg hs]
        exact ⟨rfl, rfl⟩
  next => exact .refl e
  next => exact ⟨rfl, rfl⟩

/-- A remote client asks in vain for a session another one controls. -/
theorem requestControl_of_remote {e : SessionEntry} {c d : String}
    (hkind : e.controllerKind = .remote) (hclient : e.controllerClientId = some c) (hne : d ≠ c)
    {kind : ControllerKind} (hhost : kind ≠ .host) :
    e.requestControl d kind = { entry := e, result := false } := by
  unfold requestControl
  rw [hkind, hclient]
  split_ifs with hoff hfree htake
  · rfl
  · exact absurd hfree (by decide)
  · exact absurd (by simpa using htake) hhost
  · have hother : (some c == some d) = false := by simpa using hne.symm
    rw [hother]

/-- Asking again for what one has, or asking for nothing, changes nothing. -/
theorem requestControl_sameController {e : SessionEntry} (hkind : e.controllerKind = .remote)
    (d : String) {kind : ControllerKind} (hhost : kind ≠ .host) :
    SameController e (e.requestControl d kind).entry := by
  unfold requestControl
  rw [hkind]
  split_ifs with hoff hfree htake
  · exact .refl e
  · exact absurd hfree (by decide)
  · exact absurd (by simpa using htake) hhost
  · exact .refl e

/-- Only the controlling client can release control. -/
theorem releaseControl_of_other {e : SessionEntry} {c d : String}
    (hkind : e.controllerKind = .remote) (hclient : e.controllerClientId = some c) (hne : d ≠ c) :
    e.releaseControl d = { entry := e, result := false } := by
  have hother : (c != d) = true := by simpa using hne.symm
  unfold releaseControl
  rw [hkind, hclient]
  dsimp only
  rw [if_neg (by decide), if_pos hother]

end SessionEntry

/-! ### Operations that take control away -/

/-- The operations that may end the control client `c` has over a session. -/
def Op.EndsControl (sessionId c : String) : Op → Prop
  | .releaseControl id clientId => id = sessionId ∧ clientId = c
  | .requestControl id _ kind => id = sessionId ∧ kind = .host
  | .stopSession id _ => id = sessionId
  | .shutdown _ => True
  | _ => False

namespace SessionEntry

/-- **What an operation does to a session a remote client controls**: control stays, or the
operation is one that may end it. -/
theorem controller_after {e e' : SessionEntry} {c : String} (hkind : e.controllerKind = .remote)
    (hclient : e.controllerClientId = some c) {op : Op} (hafter : e.after op = some e') :
    SameController e e' ∨ op.EndsControl e.id c := by
  have hite : ∀ {id : String} {f : SessionEntry},
      (e.id = id → SameController e f ∨ op.EndsControl e.id c) →
      some (if e.id = id then f else e) = some e' → SameController e e' ∨ op.EndsControl e.id c := by
    intro id f hf heq
    obtain rfl := Option.some.inj heq
    split_ifs with hid
    · exact hf hid
    · exact Or.inl (.refl e)
  cases op with
  | createSession | createLogSession | loadPersistedSessions =>
      obtain rfl := Option.some.inj hafter
      exact Or.inl (.refl e)
  | appendLogStdout id data ts | appendLogStderr id data ts =>
      exact hite (fun _ => Or.inl (appendLog_sameController e _ data ts)) hafter
  | updateSessionGroupTags id mode tags =>
      exact hite (fun _ => Or.inl (updateGroupTags_sameController e mode tags)) hafter
  | resizeSession id size ptyResized =>
      exact hite (fun _ => Or.inl (resize_sameController e size ptyResized)) hafter
  | stopSession id terminated => exact hite (fun hid => Or.inr hid.symm) hafter
  | clearInactiveSessions =>
      simp only [after] at hafter
      split_ifs at hafter
      obtain rfl := Option.some.inj hafter
      exact Or.inl (.refl e)
  | requestControl id clientId kind =>
      refine hite (fun hid => ?_) hafter
      by_cases hhost : kind = .host
      · exact Or.inr ⟨hid.symm, hhost⟩
      · exact Or.inl (requestControl_sameController hkind clientId hhost)
  | releaseControl id clientId =>
      refine hite (fun hid => ?_) hafter
      by_cases hown : clientId = c
      · exact Or.inr ⟨hid.symm, hown⟩
      · rw [releaseControl_of_other hkind hclient hown]
        exact Or.inl (.refl e)
  | shutdown terminated => exact Or.inr trivial
  | pollSession id answers => exact hite (fun _ => Or.inl (poll_sameController e answers)) hafter
  | pollAll answers =>
      obtain rfl := Option.some.inj hafter
      split_ifs
      · exact Or.inl (.refl e)
      · exact Or.inl (poll_sameController e _)

/-- Only `ClearInactiveSessions` removes a session, and only one that takes no input. -/
theorem after_eq_none {e : SessionEntry} {op : Op} (h : e.after op = none) :
    op = .clearInactiveSessions ∧ e.isActive = false := by
  cases op with
  | clearInactiveSessions =>
      simp only [after] at h
      split_ifs at h with hactive
      exact ⟨rfl, by simpa using hactive⟩
  | _ => exact absurd h (by simp [after])

end SessionEntry

/-! ### A session that is over -/

namespace SessionEntry

/-- **A session that is over has no controller.** -/
def Clear (e : SessionEntry) : Prop := e.status.isTerminal = true → e.controllerClientId = none

instance (e : SessionEntry) : Decidable e.Clear := by unfold Clear; infer_instance

/-- Where nobody has control it is clear. -/
theorem clear_of_none {e : SessionEntry} (h : e.controllerClientId = none) : e.Clear := fun _ => h

/-- A session that takes input may have a controller. -/
theorem clear_of_isInteractive {e : SessionEntry} (h : e.status.isInteractive = true) :
    e.Clear := by
  intro hover
  rw [SessionStatus.isTerminal_of_isInteractive h] at hover
  exact absurd hover (by decide)

/-- Being clear is a matter of the status and the controller. -/
theorem Clear.congr {e e' : SessionEntry} (h : e.Clear) (hstatus : e'.status = e.status)
    (hclient : e'.controllerClientId = e.controllerClientId) : e'.Clear := by
  unfold Clear
  rw [hstatus, hclient]
  exact h

/-- Without a controller nobody has control. -/
theorem hasControl_of_none {e : SessionEntry} (h : e.controllerClientId = none) (c : String) :
    e.hasControl c = false := by
  unfold hasControl
  rw [h]
  rfl

/-- The poll finds that the process of the session is gone. -/
def findsExit (e : SessionEntry) (answers : PollAnswers) : Bool :=
  match e.logProcess, e.runtime with
  | some process, _ => process.pid.isSome && answers.logWait.code.isSome
  | none, some r => r.pid.isSome && answers.exitCode.isSome
  | none, none => false

/-- **A poll** ends a session exactly when it finds its process gone. -/
theorem status_poll {e : SessionEntry} (h : e.Inv) (answers : PollAnswers) :
    e.findsExit answers = true ∧ (e.poll answers).entry.status.isTerminal = true ∨
      e.findsExit answers = false ∧ (e.poll answers).entry.status = e.status := by
  rcases hp : e.logProcess with _ | process
  · rcases hr : e.runtime with _ | r
    · simp only [findsExit, poll, hp, hr]
      exact Or.inr ⟨trivial, trivial⟩
    · simp only [findsExit, poll, hp, hr, status_of_runtime hr]
      exact SessionRuntime.status_pollOnce (h.runtime r hr) answers.reads answers.exitCode
  · have hr := h.runtime_none hp
    obtain ⟨snapshot, hs⟩ := h.exists_snapshot hr
    have hsome : e.recoveredSnapshot.isSome = true := hs ▸ rfl
    simp only [findsExit, poll, hp]
    rcases pollExit_cases process answers.logWait with ⟨hcode, code, -, heq⟩ | ⟨hcode, _, heq, -⟩
    · simp only [heq, hsome, if_true]
      refine Or.inl ⟨hcode, ?_⟩
      rw [status_setRecoveredStatus (e := { e with logProcess := some {} }) hr hsome]
      split_ifs <;> rfl
    · simp only [heq]
      exact Or.inr ⟨hcode, rfl⟩

/-- A poll that ends a session leaves no controller only if there was none. -/
theorem clear_poll {e : SessionEntry} (h : e.Inv) (hclear : e.Clear) (answers : PollAnswers) :
    (e.poll answers).entry.Clear ↔
      (e.findsExit answers = true → e.controllerClientId = none) := by
  have hclient := (poll_sameController e answers).2
  rcases status_poll h answers with ⟨hfinds, hover⟩ | ⟨hfinds, hstatus⟩
  · rw [hfinds]
    exact ⟨fun hafter _ => hclient.symm.trans (hafter hover),
      fun hnone _ => hclient.trans (hnone rfl)⟩
  · rw [hfinds]
    exact ⟨fun _ hno => absurd hno (by decide), fun _ => hclear.congr hstatus hclient⟩

/-- **Stopping** a session resets its controller, or the session goes on. -/
theorem clear_stop {e : SessionEntry} (h : e.Inv) (terminated : Bool) :
    (e.stop terminated).entry.Clear := by
  unfold stop
  split_ifs with hover
  · exact clear_of_none rfl
  · have hactive := h.isInteractive_of_not_isTerminal hover
    split
    next process hp =>
      dsimp only
      split_ifs
      · exact clear_of_none rfl
      · exact clear_of_isInteractive hactive
    next => exact clear_of_isInteractive hactive
    next r _ hr =>
      dsimp only
      by_cases hstopped : (r.shutdown terminated).2 = true
      · rw [if_pos hstopped]
        exact clear_of_none rfl
      · rw [if_neg hstopped]
        -- a runtime that refuses to shut down is left alone
        rcases SessionRuntime.shutdown_spec (h.runtime r hr) terminated with heq | ⟨_, -, -, heq⟩
        · rw [status_of_runtime hr] at hactive
          rw [heq]
          exact clear_of_isInteractive hactive
        · rw [heq] at hstopped
          exact absurd rfl hstopped

/-- What `Shutdown` reaches at the end of its loop has no controller. -/
theorem clear_finishShutdown (e : SessionEntry) (changed terminated : Bool) :
    (e.finishShutdown changed terminated).entry.Clear := by
  unfold finishShutdown
  dsimp only
  split_ifs with hcontrolled
  · exact clear_of_none rfl
  · refine clear_of_none ?_
    simp only [Bool.or_eq_true, not_or, Bool.not_eq_true, Option.isSome_eq_false_iff,
      Option.isNone_iff_eq_none] at hcontrolled
    exact hcontrolled.1

/-- **Shutting down** resets the controller of a session, or the session goes on. -/
theorem clear_shutdown {e : SessionEntry} (h : e.Inv) (hclear : e.Clear) (terminated : Bool) :
    (e.shutdown terminated).entry.Clear := by
  unfold shutdown
  split
  next => exact clear_finishShutdown e false terminated
  next r hr =>
    dsimp only
    split_ifs with hdown
    · exact clear_finishShutdown _ true terminated
    · rcases SessionRuntime.shutdown_spec (h.runtime r hr) terminated with heq | ⟨_, -, -, heq⟩
      · rw [heq]
        exact hclear.congr (status_of_runtime hr).symm rfl
      · rw [heq] at hdown
        exact absurd rfl hdown

/-- Log output gives control to nobody. -/
theorem clear_appendLog {e : SessionEntry} (hclear : e.Clear) (stream : LogStream) (data : Bytes)
    (ts : ℤ) : (e.appendLog stream data ts).entry.Clear := by
  unfold appendLog
  split
  · exact hclear
  · exact hclear.congr (status_mapSnapshot e _ _ fun _ => rfl) rfl

/-- New tags give control to nobody. -/
theorem clear_updateGroupTags {e : SessionEntry} (hclear : e.Clear)
    (mode : SessionGroupTagsUpdateMode) (tags : List String) :
    (e.updateGroupTags mode tags).entry.Clear := by
  unfold updateGroupTags
  split
  next r hr => exact hclear.congr (status_of_runtime hr).symm rfl
  next => exact hclear.congr (status_mapSnapshot e e.logBuffer _ fun _ => rfl) rfl

/-- A new size gives control to nobody. -/
theorem clear_resize {e : SessionEntry} (hclear : e.Clear) (size : TerminalSize)
    (ptyResized : Bool) : (e.resize size ptyResized).entry.Clear := by
  unfold resize
  rcases hr : e.runtime with _ | r
  · exact hclear
  · have hstatus : (r.resizeTerminal size ptyResized).1.status = e.status := by
      rw [status_of_runtime hr, SessionRuntime.resizeTerminal]
      split_ifs <;> rfl
    dsimp only
    split_ifs
    · exact hclear.congr hstatus rfl
    · exact hclear.congr hstatus rfl

/-- A claim is refused once the session is over. -/
theorem clear_requestControl {e : SessionEntry} (hclear : e.Clear) (clientId : String)
    (kind : ControllerKind) : (e.requestControl clientId kind).entry.Clear := by
  unfold requestControl
  split_ifs with hoff hfree htake
  · exact hclear
  all_goals
    have hactive : e.status.isInteractive = true := by
      simp only [Bool.or_eq_true, not_or, Bool.not_eq_true', Bool.not_eq_false] at hoff
      exact hoff.1
  · exact clear_of_isInteractive hactive
  · exact clear_of_isInteractive hactive
  · exact hclear

/-- Giving control up leaves nobody in control. -/
theorem clear_releaseControl {e : SessionEntry} (hclear : e.Clear) (clientId : String) :
    (e.releaseControl clientId).entry.Clear := by
  unfold releaseControl
  split_ifs
  · exact hclear
  · split
    · exact hclear
    · split_ifs
      · exact hclear
      · exact clear_of_none rfl

end SessionEntry

/-- The operation is a poll that finds the end of the session.
Source: `session_manager.cpp` `SessionManager::PollSession`, `SessionManager::PollAll`. -/
def Op.FindsExit (e : SessionEntry) : Op → Prop
  | .pollSession id answers => e.id = id ∧ e.findsExit answers = true
  | .pollAll answers => e.skippedByPollAll = false ∧ e.findsExit (answers e.id) = true
  | _ => False

instance (e : SessionEntry) (op : Op) : Decidable (op.FindsExit e) := by
  cases op <;> unfold Op.FindsExit <;> infer_instance

namespace SessionEntry

/-- **An operation** leaves a session that is over without a controller, except a poll that finds
the end of a session somebody controls. -/
theorem clear_after {e e' : SessionEntry} (h : e.Inv) (hclear : e.Clear) {op : Op}
    (hafter : e.after op = some e') :
    e'.Clear ↔ (op.FindsExit e → e.controllerClientId = none) := by
  have hno : ∀ {f : SessionEntry}, ¬ op.FindsExit e → f.Clear →
      (f.Clear ↔ (op.FindsExit e → e.controllerClientId = none)) :=
    fun hnot hyes => ⟨fun _ hfinds => absurd hfinds hnot, fun _ => hyes⟩
  have hite : ∀ {id : String} {f : SessionEntry}, f.Clear →
      some (if e.id = id then f else e) = some e' → e'.Clear := by
    intro id f hf heq
    obtain rfl := Option.some.inj heq
    split_ifs
    · exact hf
    · exact hclear
  cases op with
  | createSession | createLogSession | loadPersistedSessions =>
      obtain rfl := Option.some.inj hafter
      exact hno (fun h => h) hclear
  | appendLogStdout id data ts | appendLogStderr id data ts =>
      exact hno (fun h => h) (hite (clear_appendLog hclear _ data ts) hafter)
  | updateSessionGroupTags id mode tags =>
      exact hno (fun h => h) (hite (clear_updateGroupTags hclear mode tags) hafter)
  | resizeSession id size ptyResized =>
      exact hno (fun h => h) (hite (clear_resize hclear size ptyResized) hafter)
  | stopSession id terminated => exact hno (fun h => h) (hite (clear_stop h terminated) hafter)
  | clearInactiveSessions =>
      simp only [after] at hafter
      split_ifs at hafter
      obtain rfl := Option.some.inj hafter
      exact hno (fun h => h) hclear
  | requestControl id clientId kind =>
      exact hno (fun h => h) (hite (clear_requestControl hclear clientId kind) hafter)
  | releaseControl id clientId =>
      exact hno (fun h => h) (hite (clear_releaseControl hclear clientId) hafter)
  | shutdown terminated =>
      obtain rfl := Option.some.inj hafter
      exact hno (fun h => h) (clear_shutdown h hclear _)
  | pollSession id answers =>
      obtain rfl := Option.some.inj hafter
      split_ifs with hid
      · rw [clear_poll h hclear, Op.FindsExit]
        exact ⟨fun hfree hfinds => hfree hfinds.2, fun hfree hfinds => hfree ⟨hid, hfinds⟩⟩
      · exact hno (fun hfinds => hid hfinds.1) hclear
  | pollAll answers =>
      obtain rfl := Option.some.inj hafter
      split_ifs with hskip
      · refine hno (fun hfinds => ?_) hclear
        rw [hfinds.1] at hskip
        exact absurd hskip (by decide)
      · rw [clear_poll h hclear, Op.FindsExit]
        exact ⟨fun hfree hfinds => hfree hfinds.2,
          fun hfree hfinds => hfree ⟨by simpa using hskip, hfinds⟩⟩

end SessionEntry

/-! ### Exclusion over whole runs -/

namespace SessionManager

/-- Client `c` controls the session from outside. -/
def RemoteControlled (m : SessionManager) (sessionId c : String) : Prop :=
  ∃ e ∈ m.sessions, e.id = sessionId ∧ e.controllerKind = .remote ∧ e.controllerClientId = some c

/-- An operation that changes nothing of the session it names, and answers no. -/
theorem applyOne_eq_self {m : SessionManager} (h : m.Inv) {e : SessionEntry} (he : e ∈ m.sessions)
    {f : SessionEntry → EntryResult} (hf : f e = { entry := e, result := false })
    (storeOk : String → Bool) : m.applyOne storeOk e.id f = (m, false) := by
  have hsame : modifyEntry e.id (fun e => (f e).entry) m.sessions = m.sessions := by
    rw [modifyEntry_eq_map h.nodup]
    refine (List.map_congr_left fun e' he' => ?_).trans (List.map_id _)
    split_ifs with hid
    · rw [List.inj_on_of_nodup_map h.nodup he' he hid, hf]
      rfl
    · rfl
  unfold applyOne
  rw [findEntry_of_mem h.nodup he]
  dsimp only
  rw [hf, hsame]
  rfl

/-- **A step** leaves control with the remote client, or it is one that may end it, or it removes
the session, which then takes no input. -/
theorem remoteControlled_of_step {m m' : SessionManager} (h : m.Inv) {call : Call}
    (hstep : step m call = some m') {e : SessionEntry} (he : e ∈ m.sessions) {c : String}
    (hkind : e.controllerKind = .remote) (hclient : e.controllerClientId = some c) :
    m'.RemoteControlled e.id c ∨ call.op.EndsControl e.id c ∨
      (call.op = .clearInactiveSessions ∧ e.isActive = false) := by
  rcases hafter : e.after call.op with _ | e'
  · exact Or.inr (Or.inr (SessionEntry.after_eq_none hafter))
  · rcases SessionEntry.controller_after hkind hclient hafter with ⟨hkind', hclient'⟩ | hends
    · have hid := (SessionEntry.keeps_of_after (h.entries e he) hafter).id_eq
      exact Or.inl ⟨e', mem_of_after h hstep he hafter, hid, hkind'.trans hkind,
        hclient'.trans hclient⟩
    · exact Or.inr (Or.inl hends)

/-- **Over a run** whose steps neither may end control nor clear the list, control stays. -/
theorem remoteControlled_of_reaches {m m' : SessionManager} (h : m.Inv) {calls : List Call}
    (hrun : Reaches step m calls m') {sessionId c : String}
    (hcontrol : m.RemoteControlled sessionId c)
    (hcalls : ∀ call ∈ calls, ¬ call.op.EndsControl sessionId c ∧
      call.op ≠ .clearInactiveSessions) : m'.RemoteControlled sessionId c := by
  induction hrun with
  | refl m => exact hcontrol
  | @cons m₀ m₁ m₂ call calls hstep hrun ih =>
      obtain ⟨e, he, rfl, hkind, hclient⟩ := hcontrol
      obtain ⟨hnot, hclear⟩ := hcalls call List.mem_cons_self
      rcases remoteControlled_of_step h hstep he hkind hclient with hstays | hends | ⟨hop, -⟩
      · exact ih (inv_step _ _ _ h hstep) hstays fun call' hcall' =>
          hcalls call' (List.mem_cons_of_mem call hcall')
      · exact absurd hends hnot
      · exact absurd hop hclear

/-- **Controller exclusion over whole runs.** In every reachable state a session a remote client
controls knows the client; each step leaves control with it, or is its own release, the host's
request, a stop, a shutdown, or the removal of a session that takes no input; and what another
client asks for or releases is refused and changes nothing. -/
theorem reachable_exclusion {m : SessionManager} (hm : Reachable step Init m) :
    (∀ e ∈ m.sessions, e.controllerKind = .remote → e.controllerClientId.isSome = true) ∧
    ∀ e ∈ m.sessions, ∀ c, e.controllerKind = .remote → e.controllerClientId = some c →
      (∀ call m', step m call = some m' →
        m'.RemoteControlled e.id c ∨ call.op.EndsControl e.id c ∨
          (call.op = .clearInactiveSessions ∧ e.isActive = false)) ∧
      (∀ calls m', Reaches step m calls m' →
        (∀ call ∈ calls, ¬ call.op.EndsControl e.id c ∧ call.op ≠ .clearInactiveSessions) →
          m'.RemoteControlled e.id c) ∧
      ∀ d, d ≠ c → ∀ storeOk,
        m.perform storeOk (.requestControl e.id d .remote) = (m, false) ∧
          m.perform storeOk (.releaseControl e.id d) = (m, false) := by
  have h := reachable_inv hm
  refine ⟨fun e he => (h.entries e he).remote, ?_⟩
  intro e he c hkind hclient
  refine ⟨?_, ?_, ?_⟩
  · intro call m' hstep
    exact remoteControlled_of_step h hstep he hkind hclient
  · intro calls m' hrun hcalls
    exact remoteControlled_of_reaches h hrun ⟨e, he, rfl, hkind, hclient⟩ hcalls
  · intro d hne storeOk
    exact ⟨applyOne_eq_self h he
        (SessionEntry.requestControl_of_remote hkind hclient hne (by decide)) storeOk,
      applyOne_eq_self h he (SessionEntry.releaseControl_of_other hkind hclient hne) storeOk⟩

/-- A second client asks for a session in vain. -/
theorem reachable_exclusion_second_client :
    let m := run {} [startCall "s", { op := .requestControl "s" "client" .remote }]
    m.perform (fun _ => true) (.requestControl "s" "other" .remote) = (m, false) :=
  have h := reachable_exclusion
    (reachable_run [startCall "s", { op := .requestControl "s" "client" .remote }])
  ((h.2 _ List.mem_cons_self "client" rfl rfl).2.2 "other" (by decide) _).1

/-! ### No controller after the end, over whole runs -/

/-- No session that is over has a controller, and nobody has control of one. -/
def TerminatedUncontrolled (m : SessionManager) : Prop :=
  ∀ e ∈ m.sessions, e.status = .exited ∨ e.status = .error →
    e.controllerClientId = none ∧ ∀ c, e.hasControl c = false

/-- The step is no poll that finds the end of a session somebody controls. -/
def FindsUncontrolledExits (m : SessionManager) (call : Call) : Prop :=
  ∀ e ∈ m.sessions, call.op.FindsExit e → e.controllerClientId = none

instance (m : SessionManager) (call : Call) : Decidable (m.FindsUncontrolledExits call) := by
  unfold FindsUncontrolledExits
  infer_instance

/-- The property of a manager is one of each session. -/
theorem terminatedUncontrolled_iff {m : SessionManager} :
    m.TerminatedUncontrolled ↔ ∀ e ∈ m.sessions, e.Clear := by
  unfold TerminatedUncontrolled SessionEntry.Clear
  constructor
  · intro h e he hover
    exact (h e he (SessionStatus.isTerminal_iff.mp hover)).1
  · intro h e he hover
    have hnone := h e he (SessionStatus.isTerminal_iff.mpr hover)
    exact ⟨hnone, SessionEntry.hasControl_of_none hnone⟩

instance : DecidablePred TerminatedUncontrolled :=
  fun _ => decidable_of_iff _ terminatedUncontrolled_iff.symm

/-- **A step** keeps terminated sessions uncontrolled exactly when it finds no end of a controlled
one. -/
theorem terminatedUncontrolled_step {m : SessionManager} {call : Call} {m' : SessionManager}
    (h : m.Inv) (hP : m.TerminatedUncontrolled) (hstep : step m call = some m') :
    m'.TerminatedUncontrolled ↔ m.FindsUncontrolledExits call := by
  rw [terminatedUncontrolled_iff] at hP ⊢
  constructor
  · intro hafter e he hfinds
    rcases hsome : e.after call.op with _ | e'
    · -- a poll removes no session
      rw [(SessionEntry.after_eq_none hsome).1] at hfinds
      exact absurd hfinds id
    · exact (SessionEntry.clear_after (h.entries e he) (hP e he) hsome).mp
        (hafter e' (mem_of_after h hstep he hsome)) hfinds
  · intro hfree e' he'
    obtain rfl := Option.some.inj hstep
    rcases mem_perform h he' with ⟨e, he, hafter, -⟩ | ⟨hfresh, -⟩
    · exact (SessionEntry.clear_after (h.entries e he) (hP e he) hafter).mpr (hfree e he)
    · exact SessionEntry.clear_of_none hfresh.noClient

/-- **A terminated session has no controller**, in every state of a run, exactly when no poll of the
run finds the end of a session somebody controls. -/
theorem clear_iff_exits_uncontrolled {m : SessionManager} (hm : Init m) (calls : List Call) :
    AllStates step TerminatedUncontrolled m calls ↔
      AllSteps step FindsUncontrolledExits m calls := by
  refine allStates_iff_allSteps SessionManager.Inv ?_ ?_ (inv_of_init hm) ?_ calls
  · exact fun m call m' h _ hstep => inv_step m call m' h hstep
  · exact fun m call m' h hP hstep => terminatedUncontrolled_step h hP hstep
  · intro e he
    rw [hm] at he
    exact absurd he List.not_mem_nil

/-- A client takes control of a session, and a poll finds that its process has exited. -/
theorem clear_fails_natural_exit :
    ¬ AllStates step TerminatedUncontrolled {}
      [startCall "s", { op := .requestControl "s" "client" .remote },
        { op := .pollSession "s" { exitCode := some 0 } }] := by
  decide

/-- A client that releases control in time leaves the session to end without a controller. -/
theorem clear_iff_exits_uncontrolled_released :
    AllStates step TerminatedUncontrolled {}
      [startCall "s", { op := .requestControl "s" "client" .remote },
        { op := .releaseControl "s" "client" },
        { op := .pollSession "s" { exitCode := some 0 } }] :=
  (clear_iff_exits_uncontrolled (show Init {} from rfl) _).mpr (by decide)

end SessionManager

end Sentrits.Service
