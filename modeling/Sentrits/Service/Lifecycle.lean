import Sentrits.Service.ManagerRuns

/-!
# Session lifecycle over whole runs

The status of a session is written in many places: the runtime moves its lifecycle, a managed-log
session and a recovered one have it assigned, and some callers ignore that a transition was
refused. Over every run of the manager, whatever the environment answers, a session only moves along
`isValidTransition`.

* `outputSince_after`: no operation changes the output of a session that takes no input.
* `status_of_step`: one operation moves a session along at most one transition.
* `status_of_reaches`: a session that is over keeps its status as long as it is there.
* `reachable_lifecycle`: **the lifecycle over whole runs**.

Sources: `src/session/session_lifecycle.cpp`, `src/session/session_runtime.cpp`,
`src/service/session_manager.cpp`, `src/service/managed_log_process.cpp`.
-/

namespace Sentrits.Service

open Found Found.Runs Session Store

/-! ### A session that is over writes nothing more -/

namespace SessionEntry

/-- The output a reader can ask for is the same. -/
def SameOutput (e e' : SessionEntry) : Prop :=
  ∀ seq, (e'.outputSince seq).map (·.data) = (e.outputSince seq).map (·.data)

/-- An entry has its own output. -/
theorem SameOutput.refl (e : SessionEntry) : SameOutput e e := fun _ => rfl

/-- One operation after the other. -/
theorem SameOutput.trans {e e' e'' : SessionEntry} (h : SameOutput e e') (h' : SameOutput e' e'') :
    SameOutput e e'' := fun seq => (h' seq).trans (h seq)

/-- The output is that of the runtime. -/
theorem sameOutput_of_runtime {e e' : SessionEntry} {r r' : SessionRuntime}
    (hr : e.runtime = some r) (hr' : e'.runtime = some r')
    (hbuffer : r'.outputBuffer = r.outputBuffer) : SameOutput e e' := by
  intro seq
  rw [outputSince, outputSince, hr, hr']
  dsimp only
  rw [hbuffer]

/-- Of a snapshot a reader sees the tail and its sequence number. -/
theorem sameOutput_mapSnapshot {e e' : SessionEntry} (hr : e'.runtime = e.runtime)
    {f : SessionSnapshot → SessionSnapshot} (hs : e'.recoveredSnapshot = e.recoveredSnapshot.map f)
    (hf : ∀ snapshot seq, e.recoveredSnapshot = some snapshot →
      (makeRecoveredOutputSlice (f snapshot) seq).data =
        (makeRecoveredOutputSlice snapshot seq).data) : SameOutput e e' := by
  intro seq
  rw [outputSince, outputSince, hr, hs]
  split
  · rfl
  · rcases hsome : e.recoveredSnapshot with _ | snapshot
    · rfl
    · exact congrArg some (hf snapshot seq hsome)

/-- Log output is no output of a terminal. -/
theorem appendLog_sameOutput {e : SessionEntry} (h : e.Inv) (stream : LogStream) (data : Bytes)
    (ts : ℤ) : SameOutput e (e.appendLog stream data ts).entry := by
  unfold appendLog
  rcases hb : e.logBuffer with _ | buffer
  · exact .refl e
  · -- the tail of a managed-log session is empty, whatever its sequence number
    refine sameOutput_mapSnapshot rfl rfl fun snapshot seq hs => ?_
    have htail := h.noTail (hb ▸ rfl) snapshot hs
    simp [makeRecoveredOutputSlice, htail]

/-- New tags leave the output. -/
theorem updateGroupTags_sameOutput (e : SessionEntry) (mode : SessionGroupTagsUpdateMode)
    (tags : List String) : SameOutput e (e.updateGroupTags mode tags).entry := by
  unfold updateGroupTags
  split
  next r hr => exact sameOutput_of_runtime hr rfl rfl
  next => exact sameOutput_mapSnapshot rfl rfl fun _ _ _ => rfl

/-- A new size leaves the output. -/
theorem resize_sameOutput (e : SessionEntry) (size : TerminalSize) (ptyResized : Bool) :
    SameOutput e (e.resize size ptyResized).entry := by
  unfold resize
  rcases hr : e.runtime with _ | r
  · exact .refl e
  · have hbuffer := r.outputBuffer_resizeTerminal size ptyResized
    dsimp only
    split_ifs
    · exact sameOutput_of_runtime hr rfl hbuffer
    · exact sameOutput_of_runtime hr rfl hbuffer

/-- A stop leaves the output. -/
theorem stop_sameOutput (e : SessionEntry) (terminated : Bool) :
    SameOutput e (e.stop terminated).entry := by
  unfold stop
  split_ifs
  · exact .refl e
  · split
    next process _ =>
      dsimp only
      split_ifs
      · exact sameOutput_mapSnapshot rfl rfl fun _ _ _ => rfl
      · exact .refl e
    next => exact .refl e
    next r _ hr =>
      have hbuffer := r.outputBuffer_shutdown terminated
      dsimp only
      split_ifs
      · exact sameOutput_of_runtime hr rfl hbuffer
      · exact sameOutput_of_runtime hr rfl hbuffer

/-- A claim of control leaves the output. -/
theorem requestControl_sameOutput (e : SessionEntry) (clientId : String) (kind : ControllerKind) :
    SameOutput e (e.requestControl clientId kind).entry := by
  unfold requestControl
  split_ifs <;> exact .refl e

/-- Giving control up leaves the output. -/
theorem releaseControl_sameOutput (e : SessionEntry) (clientId : String) :
    SameOutput e (e.releaseControl clientId).entry := by
  unfold releaseControl
  split_ifs
  · exact .refl e
  · split
    · exact .refl e
    · split_ifs <;> exact .refl e

/-- What ends a session leaves the output. -/
theorem finishShutdown_sameOutput (e : SessionEntry) (changed terminated : Bool) :
    SameOutput e (e.finishShutdown changed terminated).entry := by
  have hended : SameOutput e (e.shutdownLogProcess terminated).1 := by
    unfold shutdownLogProcess
    split
    next =>
      dsimp only
      split_ifs
      · exact sameOutput_mapSnapshot rfl rfl fun _ _ _ => rfl
      · exact .refl e
    next => exact .refl e
  unfold finishShutdown
  dsimp only
  split_ifs
  · exact hended
  · exact hended

/-- The end of the daemon leaves the output. -/
theorem shutdown_sameOutput (e : SessionEntry) (terminated : Bool) :
    SameOutput e (e.shutdown terminated).entry := by
  unfold shutdown
  split
  next => exact finishShutdown_sameOutput e false terminated
  next r hr =>
    have hdown : SameOutput e { e with runtime := some (r.shutdown terminated).1 } :=
      sameOutput_of_runtime hr rfl (r.outputBuffer_shutdown terminated)
    dsimp only
    split_ifs
    · exact hdown.trans (finishShutdown_sameOutput _ true terminated)
    · exact hdown

/-- **A poll** of a session that takes no input reads nothing. -/
theorem poll_sameOutput {e : SessionEntry} (h : e.Inv) (hoff : e.status.isInteractive = false)
    (answers : PollAnswers) : SameOutput e (e.poll answers).entry := by
  unfold poll
  split
  next process _ =>
    dsimp only
    split
    · exact .refl e
    · by_cases hs : e.recoveredSnapshot.isSome = true
      · rw [if_pos hs]
        exact sameOutput_mapSnapshot rfl rfl fun _ _ _ => rfl
      · rw [if_neg hs]
        exact .refl e
  next => exact .refl e
  next r _ hr =>
    refine sameOutput_of_runtime hr rfl ?_
    rw [status_of_runtime hr] at hoff
    rw [SessionRuntime.pollOnce_of_not_isInteractive (h.runtime r hr) hoff]

/-- **No operation** changes the output of a session that takes no input. -/
theorem outputSince_after {e e' : SessionEntry} (h : e.Inv) (hoff : e.status.isInteractive = false)
    {op : Op} (hafter : e.after op = some e') : SameOutput e e' := by
  have hite : ∀ {id : String} {f : SessionEntry}, SameOutput e f →
      some (if e.id = id then f else e) = some e' → SameOutput e e' := by
    intro id f hf heq
    obtain rfl := Option.some.inj heq
    split_ifs
    · exact hf
    · exact .refl e
  cases op with
  | createSession | createLogSession | loadPersistedSessions =>
      obtain rfl := Option.some.inj hafter
      exact .refl e
  | appendLogStdout id data ts | appendLogStderr id data ts =>
      exact hite (appendLog_sameOutput h _ data ts) hafter
  | updateSessionGroupTags id mode tags =>
      exact hite (updateGroupTags_sameOutput e mode tags) hafter
  | resizeSession id size ptyResized => exact hite (resize_sameOutput e size ptyResized) hafter
  | stopSession id terminated => exact hite (stop_sameOutput e terminated) hafter
  | clearInactiveSessions =>
      simp only [after] at hafter
      split_ifs at hafter
      obtain rfl := Option.some.inj hafter
      exact .refl e
  | requestControl id clientId kind => exact hite (requestControl_sameOutput e clientId kind) hafter
  | releaseControl id clientId => exact hite (releaseControl_sameOutput e clientId) hafter
  | shutdown terminated =>
      obtain rfl := Option.some.inj hafter
      exact shutdown_sameOutput e _
  | pollSession id answers => exact hite (poll_sameOutput h hoff answers) hafter
  | pollAll answers =>
      obtain rfl := Option.some.inj hafter
      split_ifs
      · exact .refl e
      · exact poll_sameOutput h hoff _

end SessionEntry

/-! ### The status of a session -/

namespace SessionManager

/-- A pid is recorded exactly while the session runs or awaits input. -/
theorem pid_isSome_iff {r : SessionRuntime} (h : r.Inv) :
    r.pid.isSome = true ↔
      r.record.lifecycle.state = .running ∨ r.record.lifecycle.state = .awaitingInput := by
  rw [h.pid_iff, h.state]
  cases r.status <;> decide

/-- **One operation** moves the status of a session along at most one transition. -/
theorem status_of_step {m m' : SessionManager} (h : m.Inv) {call : Call}
    (hstep : step m call = some m') {e e' : SessionEntry} (he : e ∈ m.sessions)
    (he' : e' ∈ m'.sessions) (hid : e'.id = e.id) :
    SessionRuntime.StatusStep e.status e'.status :=
  (SessionEntry.keeps_of_after (h.entries e he) (after_of_step h hstep he he' hid)).step

/-- **Over a run** a session that is over keeps its status as long as it is in the list. -/
theorem status_of_reaches {m m' : SessionManager} (h : m.Inv) {calls : List Call}
    (hrun : Reaches step m calls m') {e : SessionEntry} (he : e ∈ m.sessions)
    (hover : e.status.isTerminal = true)
    (hthere : AllStates step (fun t => e.id ∈ t.sessions.map (·.id)) m calls) :
    ∃ e' ∈ m'.sessions, e'.id = e.id ∧ e'.status = e.status := by
  induction hrun generalizing e with
  | refl m => exact ⟨e, he, rfl, rfl⟩
  | @cons m₀ m₁ m₂ call calls hstep hrun ih =>
      obtain ⟨-, hrest⟩ := allStates_cons.mp hthere
      have hthere₁ := hrest m₁ hstep
      -- the session is still there after the first call
      obtain ⟨e₁, he₁, hid₁⟩ := List.mem_map.mp (hthere₁ [] m₁ List.nil_prefix (.refl m₁))
      have hstatus := (SessionEntry.keeps_of_after (h.entries e he)
        (after_of_step h hstep he he₁ hid₁)).status_of_isTerminal hover
      obtain ⟨e₂, he₂, hid₂, hstatus₂⟩ := ih (inv_step _ _ _ h hstep) he₁
        (by rw [hstatus]; exact hover) (by rw [hid₁]; exact hthere₁)
      exact ⟨e₂, he₂, hid₂.trans hid₁, hstatus₂.trans hstatus⟩

/-- **Session lifecycle over whole runs**: in every reachable state the record of a live runtime
shows the state of its lifecycle and a pid is recorded exactly in `Running` and `AwaitingInput`;
each operation moves a session along at most one allowed transition; and `Exited` and `Error` stay.
-/
theorem reachable_lifecycle {m : SessionManager} (hm : Reachable step Init m) :
    (∀ e ∈ m.sessions, ∀ r, e.runtime = some r →
      r.record.metadata.status = r.record.lifecycle.state ∧
        (r.pid.isSome = true ↔
          r.record.lifecycle.state = .running ∨ r.record.lifecycle.state = .awaitingInput)) ∧
    (∀ call m', step m call = some m' → ∀ e ∈ m.sessions, ∀ e' ∈ m'.sessions, e'.id = e.id →
      e'.status = e.status ∨ isValidTransition e.status e'.status = true) ∧
    (∀ calls m', Reaches step m calls m' → ∀ e ∈ m.sessions,
      e.status = .exited ∨ e.status = .error →
      AllStates step (fun t => e.id ∈ t.sessions.map (·.id)) m calls →
      ∃ e' ∈ m'.sessions, e'.id = e.id ∧ e'.status = e.status) := by
  have h := reachable_inv hm
  refine ⟨?_, ?_, ?_⟩
  · intro e he r hr
    have hinv := (h.entries e he).runtime r hr
    exact ⟨hinv.inStep, pid_isSome_iff hinv⟩
  · intro call m' hstep e he e' he' hid
    exact status_of_step h hstep he he' hid
  · intro calls m' hrun e he hover hthere
    refine status_of_reaches h hrun he ?_ hthere
    rcases hover with hover | hover
    · rw [hover]; rfl
    · rw [hover]; rfl

/-- A session that was stopped is not moved by the exit a later poll is told. -/
theorem reachable_lifecycle_stopped :
    let m := run {} [startCall "s", { op := .stopSession "s" true }]
    ∃ e ∈ (run m [{ op := .pollSession "s" { exitCode := some 1 } }]).sessions,
      e.id = "s" ∧ e.status = .exited :=
  have h := reachable_lifecycle (reachable_run [startCall "s", { op := .stopSession "s" true }])
  h.2.2 _ _ (reaches_run _ [{ op := .pollSession "s" { exitCode := some 1 } }]) _
    List.mem_cons_self (by decide) (by decide)

end SessionManager

end Sentrits.Service
