import Sentrits.Service.Evidence
import Sentrits.Service.ManagerRuns

/-!
# The evidence of a session

The manager answers a request for evidence from the log of the session that is named. Between the
operations of the manager, a log only ever changes by appends.

* `SessionManager.evidence`: the code.
* `logBuffer_after`: what an operation does to the log of a session.
* `reachable_logs`: **every log** there ever is, is an empty one that was appended to.
* `evidence_complete_iff`: **when evidence hides no missing lines**, for every session of every
  state.

Source: `src/service/session_manager.cpp`.
-/

namespace Sentrits.Service

open Found Found.Bytes Found.Runs Session LogBuffer

namespace SessionManager

/-- What is shown of a log. There is none without a session of that name or without a log in it, and
none inside when the lookup throws.
Source: `session_manager.cpp` `SessionManager::TailEvidence`, `RangeEvidence`, `SearchEvidence`,
`ContextEvidence`. -/
def evidence (m : SessionManager) (sessionId : String) (query : EvidenceQuery) :
    Option (Option EvidenceResult) :=
  (m.findEntry sessionId).bind fun e =>
    e.logBuffer.map fun b =>
      b.evidence { kind := .managedLogSession, sessionId := e.id } query

end SessionManager

/-! ### What an operation does to a log -/

namespace SessionEntry

/-- New tags leave the log. -/
theorem logBuffer_updateGroupTags (e : SessionEntry) (mode : SessionGroupTagsUpdateMode)
    (tags : List String) : (e.updateGroupTags mode tags).entry.logBuffer = e.logBuffer := by
  unfold updateGroupTags
  split <;> rfl

/-- A new size leaves the log. -/
theorem logBuffer_resize (e : SessionEntry) (size : TerminalSize) (ptyResized : Bool) :
    (e.resize size ptyResized).entry.logBuffer = e.logBuffer := by
  unfold resize
  split
  · rfl
  · dsimp only
    split_ifs <;> rfl

/-- A stop leaves the log. -/
theorem logBuffer_stop (e : SessionEntry) (terminated : Bool) :
    (e.stop terminated).entry.logBuffer = e.logBuffer := by
  unfold stop
  split_ifs
  · rfl
  · split
    · dsimp only
      split_ifs <;> rfl
    · rfl
    · dsimp only
      split_ifs <;> rfl

/-- A claim of control leaves the log. -/
theorem logBuffer_requestControl (e : SessionEntry) (clientId : String) (kind : ControllerKind) :
    (e.requestControl clientId kind).entry.logBuffer = e.logBuffer := by
  unfold requestControl
  split_ifs <;> rfl

/-- Giving control up leaves the log. -/
theorem logBuffer_releaseControl (e : SessionEntry) (clientId : String) :
    (e.releaseControl clientId).entry.logBuffer = e.logBuffer := by
  unfold releaseControl
  split_ifs
  · rfl
  · split
    · rfl
    · split_ifs <;> rfl

/-- The end of its process leaves the log. -/
theorem logBuffer_shutdownLogProcess (e : SessionEntry) (terminated : Bool) :
    (e.shutdownLogProcess terminated).1.logBuffer = e.logBuffer := by
  unfold shutdownLogProcess
  split
  · dsimp only
    split_ifs <;> rfl
  · rfl

/-- What follows that end leaves the log. -/
theorem logBuffer_finishShutdown (e : SessionEntry) (changed terminated : Bool) :
    (e.finishShutdown changed terminated).entry.logBuffer = e.logBuffer := by
  unfold finishShutdown
  dsimp only
  split_ifs
  · exact logBuffer_shutdownLogProcess e terminated
  · exact logBuffer_shutdownLogProcess e terminated

/-- The end of the daemon leaves the log. -/
theorem logBuffer_shutdown (e : SessionEntry) (terminated : Bool) :
    (e.shutdown terminated).entry.logBuffer = e.logBuffer := by
  unfold shutdown
  split
  · exact logBuffer_finishShutdown e false terminated
  · dsimp only
    split_ifs
    · exact logBuffer_finishShutdown _ true terminated
    · rfl

/-- A poll leaves the log. -/
theorem logBuffer_poll (e : SessionEntry) (answers : PollAnswers) :
    (e.poll answers).entry.logBuffer = e.logBuffer := by
  unfold poll
  split
  · dsimp only
    split
    · rfl
    · split_ifs <;> rfl
  · rfl
  · rfl

/-- **An operation appends to the log of a session or leaves it.** -/
theorem logBuffer_after {e e' : SessionEntry} {op : Op} (hafter : e.after op = some e') :
    e'.logBuffer = e.logBuffer ∨
      ∃ buffer c, e.logBuffer = some buffer ∧ e'.logBuffer = some (buffer.call c) := by
  have hite : ∀ (p : Prop) [Decidable p] (changed : SessionEntry),
      changed.logBuffer = e.logBuffer → (if p then changed else e).logBuffer = e.logBuffer := by
    intro p _ changed hchanged
    split_ifs
    · exact hchanged
    · rfl
  cases op with
  | createSession | createLogSession | loadPersistedSessions =>
      obtain rfl := Option.some.inj hafter
      exact Or.inl rfl
  | appendLogStdout id data ts | appendLogStderr id data ts =>
      obtain rfl := Option.some.inj hafter
      split_ifs
      · unfold appendLog
        rcases hbuffer : e.logBuffer with _ | buffer
        · exact Or.inl hbuffer
        · exact Or.inr ⟨buffer, ⟨_, data, ts⟩, rfl, rfl⟩
      · exact Or.inl rfl
  | updateSessionGroupTags id mode tags =>
      obtain rfl := Option.some.inj hafter
      exact Or.inl (hite _ _ (logBuffer_updateGroupTags e mode tags))
  | resizeSession id size ptyResized =>
      obtain rfl := Option.some.inj hafter
      exact Or.inl (hite _ _ (logBuffer_resize e size ptyResized))
  | stopSession id terminated =>
      obtain rfl := Option.some.inj hafter
      exact Or.inl (hite _ _ (logBuffer_stop e terminated))
  | clearInactiveSessions =>
      simp only [after] at hafter
      split_ifs at hafter
      obtain rfl := Option.some.inj hafter
      exact Or.inl rfl
  | requestControl id clientId kind =>
      obtain rfl := Option.some.inj hafter
      exact Or.inl (hite _ _ (logBuffer_requestControl e clientId kind))
  | releaseControl id clientId =>
      obtain rfl := Option.some.inj hafter
      exact Or.inl (hite _ _ (logBuffer_releaseControl e clientId))
  | shutdown terminated =>
      obtain rfl := Option.some.inj hafter
      exact Or.inl (logBuffer_shutdown e _)
  | pollSession id answers =>
      obtain rfl := Option.some.inj hafter
      exact Or.inl (hite _ _ (logBuffer_poll e answers))
  | pollAll answers =>
      obtain rfl := Option.some.inj hafter
      split_ifs
      · exact Or.inl rfl
      · exact Or.inl (logBuffer_poll e _)

end SessionEntry

namespace SessionManager

/-- Every log is an empty one that was appended to. -/
def LogsAppended (m : SessionManager) : Prop :=
  ∀ e ∈ m.sessions, ∀ buffer, e.logBuffer = some buffer →
    ∃ source limits calls, buffer = (empty source limits).appendAll calls

/-- **The step lemma.** -/
theorem logsAppended_perform {m : SessionManager} (hinv : m.Inv) (h : m.LogsAppended)
    (storeOk : String → Bool) (op : Op) : (m.perform storeOk op).1.LogsAppended := by
  intro e' he' buffer' hbuffer'
  rcases mem_perform hinv he' with ⟨e, he, hafter, -⟩ | ⟨hfresh, -⟩
  · rcases SessionEntry.logBuffer_after hafter with hsame | ⟨buffer, c, hbuffer, happended⟩
    · exact h e he buffer' (hsame ▸ hbuffer')
    · obtain ⟨source, limits, calls, rfl⟩ := h e he buffer hbuffer
      rw [happended, Option.some.injEq] at hbuffer'
      exact ⟨source, limits, calls ++ [c], by rw [← hbuffer', appendAll_concat]⟩
  · obtain ⟨source, limits, rfl⟩ := hfresh.emptyLog buffer' hbuffer'
    exact ⟨source, limits, [], rfl⟩

/-- **The run lemma.** -/
theorem reachable_logs {m : SessionManager} (hm : Reachable step Init m) : m.LogsAppended := by
  have hall : m.Inv ∧ m.LogsAppended := by
    apply hm.invariant
    · intro m hinit
      refine ⟨inv_of_init hinit, ?_⟩
      intro e he
      rw [hinit] at he
      exact absurd he List.not_mem_nil
    · rintro m call m' ⟨hinv, hlogs⟩ hstep
      obtain rfl := Option.some.inj hstep
      exact ⟨inv_perform hinv call.storeOk call.op,
        logsAppended_perform hinv hlogs call.storeOk call.op⟩
  exact hall.2

/-- What the manager answers for a session with a log. -/
theorem evidence_of_found {m : SessionManager} {sessionId : String} {e : SessionEntry}
    {b : LogBuffer} (he : m.findEntry sessionId = some e) (hb : e.logBuffer = some b)
    (query : EvidenceQuery) :
    m.evidence sessionId query =
      some (b.evidence { kind := .managedLogSession, sessionId := e.id } query) := by
  unfold evidence
  rw [he, Option.bind_some, hb, Option.map_some]

/-- The log of a session that is found is a window on all it ever had. -/
theorem exists_window {m : SessionManager} (hm : Reachable step Init m) {sessionId : String}
    {e : SessionEntry} {b : LogBuffer} (he : m.findEntry sessionId = some e)
    (hb : e.logBuffer = some b) : ∃ log, Window log b := by
  have hmem : e ∈ m.sessions := List.mem_of_find?_eq_some he
  obtain ⟨source, limits, calls, rfl⟩ := reachable_logs hm e hmem b hb
  exact ⟨_, window_appendAll (window_empty source limits) calls⟩

/-- **When evidence hides no missing lines.** In every reachable state of the manager, for a session
with a log: an answer to a range that is not marked as truncated has a line for every revision of
the range that was ever completed, exactly when the range begins before the retained lines of a log
that has dropped some, or the limit is not below the number of completed lines in it; and an answer
to a context around a retained line that is not marked as truncated is complete exactly when no
line that it asks for was dropped. -/
theorem evidence_complete_iff {m : SessionManager} (hm : Reachable step Init m) {sessionId : String}
    {e : SessionEntry} {b : LogBuffer} (he : m.findEntry sessionId = some e)
    (hb : e.logBuffer = some b) :
    (∀ revisionStart revisionEnd limit,
      (∀ result, m.evidence sessionId (.range revisionStart revisionEnd limit) =
          some (some result) → b.RangeComplete revisionStart revisionEnd result) ↔
        (revisionStart < b.stats.oldestRevision ∧ 0 < b.stats.droppedEntries) ∨
          min revisionEnd b.stats.latestRevision + 1 - max revisionStart 1 ≤ limit) ∧
      ∀ revision before after, (∃ entry ∈ b.entries, entry.revision = revision) →
        ((∀ result, m.evidence sessionId (.context revision before after) = some (some result) →
            b.ContextComplete revision before after result) ↔
          b.stats.droppedEntries = 0 ∨ b.stats.droppedEntries < revision - before) := by
  obtain ⟨log, hwindow⟩ := exists_window hm he hb
  refine ⟨?_, ?_⟩
  · intro revisionStart revisionEnd limit
    have hrange := range_complete_iff hwindow { kind := .managedLogSession, sessionId := e.id }
      revisionStart revisionEnd limit
    rw [← hrange, evidence_of_found he hb]
    simp only [Option.some.injEq, Option.mem_def]
    rfl
  · intro revision before after hretained
    have hcontext := context_complete_iff hwindow { kind := .managedLogSession, sessionId := e.id }
      hretained before after
    rw [← hcontext, evidence_of_found he hb]
    simp only [Option.some.injEq, Option.mem_def]
    rfl

/-- The log of a session that keeps two lines, after three were appended. -/
def lastTwoLines : LogBuffer :=
  (empty { kind := .managedLogSession, sessionId := "s" } { maxEntries := 2 }).appendAll
    [⟨.stdout, [97, lf, 98, lf, 99, lf], 1⟩]

/-- The manager with that session. -/
def threeLines : SessionManager :=
  run {}
    [{ op := .createLogSession { title := "log", limits := { maxEntries := 2 } }
        { candidates := ["s"], resolved := .error "", start := { started := false } } },
      { op := .appendLogStdout "s" [97, lf, 98, lf, 99, lf] 1 }]

/-- Both lines that are left, and both when the first one is asked for with one line behind it. -/
theorem evidence_complete_threeLines :
    (∀ result, threeLines.evidence "s" (.range 2 3 2) = some (some result) →
        lastTwoLines.RangeComplete 2 3 result) ∧
      ∀ result, threeLines.evidence "s" (.context 2 0 1) = some (some result) →
        lastTwoLines.ContextComplete 2 0 1 result := by
  have hcomplete := evidence_complete_iff (reachable_run _)
    (e := (threeLines.findEntry "s").get (by decide)) (b := lastTwoLines)
    (Option.some_get (by decide)).symm (by decide)
  exact ⟨(hcomplete.1 2 3 2).mpr (by decide), (hcomplete.2 2 0 1 (by decide)).mpr (by decide)⟩

/-- A limit of one leaves the second line out, and the line before the first one left is gone;
neither answer is marked. -/
theorem threeLines_hidden :
    ¬ (∀ result, threeLines.evidence "s" (.range 2 3 1) = some (some result) →
        lastTwoLines.RangeComplete 2 3 result) ∧
      ¬ ∀ result, threeLines.evidence "s" (.context 2 1 0) = some (some result) →
        lastTwoLines.ContextComplete 2 1 0 result := by
  refine ⟨?_, ?_⟩
  · intro hall
    obtain ⟨entry, hentry, hrevision⟩ :=
      hall _ rfl (by decide) 3 (by decide) (by decide) ⟨by decide, by decide⟩
    exact absurd (⟨entry, hentry, hrevision⟩ : ∃ entry ∈ _, entry.revision = 3) (by decide)
  · intro hall
    exact hall _ rfl (by decide) 1 (by decide) (by decide) ⟨⟨by decide, by decide⟩, by decide⟩

end SessionManager

end Sentrits.Service
