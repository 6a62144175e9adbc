import Sentrits.Service.ManagerRuns

/-!
# The size of a terminal

The size of a terminal is kept three times: in the launch specification of the runtime, in its
terminal multiplexer, and in the session. A resize changes the first, then asks the process, and
changes the other two only when the process takes the size; and only the multiplexer makes sure
that there is a column and a row.

* `SessionEntry.sizes`, `Sizes.Agree`: the three sizes, and that they are one that can be shown.
* `sizes_after`: nothing but a resize changes them.
* `Fits`: a resize that does no harm.
* `sizes_agree_iff`: **over whole runs**, the sizes of all live sessions agree and a refused resize
  changes nothing exactly when every resize fits.

Sources: `src/session/session_runtime.cpp`, `src/session/terminal_multiplexer.cpp`,
`src/service/session_manager.cpp`.
-/

namespace Sentrits.Session.SessionRuntime

open Found.Bytes

/-! ### The sizes of a runtime -/

/-- The sizes a runtime keeps are the same. -/
def SameSizes (r r' : SessionRuntime) : Prop :=
  r'.launchSpec.terminalSize = r.launchSpec.terminalSize ∧ r'.multiplexerSize = r.multiplexerSize

/-- A shutdown changes no size. -/
theorem sameSizes_shutdown (r : SessionRuntime) (terminated : Bool) :
    SameSizes r (r.shutdown terminated).1 := by
  unfold shutdown
  dsimp only
  split_ifs <;> exact ⟨rfl, rfl⟩

/-- An exit changes no size. -/
theorem sameSizes_observeExit (r : SessionRuntime) (exitCode : Option ℤ) :
    SameSizes r (r.observeExit exitCode) := by
  unfold observeExit handleExit
  rcases exitCode with _ | code
  · exact ⟨rfl, rfl⟩
  · dsimp only
    split <;> exact ⟨rfl, rfl⟩

/-- What is read changes no size. -/
theorem sameSizes_pollLoop (exitCode : Option ℤ) (r : SessionRuntime) (reads : List ReadResult) :
    SameSizes r (r.pollLoop exitCode reads) := by
  induction reads generalizing r with
  | nil => exact sameSizes_observeExit r exitCode
  | cons read reads ih =>
      have hread : SameSizes r (if read.data.isEmpty then r else r.recordOutput read.data) := by
        split_ifs <;> exact ⟨rfl, rfl⟩
      have htrans : ∀ r', SameSizes (if read.data.isEmpty then r else r.recordOutput read.data) r' →
          SameSizes r r' := fun r' h => ⟨h.1.trans hread.1, h.2.trans hread.2⟩
      rw [pollLoop]
      apply htrans
      split_ifs
      · exact sameSizes_observeExit _ exitCode
      · exact sameSizes_observeExit _ exitCode
      · exact sameSizes_observeExit _ exitCode
      · exact ih _

/-- A poll as a whole changes no size. -/
theorem sameSizes_pollOnce (r : SessionRuntime) (reads : List ReadResult) (exitCode : Option ℤ) :
    SameSizes r (r.pollOnce reads exitCode) := by
  unfold pollOnce
  split_ifs
  · exact ⟨rfl, rfl⟩
  · exact sameSizes_pollLoop exitCode r reads

end Sentrits.Session.SessionRuntime

namespace Sentrits.Service

open Found Found.Bytes Found.Runs Session

/-! ### The three sizes -/

/-- Where the size of a terminal is kept. -/
structure Sizes where
  launchSpec : TerminalSize
  multiplexer : TerminalSize
  current : TerminalSize
  deriving DecidableEq

/-- There is one size, and it has a column and a row. -/
structure Sizes.Agree (s : Sizes) : Prop where
  launchSpec_eq : s.launchSpec = s.current
  multiplexer_eq : s.multiplexer = s.current
  columns_pos : 1 ≤ s.current.columns
  rows_pos : 1 ≤ s.current.rows

instance (s : Sizes) : Decidable s.Agree :=
  decidable_of_iff (s.launchSpec = s.current ∧ s.multiplexer = s.current ∧
      1 ≤ s.current.columns ∧ 1 ≤ s.current.rows)
    ⟨fun h => ⟨h.1, h.2.1, h.2.2.1, h.2.2.2⟩,
      fun h => ⟨h.launchSpec_eq, h.multiplexer_eq, h.columns_pos, h.rows_pos⟩⟩

/-- A size with a column and a row is left as it is. -/
theorem normalizeSize_eq_self_iff {size : TerminalSize} :
    normalizeSize size = size ↔ 1 ≤ size.columns ∧ 1 ≤ size.rows := by
  have hmax : ∀ value : UInt16, max 1 value = value ↔ 1 ≤ value := by
    intro value
    show (if 1 ≤ value then value else 1) = value ↔ 1 ≤ value
    split_ifs with h
    · exact iff_of_true rfl h
    · exact iff_of_false (fun heq => h (heq ▸ UInt16.le_refl 1)) h
  rcases size with ⟨columns, rows⟩
  rw [normalizeSize, TerminalSize.mk.injEq]
  exact and_congr (hmax columns) (hmax rows)

namespace SessionEntry

/-- The sizes of a terminal session. -/
def sizes (e : SessionEntry) : Option Sizes :=
  e.runtime.map fun r =>
    { launchSpec := r.launchSpec.terminalSize
      multiplexer := r.multiplexerSize
      current := e.currentTerminalSize }

/-- The sizes of a session are its runtime's. -/
theorem sizes_of_runtime {e : SessionEntry} {r : SessionRuntime} (h : e.runtime = some r) :
    e.sizes = some
      { launchSpec := r.launchSpec.terminalSize
        multiplexer := r.multiplexerSize
        current := e.currentTerminalSize } := by
  rw [sizes, h]
  rfl

/-- A runtime with the same sizes, in a session that shows the same. -/
theorem sizes_congr {e e' : SessionEntry} {r r' : SessionRuntime} (h : e.runtime = some r)
    (h' : e'.runtime = some r') (hsame : SessionRuntime.SameSizes r r')
    (hcurrent : e'.currentTerminalSize = e.currentTerminalSize) : e'.sizes = e.sizes := by
  rw [sizes_of_runtime h, sizes_of_runtime h', hsame.1, hsame.2, hcurrent]

/-! ### What an operation does to them -/

/-- Log output changes no size. -/
theorem sizes_appendLog (e : SessionEntry) (stream : LogStream) (data : Bytes) (ts : ℤ) :
    (e.appendLog stream data ts).entry.sizes = e.sizes := by
  unfold appendLog
  split <;> rfl

/-- New tags change no size. -/
theorem sizes_updateGroupTags (e : SessionEntry) (mode : SessionGroupTagsUpdateMode)
    (tags : List String) : (e.updateGroupTags mode tags).entry.sizes = e.sizes := by
  unfold updateGroupTags
  split
  next r hr => exact sizes_congr hr rfl ⟨rfl, rfl⟩ rfl
  next => rfl

/-- A stop changes no size. -/
theorem sizes_stop (e : SessionEntry) (terminated : Bool) :
    (e.stop terminated).entry.sizes = e.sizes := by
  unfold stop
  split_ifs
  · rfl
  · split
    · dsimp only
      split_ifs <;> rfl
    · rfl
    next r _ hr =>
      dsimp only
      split_ifs
      · exact sizes_congr hr rfl (SessionRuntime.sameSizes_shutdown r terminated) rfl
      · exact sizes_congr hr rfl (SessionRuntime.sameSizes_shutdown r terminated) rfl

/-- A claim of control changes no size. -/
theorem sizes_requestControl (e : SessionEntry) (clientId : String) (kind : ControllerKind) :
    (e.requestControl clientId kind).entry.sizes = e.sizes := by
  unfold requestControl
  split_ifs <;> rfl

/-- Giving control up changes no size. -/
theorem sizes_releaseControl (e : SessionEntry) (clientId : String) :
    (e.releaseControl clientId).entry.sizes = e.sizes := by
  unfold releaseControl
  split_ifs
  · rfl
  · split
    · rfl
    · split_ifs <;> rfl

/-- What ends a session changes no size. -/
theorem sizes_finishShutdown (e : SessionEntry) (changed terminated : Bool) :
    (e.finishShutdown changed terminated).entry.sizes = e.sizes := by
  have hprocess : (e.shutdownLogProcess terminated).1.sizes = e.sizes := by
    unfold shutdownLogProcess
    split
    · dsimp only
      split_ifs <;> rfl
    · rfl
  unfold finishShutdown
  dsimp only
  split_ifs
  · exact hprocess
  · exact hprocess

/-- The end of the daemon changes no size. -/
theorem sizes_shutdown (e : SessionEntry) (terminated : Bool) :
    (e.shutdown terminated).entry.sizes = e.sizes := by
  unfold shutdown
  split
  · exact sizes_finishShutdown e false terminated
  next r hr =>
    have hsame := SessionRuntime.sameSizes_shutdown r terminated
    dsimp only
    split_ifs
    · exact (sizes_finishShutdown _ true terminated).trans (sizes_congr hr rfl hsame rfl)
    · exact sizes_congr hr rfl hsame rfl

/-- A poll changes no size. -/
theorem sizes_poll (e : SessionEntry) (answers : PollAnswers) :
    (e.poll answers).entry.sizes = e.sizes := by
  unfold poll
  split
  · dsimp only
    split
    · rfl
    · split_ifs <;> rfl
  · rfl
  next r _ hr =>
    exact sizes_congr hr rfl
      (SessionRuntime.sameSizes_pollOnce r answers.reads answers.exitCode) rfl

/-- **Nothing but a resize of the session changes its sizes.** -/
theorem sizes_after {e e' : SessionEntry} {op : Op} (hafter : e.after op = some e')
    (hother : ∀ size ptyResized, op ≠ .resizeSession e.id size ptyResized) :
    e'.sizes = e.sizes := by
  have hite : ∀ (p : Prop) [Decidable p] (changed : SessionEntry), changed.sizes = e.sizes →
      (if p then changed else e).sizes = e.sizes := by
    intro p _ changed hchanged
    split_ifs
    · exact hchanged
    · rfl
  cases op with
  | createSession | createLogSession | loadPersistedSessions =>
      obtain rfl := Option.some.inj hafter
      rfl
  | appendLogStdout id data ts | appendLogStderr id data ts =>
      obtain rfl := Option.some.inj hafter
      exact hite _ _ (sizes_appendLog e _ data ts)
  | updateSessionGroupTags id mode tags =>
      obtain rfl := Option.some.inj hafter
      exact hite _ _ (sizes_updateGroupTags e mode tags)
  | resizeSession id size ptyResized =>
      obtain rfl := Option.some.inj hafter
      rw [if_neg]
      rintro rfl
      exact hother size ptyResized rfl
  | stopSession id terminated =>
      obtain rfl := Option.some.inj hafter
      exact hite _ _ (sizes_stop e terminated)
  | clearInactiveSessions =>
      simp only [after] at hafter
      split_ifs at hafter
      obtain rfl := Option.some.inj hafter
      rfl
  | requestControl id clientId kind =>
      obtain rfl := Option.some.inj hafter
      exact hite _ _ (sizes_requestControl e clientId kind)
  | releaseControl id clientId =>
      obtain rfl := Option.some.inj hafter
      exact hite _ _ (sizes_releaseControl e clientId)
  | shutdown terminated =>
      obtain rfl := Option.some.inj hafter
      exact sizes_shutdown e _
  | pollSession id answers =>
      obtain rfl := Option.some.inj hafter
      exact hite _ _ (sizes_poll e answers)
  | pollAll answers =>
      obtain rfl := Option.some.inj hafter
      split_ifs
      · rfl
      · exact sizes_poll e _

/-! ### Resizes -/

/-- **A resize of a live session that the process takes.** -/
theorem sizes_resize_taken {e : SessionEntry} (hlive : e.status.isInteractive = true)
    (hterminal : e.runtime.isSome = true) (size : TerminalSize) :
    (e.resize size true).result = true ∧ (e.resize size true).entry.sizes =
      some { launchSpec := size, multiplexer := normalizeSize size, current := size } := by
  obtain ⟨r, hr⟩ := Option.isSome_iff_exists.mp hterminal
  rw [status_of_runtime hr] at hlive
  unfold resize SessionRuntime.resizeTerminal
  simp only [hr, hlive, if_true]
  exact ⟨trivial, rfl⟩

/-- **A resize of a live session that the process refuses** changes the launch specification. -/
theorem sizes_resize_refused {e : SessionEntry} (hlive : e.status.isInteractive = true)
    {s : Sizes} (hs : e.sizes = some s) (size : TerminalSize) :
    (e.resize size false).entry.sizes = some { s with launchSpec := size } := by
  obtain ⟨r, hr, rfl⟩ := Option.map_eq_some_iff.mp hs
  rw [status_of_runtime hr] at hlive
  unfold resize SessionRuntime.resizeTerminal
  simp only [hr, hlive, if_true]
  rfl

/-- A resize of a session that is over, or has no terminal, changes nothing. -/
theorem resize_of_not_live {e : SessionEntry}
    (h : ¬(e.status.isInteractive = true ∧ e.runtime.isSome = true)) (size : TerminalSize)
    (ptyResized : Bool) : (e.resize size ptyResized).entry = e := by
  unfold resize
  rcases hr : e.runtime with _ | r
  · rfl
  · have hover : r.status.isInteractive ≠ true := by
      intro hlive
      exact h ⟨by rw [status_of_runtime hr]; exact hlive, by rw [hr]; rfl⟩
    have hsame : r.resizeTerminal size ptyResized = (r, false) := by
      rw [SessionRuntime.resizeTerminal, if_neg hover]
    dsimp only
    rw [hsame]
    rcases e with ⟨id, category, runtime⟩
    obtain rfl : runtime = some r := hr
    rfl

/-- A resize leaves the status. -/
theorem status_resize (e : SessionEntry) (size : TerminalSize) (ptyResized : Bool) :
    (e.resize size ptyResized).entry.status = e.status := by
  unfold resize
  rcases hr : e.runtime with _ | r
  · rfl
  · have hstatus : (r.resizeTerminal size ptyResized).1.status = e.status := by
      rw [status_of_runtime hr, SessionRuntime.resizeTerminal]
      split_ifs <;> rfl
    dsimp only
    split_ifs
    · exact hstatus
    · exact hstatus

/-- A resize that does no harm to a session: the process takes a size that has a column and a row,
or it refuses the size there is. -/
def Fits (e : SessionEntry) (size : TerminalSize) (ptyResized : Bool) : Prop :=
  if ptyResized then 1 ≤ size.columns ∧ 1 ≤ size.rows else size = e.currentTerminalSize

instance (e : SessionEntry) (size : TerminalSize) (ptyResized : Bool) :
    Decidable (e.Fits size ptyResized) := by
  unfold Fits
  infer_instance

/-- **When the sizes agree after a resize.** -/
theorem agree_resize_iff {e : SessionEntry} (hlive : e.status.isInteractive = true) {s s' : Sizes}
    (hs : e.sizes = some s) (hagree : s.Agree) {size : TerminalSize} {ptyResized : Bool}
    (hs' : (e.resize size ptyResized).entry.sizes = some s') :
    s'.Agree ↔ e.Fits size ptyResized := by
  have hterminal : e.runtime.isSome = true := by
    obtain ⟨r, hr, -⟩ := Option.map_eq_some_iff.mp hs
    rw [hr]
    rfl
  cases ptyResized with
  | true =>
      rw [(sizes_resize_taken hlive hterminal size).2] at hs'
      obtain rfl := Option.some.inj hs'
      constructor
      · rintro ⟨-, -, hcolumns, hrows⟩
        exact ⟨hcolumns, hrows⟩
      · rintro ⟨hcolumns, hrows⟩
        exact ⟨rfl, normalizeSize_eq_self_iff.mpr ⟨hcolumns, hrows⟩, hcolumns, hrows⟩
  | false =>
      rw [sizes_resize_refused hlive hs size] at hs'
      obtain rfl := Option.some.inj hs'
      have hcurrent : s.current = e.currentTerminalSize := by
        obtain ⟨r, -, rfl⟩ := Option.map_eq_some_iff.mp hs
        rfl
      constructor
      · rintro ⟨hlaunch, -, -, -⟩
        exact hlaunch.trans hcurrent
      · intro hsize
        exact ⟨hsize.trans hcurrent.symm, hagree.multiplexer_eq, hagree.columns_pos,
          hagree.rows_pos⟩

/-- A refused resize that does no harm leaves the sizes. -/
theorem sizes_resize_of_fits {e : SessionEntry} {s : Sizes} (hs : e.sizes = some s)
    (hagree : e.status.isInteractive = true → s.Agree) {size : TerminalSize} {ptyResized : Bool}
    (hfits : e.status.isInteractive = true → e.Fits size ptyResized)
    (hrefused : (e.resize size ptyResized).result = false) :
    (e.resize size ptyResized).entry.sizes = e.sizes := by
  have hterminal : e.runtime.isSome = true := by
    obtain ⟨r, hr, -⟩ := Option.map_eq_some_iff.mp hs
    rw [hr]
    rfl
  by_cases hlive : e.status.isInteractive = true
  · cases ptyResized with
    | true =>
        rw [(sizes_resize_taken hlive hterminal size).1] at hrefused
        exact absurd hrefused (by decide)
    | false =>
        have hsize : size = s.launchSpec := by
          obtain ⟨r, -, rfl⟩ := Option.map_eq_some_iff.mp hs
          exact (hfits hlive).trans (hagree hlive).launchSpec_eq.symm
        rw [sizes_resize_refused hlive hs, hs, hsize]
  · rw [resize_of_not_live fun h => hlive h.1]

end SessionEntry

/-- The size an operation asks for in a session, and whether the process takes it. -/
def Op.resizeOf (op : Op) (e : SessionEntry) : Option (TerminalSize × Bool) :=
  match op with
  | .resizeSession sessionId size ptyResized =>
      if e.id = sessionId then some (size, ptyResized) else none
  | _ => none

/-- A session is resized only by a call that names it. -/
theorem Op.resizeOf_eq_some {op : Op} {e : SessionEntry} {resize : TerminalSize × Bool}
    (h : op.resizeOf e = some resize) : op = .resizeSession e.id resize.1 resize.2 := by
  unfold Op.resizeOf at h
  split at h
  next =>
    split_ifs at h with hid
    obtain rfl := Option.some.inj h
    rw [hid]
  next => exact absurd h (by simp)

/-- Such a call is about the session it names. -/
theorem Op.resizeOf_self (e : SessionEntry) (size : TerminalSize) (ptyResized : Bool) :
    (Op.resizeSession e.id size ptyResized).resizeOf e = some (size, ptyResized) := by
  exact if_pos rfl

namespace SessionManager

/-! ### Runs -/

/-- The sizes of every live session agree. -/
def SizesAgree (m : SessionManager) : Prop :=
  ∀ e ∈ m.sessions, e.status.isInteractive = true → ∀ s ∈ e.sizes, s.Agree

instance (m : SessionManager) : Decidable m.SizesAgree := by
  unfold SizesAgree
  infer_instance

/-- When the call is a resize that is refused, every session has the sizes it had. -/
def RefusalHarmless (m : SessionManager) (call : Call) : Prop :=
  ∀ sessionId size ptyResized, call.op = .resizeSession sessionId size ptyResized →
    (m.perform call.storeOk call.op).2 = false →
      (m.perform call.storeOk call.op).1.sessions.map (·.sizes) = m.sessions.map (·.sizes)

/-- When the call is a resize of a live terminal session, it does no harm to it. -/
def ResizeFits (m : SessionManager) (call : Call) : Prop :=
  ∀ e ∈ m.sessions, e.status.isInteractive = true → e.runtime.isSome = true →
    ∀ resize ∈ call.op.resizeOf e, e.Fits resize.1 resize.2

instance (m : SessionManager) (call : Call) : Decidable (m.ResizeFits call) := by
  unfold ResizeFits
  infer_instance

/-- A session that takes input took input before. -/
theorem live_of_keeps {e e' : SessionEntry} (h : e.Inv) (hkeeps : e.Keeps e')
    (hlive : e'.status.isInteractive = true) : e.status.isInteractive = true := by
  rcases h.settled with hlive' | hover
  · exact hlive'
  · rw [hkeeps.status_of_isTerminal hover] at hlive
    exact hlive

/-- **The step lemma.** -/
theorem sizesAgree_step {m : SessionManager} {call : Call} {m' : SessionManager} (h : m.Inv)
    (hP : m.SizesAgree) (hstep : step m call = some m') :
    m'.SizesAgree ↔ m.ResizeFits call := by
  constructor
  · intro hafter e he hlive hterminal resize hresize
    obtain ⟨size, ptyResized⟩ := resize
    have hop := Op.resizeOf_eq_some hresize
    obtain ⟨r, hr⟩ := Option.isSome_iff_exists.mp hterminal
    have hs := SessionEntry.sizes_of_runtime hr
    have hresized : e.after call.op = some (e.resize size ptyResized).entry := by
      rw [hop]
      exact congrArg some (if_pos rfl)
    have hmem := mem_of_after h hstep he hresized
    have hlive' : (e.resize size ptyResized).entry.status.isInteractive = true := by
      rw [SessionEntry.status_resize]
      exact hlive
    have hsome : (e.resize size ptyResized).entry.sizes.isSome = true := by
      cases ptyResized with
      | true => rw [(SessionEntry.sizes_resize_taken hlive hterminal size).2]; rfl
      | false => rw [SessionEntry.sizes_resize_refused hlive hs size]; rfl
    obtain ⟨s', hs'⟩ := Option.isSome_iff_exists.mp hsome
    exact (SessionEntry.agree_resize_iff hlive hs (hP e he hlive _ hs) hs').mp
      (hafter _ hmem hlive' s' hs')
  · intro hfits e' he' hlive' s' hs'
    obtain rfl := Option.some.inj hstep
    rcases mem_perform h he' with ⟨e, he, hafter, hkeeps⟩ | ⟨hfresh, -⟩
    · have hlive := live_of_keeps (h.entries e he) hkeeps hlive'
      by_cases hresize : ∃ size ptyResized, call.op = .resizeSession e.id size ptyResized
      · obtain ⟨size, ptyResized, hop⟩ := hresize
        rw [hop] at hafter
        have heq : (e.resize size ptyResized).entry = e' :=
          (if_pos rfl).symm.trans (Option.some.inj hafter)
        by_cases hterminal : e.runtime.isSome = true
        · obtain ⟨r, hr⟩ := Option.isSome_iff_exists.mp hterminal
          have hs := SessionEntry.sizes_of_runtime hr
          rw [← heq] at hs'
          exact (SessionEntry.agree_resize_iff hlive hs (hP e he hlive _ hs) hs').mpr
            (hfits e he hlive hterminal (size, ptyResized) (hop ▸ Op.resizeOf_self e size ptyResized))
        · rw [SessionEntry.resize_of_not_live fun h => hterminal h.2] at heq
          exact hP e he hlive s' (heq ▸ hs')
      · rw [SessionEntry.sizes_after hafter fun size ptyResized hop =>
          hresize ⟨size, ptyResized, hop⟩] at hs'
        exact hP e he hlive s' hs'
    · obtain ⟨r, hr, rfl⟩ := Option.map_eq_some_iff.mp hs'
      obtain ⟨hlaunch, hmultiplexer, hcurrent⟩ := hfresh.sized r hr
      refine ⟨hlaunch.trans hcurrent.symm, hmultiplexer.trans hcurrent.symm, ?_, ?_⟩
      · show 1 ≤ e'.currentTerminalSize.columns
        rw [hcurrent]
        decide
      · show 1 ≤ e'.currentTerminalSize.rows
        rw [hcurrent]
        decide

/-- A refused resize that fits changes no size. -/
theorem refusalHarmless_of_fits {m : SessionManager} {call : Call} (h : m.Inv)
    (hP : m.SizesAgree) (hfits : m.ResizeFits call) : m.RefusalHarmless call := by
  intro sessionId size ptyResized hop hrefused
  rw [hop] at hrefused ⊢
  have hsessions := sessions_applyOne m h.nodup call.storeOk sessionId
    fun e => e.resize size ptyResized
  show ((m.applyOne call.storeOk sessionId fun e => e.resize size ptyResized).1.sessions).map _ = _
  rw [hsessions, List.map_map]
  apply List.map_congr_left
  intro e he
  show (if e.id = sessionId then (e.resize size ptyResized).entry else e).sizes = e.sizes
  split_ifs with hid
  · have hfind : m.findEntry sessionId = some e := hid ▸ findEntry_of_mem h.nodup he
    have hresult : (e.resize size ptyResized).result = false := by
      have hone : (m.applyOne call.storeOk sessionId fun e => e.resize size ptyResized).2 =
          (e.resize size ptyResized).result := by
        unfold applyOne
        rw [hfind]
      exact hone.symm.trans hrefused
    rcases hs : e.sizes with _ | s
    · have hnone : e.runtime.isSome ≠ true := by
        intro hsome
        obtain ⟨r, hr⟩ := Option.isSome_iff_exists.mp hsome
        rw [SessionEntry.sizes_of_runtime hr] at hs
        exact absurd hs (by simp)
      rw [SessionEntry.resize_of_not_live fun h => hnone h.2, hs]
    · have hterminal : e.runtime.isSome = true := by
        obtain ⟨r, hr, -⟩ := Option.map_eq_some_iff.mp hs
        rw [hr]
        rfl
      rw [SessionEntry.sizes_resize_of_fits hs (fun hlive => hP e he hlive s hs)
        (fun hlive => hfits e he hlive hterminal (size, ptyResized)
          (by rw [hop, ← hid]; exact Op.resizeOf_self e size ptyResized)) hresult, hs]
  · rfl

/-- **The three sizes of every live session agree in every state of a run, and a refused resize
leaves them, exactly when every resize fits:** it asks for a column and a row and the process takes
it, or it asks for the size there is. -/
theorem sizes_agree_iff {m : SessionManager} (hm : Init m) (calls : List Call) :
    (AllStates step SizesAgree m calls ∧ AllSteps step RefusalHarmless m calls) ↔
      AllSteps step ResizeFits m calls := by
  have hinit : m.SizesAgree := by
    intro e he
    rw [hm] at he
    exact absurd he List.not_mem_nil
  have hexact : AllStates step SizesAgree m calls ↔ AllSteps step ResizeFits m calls := by
    apply allStates_iff_allSteps SessionManager.Inv _ _ (inv_of_init hm) hinit
    · intro m call m' h _ hstep
      exact inv_step m call m' h hstep
    · intro m call m' h hP hstep
      exact sizesAgree_step h hP hstep
  constructor
  · rintro ⟨hstates, -⟩
    exact hexact.mp hstates
  · intro hfits
    have hstates := hexact.mpr hfits
    refine ⟨hstates, ?_⟩
    intro past call t u hpast hreaches hstep
    have hinv : t.Inv := hreaches.invariant SessionManager.Inv inv_step (inv_of_init hm)
    have hagree : t.SizesAgree := hstates past t ((List.prefix_append past [call]).trans hpast)
      hreaches
    exact refusalHarmless_of_fits hinv hagree (hfits past call t u hpast hreaches hstep)

/-- A session is made as wide as its client's terminal, and then the process refuses the same
again. -/
theorem sizes_agree_iff_resized :
    AllStates step SizesAgree {}
        [startCall "s", { op := .resizeSession "s" { columns := 100, rows := 30 } true },
          { op := .resizeSession "s" { columns := 100, rows := 30 } false }] ∧
      AllSteps step RefusalHarmless {}
        [startCall "s", { op := .resizeSession "s" { columns := 100, rows := 30 } true },
          { op := .resizeSession "s" { columns := 100, rows := 30 } false }] :=
  (sizes_agree_iff (show Init {} from rfl) _).mpr (by decide)

/-- A resize to no columns and no rows, as a local terminal may ask for one, is taken: the session
and the launch specification have a size that the multiplexer does not have. A resize that the
process refuses changes the launch specification. -/
theorem sizes_disagree :
    (¬AllStates step SizesAgree {}
        [startCall "s", { op := .resizeSession "s" { columns := 0, rows := 0 } true }]) ∧
      ¬AllSteps step RefusalHarmless {}
        [startCall "s", { op := .resizeSession "s" { columns := 100, rows := 30 } false }] := by
  constructor
  · decide
  · intro h
    have hrefused := h [startCall "s"] _ _ _ (List.prefix_refl _)
      (.cons rfl (.refl _)) rfl "s" { columns := 100, rows := 30 } false rfl (by decide)
    exact absurd hrefused (by decide)

end SessionManager

end Sentrits.Service
