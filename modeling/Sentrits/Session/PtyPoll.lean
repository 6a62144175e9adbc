import Sentrits.Found.Runs
import Sentrits.Session.Runtime

/-!
# Polling a child that writes and exits when it likes

`SessionRuntime::PollOnce` is not one step: each `Read` is a `select` and a `read`, and the exit is
noticed by a `waitpid` after the last of them. The child writes to the terminal and exits between
any two of these calls. This module runs the system calls of `PollOnce` and the child's actions as
labels of one machine, with the terminal's queue of unread bytes between them.

* `reaches_idle_pollOnce`: from the first `select` to the end of the poll, whatever the child does
  in between, the runtime goes where `SessionRuntime.pollOnce` takes it for the answers it got.
* `Inv.written_eq`: **no byte is lost on the way**: what the child wrote is what was appended to the
  output buffer, then what is still queued.
* `outputComplete_iff_nothingOverlooked`: every run keeps all output of an exited child exactly
  when no poll reaps the child after bytes came that its reads did not see.

Sources: `src/session/session_runtime.cpp` `PollOnce`, `src/session/posix_pty_process.cpp` `Read`,
`PollExit`.
-/

namespace Sentrits.Session

open Found Found.Runs

namespace PtyPoll

/-! ### The machine -/

/-- The child process as the daemon's kernel sees it. -/
inductive Child
  | running
  /-- It has exited; nobody waited for it yet. The code is what `PollExit` makes of the status. -/
  | exited (code : ℤ)
  | reaped
  deriving DecidableEq

/-- Where `PollOnce` is. -/
inductive Pc
  /-- Outside `PollOnce`. -/
  | idle
  /-- At the `select` of `Read`. -/
  | selecting
  /-- At the `read` of `Read`. -/
  | reading
  /-- At the `waitpid` of `PollExit`. -/
  | waiting
  deriving DecidableEq

/-- The runtime in the middle of whatever it does, its child and the terminal between them. -/
structure State where
  runtime : SessionRuntime
  pc : Pc := .idle
  masterOpen : Bool := true
  child : Child := .running
  /-- Somebody still holds the child's side of the terminal open. -/
  slaveOpen : Bool := true
  /-- Bytes written to the terminal and not read yet. -/
  queued : Bytes := []
  /-- Everything the child has written, in order. -/
  written : Bytes := []
  /-- The data `PollOnce` has passed to `SessionOutputBuffer::Append`, call by call. -/
  appended : List Bytes := []
  /-- Bytes have come, or stayed, since the last `Read` of this poll looked at the terminal. -/
  overlooked : Bool := false
  deriving DecidableEq

/-- What can happen next: an action of the child or the return of a system call. -/
inductive Event
  | childWrites (data : Bytes)
  | childExits (code : ℤ)
  | slaveCloses
  /-- `PollOnce` is called. -/
  | pollBegins
  /-- `select` returns with the master readable. -/
  | selectReady
  /-- `select` returns because its time is up. -/
  | selectTimesOut
  /-- `select` returns because a signal interrupted it. -/
  | selectInterrupted
  /-- `read` returns so many bytes. -/
  | readReturns (count : ℕ)
  /-- `read` returns zero, or fails with `EIO`. -/
  | readClosed
  /-- `read` fails in another way. -/
  | readFails
  /-- `waitpid` returns zero: the child has not exited. -/
  | waitpidNothing
  /-- `waitpid` returns the child. -/
  | waitpidReaps
  deriving DecidableEq

/-- The size of the buffer in `PosixPtyProcess::Read`. -/
def readBufferSize : ℕ := 4096

/-- The master has something to say: bytes, or that the other side is closed. -/
def State.readable (s : State) : Bool :=
  !s.queued.isEmpty || !s.slaveOpen

/-- The loop of `PollOnce` ends and `PollExit` is called. -/
def State.stopReading (s : State) : State :=
  { s with pc := .waiting, overlooked := !s.queued.isEmpty }

/-- The result of `read` goes into the output buffer and the loop goes on. -/
def State.appendRead (s : State) (count : ℕ) : State :=
  { s with
    pc := .selecting
    runtime := s.runtime.recordOutput (s.queued.take count)
    appended := s.appended ++ [s.queued.take count]
    queued := s.queued.drop count }

/-- One event. -/
def step (s : State) : Event → Option State
  | .childWrites data =>
      if s.child = .running ∧ s.slaveOpen = true ∧ data ≠ [] then
        some { s with
          queued := s.queued ++ data
          written := s.written ++ data
          overlooked := s.overlooked || s.pc = .waiting }
      else none
  | .childExits code => if s.child = .running then some { s with child := .exited code } else none
  | .slaveCloses => if s.slaveOpen then some { s with slaveOpen := false } else none
  | .pollBegins =>
      if s.pc = .idle ∧ s.runtime.pid.isSome then
        -- with the master closed, `Read` answers at once that the terminal is closed
        if s.masterOpen then some { s with pc := .selecting } else some s.stopReading
      else none
  | .selectReady => if s.pc = .selecting ∧ s.readable then some { s with pc := .reading } else none
  | .selectTimesOut => if s.pc = .selecting ∧ !s.readable then some s.stopReading else none
  | .selectInterrupted => if s.pc = .selecting then some s.stopReading else none
  | .readReturns count =>
      if s.pc = .reading ∧ 0 < count ∧ count ≤ readBufferSize ∧ count ≤ s.queued.length then
        some (s.appendRead count)
      else none
  | .readClosed =>
      if s.pc = .reading ∧ s.queued = [] ∧ s.slaveOpen = false then some s.stopReading else none
  | .readFails => if s.pc = .reading then some s.stopReading else none
  | .waitpidNothing =>
      if s.pc = .waiting ∧ s.child = .running then some { s with pc := .idle } else none
  | .waitpidReaps =>
      match s.pc, s.child with
      | .waiting, .exited code =>
          some { s with
            pc := .idle
            child := .reaped
            masterOpen := false
            runtime := s.runtime.observeExit (some code) }
      | _, _ => none

/-- A session that has just been started: the child runs and has written nothing. -/
structure Init (s : State) : Prop where
  runtime : s.runtime.Inv
  interactive : s.runtime.status.isInteractive = true
  child : s.child = .running
  idle : s.pc = .idle
  masterOpen : s.masterOpen = true
  written : s.written = []
  queued : s.queued = []
  appended : s.appended = []
  overlooked : s.overlooked = false

/-! ### The invariant -/

/-- **Invariant of every run.** -/
structure Inv (s : State) : Prop where
  runtime : s.runtime.Inv
  /-- No byte is lost on the way. -/
  written_eq : s.written = s.appended.flatten ++ s.queued
  /-- The session takes input as long as nobody has waited for the child. -/
  live : s.child ≠ .reaped → s.runtime.status.isInteractive = true
  /-- The session is over once the child is reaped, and no poll is under way. -/
  ended : s.child = .reaped → s.runtime.status.isTerminal = true ∧ s.pc = .idle
  /-- At the `waitpid`, `overlooked` says whether bytes are queued. -/
  overlooked_iff : s.pc = .waiting → (s.overlooked = true ↔ s.queued ≠ [])

/-- A session that has just started has the invariant. -/
theorem inv_of_init {s : State} (h : Init s) : Inv s where
  runtime := h.runtime
  written_eq := by rw [h.written, h.appended, h.queued]; rfl
  live _ := h.interactive
  ended hreaped := by rw [h.child] at hreaped; exact absurd hreaped (by decide)
  overlooked_iff hpc := by rw [h.idle] at hpc; exact absurd hpc (by decide)

/-- The end of the reads keeps the invariant. -/
theorem inv_stopReading {s : State} (h : Inv s) (hreaped : s.child ≠ .reaped) :
    Inv s.stopReading where
  runtime := h.runtime
  written_eq := h.written_eq
  live := h.live
  ended hover := absurd hover hreaped
  overlooked_iff _ := by simp [State.stopReading]

/-- A read keeps the invariant. -/
theorem inv_appendRead {s : State} (h : Inv s) (hreaped : s.child ≠ .reaped) (count : ℕ) :
    Inv (s.appendRead count) where
  runtime := SessionRuntime.inv_recordOutput h.runtime _
  written_eq := by
    simp [State.appendRead, h.written_eq]
  live := h.live
  ended hover := absurd hover hreaped
  overlooked_iff hpc := absurd hpc (by simp [State.appendRead])

/-- **Every event keeps the invariant.** -/
theorem inv_step {s t : State} {e : Event} (h : Inv s) (hstep : step s e = some t) : Inv t := by
  -- outside `idle` nobody has waited for the child yet
  have hbusy : s.pc ≠ .idle → s.child ≠ .reaped := fun hpc hreaped => hpc (h.ended hreaped).2
  cases e with
  | childWrites data =>
      simp only [step, Option.ite_none_right_eq_some, Option.some.injEq] at hstep
      obtain ⟨⟨hrunning, -, hdata⟩, rfl⟩ := hstep
      refine ⟨h.runtime, by simp [h.written_eq], h.live, ?_, ?_⟩
      · intro hreaped
        exact h.ended hreaped
      · intro hpc
        have hpc : s.pc = .waiting := hpc
        simp [hpc, hdata]
  | childExits code =>
      simp only [step, Option.ite_none_right_eq_some, Option.some.injEq] at hstep
      obtain ⟨hrunning, rfl⟩ := hstep
      refine ⟨h.runtime, h.written_eq, fun _ => h.live (by simp [hrunning]), ?_, h.overlooked_iff⟩
      intro hreaped
      exact absurd hreaped (by simp)
  | slaveCloses =>
      simp only [step, Option.ite_none_right_eq_some, Option.some.injEq] at hstep
      obtain ⟨-, rfl⟩ := hstep
      exact ⟨h.runtime, h.written_eq, h.live, h.ended, h.overlooked_iff⟩
  | pollBegins =>
      simp only [step, Option.ite_none_right_eq_some] at hstep
      obtain ⟨⟨hidle, hpid⟩, hstep⟩ := hstep
      have hreaped : s.child ≠ .reaped := by
        intro hreaped
        have hterminal := (h.ended hreaped).1
        rw [h.runtime.pid_iff] at hpid
        rw [SessionStatus.isTerminal_of_isInteractive hpid] at hterminal
        exact absurd hterminal (by decide)
      split_ifs at hstep with hopen
      · obtain rfl := Option.some.inj hstep
        refine ⟨h.runtime, h.written_eq, h.live, fun hover => absurd hover hreaped, ?_⟩
        intro hpc
        exact absurd hpc (by simp)
      · obtain rfl := Option.some.inj hstep
        exact inv_stopReading h hreaped
  | selectReady =>
      simp only [step, Option.ite_none_right_eq_some, Option.some.injEq] at hstep
      obtain ⟨⟨hpc, -⟩, rfl⟩ := hstep
      have hreaped := hbusy (by simp [hpc])
      refine ⟨h.runtime, h.written_eq, h.live, fun hover => absurd hover hreaped, ?_⟩
      intro hpc
      exact absurd hpc (by simp)
  | selectTimesOut =>
      simp only [step, Option.ite_none_right_eq_some, Option.some.injEq] at hstep
      obtain ⟨⟨hpc, -⟩, rfl⟩ := hstep
      exact inv_stopReading h (hbusy (by simp [hpc]))
  | selectInterrupted =>
      simp only [step, Option.ite_none_right_eq_some, Option.some.injEq] at hstep
      obtain ⟨hpc, rfl⟩ := hstep
      exact inv_stopReading h (hbusy (by simp [hpc]))
  | readReturns count =>
      simp only [step, Option.ite_none_right_eq_some, Option.some.injEq] at hstep
      obtain ⟨⟨hpc, -⟩, rfl⟩ := hstep
      exact inv_appendRead h (hbusy (by simp [hpc])) count
  | readClosed =>
      simp only [step, Option.ite_none_right_eq_some, Option.some.injEq] at hstep
      obtain ⟨⟨hpc, -⟩, rfl⟩ := hstep
      exact inv_stopReading h (hbusy (by simp [hpc]))
  | readFails =>
      simp only [step, Option.ite_none_right_eq_some, Option.some.injEq] at hstep
      obtain ⟨hpc, rfl⟩ := hstep
      exact inv_stopReading h (hbusy (by simp [hpc]))
  | waitpidNothing =>
      simp only [step, Option.ite_none_right_eq_some, Option.some.injEq] at hstep
      obtain ⟨⟨-, hrunning⟩, rfl⟩ := hstep
      refine ⟨h.runtime, h.written_eq, h.live, ?_, fun hpc => absurd hpc (by simp)⟩
      intro hreaped
      rw [hrunning] at hreaped
      exact absurd hreaped (by decide)
  | waitpidReaps =>
      simp only [step] at hstep
      split at hstep
      next code hpc hchild =>
        obtain rfl := Option.some.inj hstep
        have hactive := h.live (by simp [hchild])
        have hexit := SessionRuntime.handleExit_of_isInteractive h.runtime hactive (code == 0)
        refine ⟨(SessionRuntime.observeExit_keeps h.runtime (some code)).inv, h.written_eq,
          fun hlive => absurd rfl hlive, fun _ => ⟨?_, rfl⟩, fun hpc => absurd hpc (by simp)⟩
        show (s.runtime.handleExit (code == 0)).1.status.isTerminal = true
        rw [hexit]
        cases code == 0 <;> rfl
      next => exact absurd hstep (by simp)

/-! ### The machine runs `PollOnce` -/

/-- **What one event does to the runtime**: nothing, or one chunk read, or the exit observed. -/
theorem step_runtime {s t : State} {e : Event} (hstep : step s e = some t) :
    (t.runtime = s.runtime ∧ t.appended = s.appended) ∨
      (∃ data, t.runtime = s.runtime.recordOutput data ∧ t.appended = s.appended ++ [data]) ∨
      (∃ code, t.runtime = s.runtime.observeExit (some code) ∧ t.appended = s.appended) := by
  cases e with
  | readReturns count =>
      simp only [step, Option.ite_none_right_eq_some, Option.some.injEq] at hstep
      obtain ⟨-, rfl⟩ := hstep
      exact Or.inr (Or.inl ⟨s.queued.take count, rfl, rfl⟩)
  | waitpidReaps =>
      simp only [step] at hstep
      split at hstep
      next code _ _ =>
        obtain rfl := Option.some.inj hstep
        exact Or.inr (Or.inr ⟨code, rfl, rfl⟩)
      next => exact absurd hstep (by simp)
  | pollBegins =>
      simp only [step, Option.ite_none_right_eq_some] at hstep
      obtain ⟨-, hstep⟩ := hstep
      split_ifs at hstep <;> obtain rfl := Option.some.inj hstep <;> exact Or.inl ⟨rfl, rfl⟩
  | _ =>
      simp only [step, Option.ite_none_right_eq_some, Option.some.injEq] at hstep
      obtain ⟨-, rfl⟩ := hstep
      exact Or.inl ⟨rfl, rfl⟩

/-- The output buffer is what `Append` made of the chunks passed to it. -/
theorem outputBuffer_of_step {s t : State} {e : Event} (hstep : step s e = some t)
    {b : SessionOutputBuffer}
    (h : s.runtime.outputBuffer = s.appended.foldl SessionOutputBuffer.append b) :
    t.runtime.outputBuffer = t.appended.foldl SessionOutputBuffer.append b := by
  rcases step_runtime hstep with ⟨hr, ha⟩ | ⟨data, hr, ha⟩ | ⟨code, hr, ha⟩
  · rw [hr, ha, h]
  · rw [hr, ha, List.foldl_append, ← h]
    rfl
  · rw [hr, ha, ← h]
    exact SessionRuntime.outputBuffer_handleExit s.runtime (code == 0)

/-- **At any time** the buffer of the session holds what has been appended. -/
theorem outputBuffer_of_reaches {s t : State} {es : List Event} (hs : Init s)
    (h : Reaches step s es t) :
    t.runtime.outputBuffer = t.appended.foldl SessionOutputBuffer.append s.runtime.outputBuffer :=
  h.invariant (fun u =>
      u.runtime.outputBuffer = u.appended.foldl SessionOutputBuffer.append s.runtime.outputBuffer)
    (fun _ _ _ hinv hstep => outputBuffer_of_step hstep hinv) (by rw [hs.appended]; rfl)

/-- What is left of the poll does to the runtime what the rest of `PollOnce` does. -/
def RestOfPoll (pc : Pc) (r r' : SessionRuntime) : Prop :=
  match pc with
  | .idle => r' = r
  | .selecting | .reading => ∃ reads exitCode, r' = SessionRuntime.pollLoop exitCode r reads
  | .waiting => ∃ exitCode, r' = r.observeExit exitCode

/-- A poll that only waits has nothing more to read. -/
theorem restOfPoll_selecting_of_waiting {r r' : SessionRuntime} (h : RestOfPoll .waiting r r') :
    ∃ reads exitCode, r' = SessionRuntime.pollLoop exitCode r reads := by
  obtain ⟨exitCode, rfl⟩ := h
  exact ⟨[], exitCode, rfl⟩

/-- **Whatever is left of a poll** does what the rest of `PollOnce` does. -/
theorem restOfPoll_of_reaches {s t : State} {es : List Event} (hrun : Reaches step s es t)
    (hbegins : .pollBegins ∉ es) (ht : t.pc = .idle) : RestOfPoll s.pc s.runtime t.runtime := by
  induction hrun with
  | refl s =>
      rw [ht]
      exact rfl
  | @cons s u t e es hstep _ ih =>
      have hrest := ih (fun hmem => hbegins (List.mem_cons_of_mem _ hmem)) ht
      cases e with
      | childWrites data =>
          simp only [step, Option.ite_none_right_eq_some, Option.some.injEq] at hstep
          obtain ⟨-, rfl⟩ := hstep
          exact hrest
      | childExits code =>
          simp only [step, Option.ite_none_right_eq_some, Option.some.injEq] at hstep
          obtain ⟨-, rfl⟩ := hstep
          exact hrest
      | slaveCloses =>
          simp only [step, Option.ite_none_right_eq_some, Option.some.injEq] at hstep
          obtain ⟨-, rfl⟩ := hstep
          exact hrest
      | pollBegins => exact absurd (List.mem_cons_self) hbegins
      | selectReady =>
          simp only [step, Option.ite_none_right_eq_some, Option.some.injEq] at hstep
          obtain ⟨⟨hpc, -⟩, rfl⟩ := hstep
          rw [hpc]
          exact hrest
      | selectTimesOut =>
          simp only [step, Option.ite_none_right_eq_some, Option.some.injEq] at hstep
          obtain ⟨⟨hpc, -⟩, rfl⟩ := hstep
          rw [hpc]
          exact restOfPoll_selecting_of_waiting hrest
      | selectInterrupted =>
          simp only [step, Option.ite_none_right_eq_some, Option.some.injEq] at hstep
          obtain ⟨hpc, rfl⟩ := hstep
          rw [hpc]
          exact restOfPoll_selecting_of_waiting hrest
      | readReturns count =>
          simp only [step, Option.ite_none_right_eq_some, Option.some.injEq] at hstep
          obtain ⟨⟨hpc, hpos, -, hcount⟩, rfl⟩ := hstep
          obtain ⟨reads, exitCode, hrest⟩ := hrest
          have hdata : (s.queued.take count).isEmpty = false := by
            rw [← Bool.not_eq_true, List.isEmpty_iff_length_eq_zero, List.length_take]
            omega
          rw [hpc]
          refine ⟨{ data := s.queued.take count } :: reads, exitCode, ?_⟩
          rw [hrest, SessionRuntime.pollLoop]
          simp only [hdata, Bool.false_eq_true, if_false]
          rfl
      | readClosed =>
          simp only [step, Option.ite_none_right_eq_some, Option.some.injEq] at hstep
          obtain ⟨⟨hpc, -⟩, rfl⟩ := hstep
          rw [hpc]
          exact restOfPoll_selecting_of_waiting hrest
      | readFails =>
          simp only [step, Option.ite_none_right_eq_some, Option.some.injEq] at hstep
          obtain ⟨hpc, rfl⟩ := hstep
          rw [hpc]
          exact restOfPoll_selecting_of_waiting hrest
      | waitpidNothing =>
          simp only [step, Option.ite_none_right_eq_some, Option.some.injEq] at hstep
          obtain ⟨⟨hpc, -⟩, rfl⟩ := hstep
          rw [hpc]
          exact ⟨none, hrest⟩
      | waitpidReaps =>
          simp only [step] at hstep
          split at hstep
          next code hpc _ =>
            obtain rfl := Option.some.inj hstep
            rw [hpc]
            exact ⟨some code, hrest⟩
          next => exact absurd hstep (by simp)

/-- **One poll of the machine is one `pollOnce`**, for the answers its system calls got, whatever
the child did in between. -/
theorem reaches_idle_pollOnce {s s₁ t : State} {es : List Event}
    (hbegin : step s .pollBegins = some s₁) (hrun : Reaches step s₁ es t)
    (hbegins : .pollBegins ∉ es) (ht : t.pc = .idle) :
    ∃ reads exitCode, t.runtime = s.runtime.pollOnce reads exitCode := by
  have hrest := restOfPoll_of_reaches hrun hbegins ht
  simp only [step, Option.ite_none_right_eq_some] at hbegin
  obtain ⟨⟨-, hpid⟩, hbegin⟩ := hbegin
  have hpid : ¬ s.runtime.pid.isNone = true := by
    simpa using Option.isSome_iff_ne_none.mp hpid
  have hloop : ∃ reads exitCode, t.runtime = SessionRuntime.pollLoop exitCode s.runtime reads := by
    split_ifs at hbegin
    · obtain rfl := Option.some.inj hbegin
      exact hrest
    · obtain rfl := Option.some.inj hbegin
      exact restOfPoll_selecting_of_waiting hrest
  obtain ⟨reads, exitCode, heq⟩ := hloop
  refine ⟨reads, exitCode, ?_⟩
  rw [heq, SessionRuntime.pollOnce, if_neg hpid]

/-! ### All output of a child that has exited -/

/-- Once a poll has ended the session, everything the child wrote has been appended, in order, to
the output buffer the session began with. -/
def OutputComplete (start : SessionOutputBuffer) (s : State) : Prop :=
  s.runtime.status.isTerminal = true →
    s.appended.flatten = s.written ∧
      s.runtime.outputBuffer = s.appended.foldl SessionOutputBuffer.append start

instance (start : SessionOutputBuffer) : DecidablePred (OutputComplete start) := fun s =>
  inferInstanceAs (Decidable (s.runtime.status.isTerminal = true →
    s.appended.flatten = s.written ∧
      s.runtime.outputBuffer = s.appended.foldl SessionOutputBuffer.append start))

/-- If the poll is about to find the child exited, the terminal has nothing its reads did not see:
the last one was not cut short with bytes to read, and the child wrote nothing after it. -/
def NothingOverlooked (s : State) (e : Event) : Prop :=
  e = .waitpidReaps → s.overlooked = false

instance (s : State) (e : Event) : Decidable (NothingOverlooked s e) :=
  inferInstanceAs (Decidable (e = .waitpidReaps → s.overlooked = false))

/-- Once the child is reaped only the terminal's other side can still close. -/
theorem step_of_reaped {s t : State} {e : Event} (h : Inv s) (hreaped : s.child = .reaped)
    (hstep : step s e = some t) : t = { s with slaveOpen := false } := by
  obtain ⟨hterminal, hidle⟩ := h.ended hreaped
  cases e with
  | slaveCloses =>
      simp only [step, Option.ite_none_right_eq_some, Option.some.injEq] at hstep
      exact hstep.2.symm
  | pollBegins =>
      simp only [step, Option.ite_none_right_eq_some] at hstep
      have hpid := hstep.1.2
      rw [h.runtime.pid_iff] at hpid
      rw [SessionStatus.isTerminal_of_isInteractive hpid] at hterminal
      exact absurd hterminal (by decide)
  | _ => simp [step, hidle, hreaped] at hstep

/-- Only the `waitpid` that returns the child reaps it. -/
theorem reaped_of_step {s t : State} {e : Event} (hstep : step s e = some t)
    (hreaped : t.child = .reaped) : s.child = .reaped ∨ e = .waitpidReaps := by
  cases e with
  | waitpidReaps => exact Or.inr rfl
  | childExits code =>
      simp only [step, Option.ite_none_right_eq_some, Option.some.injEq] at hstep
      obtain ⟨-, rfl⟩ := hstep
      exact absurd hreaped (by simp)
  | pollBegins =>
      simp only [step, Option.ite_none_right_eq_some] at hstep
      obtain ⟨-, hstep⟩ := hstep
      split_ifs at hstep <;> obtain rfl := Option.some.inj hstep <;> exact Or.inl hreaped
  | _ =>
      simp only [step, Option.ite_none_right_eq_some, Option.some.injEq] at hstep
      obtain ⟨-, rfl⟩ := hstep
      exact Or.inl hreaped

/-- At the `waitpid` that reaps the child: the output is complete exactly when nothing was
overlooked. -/
theorem outputComplete_of_reaps {start : SessionOutputBuffer} {s t : State} (h : Inv s)
    (hbuffer : s.runtime.outputBuffer = s.appended.foldl SessionOutputBuffer.append start)
    (hstep : step s .waitpidReaps = some t) :
    OutputComplete start t ↔ s.overlooked = false := by
  have ht := inv_step h hstep
  have hbuffer' := outputBuffer_of_step hstep hbuffer
  simp only [step] at hstep
  split at hstep
  next code hpc _ =>
    obtain rfl := Option.some.inj hstep
    have hterminal := (ht.ended rfl).1
    have hcomplete : s.appended.flatten = s.written ↔ s.queued = [] := by
      rw [h.written_eq, List.self_eq_append_right]
    unfold OutputComplete
    constructor
    · intro hout
      have hnil := hcomplete.mp (hout hterminal).1
      by_contra hover
      exact ((h.overlooked_iff hpc).mp (by simpa using hover)) hnil
    · intro hover _
      refine ⟨hcomplete.mpr ?_, hbuffer'⟩
      by_contra hne
      rw [(h.overlooked_iff hpc).mpr hne] at hover
      exact absurd hover (by decide)
  next => exact absurd hstep (by simp)

/-- One event, from a state whose output is complete. -/
theorem outputComplete_step_iff {start : SessionOutputBuffer} {s t : State} {e : Event} (h : Inv s)
    (hbuffer : s.runtime.outputBuffer = s.appended.foldl SessionOutputBuffer.append start)
    (hs : OutputComplete start s) (hstep : step s e = some t) :
    OutputComplete start t ↔ NothingOverlooked s e := by
  have ht := inv_step h hstep
  by_cases he : e = .waitpidReaps
  · subst he
    rw [outputComplete_of_reaps h hbuffer hstep]
    exact ⟨fun hover _ => hover, fun hnothing => hnothing rfl⟩
  · refine ⟨fun _ hreaps => absurd hreaps he, fun _ => ?_⟩
    by_cases hreaped : t.child = .reaped
    · have hs' := (reaped_of_step hstep hreaped).resolve_right he
      rw [step_of_reaped h hs' hstep]
      exact hs
    · intro hterminal
      rw [SessionStatus.isTerminal_of_isInteractive (ht.live hreaped)] at hterminal
      exact absurd hterminal (by decide)

/-- **When no output is lost at exit.** In every run of polls and of a child that writes and exits
whenever it likes: in every state, if the session has ended then all the child wrote has been
appended in order to its output buffer, exactly when no poll in the run reaps the child with
something overlooked. -/
theorem outputComplete_iff_nothingOverlooked {s : State} (hs : Init s) (es : List Event) :
    AllStates step (OutputComplete s.runtime.outputBuffer) s es ↔
      AllSteps step NothingOverlooked s es := by
  have hbuffer : s.runtime.outputBuffer =
      s.appended.foldl SessionOutputBuffer.append s.runtime.outputBuffer := by
    rw [hs.appended]
    rfl
  refine allStates_iff_allSteps
    (fun u => Inv u ∧ u.runtime.outputBuffer =
      u.appended.foldl SessionOutputBuffer.append s.runtime.outputBuffer)
    (fun _ _ _ h _ hstep => ⟨inv_step h.1 hstep, outputBuffer_of_step hstep h.2⟩)
    (fun _ _ _ h hout hstep => outputComplete_step_iff h.1 h.2 hout hstep)
    ⟨inv_of_init hs, hbuffer⟩ ?_ es
  intro hterminal
  rw [SessionStatus.isTerminal_of_isInteractive hs.interactive] at hterminal
  exact absurd hterminal (by decide)

/-! ### The run that loses output -/

/-- A session that has been started with a child. -/
def startedState : State where
  runtime :=
    { record :=
        { metadata :=
            { id := "s_1", provider := .codex, workspaceRoot := "/w", title := "t"
              status := .running }
          lifecycle := { state := .running } }
      launchSpec := buildLaunchSpec
        { id := "s_1", provider := .codex, workspaceRoot := "/w", title := "t" }
        (defaultProviderConfig .codex)
      pid := some 7
      outputBuffer := .empty 1024
      multiplexerSize := {} }

/-- The state of the example is one of a session that has just started. -/
theorem init_startedState : Init startedState where
  runtime := ⟨rfl, rfl, SessionOutputBuffer.inv_empty 1024⟩
  interactive := rfl
  child := rfl
  idle := rfl
  masterOpen := rfl
  written := rfl
  queued := rfl
  appended := rfl
  overlooked := rfl

/-- The child writes its last line and exits after the poll's last `select` has timed out: the
poll ends the session and the line is never appended. -/
theorem outputComplete_fails_last_line :
    Init startedState ∧
      ¬ AllStates step (OutputComplete startedState.runtime.outputBuffer) startedState
        [.pollBegins, .selectTimesOut, .childWrites (Bytes.utf8 "done\n"), .childExits 0,
          .waitpidReaps] :=
  ⟨init_startedState, by decide⟩

/-- A child whose last line is read before the poll looks for its exit. -/
theorem outputComplete_last_line_read :
    AllStates step (OutputComplete startedState.runtime.outputBuffer) startedState
      [.childWrites (Bytes.utf8 "done\n"), .childExits 0, .slaveCloses, .pollBegins, .selectReady,
        .readReturns 5, .selectReady, .readClosed, .waitpidReaps] :=
  (outputComplete_iff_nothingOverlooked init_startedState _).mpr (by decide)

end PtyPoll

end Sentrits.Session
