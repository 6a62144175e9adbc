import Sentrits.Service.TerminalInput

/-!
# Input that is cut off

`Write` makes one `write` on the terminal and says whether it took all of the bytes. What is made of
that goes up through the runtime and the manager to whoever sent the input.

* `PtyWriter.write`: what reaches the child, and what is said about it.
* `sendInput_deliverInput`: what is said is what `SendInput` says.
* `allOrNothing_iff`: **input is all or nothing exactly when** a `write` that is made takes all
  bytes or none.
* `reachedAll_eq`: **over any sequence of inputs** the child reads, in order, those that were
  accepted, as far as they are passed on.

Sources: `src/session/posix_pty_process.cpp` `Write`, `src/session/session_runtime.cpp`,
`src/service/session_manager.cpp`.
-/

namespace Sentrits.Service

open Found Session

/-! ### The terminal -/

/-- What a `write` comes to. -/
inductive WriteAnswer
  /-- So many bytes are taken, if there are so many. -/
  | took (count : ℕ)
  /-- There is an error, and nothing is taken. -/
  | failed
  deriving DecidableEq

/-- The terminal at the time of a write. -/
structure PtyWriter where
  masterOpen : Bool := true
  answer : WriteAnswer
  deriving DecidableEq

namespace PtyWriter

/-- The bytes that reach the child, and what is returned.
Source: `posix_pty_process.cpp` `PosixPtyProcess::Write`. -/
def write (pty : PtyWriter) (input : Bytes) : Bytes × Bool :=
  if pty.masterOpen = false then ([], false)
  else
    match pty.answer with
    | .took count => (input.take count, (input.take count).length == input.length)
    | .failed => ([], false)

/-- Source: `session_runtime.cpp` `SessionRuntime::WriteInput`. -/
def writeInput (pty : PtyWriter) (r : SessionRuntime) (input : Bytes) : Bytes × Bool :=
  if r.status.isInteractive = false then ([], false) else pty.write input

/-- A write that is made takes all of the bytes or none. -/
def Whole (pty : PtyWriter) (input : Bytes) : Prop :=
  pty.masterOpen = true → ∀ count, pty.answer = .took count → count = 0 ∨ input.length ≤ count

/-- What is returned says whether all of the bytes are taken. -/
theorem fst_write_of_snd {pty : PtyWriter} {input : Bytes} (h : (pty.write input).2 = true) :
    (pty.write input).1 = input := by
  unfold write at h ⊢
  split_ifs at h ⊢ with hclosed
  rcases hanswer : pty.answer with count | _
  · simp only [hanswer, beq_iff_eq, List.length_take] at h
    exact List.take_of_length_le (by omega)
  · simp [hanswer] at h

/-- **A refused write leaves nothing behind exactly when** it takes all bytes or none. -/
theorem write_refused_iff {pty : PtyWriter} {input : Bytes} (hinput : input ≠ []) :
    ((pty.write input).2 = false → (pty.write input).1 = []) ↔ pty.Whole input := by
  unfold write Whole
  split_ifs with hclosed
  · simp [hclosed]
  · rcases hanswer : pty.answer with count | _
    · have hopen : pty.masterOpen = true := Bool.not_eq_false _ ▸ hclosed
      have hlength : 0 < input.length := List.length_pos_iff.mpr hinput
      simp only [beq_eq_false_iff_ne, List.length_take, List.take_eq_nil_iff, hinput, or_false]
      constructor
      · intro h _ taken htaken
        obtain rfl := WriteAnswer.took.inj htaken
        by_cases hcount : count = 0
        · exact Or.inl hcount
        · exact Or.inr (by_contra fun hshort => hcount (h (by omega)))
      · intro h hshort
        rcases h hopen count rfl with hcount | hlong
        · exact hcount
        · exact absurd (Nat.min_eq_right hlong) hshort
    · simp

end PtyWriter

/-! ### Sending -/

namespace SessionEntry

/-- Source: `session_manager.cpp` `SessionManager::SendInput`. -/
def deliverInput (e : SessionEntry) (input : Bytes) (pty : PtyWriter) : Bytes × Bool :=
  match e.runtime with
  | none => ([], false)
  | some r =>
      let filtered := (filterTerminalColorReports input).1
      if filtered.isEmpty then ([], true) else pty.writeInput r filtered

end SessionEntry

namespace SessionManager

/-- The bytes of an input that reach the child of the session, and what is returned.
Source: `session_manager.cpp` `SessionManager::SendInput`. -/
def deliverInput (m : SessionManager) (sessionId : String) (input : Bytes) (pty : PtyWriter) :
    Bytes × Bool :=
  match m.findEntry sessionId with
  | none => ([], false)
  | some e => e.deliverInput input pty

/-- The bytes a `write` is made with, if one is made: the child can be written to, and not all of
the input is colour reports. -/
def writeMade (m : SessionManager) (sessionId : String) (input : Bytes) : Option Bytes :=
  (m.findEntry sessionId).bind fun e =>
    if e.runtime.any (·.status.isInteractive) then e.writtenInput input else none

variable (m : SessionManager) (sessionId : String) (input : Bytes) (pty : PtyWriter)

/-- **What is returned is what `SendInput` returns** for that answer of the terminal. -/
theorem sendInput_deliverInput :
    (m.deliverInput sessionId input pty).2 =
      m.sendInput sessionId input (pty.write (filterTerminalColorReports input).1).2 := by
  unfold deliverInput sendInput
  rcases m.findEntry sessionId with _ | e
  · rfl
  · dsimp only [Option.any_some]
    unfold SessionEntry.deliverInput SessionEntry.sendInput
    rcases e.runtime with _ | r
    · rfl
    · dsimp only
      split_ifs with hempty
      · rfl
      · unfold PtyWriter.writeInput SessionRuntime.writeInput
        split_ifs with hover
        · rw [hover, Bool.false_and]
        · rw [Bool.not_eq_false] at hover
          rw [hover, Bool.true_and]

/-- A call either makes the write, or nothing reaches the child; then the input is accepted if only
reports were taken out of it. -/
theorem deliverInput_cases :
    (∃ bytes, m.writeMade sessionId input = some bytes ∧ bytes ≠ [] ∧
        bytes = (filterTerminalColorReports input).1 ∧
        m.deliverInput sessionId input pty = pty.write bytes) ∨
      m.writeMade sessionId input = none ∧ (m.deliverInput sessionId input pty).1 = [] ∧
        ((m.deliverInput sessionId input pty).2 = true →
          (filterTerminalColorReports input).1 = []) := by
  unfold deliverInput writeMade
  rcases m.findEntry sessionId with _ | e
  · exact Or.inr ⟨rfl, rfl, fun h => absurd h Bool.false_ne_true⟩
  · dsimp only [Option.bind_some]
    unfold SessionEntry.deliverInput SessionEntry.writtenInput
    rcases hruntime : e.runtime with _ | r
    · exact Or.inr ⟨rfl, rfl, fun h => absurd h Bool.false_ne_true⟩
    · dsimp only [Option.any_some]
      by_cases hempty : (filterTerminalColorReports input).1.isEmpty = true
      · rw [if_pos hempty, if_pos hempty, ite_self]
        exact Or.inr ⟨rfl, rfl, fun _ => List.isEmpty_iff.mp hempty⟩
      · rw [if_neg hempty, if_neg hempty]
        unfold PtyWriter.writeInput
        by_cases hactive : r.status.isInteractive = true
        · rw [if_pos hactive, if_neg (by rw [hactive]; decide)]
          exact Or.inl ⟨_, rfl, fun h => hempty (List.isEmpty_iff.mpr h), rfl, rfl⟩
        · rw [if_neg hactive, if_pos (Bool.not_eq_true _ ▸ hactive)]
          exact Or.inr ⟨rfl, rfl, fun h => absurd h Bool.false_ne_true⟩

/-- A refused input has not reached the child at all, and an accepted one has reached it whole. -/
structure AllOrNothing : Prop where
  refused : (m.deliverInput sessionId input pty).2 = false →
    (m.deliverInput sessionId input pty).1 = []
  accepted : (m.deliverInput sessionId input pty).2 = true →
    (m.deliverInput sessionId input pty).1 = (filterTerminalColorReports input).1

/-- What is accepted reaches the child whole, and in order, in any case. -/
theorem accepted_whole (h : (m.deliverInput sessionId input pty).2 = true) :
    (m.deliverInput sessionId input pty).1 = (filterTerminalColorReports input).1 := by
  rcases m.deliverInput_cases sessionId input pty with
    ⟨bytes, -, -, hbytes, hwrite⟩ | ⟨-, hnothing, hempty⟩
  · rw [hwrite] at h ⊢
    rw [PtyWriter.fst_write_of_snd h, hbytes]
  · rw [hnothing, hempty h]

/-- **Input is all or nothing exactly when** the `write`, if one is made, takes all bytes or none:
a short one is not carried on with, and what it took is not taken back. -/
theorem allOrNothing_iff :
    m.AllOrNothing sessionId input pty ↔
      ∀ bytes ∈ m.writeMade sessionId input, pty.Whole bytes := by
  have hrefused : m.AllOrNothing sessionId input pty ↔
      ((m.deliverInput sessionId input pty).2 = false →
        (m.deliverInput sessionId input pty).1 = []) :=
    ⟨fun h => h.refused, fun h => ⟨h, m.accepted_whole sessionId input pty⟩⟩
  rw [hrefused]
  rcases m.deliverInput_cases sessionId input pty with
    ⟨bytes, hmade, hbytes, -, hwrite⟩ | ⟨hmade, hnothing, -⟩
  · rw [hwrite, hmade, PtyWriter.write_refused_iff hbytes]
    simp
  · rw [hmade]
    simp [hnothing]

/-- A session with a shell. -/
def shellSession : SessionManager :=
  (createSession {} (fun _ => true)
    { workspaceRoot := "/work", title := "sh", commandArgv := some ["sh"], envMode := some .clean }
    { candidates := ["s_1"]
      resolved := .ok { mode := .clean }
      bootstrapShell := []
      start := { started := true, pid := 7 } }).1

/-- The terminal has room for one byte of three: the input is refused, and the child has got the
first byte. -/
theorem not_allOrNothing :
    ¬∀ (m : SessionManager) (sessionId : String) (input : Bytes) (pty : PtyWriter),
      m.AllOrNothing sessionId input pty := by
  intro h
  have hrefused := (h shellSession "s_1" [0x6c, 0x73, 0x0a] { answer := .took 1 }).refused
    (by decide)
  exact absurd hrefused (by decide)

/-! ### Sequences of inputs -/

/-- The calls for a session, with what the manager and the terminal are at each of them. -/
abbrev InputCall := SessionManager × Bytes × PtyWriter

/-- What the child of the session gets to read. -/
def reachedAll (sessionId : String) : List InputCall → Bytes
  | [] => []
  | (m, input, pty) :: calls =>
      (m.deliverInput sessionId input pty).1 ++ reachedAll sessionId calls

/-- What was accepted for the session, without the colour reports. -/
def acceptedAll (sessionId : String) : List InputCall → Bytes
  | [] => []
  | (m, input, pty) :: calls =>
      (if (m.deliverInput sessionId input pty).2 then (filterTerminalColorReports input).1
        else []) ++ acceptedAll sessionId calls

/-- **Over any sequence of inputs, none of which is cut off, the child reads what was accepted,** in
order. -/
theorem reachedAll_eq {calls : List InputCall}
    (h : ∀ call ∈ calls, ∀ bytes ∈ call.1.writeMade sessionId call.2.1, call.2.2.Whole bytes) :
    reachedAll sessionId calls = acceptedAll sessionId calls := by
  induction calls with
  | nil => rfl
  | cons call calls ih =>
      rcases call with ⟨m, input, pty⟩
      rw [List.forall_mem_cons] at h
      have hwhole := (m.allOrNothing_iff sessionId input pty).mpr h.1
      rw [reachedAll, acceptedAll, ih h.2]
      congr 1
      split_ifs with haccepted
      · exact hwhole.accepted haccepted
      · exact hwhole.refused (Bool.not_eq_true _ ▸ haccepted)

end SessionManager

end Sentrits.Service
