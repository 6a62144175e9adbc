import Sentrits.Service.SessionManager

/-!
# Input for a terminal

What `SendInput` takes out of the input before it reaches the terminal, and when it reaches it at
all.

* `filterTerminalColorReports_of_noEscape`: input without an escape character reaches the terminal
  as it is.
* `SessionEntry.writtenInput`: the bytes that are passed to `SessionRuntime::WriteInput`.
* `sendInput_refused_iff`: **input is refused** exactly when the session has no runtime.

Source: `src/service/session_manager.cpp`.
-/

namespace Sentrits.Service

open Found Session

/-! ### Colour reports -/

/-- The escape character. -/
def esc : UInt8 := 0x1b

/-- The loop of `IsColorReportSequence`: how many bytes there are up to the end of the report. -/
def colorReportTail : Bytes → Option ℕ
  | [] => none
  | b :: rest =>
      if b = 0x07 then some 1
      else if b = esc ∧ rest.head? = some 0x5c then some 2
      else (colorReportTail rest).map (· + 1)

/-- How long the colour report at the front is, if there is one.
Source: `session_manager.cpp` `IsColorReportSequence`. -/
def isColorReportSequence : Bytes → Option ℕ
  | a :: b :: c :: d :: e :: rest =>
      if a ≠ esc ∨ b ≠ 0x5d then none
      else if c ≠ 0x31 ∨ (d ≠ 0x30 ∧ d ≠ 0x31) ∨ e ≠ 0x3b then none
      else (colorReportTail rest).map (· + 5)
  | _ => none

/-- The loop of `FilterTerminalColorReports`; the number counts the bytes of a report that are still
to be left out. -/
def filterLoop : ℕ → Bytes → Bytes × Bool
  | _, [] => ([], false)
  | skip + 1, _ :: rest => filterLoop skip rest
  | 0, b :: rest =>
      match isColorReportSequence (b :: rest) with
      | some length => ((filterLoop (length - 1) rest).1, true)
      | none => (b :: (filterLoop 0 rest).1, (filterLoop 0 rest).2)

/-- Source: `session_manager.cpp` `FilterTerminalColorReports`. -/
def filterTerminalColorReports (input : Bytes) : Bytes × Bool := filterLoop 0 input

/-- A report begins with an escape. -/
theorem isColorReportSequence_of_ne {b : UInt8} (h : b ≠ esc) (rest : Bytes) :
    isColorReportSequence (b :: rest) = none := by
  unfold isColorReportSequence
  split
  next heq =>
    injection heq with hb
    rw [if_pos (Or.inl (hb ▸ h))]
  next => rfl

/-- Input without an escape character holds no report. -/
theorem filterTerminalColorReports_of_noEscape {input : Bytes} (h : esc ∉ input) :
    filterTerminalColorReports input = (input, false) := by
  unfold filterTerminalColorReports
  induction input with
  | nil => rfl
  | cons b rest ih =>
      rw [List.mem_cons, not_or] at h
      rw [filterLoop, isColorReportSequence_of_ne (Ne.symm h.1)]
      simp only [ih h.2]

/-- An answer to a query of the background colour is left out, what is around it stays. -/
example : filterTerminalColorReports
    ([0x61, esc, 0x5d, 0x31, 0x31, 0x3b] ++ [0x72, esc, 0x5c] ++ [0x62]) = ([0x61, 0x62], true) := by
  decide

/-! ### Sending -/

namespace SessionEntry

/-- The bytes `SendInput` passes to `SessionRuntime::WriteInput`. -/
def writtenInput (e : SessionEntry) (input : Bytes) : Option Bytes :=
  match e.runtime with
  | none => none
  | some _ =>
      let filtered := (filterTerminalColorReports input).1
      if filtered.isEmpty then none else some filtered

/-- Source: `session_manager.cpp` `SessionManager::SendInput`, given whether the process takes all
of the input. -/
def sendInput (e : SessionEntry) (input : Bytes) (written : Bool) : Bool :=
  match e.runtime with
  | none => false
  | some r =>
      if (filterTerminalColorReports input).1.isEmpty then true else r.writeInput written

end SessionEntry

namespace SessionManager

/-- Source: `session_manager.cpp` `SessionManager::SendInput`. -/
def sendInput (m : SessionManager) (sessionId : String) (input : Bytes) (written : Bool) : Bool :=
  (m.findEntry sessionId).any (·.sendInput input written)

/-- The bytes `SendInput` passes to the runtime of the session. -/
def writtenInput (m : SessionManager) (sessionId : String) (input : Bytes) : Option Bytes :=
  (m.findEntry sessionId).bind (·.writtenInput input)

/-- There is a runtime for the session. -/
def hasRuntime (m : SessionManager) (sessionId : String) : Bool :=
  (m.findEntry sessionId).any (·.runtime.isSome)

/-- Input is refused, with nothing written, exactly when there is no runtime for it: input of colour
reports alone is taken as sent. -/
theorem sendInput_refused_iff (m : SessionManager) (sessionId : String) (input : Bytes) :
    (m.writtenInput sessionId input = none ∧
      ∀ written, m.sendInput sessionId input written = false) ↔ m.hasRuntime sessionId = false := by
  unfold writtenInput sendInput hasRuntime
  rcases m.findEntry sessionId with _ | e
  · simp
  · rcases hruntime : e.runtime with _ | r
    · simp [SessionEntry.writtenInput, SessionEntry.sendInput, hruntime]
    · by_cases hempty : (filterTerminalColorReports input).1.isEmpty = true
      · simp [SessionEntry.sendInput, hruntime, hempty]
      · simp [SessionEntry.writtenInput, hruntime, hempty]

/-- Source: `session_manager.cpp` `SessionManager::HasControl`. -/
def hasControl (m : SessionManager) (sessionId clientId : String) : Bool :=
  (m.findEntry sessionId).any (·.hasControl clientId)

/-- Control is looked up by session, so no answer says more than that the session is there. -/
theorem exists_of_hasControl {m : SessionManager} {sessionId clientId : String}
    (h : m.hasControl sessionId clientId = true) :
    ∃ e, m.findEntry sessionId = some e ∧ e.hasControl clientId = true := by
  unfold hasControl at h
  rcases hfind : m.findEntry sessionId with _ | e
  · simp [hfind] at h
  · exact ⟨e, rfl, by simpa [hfind] using h⟩

end SessionManager

end Sentrits.Service
