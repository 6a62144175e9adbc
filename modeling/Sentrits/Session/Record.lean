import Sentrits.Found.Bytes
import Sentrits.Session.Types

/-!
# The lifecycle of a session and its record

A session moves through its states along `isValidTransition` only; `SessionRecord` keeps the
lifecycle next to the metadata that is shown to clients and changes both in one step.

* `tryTransition_spec`: a transition either is refused and changes nothing, or is allowed and moves
  the metadata and the lifecycle to the same state.
* `SessionRecord.InStep`: the two states agree; every operation of the record keeps that.

Sources: `src/session/session_lifecycle.cpp`, `src/session/session_record.cpp`.
-/

namespace Sentrits.Session

open Found

/-! ### The transition relation -/

/-- Source: `session_lifecycle.cpp` `IsValidTransition`. -/
def isValidTransition (source target : SessionStatus) : Bool :=
  match source with
  | .created => target == .starting
  | .starting => target == .running || target == .error
  | .running => target == .awaitingInput || target == .exited || target == .error
  | .awaitingInput => target == .running || target == .exited || target == .error
  | .exited | .error => false

/-- `Exited` and `Error` are absorbing. -/
theorem isValidTransition_of_isTerminal {source : SessionStatus} (h : source.isTerminal = true)
    (target : SessionStatus) : isValidTransition source target = false := by
  cases source <;> first | rfl | exact absurd h (by decide)

/-- A session that takes input can end, with or without an error. -/
theorem isValidTransition_of_isInteractive {source target : SessionStatus}
    (h : source.isInteractive = true) (ht : target.isTerminal = true) :
    isValidTransition source target = true := by
  revert h ht
  cases source <;> cases target <;> decide

/-- Source: `session_lifecycle.h` `SessionLifecycle`. -/
structure SessionLifecycle where
  state : SessionStatus := .created
  deriving DecidableEq

/-- Source: `session_lifecycle.cpp` `SessionLifecycle::TryTransition`. -/
def SessionLifecycle.tryTransition (lifecycle : SessionLifecycle) (nextState : SessionStatus) :
    SessionLifecycle × Bool :=
  if isValidTransition lifecycle.state nextState then ({ state := nextState }, true)
  else (lifecycle, false)

/-! ### The record -/

/-- Source: `session_record.h` `SessionRecord`. -/
structure SessionRecord where
  metadata : SessionMetadata
  lifecycle : SessionLifecycle := {}
  currentSequence : ℕ := 0
  recentTerminalTail : Bytes := []
  deriving DecidableEq

namespace SessionRecord

/-- Source: `session_record.cpp` `SessionRecord::TryTransition`. -/
def tryTransition (record : SessionRecord) (nextStatus : SessionStatus) : SessionRecord × Bool :=
  match record.lifecycle.tryTransition nextStatus with
  | (_, false) => (record, false)
  | (lifecycle, true) =>
      ({ record with
          lifecycle := lifecycle
          metadata := { record.metadata with status := lifecycle.state } }, true)

/-- Source: `session_record.cpp` `SessionRecord::SetCurrentSequence`. -/
def setCurrentSequence (record : SessionRecord) (currentSequence : ℕ) : SessionRecord :=
  { record with currentSequence := currentSequence }

/-- Source: `session_record.cpp` `SessionRecord::SetRecentTerminalTail`. -/
def setRecentTerminalTail (record : SessionRecord) (recentTerminalTail : Bytes) : SessionRecord :=
  { record with recentTerminalTail := recentTerminalTail }

/-- Source: `session_record.cpp` `SessionRecord::SetGroupTags`. -/
def setGroupTags (record : SessionRecord) (groupTags : List String) : SessionRecord :=
  { record with metadata := { record.metadata with groupTags := groupTags } }

/-- The state the clients see is the state of the lifecycle. -/
def InStep (record : SessionRecord) : Prop :=
  record.metadata.status = record.lifecycle.state

/-- **What a transition does.** -/
theorem tryTransition_spec (record : SessionRecord) (nextStatus : SessionStatus) :
    (isValidTransition record.lifecycle.state nextStatus = false ∧
        record.tryTransition nextStatus = (record, false)) ∨
      (isValidTransition record.lifecycle.state nextStatus = true ∧
        record.tryTransition nextStatus =
          ({ record with
              lifecycle := { state := nextStatus }
              metadata := { record.metadata with status := nextStatus } }, true)) := by
  unfold tryTransition SessionLifecycle.tryTransition
  cases h : isValidTransition record.lifecycle.state nextStatus with
  | false => exact Or.inl ⟨rfl, rfl⟩
  | true => exact Or.inr ⟨rfl, rfl⟩

/-- A valid transition is made, in both places. -/
theorem tryTransition_of_valid {record : SessionRecord} {nextStatus : SessionStatus}
    (h : isValidTransition record.lifecycle.state nextStatus = true) :
    record.tryTransition nextStatus =
      ({ record with
          lifecycle := { state := nextStatus }
          metadata := { record.metadata with status := nextStatus } }, true) := by
  rcases tryTransition_spec record nextStatus with ⟨hno, -⟩ | ⟨-, heq⟩
  · rw [h] at hno
    exact absurd hno (by decide)
  · exact heq

/-- The two stay in step. -/
theorem inStep_tryTransition {record : SessionRecord} (h : record.InStep)
    (nextStatus : SessionStatus) : (record.tryTransition nextStatus).1.InStep := by
  rcases tryTransition_spec record nextStatus with ⟨-, heq⟩ | ⟨-, heq⟩
  · rw [heq]
    exact h
  · rw [heq]
    rfl

end SessionRecord

end Sentrits.Session
