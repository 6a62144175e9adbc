import Sentrits.Service.TerminalInput
import Sentrits.Service.Tracking

/-!
# Calls of the manager from a handler

A handler of the server runs from one event to the next; on its way it calls the session manager.
`Turn` carries the manager and the state of the handler through it and notes the calls that act on a
session, each with the manager as it was at that moment.

* `Turn.sendInput`, `Turn.resizeSession`, `Turn.stopSession`: the calls that are noted.
* `Turn.requestControl`, `Turn.releaseControl`, `Turn.pollSession`: the others.
* `IssuedCall.Controlled`: the client that made a call controlled the session at that moment.

Sources: `src/net/http_server.cpp`, `src/service/session_manager.cpp`.
-/

namespace Sentrits.Net

open Found Session Service

/-- A call that acts on a session. -/
inductive ManagerCall
  | sendInput (input : Bytes)
  | resizeSession (terminalSize : TerminalSize)
  | stopSession
  deriving DecidableEq

/-- A call, on behalf of whom, and the manager when it was made. -/
structure IssuedCall where
  /-- A request without a socket comes from nobody the manager knows. -/
  clientId : Option String
  sessionId : String
  call : ManagerCall
  manager : SessionManager
  deriving DecidableEq

namespace IssuedCall

/-- The client controlled the session when it made the call. -/
def Controlled (c : IssuedCall) : Prop :=
  c.clientId.any (c.manager.hasControl c.sessionId) = true

instance : DecidablePred Controlled := fun c =>
  inferInstanceAs (Decidable (c.clientId.any (c.manager.hasControl c.sessionId) = true))

/-- The bytes the call passes to `SessionRuntime::WriteInput`. -/
def writes (c : IssuedCall) : Option Bytes :=
  match c.call with
  | .sendInput input => c.manager.writtenInput c.sessionId input
  | _ => none

end IssuedCall

/-- What the environment answers while a handler runs. -/
structure CallAnswers where
  /-- For which sessions a write to the store succeeds. -/
  storeOk : String → Bool := fun _ => true
  /-- The process takes all of the input. -/
  written : Bool := true
  ptyResized : Bool := true
  terminated : Bool := true
  poll : PollAnswers := {}
  /-- `GetReadableFd` finds a descriptor. -/
  readableFd : Bool := false
  /-- `dup` succeeds. -/
  duplicated : Bool := true

/-- A handler on its way. -/
structure Turn (σ : Type) where
  manager : SessionManager
  socket : σ
  issued : List IssuedCall := []

namespace Turn

variable {σ : Type}

/-- An operation of the manager. -/
def perform (t : Turn σ) (answers : CallAnswers) (op : Op) : Turn σ × Bool :=
  let result := t.manager.perform answers.storeOk op
  ({ t with manager := result.1 }, result.2)

/-- Notes a call with the manager as it is. -/
def note (t : Turn σ) (clientId : Option String) (sessionId : String) (call : ManagerCall) : Turn σ :=
  { t with
    issued := t.issued ++
      [{ clientId := clientId, sessionId := sessionId, call := call, manager := t.manager }] }

/-- Input for a session, noted. -/
def sendInput (t : Turn σ) (answers : CallAnswers) (clientId : Option String) (sessionId : String)
    (input : Bytes) : Turn σ × Bool :=
  (t.note clientId sessionId (.sendInput input),
    t.manager.sendInput sessionId input answers.written)

/-- A new size for a session, noted. -/
def resizeSession (t : Turn σ) (answers : CallAnswers) (clientId sessionId : String)
    (terminalSize : TerminalSize) : Turn σ × Bool :=
  (t.note (some clientId) sessionId (.resizeSession terminalSize)).perform answers
    (.resizeSession sessionId terminalSize answers.ptyResized)

/-- The stop of a session, noted. -/
def stopSession (t : Turn σ) (answers : CallAnswers) (clientId : Option String)
    (sessionId : String) : Turn σ × Bool :=
  (t.note clientId sessionId .stopSession).perform answers
    (.stopSession sessionId answers.terminated)

/-- A claim of control. -/
def requestControl (t : Turn σ) (answers : CallAnswers) (sessionId clientId : String)
    (controllerKind : ControllerKind) : Turn σ × Bool :=
  t.perform answers (.requestControl sessionId clientId controllerKind)

/-- Control is given up. -/
def releaseControl (t : Turn σ) (answers : CallAnswers) (sessionId clientId : String) :
    Turn σ × Bool :=
  t.perform answers (.releaseControl sessionId clientId)

/-- A session is polled. -/
def pollSession (t : Turn σ) (answers : CallAnswers) (sessionId : String) : Turn σ :=
  (t.perform answers (.pollSession sessionId answers.poll)).1

/-- Changes the state of the handler. -/
def modify (t : Turn σ) (f : σ → σ) : Turn σ := { t with socket := f t.socket }

/-- A call that reaches no terminal is not noted. -/
@[simp] theorem issued_perform (t : Turn σ) (answers : CallAnswers) (op : Op) :
    (t.perform answers op).1.issued = t.issued := rfl

/-- A claim of control is not noted. -/
@[simp] theorem issued_requestControl (t : Turn σ) (answers : CallAnswers)
    (sessionId clientId : String) (kind : ControllerKind) :
    (t.requestControl answers sessionId clientId kind).1.issued = t.issued := rfl

/-- Giving control up is not noted. -/
@[simp] theorem issued_releaseControl (t : Turn σ) (answers : CallAnswers)
    (sessionId clientId : String) :
    (t.releaseControl answers sessionId clientId).1.issued = t.issued := rfl

/-- A poll is not noted. -/
@[simp] theorem issued_pollSession (t : Turn σ) (answers : CallAnswers) (sessionId : String) :
    (t.pollSession answers sessionId).issued = t.issued := rfl

/-- What a handler keeps for itself is not noted. -/
@[simp] theorem issued_modify (t : Turn σ) (f : σ → σ) : (t.modify f).issued = t.issued := rfl

/-- What a handler keeps for itself leaves the manager. -/
@[simp] theorem manager_modify (t : Turn σ) (f : σ → σ) : (t.modify f).manager = t.manager := rfl

/-- What a handler keeps for itself is its socket. -/
@[simp] theorem socket_modify (t : Turn σ) (f : σ → σ) : (t.modify f).socket = f t.socket := rfl

/-- Input is noted, with its client and the manager before it. -/
@[simp] theorem issued_sendInput (t : Turn σ) (answers : CallAnswers) (clientId : Option String)
    (sessionId : String) (input : Bytes) :
    (t.sendInput answers clientId sessionId input).1.issued = t.issued ++
      [{ clientId, sessionId, call := .sendInput input, manager := t.manager }] := rfl

/-- A new size is noted, with its client and the manager before it. -/
@[simp] theorem issued_resizeSession (t : Turn σ) (answers : CallAnswers)
    (clientId sessionId : String) (size : TerminalSize) :
    (t.resizeSession answers clientId sessionId size).1.issued = t.issued ++
      [{ clientId := some clientId, sessionId, call := .resizeSession size,
         manager := t.manager }] := rfl

/-- A stop is noted, with its client and the manager before it. -/
@[simp] theorem issued_stopSession (t : Turn σ) (answers : CallAnswers) (clientId : Option String)
    (sessionId : String) :
    (t.stopSession answers clientId sessionId).1.issued = t.issued ++
      [{ clientId, sessionId, call := .stopSession, manager := t.manager }] := rfl

end Turn

end Sentrits.Net
