import Sentrits.Net.RequestParsing
import Sentrits.Service.SessionManager

/-!
# What clients send

The messages of a client that holds a socket, and the bodies of the two requests that carry input
for a terminal.

* `WebSocketCommand`, `parseWebSocketCommand`: a text frame of a socket.
* `sized_of_resize`: a command does not ask for a size without a column or a row.
* `parseInputRequest`, `parseMessageRequest`: input and messages sent without a socket.
* `parseWebSocketCommand_stopMessage`: the message that stops a session is read as that.

Source: `src/net/request_parsing.cpp`.
-/

namespace Sentrits.Net

open Found Found.Json Session Store

/-! ### Commands of a socket -/

/-- Source: `request_parsing.h` `WebSocketCommand`. -/
inductive WebSocketCommand
  | input (data : String)
  | resize (terminalSize : TerminalSize)
  | stop
  | requestControl (controllerKind : ControllerKind)
  | releaseControl
  deriving DecidableEq

/-- The kind of controller a client asks for. -/
def parseControllerKind (value : Json) : Option ControllerKind := do
  let kind ← value.asString
  if kind = "host" then some .host else if kind = "remote" then some .remote else none

/-- Source: `request_parsing.cpp` `ParseWebSocketCommand`. -/
def parseWebSocketCommand (lib : JsonLibrary) (body : String) : Option WebSocketCommand := do
  let object ← (← lib.parse body).asObject
  let commandType ← required asString (ifContains object "type")
  if commandType = "terminal.input" then
    let data ← required asString (ifContains object "data")
    some (.input data)
  else if commandType = "terminal.resize" then
    let columns ← required asPort (ifContains object "cols")
    let rows ← required asPort (ifContains object "rows")
    some (.resize { columns, rows })
  else if commandType = "session.stop" then some .stop
  else if commandType = "session.control.request" then
    let controllerKind ← orDefault .remote parseControllerKind (ifContains object "kind")
    some (.requestControl controllerKind)
  else if commandType = "session.control.release" then some .releaseControl
  else none

/-- **A size that comes in a command has a column and a row.** -/
theorem sized_of_resize {lib : JsonLibrary} {body : String} {size : TerminalSize}
    (h : parseWebSocketCommand lib body = some (.resize size)) :
    size.columns ≠ 0 ∧ size.rows ≠ 0 := by
  have hport : ∀ {field : Option Json} {port : UInt16},
      required asPort field = some port → port ≠ 0 := by
    intro field port hread
    rcases Option.bind_eq_some_iff.mp hread with ⟨value, -, hvalue⟩
    exact asPort_ne_zero hvalue
  unfold parseWebSocketCommand at h
  simp only [Option.bind_eq_bind, Option.bind_eq_some_iff] at h
  obtain ⟨-, -, object, -, commandType, -, h⟩ := h
  split_ifs at h
  · obtain ⟨data, -, h⟩ := Option.bind_eq_some_iff.mp h
    exact absurd (Option.some.inj h) WebSocketCommand.noConfusion
  · obtain ⟨columns, hcolumns, h⟩ := Option.bind_eq_some_iff.mp h
    obtain ⟨rows, hrows, h⟩ := Option.bind_eq_some_iff.mp h
    obtain rfl := WebSocketCommand.resize.inj (Option.some.inj h)
    exact ⟨hport hcolumns, hport hrows⟩
  · exact absurd h (by simp)
  · obtain ⟨data, -, h⟩ := Option.bind_eq_some_iff.mp h
    exact absurd (Option.some.inj h) WebSocketCommand.noConfusion
  · exact absurd h (by simp)

/-- Stopping is a command without fields. -/
def stopMessage : Json := .object [("type", .string "session.stop")]

/-- A stop is read back. -/
theorem parseWebSocketCommand_stopMessage (lib : JsonLibrary) :
    parseWebSocketCommand lib (lib.serialize stopMessage) = some .stop := by
  simp [parseWebSocketCommand, lib.parse_serialize, stopMessage, ifContains, required]

/-! ### Input without a socket -/

/-- Source: `request_parsing.cpp` `ParseInputRequest`. -/
def parseInputRequest (lib : JsonLibrary) (body : String) : Option String := do
  let object ← (← lib.parse body).asObject
  required asString (ifContains object "data")

/-- Source: `request_parsing.h` `MessageRequestPayload`. -/
structure MessageRequestPayload where
  kind : String
  text : String
  sourceSessionId : Option String := none
  evidenceId : Option String := none
  stripTrailingNewline : Bool := true
  submit : Bool := true
  deriving DecidableEq

/-- Source: `request_parsing.cpp` `StripTrailingCrLf`. -/
def stripTrailingCrLf (text : String) : String :=
  String.ofList (text.toList.rdropWhile fun ch => ch = '\r' ∨ ch = '\n')

/-- The kind of a message, under either name; when it has both they agree. -/
def parseMessageKind (object : List (String × Json)) : Option String := do
  let kind ← orNone asString (ifContains object "kind")
  let payloadKind ← orNone asString (ifContains object "payloadKind")
  match kind, payloadKind with
  | none, none => none
  | some kind, none => some kind
  | none, some payloadKind => some payloadKind
  | some kind, some payloadKind => if kind = payloadKind then some kind else none

/-- Source: `request_parsing.cpp` `ParseMessageRequest`. -/
def parseMessageRequest (lib : JsonLibrary) (body : String) : Option MessageRequestPayload := do
  let object ← (← lib.parse body).asObject
  let kind ← parseMessageKind object
  if kind ≠ "text" then none
  else
    let text ← required asString (ifContains object "text")
    let stripTrailingNewline ← orDefault true asBool (ifContains object "stripTrailingNewline")
    let submit ← orDefault true asBool (ifContains object "submit")
    let sourceSessionId ← orNone asNonEmptyString (ifContains object "sourceSessionId")
    let evidenceId ← orNone asNonEmptyString (ifContains object "evidenceId")
    let text := if stripTrailingNewline then stripTrailingCrLf text else text
    if text = "" then none
    else some { kind, text, sourceSessionId, evidenceId, stripTrailingNewline, submit }

/-- What a message puts into the terminal.
Source: `http_shared.cpp` `HandleMessageRequest`. -/
def MessageRequestPayload.input (payload : MessageRequestPayload) : String :=
  if payload.submit then payload.text ++ "\n" else payload.text

end Sentrits.Net
