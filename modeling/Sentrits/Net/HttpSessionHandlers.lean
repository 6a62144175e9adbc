import Sentrits.Net.ClientMessages
import Sentrits.Net.EvidenceJson
import Sentrits.Net.HttpHandlers

/-!
# The handlers of sessions, templates and evidence

The routes under `/sessions/` name a session in their path; what they do to it they ask of the
session manager, on behalf of nobody it knows. A name that is not text names no session.

* `handleCreateSessionRequest`, `handleInput`, `handleMessage`, …: sessions.
* `handleTemplatesRequest`, `handleStoredEvidenceRequest`: documents below the storage root.
* `handleEvidenceRequest`, `finalizeEvidenceResponse`: looking at a log, and keeping what was seen.

Source: `src/net/http_shared.cpp`.
-/

namespace Sentrits.Net.Http

open Found Found.Bytes Found.Json Found.Keyed Auth Session Store Service

namespace Exchange

variable (x : Exchange)

/-! ### Sessions as a whole -/

/-- The routes `/sessions` and `/host/sessions`, behind their checks. -/
def listSessions (t : Turn Daemon) : Reply :=
  (t, { status := 200, body := .sessions t.manager.sessions (x.attachedClients t) })

/-- The error that is answered when no session was created. -/
def createError (manager : SessionManager) (message : String) (sessionId : Option String) :
    HttpResponse :=
  { status := 500, body := .error message manager.lastCreateErrorMessage sessionId }

/-- The session that was created, as it is shown. -/
def createdResponse (manager : SessionManager) (sessionId : String) : HttpResponse :=
  match manager.findEntry sessionId with
  | some session => { status := 201, body := .session session none }
  | none => { status := 201, body := .empty }

/-- Source: `http_shared.cpp` `AutoSaveLaunchRecord`; nobody looks at whether it was saved. -/
def autoSave (t : Turn Daemon) (request : CreateSessionRequest) : Turn Daemon :=
  if x.context.hostConfigStore then
    (x.saveHostIdentity t (autoSaveLaunchRecord (x.hostIdentityOrDefault t)
      (launchRecordOf request x.answers.token (Int64.ofInt x.answers.nowUnixMs)))).1
  else t

/-- Source: `http_shared.cpp` `HandleCreateSessionRequest`. -/
def handleCreateSessionRequest (t : Turn Daemon) : Reply :=
  match x.request.parsedBody (parseCreateSessionRequest x.lib) with
  | none => (t, errorResponse 400 "invalid create session request")
  | some payload =>
      match resolveCreateSessionRequest payload (x.optionalHostIdentity t) with
      | .error message =>
          (t, { status := 400
                body := .error "failed to resolve create session request" message })
      | .ok request =>
          let created := t.manager.createSession x.answers.storeOk request x.answers.create
          let t := { t with manager := created.1 }
          match created.2 with
          | none =>
              (t, createError t.manager "failed to create session"
                t.manager.lastCreateErrorSessionId)
          | some sessionId => (x.autoSave t request, createdResponse t.manager sessionId)

/-- Source: `http_shared.cpp` `HandleCreateLogSessionRequest`. -/
def handleCreateLogSessionRequest (t : Turn Daemon) : Reply :=
  match x.request.parsedBody (parseCreateSessionRequest x.lib) with
  | none => (t, errorResponse 400 "invalid create log session request")
  | some payload =>
      if payload.commandArgv.isNone ∧ payload.commandShell.isNone then
        (t, errorResponse 400 "log session command is required")
      else
        let request : LogSessionCreateRequest :=
          { workspaceRoot := payload.workspaceRoot.getD "."
            title := payload.title.getD "log"
            commandArgv := payload.commandArgv
            commandShell := payload.commandShell
            groupTags := payload.groupTags.getD []
            envMode := payload.envMode
            environmentOverrides := payload.environmentOverrides
            envFilePath := payload.envFilePath }
        let created := t.manager.createLogSession request x.answers.createLog
        let t := { t with manager := created.1 }
        match created.2 with
        | none => (t, createError t.manager "failed to create log session" none)
        | some sessionId => (t, createdResponse t.manager sessionId)

/-- The routes `/sessions/clear-inactive` and `/host/sessions/clear-inactive`, behind their
checks. -/
def clearInactiveSessions (t : Turn Daemon) : Reply :=
  let cleared := (t.perform x.answers.toCallAnswers .clearInactiveSessions).1
  (cleared,
    { status := 200
      body := .removedCount (t.manager.sessions.length - cleared.manager.sessions.length) })

/-! ### One session -/

/-- The session a path names. -/
def findSession (t : Turn Daemon) (sessionId : Bytes) : Option (String × SessionEntry) := do
  let sessionId ← textOf sessionId
  let session ← t.manager.findEntry sessionId
  some (sessionId, session)

/-- Looks at a session. -/
def showSession (t : Turn Daemon) (sessionId : Bytes)
    (body : String → SessionEntry → HttpResponse) : Reply :=
  match findSession t sessionId with
  | none => (t, errorResponse 404 "session not found")
  | some (sessionId, session) => (t, body sessionId session)

/-- The route `/sessions/…`. -/
def handleSession (sessionId : Bytes) (t : Turn Daemon) : Reply :=
  guarded t (x.require t .observeSessions) <|
    showSession t sessionId fun _ session => { status := 200, body := .session session none }

/-- The viewport a request for a snapshot asks for. -/
def requestedViewport (sessionId : String) : Option ViewportUpdate := do
  let viewId := parseQueryValue x.request.target "viewId"
  let columns ← parseUnsignedQueryValue x.request.target "cols"
  let rows ← parseUnsignedQueryValue x.request.target "rows"
  if viewId.isEmpty then none else some { sessionId, viewId, viewportSize := { columns, rows } }

/-- The route `/sessions/…/snapshot`; the viewport is kept when the session has a runtime.
Source: `session_manager.cpp` `SessionManager::UpdateViewport`. -/
def handleSnapshot (sessionId : Bytes) (t : Turn Daemon) : Reply :=
  guarded t (x.require t .observeSessions) <|
    match findSession t sessionId with
    | none => (t, errorResponse 404 "session not found")
    | some (sessionId, session) =>
        match x.requestedViewport sessionId with
        | none => (t, { status := 200, body := .snapshot session none })
        | some update =>
            if session.runtime.isSome then
              (t.modify fun d => { d with viewports := d.viewports ++ [update] },
                { status := 200, body := .snapshot session x.answers.viewport })
            else (t, { status := 200, body := .snapshot session none })

/-- Source: `http_shared.cpp` `MakeFileReadErrorResponse`. -/
def makeFileReadErrorResponse : FileReadStatus → HttpResponse
  | .sessionNotFound => errorResponse 404 "session not found"
  | .invalidPath => errorResponse 400 "invalid file path"
  | .workspaceUnavailable => errorResponse 400 "workspace root unavailable"
  | .notFound => errorResponse 404 "file not found"
  | .notRegularFile => errorResponse 400 "path does not reference a regular file"
  | .ioError => errorResponse 500 "failed to read file"
  | .ok => errorResponse 500 "unexpected file read status"

/-- The route `/sessions/…/file`. -/
def handleFile (sessionId : Bytes) (t : Turn Daemon) : Reply :=
  guarded t (x.require t .observeSessions) <|
    let rawPath := parseQueryValue x.request.target "path"
    if rawPath.isEmpty then (t, errorResponse 400 "missing file path")
    else
      match urlDecode rawPath, parseFileBytes x.request.target, textOf sessionId with
      | none, _, _ => (t, errorResponse 400 "invalid file path")
      | some _, none, _ => (t, errorResponse 400 "invalid byte limit")
      | some _, some _, none => (t, makeFileReadErrorResponse .sessionNotFound)
      | some workspacePath, some fileBytes, some sessionId =>
          let file := x.answers.readFile t.manager sessionId workspacePath fileBytes
          if file.status ≠ .ok then (t, makeFileReadErrorResponse file.status)
          else (t, { status := 200, body := .readFile file })

/-- The route `/sessions/…/tail`. -/
def handleTail (sessionId : Bytes) (t : Turn Daemon) : Reply :=
  guarded t (x.require t .observeSessions) <|
    match parseTailBytes x.request.target with
    | none => (t, errorResponse 400 "invalid byte limit")
    | some tailBytes =>
        showSession t sessionId fun _ session =>
          match session.tail tailBytes with
          | none => errorResponse 404 "session not found"
          | some slice => { status := 200, body := .tail slice }

/-- The route `/sessions/…/env`. -/
def handleEnv (sessionId : Bytes) (t : Turn Daemon) : Reply :=
  guarded t (x.require t .observeSessions) <|
    showSession t sessionId fun _ session =>
      match session.effectiveEnvironment with
      | none => errorResponse 404 "session not found"
      | some environment => { status := 200, body := .environment environment }

/-- Sends input to a session on behalf of nobody; a name that is not text names none. -/
def sendInput (t : Turn Daemon) (sessionId input : Bytes) : Turn Daemon × Bool :=
  match textOf sessionId with
  | none => (t, false)
  | some sessionId => t.sendInput x.answers.toCallAnswers none sessionId input

/-- The route `/sessions/…/input`. -/
def handleInput (sessionId : Bytes) (t : Turn Daemon) : Reply :=
  guarded t (x.require t .controlSession) <|
    match x.request.parsedBody (parseInputRequest x.lib) with
    | none => (t, errorResponse 400 "invalid input request")
    | some input =>
        match x.sendInput t sessionId (utf8 input) with
        | (t, false) => (t, errorResponse 400 "unable to send input")
        | (t, true) => (t, { status := 200, body := .status "ok" })

/-- The route `/sessions/…/messages`.
Source: `http_shared.cpp` `HandleMessageRequest`. -/
def handleMessage (sessionId : Bytes) (t : Turn Daemon) : Reply :=
  guarded t (x.require t .controlSession) <|
    match x.request.parsedBody (parseMessageRequest x.lib) with
    | none => (t, errorResponse 400 "invalid message request")
    | some payload =>
        match x.sendInput t sessionId (utf8 payload.input) with
        | (t, false) => (t, errorResponse 400 "unable to send message")
        | (t, true) =>
            (t, { status := 200
                  body := .sent ((textOf sessionId).getD "") payload.kind
                    (utf8 payload.input).length })

/-- The route `/sessions/…/groups`. -/
def handleGroups (sessionId : Bytes) (t : Turn Daemon) : Reply :=
  guarded t (x.require t .controlSession) <|
    match x.request.parsedBody (parseSessionGroupTagsUpdateRequest x.lib), findSession t sessionId with
    | none, _ => (t, errorResponse 400 "invalid session group tags request")
    | some _, none => (t, errorResponse 404 "session not found")
    | some payload, some (sessionId, _) =>
        let updated := (t.perform x.answers.toCallAnswers
          (.updateSessionGroupTags sessionId payload.mode payload.tags)).1
        match updated.manager.findEntry sessionId with
        | none => (updated, errorResponse 404 "session not found")
        | some session => (updated, { status := 200, body := .groupTags session })

/-- Stops a session on behalf of nobody. -/
def stopSession (t : Turn Daemon) (sessionId : Bytes) : Turn Daemon × Bool :=
  match textOf sessionId with
  | none => (t, false)
  | some sessionId => t.stopSession x.answers.toCallAnswers none sessionId

/-- The route `/sessions/…/stop`. -/
def handleStop (sessionId : Bytes) (t : Turn Daemon) : Reply :=
  guarded t (x.require t .controlSession) <|
    match x.stopSession t sessionId with
    | (t, false) => (t, errorResponse 400 "unable to stop session")
    | (t, true) => (t, { status := 200, body := .status "stopped" })

/-- The route `/host/sessions/…/stop`. -/
def handleHostStop (sessionId : Bytes) (t : Turn Daemon) : Reply :=
  guarded t (x.requireLocalHostAdmin t) <|
    if sessionId.isEmpty then (t, errorResponse 400 "invalid session id")
    else
      match x.stopSession t sessionId with
      | (t, false) => (t, errorResponse 404 "session not found")
      | (t, true) =>
          match findSession t sessionId with
          | some (_, session) =>
              (t, { status := 200, body := .session session (x.attachedClients t) })
          | none => (t, { status := 200, body := .status "stopped" })

/-! ### Templates -/

/-- Source: `http_shared.cpp` `HandleTemplatesRequest`. -/
def handleTemplatesRequest (requestPath : Bytes) (t : Turn Daemon) : Reply :=
  let store := t.socket.templates
  let keep (store : PromptTemplateStore) := t.modify ({ · with templates := store })
  if !x.context.storageRoot then (t, errorResponse 503 "storage root unavailable")
  else if requestPath = utf8 "/templates" then
    if x.request.method ≠ .get then (t, errorResponse 405 "method not allowed")
    else
      guarded t (x.require t .observeSessions) <|
        (keep store.listTemplates.1, { status := 200, body := .templates store.listTemplates.2 })
  else if ¬ utf8 "/templates/" <+: requestPath then (t, errorResponse 404 "not found")
  else
    let templateId := requestPath.drop (utf8 "/templates/").length
    if templateId.isEmpty then (t, errorResponse 404 "not found")
    else
      match x.request.method with
      | .get =>
          guarded t (x.require t .observeSessions) <|
            let loaded := store.loadTemplate templateId
            match loaded.2 with
            | none => (keep loaded.1, errorResponse 404 "template not found")
            | some template => (keep loaded.1, { status := 200, body := .template template })
      | .put =>
          guarded t (x.require t .controlSession) <|
            match (x.request.parsedBody (parseJsonObjectBody x.lib)).bind
              fun body => jsonStringField body "content" with
            | none => (t, errorResponse 400 "invalid template request")
            | some content =>
                match store.upsertTemplate templateId (utf8 content) with
                | (store, false) => (keep store, errorResponse 400 "unable to save template")
                | (store, true) =>
                    let loaded := store.loadTemplate templateId
                    match loaded.2 with
                    | none => (keep loaded.1, errorResponse 500 "unable to load saved template")
                    | some template => (keep loaded.1, { status := 200, body := .template template })
      | .delete =>
          guarded t (x.require t .controlSession) <|
            match store.removeTemplate templateId with
            | (store, false) => (keep store, errorResponse 404 "template not found")
            | (store, true) => (keep store, { status := 200, body := .status "ok" })
      | _ => (t, errorResponse 405 "method not allowed")

/-! ### Stored evidence -/

/-- The id of a new piece of evidence. -/
def evidenceId : String := "ev_" ++ x.answers.token

/-- What a log shows of itself. -/
def captureEvidence (t : Turn Daemon) (sessionId : Bytes) (query : EvidenceQuery) :
    Option EvidenceResult :=
  (textOf sessionId).bind fun sessionId => x.answers.evidence t.manager sessionId query

/-- The document a request stores, of which kind.
Source: `http_shared.cpp` `HandleStoredEvidenceRequest`, the branches on the kind. -/
def requestedDocument (t : Turn Daemon) (sessionId : Bytes) (body : List (String × Json))
    (kind : String) : Except String (EvidenceKind × Bytes) :=
  if kind = "user_markdown" then
    match jsonStringField body "content" with
    | none => .error "invalid markdown evidence request"
    | some content => .ok (.userMarkdown, utf8 content)
  else if kind = "log_snapshot" then
    match (evidenceQueryOf body).bind (x.captureEvidence t sessionId) with
    | none => .error "unable to capture log evidence"
    | some evidence => .ok (.logSnapshot, x.answers.serialize (makeEvidenceResultJson evidence ""))
  else .error "unsupported evidence kind"

/-- Stores the evidence that the body of a request asks for. -/
def createStoredEvidence (sessionId : Bytes) (t : Turn Daemon) : Reply :=
  match x.request.parsedBody (parseJsonObjectBody x.lib) with
  | none => (t, errorResponse 400 "invalid evidence request")
  | some body =>
      match jsonStringField body "kind", jsonStringField body "title" with
      | some kind, some title =>
          match x.requestedDocument t sessionId body kind with
          | .error message => (t, errorResponse 400 message)
          | .ok (kind, document) =>
              let created := t.socket.evidence.createEvidence kind sessionId (utf8 x.evidenceId)
                (utf8 title) document x.answers.nowUnixMs
              let t := t.modify ({ · with evidence := created.1 })
              match created.2 with
              | none => (t, errorResponse 500 "unable to save evidence")
              | some summary => (t, { status := 201, body := .storedEvidenceSummary summary })
      | _, _ => (t, errorResponse 400 "invalid evidence request")

/-- A stored log snapshot is shown when its document is a JSON text.
Source: `http_shared.cpp` `MakeStoredEvidenceRecordJson`. -/
def makeStoredEvidenceRecordJson (record : StoredEvidenceRecord) : HttpResponse :=
  if record.evidenceJson.any fun evidence => ((textOf evidence).bind x.lib.parse).isNone then
    errorResponse 500 "invalid stored evidence"
  else { status := 200, body := .storedEvidence record }

/-- The evidence of a session as a whole, or one piece of it.
Source: `http_shared.cpp` `HandleStoredEvidenceRequest`. -/
def handleStoredEvidenceRequest (sessionId : Bytes) (evidenceId : Option Bytes) (t : Turn Daemon) :
    Reply :=
  let store := t.socket.evidence
  if !x.context.storageRoot then (t, errorResponse 503 "storage root unavailable")
  else
    match evidenceId with
    | none =>
        match x.request.method with
        | .get =>
            guarded t (x.require t .observeSessions) <|
              (t, { status := 200, body := .storedEvidenceList (store.listEvidence sessionId) })
        | .post => guarded t (x.require t .controlSession) (x.createStoredEvidence sessionId t)
        | _ => (t, errorResponse 405 "method not allowed")
    | some evidenceId =>
        if evidenceId.isEmpty || evidenceId.contains LexicalPath.slash then
          (t, errorResponse 404 "not found")
        else
          match x.request.method with
          | .get =>
              guarded t (x.require t .observeSessions) <|
                match store.loadEvidence sessionId evidenceId with
                | none => (t, errorResponse 404 "evidence not found")
                | some record => (t, x.makeStoredEvidenceRecordJson record)
          | .delete =>
              guarded t (x.require t .controlSession) <|
                match store.removeEvidence sessionId evidenceId with
                | (store, false) =>
                    (t.modify ({ · with evidence := store }), errorResponse 404 "evidence not found")
                | (store, true) =>
                    (t.modify ({ · with evidence := store }), { status := 200, body := .status "ok" })
          | _ => (t, errorResponse 405 "method not allowed")

/-! ### Evidence -/

/-- The title of a session, when there is one. -/
def sessionTitle (t : Turn Daemon) (sessionId : String) : String :=
  (((t.manager.findEntry sessionId).bind (·.metadata?)).map (·.title)).getD ""

/-- Source: `http_shared.cpp` `ActorContextFromHeader`. -/
def actorContextFromHeader (t : Turn Daemon) : Option EvidenceActorContext :=
  if x.request.actorSession.isEmpty then none
  else
    some
      { actorSessionId := x.request.actorSession
        actorTitle := ((textOf x.request.actorSession).map (sessionTitle t)).getD "" }

/-- Source: `http_shared.cpp` `DefaultStoredEvidenceTitle`. -/
def defaultStoredEvidenceTitle (result : EvidenceResult) : Bytes :=
  if result.operation = .search ∧ ¬ result.query.isEmpty then
    utf8 (result.operation.toString ++ " evidence: ") ++ result.query
  else utf8 (result.operation.toString ++ " evidence")

/-- Remembers who looked. -/
def observe (t : Turn Daemon) (result : EvidenceResult) : Turn Daemon :=
  match assemble result (sessionTitle t result.source.sessionId) (x.actorContextFromHeader t)
    x.answers.nowUnixMs with
  | none => t
  | some observation =>
      if x.context.observationStore then
        t.modify fun d => { d with observations := (d.observations.addWithStatus observation).1 }
      else t

/-- Source: `http_shared.cpp` `FinalizeEvidenceResponse`. -/
def finalizeEvidenceResponse (result : EvidenceResult) (persist : Bool) (persistedTitle : Bytes)
    (t : Turn Daemon) : Reply :=
  let t := x.observe t result
  let body := x.answers.serialize (makeEvidenceResultJson result (makeReplayToken result))
  if !persist then (t, { status := 200, body := .evidence result none })
  else if !x.context.storageRoot then (t, errorResponse 503 "storage root unavailable")
  else
    let title := if persistedTitle.isEmpty then utf8 "stored evidence" else persistedTitle
    let stored := t.socket.evidence.createLogSnapshotEvidence (utf8 result.source.sessionId)
      (utf8 x.evidenceId) title body x.answers.nowUnixMs
    let t := t.modify ({ · with evidence := stored.1 })
    if stored.2.isNone then (t, errorResponse 500 "unable to persist evidence")
    else if (((textOf body).bind x.lib.parse).bind asObject).isNone then
      (t, errorResponse 500 "unable to annotate persisted evidence")
    else (t, { status := 200, body := .evidence result (some x.evidenceId) })

/-- The title that is asked for, when one is.
Source: `http_shared.cpp` `HandleEvidenceRequest`, the parameter `title`. -/
def requestedTitle : Except HttpResponse (Option Bytes) :=
  let rawTitle := parseQueryValue x.request.target "title"
  if rawTitle.isEmpty then .ok none
  else
    match urlDecode rawTitle with
    | some title => if title.isEmpty then .error (errorResponse 400 "invalid evidence title")
        else .ok (some title)
    | none => .error (errorResponse 400 "invalid evidence title")

/-- What a target asks of a log.
Source: `http_shared.cpp` `HandleEvidenceRequest`, the branches on the operation. -/
def requestedQuery (operation : Bytes) : Except HttpResponse EvidenceQuery :=
  let target := x.request.target
  if operation = utf8 "tail" then
    match parseSizeQueryValue target "lines" 200 with
    | none => .error (errorResponse 400 "invalid line limit")
    | some lines => .ok (.tail lines)
  else if operation = utf8 "search" then
    let rawQuery := parseQueryValue target "query"
    match urlDecode rawQuery, parseSizeQueryValue target "limit" 200 with
    | none, _ => .error (errorResponse 400 "missing search query")
    | some query, limit =>
        if rawQuery.isEmpty then .error (errorResponse 400 "missing search query")
        else
          match limit with
          | none => .error (errorResponse 400 "invalid result limit")
          | some limit => .ok (.search query limit)
  else if operation = utf8 "range" then
    match parseRequiredRevisionQueryValue target "start",
      parseRequiredRevisionQueryValue target "end", parseSizeQueryValue target "limit" 200 with
    | some revisionStart, some revisionEnd, some limit =>
        .ok (.range revisionStart revisionEnd limit)
    | some _, some _, none => .error (errorResponse 400 "invalid result limit")
    | _, _, _ => .error (errorResponse 400 "missing revision range")
  else if operation = utf8 "context" then
    match parseRequiredRevisionQueryValue target "revision", parseSizeQueryValue target "before" 80,
      parseSizeQueryValue target "after" 120 with
    | some revision, some before, some after => .ok (.context revision before after)
    | some _, _, _ => .error (errorResponse 400 "invalid context limit")
    | none, _, _ => .error (errorResponse 400 "missing revision")
  else .error (errorResponse 404 "not found")

/-- Source: `http_shared.cpp` `HandleEvidenceRequest`. -/
def handleEvidenceRequest (sessionId operation : Bytes) (t : Turn Daemon) : Reply :=
  if x.request.method ≠ .get then (t, errorResponse 405 "method not allowed")
  else
    guarded t (x.require t .observeSessions) <|
      match parseBoolQueryValue x.request.target "persist" false, x.requestedTitle,
        x.requestedQuery operation with
      | none, _, _ => (t, errorResponse 400 "invalid persist flag")
      | some _, .error response, _ => (t, response)
      | some _, .ok _, .error response => (t, response)
      | some persist, .ok title, .ok query =>
          match x.captureEvidence t sessionId query with
          | none => (t, errorResponse 404 "session not found")
          | some evidence =>
              x.finalizeEvidenceResponse evidence persist
                (title.getD (defaultStoredEvidenceTitle evidence)) t

end Exchange

end Sentrits.Net.Http
