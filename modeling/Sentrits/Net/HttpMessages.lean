import Sentrits.Auth.Authorizer
import Sentrits.Auth.PairingService
import Sentrits.Net.HostIdentityRequests
import Sentrits.Net.LocalController
import Sentrits.Net.QueryParsing
import Sentrits.Net.StaticAssets
import Sentrits.Service.Observations
import Sentrits.Store.StoredDocuments

/-!
# Requests, answers and the check between them

What the handlers of the HTTP listeners read and what they answer, what they may change, and the
check that comes before: a request without the right to what it asks for is refused.

* `HttpRequest`, `HttpRouteContext`, `Daemon`: a request, where it came in, and what it meets.
* `requireAuthorization`, `requireLocalAuthorization`: the refusal of a request, if it is refused.
* `guarded`: a handler behind such a check; `guarded_of_refused` says that it does nothing then.
* `Unapproved`: a request to the remote listener without the token of an approved device;
  `isSome_requireAuthorization`: **it is refused whatever it asks for.**

Sources: `include/vibe/net/http_shared.h`, `src/net/http_shared.cpp`, `src/net/request_parsing.cpp`.
-/

namespace Sentrits.Net.Http

open Found Found.Bytes Found.Json Auth Session Store Service
open StaticAssets (ListenerRole AssetEnvironment Asset)

/-! ### Requests -/

/-- The verbs the routes ask for, and the rest. -/
inductive HttpVerb
  | options
  | get
  | post
  | put
  | delete
  | other
  deriving DecidableEq

/-- What the handlers read of a request. -/
structure HttpRequest where
  method : HttpVerb
  target : Bytes
  /-- The field `Authorization`, when there is one. -/
  authorization : Option Bytes := none
  /-- The field `X-Sentrits-Actor-Session`, empty when there is none. -/
  actorSession : Bytes := []
  body : Bytes := []
  deriving DecidableEq

/-- The body as the JSON parser takes it: nothing that is not text has a value. -/
def HttpRequest.parsedBody {α : Type} (request : HttpRequest) (parse : String → Option α) : Option α :=
  (textOf request.body).bind parse

/-- Which of its pointers are set, and what else the handlers read of it.
Source: `http_shared.h` `HttpRouteContext`. -/
structure HttpRouteContext where
  listenerRole : ListenerRole := .remoteClient
  isLocalRequest : Bool := false
  authorizer : Bool := true
  pairingService : Bool := true
  pairingStore : Bool := true
  hostConfigStore : Bool := true
  hostAdmin : Bool := true
  observationStore : Bool := true
  storageRoot : Bool := true
  remoteTlsEnabled : Bool := false
  remoteListenerHost : String := ""
  remoteListenerPort : UInt16 := 0
  remoteTlsCertificatePath : String := ""
  deriving DecidableEq

/-! ### What a request meets -/

/-- A socket that is attached to a session.
Source: `host_admin.h` `AttachedClientInfo`, as far as it does not come from the session. -/
structure AttachedClient where
  clientId : String
  sessionId : String
  deriving DecidableEq

/-- A viewport a session was asked to keep. -/
structure ViewportUpdate where
  sessionId : String
  viewId : Bytes
  viewportSize : TerminalSize
  deriving DecidableEq

/-- What the daemon keeps beside its sessions. -/
structure Daemon where
  /-- The file of the host identity. -/
  hostIdentity : Option String := none
  pairing : PairingService := {}
  templates : PromptTemplateStore := {}
  evidence : StoredEvidenceStore := {}
  observations : ObservationStore := {}
  clients : List AttachedClient := []
  viewports : List ViewportUpdate := []
  deriving DecidableEq

/-- Source: `session_manager.h` `FileReadStatus`. -/
inductive FileReadStatus
  | ok
  | sessionNotFound
  | invalidPath
  | workspaceUnavailable
  | notFound
  | notRegularFile
  | ioError
  deriving DecidableEq

/-- Source: `session_manager.h` `SessionFileReadResult`. -/
structure SessionFileReadResult where
  status : FileReadStatus := .sessionNotFound
  workspacePath : Bytes := []
  content : Bytes := []
  sizeBytes : ℕ := 0
  truncated : Bool := false
  deriving DecidableEq

/-- What the environment answers while a request is handled, and what calls of the session manager
answer that only look at it. -/
structure HttpAnswers extends CallAnswers where
  /-- The clock, and the clock when an approval is recorded. -/
  nowUnixMs : ℤ := 0
  approvedAtUnixMs : ℤ := 0
  /-- What `MakeRandomHexToken` draws. -/
  token : String := ""
  /-- What the pairing service draws. -/
  pairingId : String := ""
  pairingCode : String := ""
  deviceId : String := ""
  bearerToken : String := ""
  /-- `SaveHostIdentity` succeeds. -/
  identitySaved : Bool := true
  create : CreateAnswers
  createLog : LogCreateAnswers
  /-- What `TailEvidence` and its siblings find. -/
  evidence : SessionManager → String → EvidenceQuery → Option EvidenceResult
  /-- What the library writes for a value with strings that need not be text. -/
  serialize : ByteJson → Bytes := ByteJson.print
  /-- What `SessionManager::ReadFile` finds. -/
  readFile : SessionManager → String → Bytes → ℕ → SessionFileReadResult
  /-- What `GetViewportSnapshot` finds. -/
  viewport : Option ViewportSnapshot := none
  /-- The lines of the serve log, when there is one. -/
  serveLog : Option (List Bytes) := none
  assets : AssetEnvironment
  /-- The files that can be read. -/
  file : Bytes → Option Bytes

/-- An environment in which nothing can be started and no file be read. -/
def HttpAnswers.idle : HttpAnswers where
  create :=
    { candidates := [], resolved := .error "", bootstrapShell := [], start := { started := false } }
  createLog := { candidates := [], resolved := .error "", start := { started := false } }
  evidence := fun _ _ _ => none
  readFile := fun _ _ _ _ => {}
  assets := { getenv := fun _ => none, compiledRoot := [], currentPath := [] }
  file := fun _ => none

/-! ### Answers -/

/-- What is shown in an answer; the texts of `src/net/json.cpp` are made of it. -/
inductive ResponseBody
  | empty
  | text (content : String)
  | file (content : Bytes)
  | error (message : String) (detail : String := "") (sessionId : Option String := none)
  | status (status : String)
  | removedCount (count : ℕ)
  | sent (targetSessionId kind : String) (payloadSizeBytes : ℕ)
  | groupTags (session : SessionEntry)
  | pairingRequest (request : PairingRequest)
  | pairingRecord (record : PairingRecord)
  | pendingPairings (requests : List PairingRequest)
  | trustedDevices (records : List PairingRecord)
  | hostInfo (hostIdentity : Option HostIdentity) (remoteTlsEnabled : Bool)
  | discoveryInfo (hostIdentity : Option HostIdentity) (context : HttpRouteContext)
  | launchRecords (records : List LaunchRecord)
  | serveLog (entries : Option (List Bytes))
  | observations (events : List ObservationEvent)
  | clients (clients : List AttachedClient)
  | sessions (sessions : List SessionEntry) (clients : Option (List AttachedClient))
  | session (session : SessionEntry) (clients : Option (List AttachedClient))
  | snapshot (session : SessionEntry) (viewport : Option ViewportSnapshot)
  | tail (slice : OutputSlice)
  | environment (environment : EffectiveEnvironment)
  | readFile (result : SessionFileReadResult)
  | evidence (result : EvidenceResult) (storedEvidenceId : Option String)
  | templates (summaries : List PromptTemplateSummary)
  | template (template : PromptTemplate)
  | storedEvidenceList (summaries : List StoredEvidenceSummary)
  | storedEvidenceSummary (summary : StoredEvidenceSummary)
  | storedEvidence (record : StoredEvidenceRecord)
  deriving DecidableEq

/-- Source: `http_shared.cpp` `MakeJsonResponse`, `MakeTextResponse`. -/
structure HttpResponse where
  status : ℕ
  contentType : String := "application/json; charset=utf-8"
  body : ResponseBody
  deriving DecidableEq

/-- An answer that says what went wrong. -/
def errorResponse (status : ℕ) (message : String) : HttpResponse :=
  { status, body := .error message }

/-- A handler's answer, and what it leaves. -/
abbrev Reply := Turn Daemon × HttpResponse

/-! ### The check -/

/-- Source: `http_shared.cpp` `ExtractBearerToken`. -/
def extractBearerToken (request : HttpRequest) : Bytes :=
  match request.authorization with
  | none => []
  | some header =>
      if utf8 "Bearer " <+: header then header.drop (utf8 "Bearer ").length else []

/-- Source: `http_shared.cpp` `BuildRequestContext`. -/
def buildRequestContext (request : HttpRequest) (context : HttpRouteContext) : RequestContext where
  bearerToken := extractBearerToken request
  isLocalRequest := context.isLocalRequest

/-- Source: `http_shared.cpp` `RequireAuthorization`. -/
def requireAuthorization (request : HttpRequest) (context : HttpRouteContext) (store : PairingStore)
    (action : AuthorizationAction) : Option HttpResponse :=
  if context.listenerRole = .adminLocal ∧ context.isLocalRequest ∧
      (action = .observeSessions ∨ action = .controlSession) then none
  else if !context.authorizer then none
  else
    let result := authorize store (buildRequestContext request context) action
    if result.authorized then none
    else
      some (errorResponse (if result.authenticated then 403 else 401)
        (if result.reason.isEmpty then "request rejected" else result.reason))

/-- Source: `http_shared.cpp` `RequireLocalAuthorization`. -/
def requireLocalAuthorization (request : HttpRequest) (context : HttpRouteContext)
    (store : PairingStore) (action : AuthorizationAction) : Option HttpResponse :=
  if context.listenerRole ≠ .adminLocal then some (errorResponse 404 "not found")
  else if !context.isLocalRequest then some (errorResponse 403 "local access required")
  else requireAuthorization request context store action

/-- A handler behind a check. -/
def guarded (t : Turn Daemon) (refusal : Option HttpResponse) (otherwise : Reply) : Reply :=
  match refusal with
  | some response => (t, response)
  | none => otherwise

/-- A refused request changes nothing. -/
theorem guarded_of_refused (t : Turn Daemon) {refusal : Option HttpResponse}
    (h : refusal.isSome = true) (otherwise : Reply) : (guarded t refusal otherwise).1 = t := by
  obtain ⟨response, rfl⟩ := Option.isSome_iff_exists.mp h
  rfl

/-- A request to the remote listener without the token of an approved device. -/
structure Unapproved (request : HttpRequest) (context : HttpRouteContext) (store : PairingStore) :
    Prop where
  remote : context.listenerRole = .remoteClient
  authorizer : context.authorizer = true
  token : ¬ Approved store (extractBearerToken request)

section Unapproved

variable {request : HttpRequest} {context : HttpRouteContext} {store : PairingStore}

/-- **It is refused whatever it asks for**, as long as that is not for the host alone. -/
theorem isSome_requireAuthorization (h : Unapproved request context store)
    {action : AuthorizationAction} (haction : action.isLocal = false) :
    (requireAuthorization request context store action).isSome = true := by
  have hrefused : (authorize store (buildRequestContext request context) action).authorized = false :=
    not_authorized_of_unapproved h.token haction
  unfold requireAuthorization
  rw [if_neg (by simp [h.remote]), if_neg (by simp [h.authorizer])]
  dsimp only
  rw [hrefused]
  rfl

/-- What is for the host alone is not found there. -/
theorem isSome_requireLocalAuthorization (h : Unapproved request context store)
    (action : AuthorizationAction) :
    (requireLocalAuthorization request context store action).isSome = true := by
  unfold requireLocalAuthorization
  rw [if_pos (by simp [h.remote])]
  rfl

end Unapproved

/-! ### Bodies -/

/-- Source: `request_parsing.h` `PairingRequestPayload`. -/
structure PairingRequestPayload where
  deviceName : String
  deviceType : DeviceType
  deriving DecidableEq

/-- Source: `request_parsing.cpp` `ParsePairingRequest`. -/
def parsePairingRequest (lib : JsonLibrary) (body : String) : Option PairingRequestPayload := do
  let object ← (← lib.parse body).asObject
  let deviceName ← required asString (ifContains object "deviceName")
  let deviceTypeName ← required asString (ifContains object "deviceType")
  let deviceType :=
    if deviceTypeName = "mobile" then .mobile
    else if deviceTypeName = "desktop" then .desktop
    else if deviceTypeName = "browser" then .browser
    else .unknown
  some { deviceName, deviceType }

/-- Source: `request_parsing.h` `PairingApprovalPayload`, `PairingClaimPayload`. -/
structure PairingApprovalPayload where
  pairingId : String
  code : String
  deriving DecidableEq

/-- Source: `request_parsing.cpp` `ParsePairingApprovalRequest`, `ParsePairingClaimRequest`. -/
def parsePairingApprovalRequest (lib : JsonLibrary) (body : String) :
    Option PairingApprovalPayload := do
  let object ← (← lib.parse body).asObject
  let pairingId ← required asString (ifContains object "pairingId")
  let code ← required asString (ifContains object "code")
  some { pairingId, code }

/-- Source: `request_parsing.h` `SessionGroupTagsUpdatePayload`. -/
structure SessionGroupTagsUpdatePayload where
  mode : SessionGroupTagsUpdateMode
  tags : List String
  deriving DecidableEq

/-- Source: `request_parsing.cpp` `ParseSessionGroupTagsUpdateRequest`. -/
def parseSessionGroupTagsUpdateRequest (lib : JsonLibrary) (body : String) :
    Option SessionGroupTagsUpdatePayload := do
  let object ← (← lib.parse body).asObject
  let modeName ← required asString (ifContains object "mode")
  let tags ← orDefault [] parseNormalizedTagsArray (ifContains object "tags")
  if modeName = "add" then some { mode := .add, tags }
  else if modeName = "remove" then some { mode := .remove, tags }
  else if modeName = "set" then some { mode := .set, tags }
  else none

/-- Source: `http_shared.cpp` `ParseJsonObjectBody`. -/
def parseJsonObjectBody (lib : JsonLibrary) (body : String) : Option (List (String × Json)) := do
  (← lib.parse body).asObject

/-- A field that is a text, and not the empty one.
Source: `http_shared.cpp` `JsonStringField`. -/
def jsonStringField (object : List (String × Json)) (field : String) : Option String :=
  required asNonEmptyString (ifContains object field)

/-- A whole number that is not negative. -/
def asUnsigned (value : Json) : Option ℕ := value.asUInt64.map (·.toNat)

/-- Source: `http_shared.cpp` `JsonSizeField`. -/
def jsonSizeField (object : List (String × Json)) (field : String) (defaultValue : ℕ) : Option ℕ :=
  orDefault defaultValue (fun value => (asUnsigned value).filter (· ≠ 0)) (ifContains object field)

/-- Source: `http_shared.cpp` `JsonRevisionField`. -/
def jsonRevisionField (object : List (String × Json)) (field : String) : Option ℕ :=
  required asUnsigned (ifContains object field)

/-- What a body asks of a log.
Source: `http_shared.cpp` `CaptureEvidenceFromRequest`. -/
def evidenceQueryOf (object : List (String × Json)) : Option EvidenceQuery := do
  let operation ← jsonStringField object "operation"
  if operation = "tail" then
    let lines ← jsonSizeField object "lines" 200
    some (.tail lines)
  else if operation = "search" then
    let query ← jsonStringField object "query"
    let limit ← jsonSizeField object "limit" 200
    some (.search (utf8 query) limit)
  else if operation = "range" then
    let revisionStart ← jsonRevisionField object "start"
    let revisionEnd ← jsonRevisionField object "end"
    let limit ← jsonSizeField object "limit" 200
    some (.range revisionStart revisionEnd limit)
  else if operation = "context" then
    let revision ← jsonRevisionField object "revision"
    let before ← jsonSizeField object "before" 80
    let after ← jsonSizeField object "after" 120
    some (.context revision before after)
  else none

end Sentrits.Net.Http
