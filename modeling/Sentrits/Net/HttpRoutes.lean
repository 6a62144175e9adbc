import Sentrits.Net.HttpSessionHandlers

/-!
# The router of the HTTP listeners

A request goes through a long list of tests of its method and its target; the first one it passes
says what answers it. The tests read the request and the listener only, so the list is one function
and what the routes do is another.

* `HttpRoute`, `route`: where a request goes.
* `dispatch`, `handleRequest`: what happens there.

Source: `src/net/http_shared.cpp`.
-/

namespace Sentrits.Net.Http

open Found Found.Bytes Found.Keyed Auth Session Store Service
open StaticAssets (stripQueryString isUiStaticAssetPath loadAsset hostUiRoots remoteUiRoots vendorRoots
  Asset guessContentType)

/-! ### Where a request goes -/

/-- What answers a request. -/
inductive HttpRoute
  | preflight
  | health
  | templates (requestPath : Bytes)
  /-- The page of either listener. -/
  | root
  /-- An asset of the host's page. -/
  | hostPage (asset contentType : String)
  /-- An asset of the remote client's page. -/
  | remotePage (asset contentType : String)
  | vendorAsset (asset contentType : String)
  | remoteAssets (targetPath : Bytes)
  | uiAssets (targetPath : Bytes)
  | pairingRequest
  | pendingPairings
  | pairingApprove
  | pairingReject
  | pairingClaim
  | hostConfig
  | listHostRecords
  | hostTlsCertificate
  | hostInfo
  | serveLog
  | observations
  | discoveryInfo
  | localBrowserToken
  | hostSessions
  | createHostSession
  | hostClients
  | trustedDevices
  | clearHostSessions
  | stopHostSession (sessionId : Bytes)
  | disconnectClient (clientId : Bytes)
  | removeTrustedDevice (deviceId : Bytes) (status : String)
  | deleteHostRecord (recordId : Bytes)
  | sessions
  | createSession
  | createLogSession
  | clearSessions
  | snapshot (sessionId : Bytes)
  | file (sessionId : Bytes)
  | evidence (sessionId operation : Bytes)
  | storedEvidence (sessionId : Bytes) (evidenceId : Option Bytes)
  | tail (sessionId : Bytes)
  | input (sessionId : Bytes)
  | messages (sessionId : Bytes)
  | groups (sessionId : Bytes)
  | stop (sessionId : Bytes)
  | env (sessionId : Bytes)
  | session (sessionId : Bytes)
  | notFound
  deriving DecidableEq

/-- What stands before a suffix, when that is not nothing. -/
def beforeSuffix (suffix remainder : Bytes) : Option Bytes :=
  if suffix.length < remainder.length ∧ suffix <:+ remainder then
    some (remainder.take (remainder.length - suffix.length))
  else none

/-- What stands before the first place of a marker, and behind it. -/
def aroundMarker (marker : Bytes) : Bytes → Option (Bytes × Bytes)
  | [] => none
  | ch :: rest =>
      if marker <+: ch :: rest then some ([], (ch :: rest).drop marker.length)
      else (aroundMarker marker rest).map fun (front, back) => (ch :: front, back)

/-- What stands between a prefix and a suffix. When the two overlap, the length that is computed
wraps around, and all that follows the prefix is taken. -/
def between (front back target : Bytes) : Option Bytes :=
  if front <+: target ∧ back <:+ target then
    some
      (if target.length < front.length + back.length then target.drop front.length
      else (target.drop front.length).take (target.length - front.length - back.length))
  else none

section Route

variable (context : HttpRouteContext) (request : HttpRequest)

/-- The request has the method and the whole target. -/
def isRequest (method : HttpVerb) (target : String) : Bool :=
  request.method = method ∧ request.target = utf8 target

/-- The request asks for the path, with a query or without. -/
def getsPath (path : String) : Bool :=
  request.method = .get ∧ stripQueryString request.target = utf8 path

/-- The routes of pages and their assets, and of templates. -/
def pageRoute : Option HttpRoute :=
  let targetPath := stripQueryString request.target
  if request.method = .options then some .preflight
  else if isRequest request .get "/health" then some .health
  else if targetPath = utf8 "/templates" ∨ utf8 "/templates/" <+: request.target then
    some (.templates targetPath)
  else if getsPath request "/" then some .root
  else if getsPath request "/ui" then some (.hostPage "index.html" "text/html; charset=utf-8")
  else if getsPath request "/client" ∨ getsPath request "/remote" then
    some (.remotePage "index.html" "text/html; charset=utf-8")
  else if getsPath request "/remote/app.js" then
    some (.remotePage "app.js" "application/javascript; charset=utf-8")
  else if getsPath request "/remote/app.css" then
    some (.remotePage "app.css" "text/css; charset=utf-8")
  else if getsPath request "/assets/xterm/xterm.css" then
    some (.vendorAsset "xterm/xterm.css" "text/css; charset=utf-8")
  else if getsPath request "/assets/xterm/xterm.js" then
    some (.vendorAsset "xterm/xterm.js" "application/javascript; charset=utf-8")
  else if getsPath request "/assets/xterm/addon-fit.js" then
    some (.vendorAsset "xterm/addon-fit.js" "application/javascript; charset=utf-8")
  else if request.method = .get ∧ context.listenerRole = .remoteClient ∧
      utf8 "/assets/" <+: targetPath then some (.remoteAssets targetPath)
  else if request.method = .get ∧ context.listenerRole = .adminLocal ∧ targetPath ≠ utf8 "/" ∧
      targetPath ≠ utf8 "/ui" ∧ isUiStaticAssetPath targetPath then some (.uiAssets targetPath)
  else if getsPath request "/ui/terminal" ∨
      (request.method = .get ∧ utf8 "/ui/terminal?" <+: request.target) then
    some (.hostPage "terminal.html" "text/html; charset=utf-8")
  else if getsPath request "/ui/app.js" then
    some (.hostPage "app.js" "application/javascript; charset=utf-8")
  else if getsPath request "/ui/app.css" then
    some (.hostPage "app.css" "text/css; charset=utf-8")
  else if getsPath request "/ui/terminal.js" then
    some (.hostPage "terminal.js" "application/javascript; charset=utf-8")
  else none

/-- The routes of pairing and of the host, down to those that carry a name. -/
def hostRoute : Option HttpRoute :=
  if isRequest request .post "/pairing/request" then some .pairingRequest
  else if isRequest request .get "/pairing/pending" then some .pendingPairings
  else if isRequest request .post "/pairing/approve" then some .pairingApprove
  else if isRequest request .post "/pairing/reject" then some .pairingReject
  else if isRequest request .post "/pairing/claim" then some .pairingClaim
  else if isRequest request .post "/host/config" then some .hostConfig
  else if isRequest request .get "/host/records" then some .listHostRecords
  else if isRequest request .get "/host/tls/certificate" then some .hostTlsCertificate
  else if isRequest request .get "/host/info" then some .hostInfo
  else if isRequest request .get "/host/logs" then some .serveLog
  else if isRequest request .get "/observations" ∨
      (request.method = .get ∧ utf8 "/observations?" <+: request.target) then some .observations
  else if isRequest request .get "/discovery/info" then some .discoveryInfo
  else if isRequest request .get "/host/local-token" then some .localBrowserToken
  else if isRequest request .get "/host/sessions" then some .hostSessions
  else if isRequest request .post "/host/sessions" then some .createHostSession
  else if isRequest request .get "/host/clients" then some .hostClients
  else if isRequest request .get "/host/trusted-devices" then some .trustedDevices
  else none

/-- The routes of the host that carry a name. -/
def hostNameRoute : Option HttpRoute :=
  let target := request.target
  let targetPath := stripQueryString target
  if request.method = .post then
    if target = utf8 "/host/sessions/clear-inactive" then some .clearHostSessions
    else
      (between (utf8 "/host/sessions/") (utf8 "/stop") target).map .stopHostSession
      <|> (between (utf8 "/host/clients/") (utf8 "/disconnect") target).map .disconnectClient
      <|> (between (utf8 "/host/trusted-devices/") (utf8 "/expire") target).map
        (.removeTrustedDevice · "expired")
      <|> (between (utf8 "/host/trusted-devices/") (utf8 "/remove") target).map
        (.removeTrustedDevice · "removed")
  else if request.method = .delete ∧ utf8 "/host/records/" <+: targetPath then
    some (.deleteHostRecord (targetPath.drop (utf8 "/host/records/").length))
  else none

/-- The routes of sessions that carry no name. -/
def sessionsRoute : Option HttpRoute :=
  if isRequest request .get "/sessions" then some .sessions
  else if isRequest request .post "/sessions" then some .createSession
  else if isRequest request .post "/log-sessions" then some .createLogSession
  else if isRequest request .post "/sessions/clear-inactive" then some .clearSessions
  else none

/-- The routes of sessions that carry a name, by what stands behind `/sessions/`. -/
def sessionRoute (remainder : Bytes) : HttpRoute :=
  let ending (suffix : String) := beforeSuffix (utf8 suffix) remainder
  let gets (route : Option HttpRoute) := if request.method = .get then route else none
  let posts (route : Option HttpRoute) := if request.method = .post then route else none
  let named : Option HttpRoute :=
    (ending "/snapshot").map .snapshot
    <|> gets ((ending "/file").map .file)
    <|> (aroundMarker (utf8 "/evidence/") remainder).map (fun found => .evidence found.1 found.2)
    <|> (aroundMarker (utf8 "/stored-evidence/") remainder).map
      (fun found => .storedEvidence found.1 (some found.2))
    <|> (ending "/stored-evidence").map (.storedEvidence · none)
    <|> (aroundMarker (utf8 "/tail") remainder).map (fun found => .tail found.1)
    <|> posts ((ending "/input").map .input)
    <|> posts ((ending "/messages").map .messages)
    <|> posts ((ending "/groups").map .groups)
    <|> posts ((ending "/stop").map .stop)
    <|> gets ((ending "/env").map .env)
  named.getD (.session remainder)

/-- Source: `http_shared.cpp` `HandleRequest`, the tests. -/
def route : HttpRoute :=
  let requestPath := stripQueryString request.target
  (pageRoute context request <|> hostRoute request <|> hostNameRoute request
    <|> sessionsRoute request
    <|> if utf8 "/sessions/" <+: requestPath then
        some (sessionRoute request (requestPath.drop (utf8 "/sessions/").length))
      else none).getD .notFound

end Route

/-! ### What happens there -/

namespace Exchange

variable (x : Exchange)

/-- Source: `http_shared.cpp` `LoadHostUiAsset`. -/
def loadHostUiAsset (relativePath : Bytes) : Option Asset :=
  loadAsset x.answers.file (hostUiRoots x.answers.assets) relativePath

/-- Source: `http_shared.cpp` `LoadRemoteUiAsset`. -/
def loadRemoteUiAsset (relativePath : Bytes) : Option Asset :=
  loadAsset x.answers.file (remoteUiRoots x.answers.assets) relativePath

/-- Source: `http_shared.cpp` `LoadVendorAsset`. -/
def loadVendorAsset (relativePath : Bytes) : Option Asset :=
  loadAsset x.answers.file (vendorRoots x.answers.assets) relativePath

/-- An asset, or that it is missing. -/
def assetResponse (asset : Option Asset) (missing contentType : String) : HttpResponse :=
  match asset with
  | none => errorResponse 503 missing
  | some asset => { status := 200, contentType, body := .file asset.content }

/-- Source: `http_shared.cpp` `MakeStaticAssetResponse`. -/
def makeStaticAssetResponse (assetPath : Bytes) (asset : Option Asset) : HttpResponse :=
  assetResponse asset "ui asset missing" (guessContentType assetPath)

/-- The page of the listener. -/
def rootAsset : Option Asset :=
  if x.context.listenerRole = .adminLocal then x.loadHostUiAsset (utf8 "index.html")
  else x.loadRemoteUiAsset (utf8 "index.html")

/-- The route `/`; the asset is looked for before the check. -/
def handleRoot (t : Turn Daemon) : Reply :=
  let page := assetResponse x.rootAsset "ui asset missing" "text/html; charset=utf-8"
  if x.rootAsset.isSome ∧ x.context.listenerRole = .adminLocal then
    guarded t (x.requireLocalHostAdmin t) (t, page)
  else (t, page)

/-- The routes of assets of the host's page. -/
def handleHostPage (asset contentType : String) (t : Turn Daemon) : Reply :=
  if x.context.listenerRole ≠ .adminLocal then (t, errorResponse 404 "not found")
  else
    guarded t (x.requireLocalHostAdmin t)
      (t, assetResponse (x.loadHostUiAsset (utf8 asset)) "host ui asset missing" contentType)

/-- The routes of assets of the remote client's page. -/
def handleRemotePage (asset contentType : String) (t : Turn Daemon) : Reply :=
  if x.context.listenerRole ≠ .remoteClient then (t, errorResponse 404 "not found")
  else (t, assetResponse (x.loadRemoteUiAsset (utf8 asset)) "remote ui asset missing" contentType)

/-- The route below `/assets/` of the remote listener. -/
def handleRemoteAssets (targetPath : Bytes) (t : Turn Daemon) : Reply :=
  let relativePath := targetPath.drop 1
  match x.loadRemoteUiAsset relativePath with
  | some asset => (t, makeStaticAssetResponse relativePath (some asset))
  | none =>
      (t, makeStaticAssetResponse relativePath
        (x.loadVendorAsset (targetPath.drop (utf8 "/assets/").length)))

/-- The route of the other assets of the local listener. -/
def handleUiAssets (targetPath : Bytes) (t : Turn Daemon) : Reply :=
  let assetRelativePath := if utf8 "/ui/" <+: targetPath then targetPath.drop 4
    else targetPath.drop 1
  guarded t (x.requireLocalHostAdmin t)
    (t, makeStaticAssetResponse assetRelativePath (x.loadHostUiAsset assetRelativePath))

/-- Source: `http_shared.cpp` `HandleRequest`, the answers. -/
def dispatch (t : Turn Daemon) : HttpRoute → Reply
  | .preflight => (t, { status := 204, body := .empty })
  | .health =>
      (t, { status := 200, contentType := "text/plain; charset=utf-8", body := .text "ok\n" })
  | .templates requestPath => x.handleTemplatesRequest requestPath t
  | .root => x.handleRoot t
  | .hostPage asset contentType => x.handleHostPage asset contentType t
  | .remotePage asset contentType => x.handleRemotePage asset contentType t
  | .vendorAsset asset contentType =>
      (t, assetResponse (x.loadVendorAsset (utf8 asset)) "vendor asset missing" contentType)
  | .remoteAssets targetPath => x.handleRemoteAssets targetPath t
  | .uiAssets targetPath => x.handleUiAssets targetPath t
  | .pairingRequest => x.handlePairingRequest t
  | .pendingPairings => x.handlePendingPairings t
  | .pairingApprove => x.handlePairingApprove t
  | .pairingReject => x.handlePairingReject t
  | .pairingClaim => x.handlePairingClaim t
  | .hostConfig => x.handleHostConfig t
  | .listHostRecords => x.handleListHostRecords t
  | .hostTlsCertificate => x.handleHostTlsCertificate t
  | .hostInfo => x.handleHostInfo t
  | .serveLog => x.makeServeLogResponse t
  | .observations => x.handleObservations t
  | .discoveryInfo => x.handleDiscoveryInfo t
  | .localBrowserToken => x.handleLocalBrowserToken t
  | .hostSessions => guarded t (x.requireLocalHostAdmin t) (x.listSessions t)
  | .createHostSession => guarded t (x.requireLocalHostAdmin t) (x.handleCreateSessionRequest t)
  | .hostClients => x.handleHostClients t
  | .trustedDevices => x.handleTrustedDevices t
  | .clearHostSessions => guarded t (x.requireLocalHostAdmin t) (x.clearInactiveSessions t)
  | .stopHostSession sessionId => x.handleHostStop sessionId t
  | .disconnectClient clientId => x.handleDisconnectClient clientId t
  | .removeTrustedDevice deviceId status => x.handleRemoveTrustedDevice deviceId status t
  | .deleteHostRecord recordId => x.handleDeleteHostRecord recordId t
  | .sessions => guarded t (x.require t .observeSessions) (x.listSessions t)
  | .createSession => guarded t (x.require t .controlSession) (x.handleCreateSessionRequest t)
  | .createLogSession => guarded t (x.require t .controlSession) (x.handleCreateLogSessionRequest t)
  | .clearSessions => guarded t (x.require t .controlSession) (x.clearInactiveSessions t)
  | .snapshot sessionId => x.handleSnapshot sessionId t
  | .file sessionId => x.handleFile sessionId t
  | .evidence sessionId operation => x.handleEvidenceRequest sessionId operation t
  | .storedEvidence sessionId evidenceId => x.handleStoredEvidenceRequest sessionId evidenceId t
  | .tail sessionId => x.handleTail sessionId t
  | .input sessionId => x.handleInput sessionId t
  | .messages sessionId => x.handleMessage sessionId t
  | .groups sessionId => x.handleGroups sessionId t
  | .stop sessionId => x.handleStop sessionId t
  | .env sessionId => x.handleEnv sessionId t
  | .session sessionId => x.handleSession sessionId t
  | .notFound => (t, errorResponse 404 "not found")

/-- Source: `http_shared.cpp` `HandleRequest`. -/
def handleRequest (t : Turn Daemon) : Reply :=
  x.dispatch t (route x.context x.request)

end Exchange

end Sentrits.Net.Http
