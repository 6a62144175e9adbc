import Sentrits.Net.HttpMessages

/-!
# The handlers of the HTTP listeners

One function for each handler of the source and for each answer that the router makes by itself. All
take the exchange they are part of and the turn they act in.

* `Exchange`: a request, where it came in, and what the environment answers to it.
* `Exchange.require`, `Exchange.requireLocal`: the two checks, as a handler calls them.
* `handlePairingRequest`, `handleCreateSessionRequest`, `handleEvidenceRequest`, …: the handlers.

Source: `src/net/http_shared.cpp`.
-/

namespace Sentrits.Net.Http

open Found Found.Bytes Found.Json Found.Keyed Auth Session Store Service

/-- A request, where it came in, and what the environment answers. -/
structure Exchange where
  lib : JsonLibrary
  answers : HttpAnswers
  context : HttpRouteContext
  request : HttpRequest

namespace Exchange

variable (x : Exchange)

/-- The refusal of the request, if it is refused. -/
def require (t : Turn Daemon) (action : AuthorizationAction) : Option HttpResponse :=
  requireAuthorization x.request x.context t.socket.pairing.pairingStore action

/-- Who may do something on the host's own listener. -/
def requireLocal (t : Turn Daemon) (action : AuthorizationAction) : Option HttpResponse :=
  requireLocalAuthorization x.request x.context t.socket.pairing.pairingStore action

/-- Source: `http_shared.cpp` `RequireLocalHostAdmin`. -/
def requireLocalHostAdmin (t : Turn Daemon) : Option HttpResponse :=
  x.requireLocal t .configureHost

/-- Source: `http_shared.cpp` `RequireHostRecordsAuthorization`. -/
def requireHostRecordsAuthorization (t : Turn Daemon) : Option HttpResponse :=
  x.require t .manageHostSetups

/-- Nobody the store knows has sent the request. -/
def IsUnapproved (t : Turn Daemon) : Prop :=
  Unapproved x.request x.context t.socket.pairing.pairingStore

/-! ### What the host keeps of itself -/

/-- Source: `file_stores.cpp` `FileHostConfigStore::LoadHostIdentity`. -/
def loadHostIdentity (t : Turn Daemon) : Option HostIdentity :=
  Store.loadHostIdentity x.lib t.socket.hostIdentity

/-- The identity, or the default one. -/
def hostIdentityOrDefault (t : Turn Daemon) : HostIdentity :=
  (x.loadHostIdentity t).getD makeDefaultHostIdentity

/-- What is loaded when there is a store to load it from. -/
def optionalHostIdentity (t : Turn Daemon) : Option HostIdentity :=
  if x.context.hostConfigStore then x.loadHostIdentity t else none

/-- Source: `file_stores.cpp` `FileHostConfigStore::SaveHostIdentity`. -/
def saveHostIdentity (t : Turn Daemon) (identity : HostIdentity) : Turn Daemon × Bool :=
  if x.answers.identitySaved then
    (t.modify ({ · with hostIdentity := some (identityText x.lib identity) }), true)
  else (t, false)

/-- The sockets, when they can be counted.
Source: `http_shared.cpp` `AttachClientCounts`, `AttachClientCount`. -/
def attachedClients (t : Turn Daemon) : Option (List AttachedClient) :=
  if x.context.hostAdmin then some t.socket.clients else none

/-! ### Pairing -/

/-- Source: `http_shared.cpp` `HandlePairingRequest`. -/
def handlePairingRequest (t : Turn Daemon) : Reply :=
  if !x.context.pairingService then (t, errorResponse 503 "pairing service unavailable")
  else
    match x.request.parsedBody (parsePairingRequest x.lib) with
    | none => (t, errorResponse 400 "invalid pairing request")
    | some payload =>
        let started := t.socket.pairing.startPairing payload.deviceName payload.deviceType
          x.answers.nowUnixMs x.answers.pairingId x.answers.pairingCode
        let t := t.modify ({ · with pairing := started.1 })
        match started.2 with
        | none => (t, errorResponse 500 "failed to start pairing")
        | some request => (t, { status := 201, body := .pairingRequest request })

/-- The route `/pairing/pending`. -/
def handlePendingPairings (t : Turn Daemon) : Reply :=
  guarded t (x.requireLocal t .approvePairing) <|
    if !x.context.pairingService then (t, errorResponse 503 "pairing service unavailable")
    else
      (t, { status := 200
            body := .pendingPairings (t.socket.pairing.listPendingPairings x.answers.nowUnixMs) })

/-- Source: `http_shared.cpp` `HandlePairingApprove`. -/
def handlePairingApprove (t : Turn Daemon) : Reply :=
  guarded t (x.requireLocal t .approvePairing) <|
    if !x.context.pairingService then (t, errorResponse 503 "pairing service unavailable")
    else
      match x.request.parsedBody (parsePairingApprovalRequest x.lib) with
      | none => (t, errorResponse 400 "invalid pairing approval request")
      | some payload =>
          let approved := t.socket.pairing.approvePairing payload.pairingId payload.code
            x.answers.nowUnixMs x.answers.deviceId x.answers.bearerToken x.answers.approvedAtUnixMs
          let t := t.modify ({ · with pairing := approved.1 })
          match approved.2 with
          | none => (t, errorResponse 400 "pairing approval rejected")
          | some record => (t, { status := 200, body := .pairingRecord record })

/-- Source: `http_shared.cpp` `HandlePairingReject`. -/
def handlePairingReject (t : Turn Daemon) : Reply :=
  guarded t (x.requireLocal t .approvePairing) <|
    if !x.context.pairingService then (t, errorResponse 503 "pairing service unavailable")
    else
      match x.request.parsedBody (parsePairingApprovalRequest x.lib) with
      | none => (t, errorResponse 400 "invalid pairing decision request")
      | some payload =>
          let rejected := t.socket.pairing.rejectPairing payload.pairingId x.answers.nowUnixMs
          let t := t.modify ({ · with pairing := rejected.1 })
          if !rejected.2 then (t, errorResponse 404 "pairing request not found")
          else (t, { status := 200, body := .status "rejected" })

/-- A claim only looks at the pairing service.
Source: `http_shared.cpp` `HandlePairingClaim`. -/
def handlePairingClaim (t : Turn Daemon) : Reply :=
  if !x.context.pairingService then (t, errorResponse 503 "pairing service unavailable")
  else
    match x.request.parsedBody (parsePairingApprovalRequest x.lib) with
    | none => (t, errorResponse 400 "invalid pairing claim request")
    | some payload =>
        match t.socket.pairing.claimApprovedPairing payload.pairingId payload.code with
        | some record => (t, { status := 200, body := .pairingRecord record })
        | none =>
            match t.socket.pairing.getPairingClaimStatus payload.pairingId payload.code
              x.answers.nowUnixMs with
            | .rejected => (t, { status := 200, body := .status "rejected" })
            | .expired => (t, { status := 200, body := .status "expired" })
            | _ => (t, { status := 202, body := .status "pending" })

/-! ### The host -/

/-- Source: `http_shared.cpp` `HandleHostConfig`. -/
def handleHostConfig (t : Turn Daemon) : Reply :=
  guarded t (x.requireLocal t .configureHost) <|
    if !x.context.hostConfigStore then (t, errorResponse 503 "host config unavailable")
    else
      match x.request.parsedBody (parseHostConfigRequest x.lib) with
      | none => (t, errorResponse 400 "invalid host config request")
      | some payload =>
          match x.saveHostIdentity t (updateHostConfig (x.hostIdentityOrDefault t) payload) with
          | (t, false) => (t, errorResponse 500 "failed to save host config")
          | (t, true) =>
              (t, { status := 200
                    body := .hostInfo (x.loadHostIdentity t) x.context.remoteTlsEnabled })

/-- Source: `http_shared.cpp` `HandleListHostRecords`. -/
def handleListHostRecords (t : Turn Daemon) : Reply :=
  guarded t (x.requireHostRecordsAuthorization t) <|
    if !x.context.hostConfigStore then (t, errorResponse 503 "host config unavailable")
    else (t, { status := 200, body := .launchRecords (x.hostIdentityOrDefault t).launchRecords })

/-- Source: `http_shared.cpp` `HandleDeleteHostRecord`. -/
def handleDeleteHostRecord (recordId : Bytes) (t : Turn Daemon) : Reply :=
  guarded t (x.requireHostRecordsAuthorization t) <|
    if !x.context.hostConfigStore then (t, errorResponse 503 "host config unavailable")
    else if recordId.isEmpty then (t, errorResponse 400 "invalid record id")
    else
      match (textOf recordId).bind (deleteHostRecord (x.hostIdentityOrDefault t)) with
      | none => (t, errorResponse 404 "record not found")
      | some identity =>
          match x.saveHostIdentity t identity with
          | (t, false) => (t, errorResponse 500 "failed to delete launch record")
          | (t, true) => (t, { status := 200, body := .status "deleted" })

/-- The device that stands for the browser on the host. -/
def localDeviceId : String := "local_browser_host_ui"

/-- Source: `http_shared.cpp` `HandleLocalBrowserToken`. -/
def handleLocalBrowserToken (t : Turn Daemon) : Reply :=
  guarded t (x.requireLocalHostAdmin t) <|
    if !x.context.pairingStore then (t, errorResponse 503 "pairing store unavailable")
    else
      let store := t.socket.pairing.pairingStore
      match find PairingRecord.deviceKey localDeviceId store.approved with
      | some record => (t, { status := 200, body := .pairingRecord record })
      | none =>
          let record : PairingRecord :=
            { deviceId := { value := localDeviceId }
              deviceName := "Host Browser"
              deviceType := .browser
              bearerToken := x.answers.token
              approvedAtUnixMs := 0 }
          match store.upsertApprovedPairing record with
          | (store, saved) =>
              let t := t.modify fun d => { d with pairing := { d.pairing with pairingStore := store } }
              if !saved then (t, errorResponse 500 "failed to create local browser token")
              else (t, { status := 200, body := .pairingRecord record })

/-- Source: `http_shared.cpp` `HandleHostTlsCertificate`. -/
def handleHostTlsCertificate (t : Turn Daemon) : Reply :=
  guarded t (x.requireLocalHostAdmin t) <|
    if !x.context.hostConfigStore then (t, errorResponse 503 "host config unavailable")
    else
      let certificatePath :=
        if x.context.remoteTlsCertificatePath.isEmpty then
          ((x.loadHostIdentity t).map (·.certificatePemPath)).getD ""
        else x.context.remoteTlsCertificatePath
      if certificatePath.isEmpty then (t, errorResponse 404 "tls certificate not configured")
      else
        match x.answers.file (utf8 certificatePath) with
        | none => (t, errorResponse 404 "tls certificate file not found")
        | some certificate =>
            (t, { status := 200
                  contentType := "application/x-pem-file"
                  body := .file certificate })

/-- The route `/host/info`. -/
def handleHostInfo (t : Turn Daemon) : Reply :=
  (t, { status := 200
        body := .hostInfo (x.optionalHostIdentity t) x.context.remoteTlsEnabled })

/-- Source: `http_shared.cpp` `MakeServeLogResponse`. -/
def makeServeLogResponse (t : Turn Daemon) : Reply :=
  guarded t (x.requireLocalHostAdmin t) (t, { status := 200, body := .serveLog x.answers.serveLog })

/-- The route `/observations`. -/
def handleObservations (t : Turn Daemon) : Reply :=
  guarded t (x.require t .observeSessions) <|
    if !x.context.observationStore then (t, errorResponse 503 "observation store unavailable")
    else
      match parseSizeQueryValue x.request.target "limit" 200 with
      | none => (t, errorResponse 400 "invalid result limit")
      | some limit =>
          (t, { status := 200, body := .observations (t.socket.observations.listNewestFirst limit) })

/-- The route `/discovery/info`. -/
def handleDiscoveryInfo (t : Turn Daemon) : Reply :=
  (t, { status := 200, body := .discoveryInfo (x.optionalHostIdentity t) x.context })

/-- The route `/host/clients`. -/
def handleHostClients (t : Turn Daemon) : Reply :=
  guarded t (x.requireLocalHostAdmin t) <|
    if !x.context.hostAdmin then (t, errorResponse 503 "host admin unavailable")
    else (t, { status := 200, body := .clients t.socket.clients })

/-- The route `/host/trusted-devices`. -/
def handleTrustedDevices (t : Turn Daemon) : Reply :=
  guarded t (x.requireLocalHostAdmin t) <|
    if !x.context.pairingStore then (t, errorResponse 503 "pairing store unavailable")
    else (t, { status := 200, body := .trustedDevices t.socket.pairing.pairingStore.approved })

/-- The route `/host/clients/…/disconnect`.
Source: `http_server.cpp` `HostAdminService::DisconnectClient`. -/
def handleDisconnectClient (clientId : Bytes) (t : Turn Daemon) : Reply :=
  guarded t (x.requireLocalHostAdmin t) <|
    if !x.context.hostAdmin then (t, errorResponse 503 "host admin unavailable")
    else if clientId.isEmpty then (t, errorResponse 400 "invalid client id")
    else if t.socket.clients.any (utf8 ·.clientId = clientId) then
      (t.modify fun d => { d with clients := d.clients.eraseP (utf8 ·.clientId = clientId) },
        { status := 200, body := .status "disconnected" })
    else (t, errorResponse 404 "client not found")

/-- The routes `/host/trusted-devices/…/expire` and `/host/trusted-devices/…/remove`. -/
def handleRemoveTrustedDevice (deviceId : Bytes) (status : String) (t : Turn Daemon) : Reply :=
  guarded t (x.requireLocalHostAdmin t) <|
    if !x.context.pairingStore then (t, errorResponse 503 "pairing store unavailable")
    else if deviceId.isEmpty then (t, errorResponse 400 "invalid device id")
    else
      match textOf deviceId with
      | none => (t, errorResponse 404 "device not found")
      | some deviceId =>
          match t.socket.pairing.pairingStore.removeApprovedPairing deviceId with
          | (store, removed) =>
              let t := t.modify fun d => { d with pairing := { d.pairing with pairingStore := store } }
              if !removed then (t, errorResponse 404 "device not found")
              else (t, { status := 200, body := .status status })

end Exchange

end Sentrits.Net.Http
