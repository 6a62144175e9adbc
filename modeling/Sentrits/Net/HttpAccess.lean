import Sentrits.Net.HttpRoutes

/-!
# Requests without a token

Every route of the remote listener but one either only looks or asks for a token first. The one that
does neither starts a pairing, and touches nothing but the requests that wait to be approved.

* `dispatch_of_unapproved`: **no other route changes anything** for a request without the token of
  an approved device.
* `OnlyPairing`: what the one route may change.
* `onlyPairing_handleRequest`: **over every method, target, header and body**, that is all there is.

Source: `src/net/http_shared.cpp`.
-/

namespace Sentrits.Net.Http.Exchange

open Found Auth Store

variable {x : Exchange} {t : Turn Daemon}

/-! ### The checks -/

/-- Behind the check of a token nothing happens. -/
theorem guarded_require (h : x.IsUnapproved t) {action : AuthorizationAction}
    (haction : action.isLocal = false) (otherwise : Reply) :
    (guarded t (x.require t action) otherwise).1 = t := by
  exact guarded_of_refused t (isSome_requireAuthorization h haction) otherwise

/-- Behind a check that lets only the host through, neither. -/
theorem guarded_requireLocal (h : x.IsUnapproved t) (action : AuthorizationAction)
    (otherwise : Reply) : (guarded t (x.requireLocal t action) otherwise).1 = t := by
  exact guarded_of_refused t (isSome_requireLocalAuthorization h action) otherwise

/-- What is for the host changes nothing for a stranger. -/
theorem guarded_requireLocalHostAdmin (h : x.IsUnapproved t) (otherwise : Reply) :
    (guarded t (x.requireLocalHostAdmin t) otherwise).1 = t := by
  exact guarded_requireLocal h .configureHost otherwise

/-! ### The handlers that check on their way -/

/-- The start page changes nothing. -/
theorem handleRoot_of_unapproved (h : x.IsUnapproved t) : (x.handleRoot t).1 = t := by
  unfold handleRoot
  dsimp only
  split_ifs
  · exact guarded_requireLocalHostAdmin h _
  · rfl

/-- The pages for the host change nothing. -/
theorem handleHostPage_of_unapproved (h : x.IsUnapproved t) (asset contentType : String) :
    (x.handleHostPage asset contentType t).1 = t := by
  unfold handleHostPage
  split_ifs
  · rfl
  · exact guarded_requireLocalHostAdmin h _

/-- The pages for remote clients change nothing. -/
theorem handleRemotePage_fst (asset contentType : String) :
    (x.handleRemotePage asset contentType t).1 = t := by
  unfold handleRemotePage
  split_ifs
  · rfl
  · rfl

/-- Their files change nothing. -/
theorem handleRemoteAssets_fst (targetPath : Bytes) :
    (x.handleRemoteAssets targetPath t).1 = t := by
  unfold handleRemoteAssets
  dsimp only
  split
  · rfl
  · rfl

/-- A claim only looks. -/
theorem handlePairingClaim_fst : (x.handlePairingClaim t).1 = t := by
  unfold handlePairingClaim
  split_ifs
  · rfl
  · split
    · rfl
    · split
      · rfl
      · split
        · rfl
        · rfl
        · rfl

/-- No template is changed. -/
theorem handleTemplatesRequest_of_unapproved (h : x.IsUnapproved t) (requestPath : Bytes) :
    (x.handleTemplatesRequest requestPath t).1 = t := by
  unfold handleTemplatesRequest
  dsimp only
  split_ifs
  · rfl
  · rfl
  · exact guarded_require h rfl _
  · rfl
  · split
    · exact guarded_require h rfl _
    · exact guarded_require h rfl _
    · exact guarded_require h rfl _
    · rfl
  · rfl

/-- No stored evidence is changed. -/
theorem handleStoredEvidenceRequest_of_unapproved (h : x.IsUnapproved t) (sessionId : Bytes)
    (evidenceId : Option Bytes) : (x.handleStoredEvidenceRequest sessionId evidenceId t).1 = t := by
  unfold handleStoredEvidenceRequest
  dsimp only
  split_ifs
  · rfl
  · cases evidenceId with
    | none =>
        dsimp only
        split
        · exact guarded_require h rfl _
        · exact guarded_require h rfl _
        · rfl
    | some evidenceId =>
        dsimp only
        split_ifs
        · rfl
        · split
          · exact guarded_require h rfl _
          · exact guarded_require h rfl _
          · rfl

/-- No evidence is stored. -/
theorem handleEvidenceRequest_of_unapproved (h : x.IsUnapproved t) (sessionId operation : Bytes) :
    (x.handleEvidenceRequest sessionId operation t).1 = t := by
  unfold handleEvidenceRequest
  split_ifs
  · rfl
  · exact guarded_require h rfl _

/-! ### All routes -/

/-- **No route but that of a pairing request changes anything** for a request without the token of
an approved device. -/
theorem dispatch_of_unapproved (h : x.IsUnapproved t) {route : HttpRoute}
    (hroute : route ≠ .pairingRequest) : (x.dispatch t route).1 = t := by
  cases route with
  | pairingRequest => exact absurd rfl hroute
  -- routes that only look
  | preflight => rfl
  | health => rfl
  | remotePage asset contentType => exact handleRemotePage_fst asset contentType
  | vendorAsset asset contentType => rfl
  | remoteAssets targetPath => exact handleRemoteAssets_fst targetPath
  | pairingClaim => exact handlePairingClaim_fst
  | hostInfo => rfl
  | discoveryInfo => rfl
  | notFound => rfl
  -- routes that check on their way
  | root => exact handleRoot_of_unapproved h
  | hostPage asset contentType => exact handleHostPage_of_unapproved h asset contentType
  | templates requestPath => exact handleTemplatesRequest_of_unapproved h requestPath
  | evidence sessionId operation => exact handleEvidenceRequest_of_unapproved h sessionId operation
  | storedEvidence sessionId evidenceId =>
      exact handleStoredEvidenceRequest_of_unapproved h sessionId evidenceId
  -- routes for the host alone
  | uiAssets targetPath => exact guarded_requireLocalHostAdmin h _
  | pendingPairings => exact guarded_requireLocal h _ _
  | pairingApprove => exact guarded_requireLocal h _ _
  | pairingReject => exact guarded_requireLocal h _ _
  | hostConfig => exact guarded_requireLocal h _ _
  | hostTlsCertificate => exact guarded_requireLocalHostAdmin h _
  | serveLog => exact guarded_requireLocalHostAdmin h _
  | localBrowserToken => exact guarded_requireLocalHostAdmin h _
  | hostSessions => exact guarded_requireLocalHostAdmin h _
  | createHostSession => exact guarded_requireLocalHostAdmin h _
  | hostClients => exact guarded_requireLocalHostAdmin h _
  | trustedDevices => exact guarded_requireLocalHostAdmin h _
  | clearHostSessions => exact guarded_requireLocalHostAdmin h _
  | stopHostSession sessionId => exact guarded_requireLocalHostAdmin h _
  | disconnectClient clientId => exact guarded_requireLocalHostAdmin h _
  | removeTrustedDevice deviceId status => exact guarded_requireLocalHostAdmin h _
  -- routes for approved devices
  | listHostRecords => exact guarded_require h rfl _
  | observations => exact guarded_require h rfl _
  | deleteHostRecord recordId => exact guarded_require h rfl _
  | sessions => exact guarded_require h rfl _
  | createSession => exact guarded_require h rfl _
  | createLogSession => exact guarded_require h rfl _
  | clearSessions => exact guarded_require h rfl _
  | snapshot sessionId => exact guarded_require h rfl _
  | file sessionId => exact guarded_require h rfl _
  | tail sessionId => exact guarded_require h rfl _
  | input sessionId => exact guarded_require h rfl _
  | messages sessionId => exact guarded_require h rfl _
  | groups sessionId => exact guarded_require h rfl _
  | stop sessionId => exact guarded_require h rfl _
  | env sessionId => exact guarded_require h rfl _
  | session sessionId => exact guarded_require h rfl _

/-! ### Pairing requests -/

/-- The pairing store, as a turn has it. -/
def pairingStore (t : Turn Daemon) : PairingStore := t.socket.pairing.pairingStore

/-- Between two turns only the pairing requests have changed: the sessions and the calls are the
same, and so is everything the daemon keeps, but that some expired requests are gone and that there
may be one with the id that was drawn. -/
structure OnlyPairing (x : Exchange) (t t' : Turn Daemon) : Prop where
  manager : t'.manager = t.manager
  issued : t'.issued = t.issued
  daemon : t'.socket =
    { t.socket with pairing := { t.socket.pairing with pairingStore := pairingStore t' } }
  starts : PairingService.StartsPairing x.answers.nowUnixMs t.socket.pairing.pairingRequestTtlMs
    x.answers.pairingId (pairingStore t) (pairingStore t')

/-- Nothing changes where nothing is done. -/
theorem OnlyPairing.refl (x : Exchange) (t : Turn Daemon) : OnlyPairing x t t where
  manager := rfl
  issued := rfl
  daemon := rfl
  starts := ⟨rfl, pairingStore t, .refl _ _ _, Or.inl rfl⟩

/-- **What asking to be paired does.** -/
theorem onlyPairing_handlePairingRequest (x : Exchange) (t : Turn Daemon) :
    OnlyPairing x t (x.handlePairingRequest t).1 := by
  unfold handlePairingRequest
  split_ifs
  · exact .refl x t
  rcases x.request.parsedBody (parsePairingRequest x.lib) with _ | payload
  · exact .refl x t
  · obtain ⟨store, hstarts, heq⟩ := PairingService.startPairing_spec t.socket.pairing
      payload.deviceName payload.deviceType x.answers.nowUnixMs x.answers.pairingId
      x.answers.pairingCode
    dsimp only
    rw [heq]
    split
    · exact ⟨rfl, rfl, rfl, hstarts⟩
    · exact ⟨rfl, rfl, rfl, hstarts⟩

/-- **Requests without the token of an approved device**, whatever their method, target, headers and
body: nothing changes but the pairing requests. -/
theorem onlyPairing_handleRequest (h : x.IsUnapproved t) :
    OnlyPairing x t (x.handleRequest t).1 := by
  unfold handleRequest
  by_cases hroute : route x.context x.request = .pairingRequest
  · rw [hroute]
    exact onlyPairing_handlePairingRequest x t
  · rw [dispatch_of_unapproved h hroute]
    exact .refl x t

/-- Somebody with a token that was never given out wants to stop a session. -/
def stranger : Exchange where
  lib := JsonText.compactJson
  answers := .idle
  context := {}
  request :=
    { method := .post
      target := Bytes.utf8 "/sessions/s_1/stop"
      authorization := some (Bytes.utf8 "Bearer 00") }

/-- A session whose process runs. -/
def runningEntry : Service.SessionEntry :=
  { Service.SessionManager.logEntry "s_1" { commandShell := some "make" } (some {}) with
    logProcess := some { pid := some 7 } }

/-- A host with a session and an approved device. -/
def approvedHost : Turn Daemon where
  manager := { sessions := [runningEntry] }
  socket :=
    { pairing :=
        { pairingStore :=
            { approved :=
                [{ deviceId := { value := "d_1" }
                   deviceName := "Phone"
                   deviceType := .mobile
                   bearerToken := "a1"
                   approvedAtUnixMs := 1 }] } } }

/-- The stranger changes nothing, and the session is not stopped. -/
theorem onlyPairing_stranger :
    OnlyPairing stranger approvedHost (stranger.handleRequest approvedHost).1 ∧
      (stranger.handleRequest approvedHost).1.manager.sessions = [runningEntry] := by
  have honly : OnlyPairing stranger approvedHost (stranger.handleRequest approvedHost).1 :=
    onlyPairing_handleRequest ⟨rfl, rfl, by decide⟩
  refine ⟨honly, ?_⟩
  rw [honly.manager]
  rfl

end Sentrits.Net.Http.Exchange
