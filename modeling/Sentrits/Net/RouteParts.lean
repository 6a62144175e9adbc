import Sentrits.Found.Runs
import Sentrits.Net.HttpAccess

/-!
# What a route may change

The daemon keeps several things beside its sessions. No route changes two of them.

* `Part`, `HttpRoute.part`: the parts, and the one a route may change.
* `SameBut`: an answer leaves every other part as it was.
* `sameBut_dispatch`: **every route leaves all parts but its own.**
* `parts_left_alone`: **over whole runs** a part that no request is about is left as it was.

Source: `src/net/http_shared.cpp`.
-/

namespace Sentrits.Net.Http

/-! ### The parts -/

/-- A part of what the daemon keeps; the observations are kept with the evidence they are about. -/
inductive Part
  | nothing
  | hostIdentity
  | pairing
  | templates
  | evidence
  | clients
  | viewports
  deriving DecidableEq

/-- The part a route may change. -/
def HttpRoute.part : HttpRoute → Part
  | .pairingRequest | .pairingApprove | .pairingReject | .localBrowserToken
  | .removeTrustedDevice _ _ => .pairing
  | .hostConfig | .deleteHostRecord _ | .createHostSession | .createSession => .hostIdentity
  | .templates _ => .templates
  | .evidence _ _ | .storedEvidence _ _ => .evidence
  | .disconnectClient _ => .clients
  | .snapshot _ => .viewports
  | _ => .nothing

/-- The daemon as it was, with one part as it is now. -/
def Daemon.update (before now : Daemon) : Part → Daemon
  | .nothing => before
  | .hostIdentity => { before with hostIdentity := now.hostIdentity }
  | .pairing => { before with pairing := now.pairing }
  | .templates => { before with templates := now.templates }
  | .evidence => { before with evidence := now.evidence, observations := now.observations }
  | .clients => { before with clients := now.clients }
  | .viewports => { before with viewports := now.viewports }

namespace Exchange

open Found Auth Store Service

variable {x : Exchange} {t : Turn Daemon}

/-- The answer leaves every part but one as it was. -/
def SameBut (part : Part) (t : Turn Daemon) (reply : Reply) : Prop :=
  reply.1.socket = t.socket.update reply.1.socket part

/-- An answer that changes nothing. -/
theorem sameBut_refl (part : Part) (t : Turn Daemon) (response : HttpResponse) :
    SameBut part t (t, response) := by
  cases part <;> rfl

/-- What is behind a check leaves a part if it does so when it is let through. -/
theorem sameBut_guarded {part : Part} {refusal : Option HttpResponse} {otherwise : Reply}
    (h : SameBut part t otherwise) : SameBut part t (guarded t refusal otherwise) := by
  rcases refusal with _ | response
  · exact h
  · exact sameBut_refl part t response

/-- What is answered behind a call that leaves the other parts leaves them, whether the call worked
or not. -/
theorem sameBut_called {part : Part} {called : Turn Daemon × Bool}
    (failed worked : Turn Daemon → HttpResponse) :
    called.1.socket = t.socket.update called.1.socket part →
      SameBut part t (match called with
        | (t, false) => (t, failed t)
        | (t, true) => (t, worked t)) := by
  intro h
  rcases called with ⟨t', _ | _⟩
  · exact h
  · exact h

/-! ### Pages, pairing and the host -/

/-- The start page changes nothing. -/
theorem sameBut_handleRoot : SameBut .nothing t (x.handleRoot t) := by
  unfold handleRoot
  dsimp only
  split_ifs
  · exact sameBut_guarded rfl
  · rfl

/-- The pages for the host change nothing. -/
theorem sameBut_handleHostPage (asset contentType : String) :
    SameBut .nothing t (x.handleHostPage asset contentType t) := by
  unfold handleHostPage
  split_ifs
  · rfl
  · exact sameBut_guarded rfl

/-- The pages for remote clients change nothing. -/
theorem sameBut_handleRemotePage (asset contentType : String) :
    SameBut .nothing t (x.handleRemotePage asset contentType t) := by
  unfold handleRemotePage
  split_ifs <;> rfl

/-- The files of the remote pages change nothing. -/
theorem sameBut_handleRemoteAssets (targetPath : Bytes) :
    SameBut .nothing t (x.handleRemoteAssets targetPath t) := by
  unfold handleRemoteAssets
  dsimp only
  split <;> rfl

/-- A pairing request is kept with the pairings. -/
theorem sameBut_handlePairingRequest : SameBut .pairing t (x.handlePairingRequest t) := by
  unfold handlePairingRequest
  split_ifs
  · rfl
  · split
    · rfl
    · dsimp only
      split <;> rfl

/-- Listing the pending requests changes nothing. -/
theorem sameBut_handlePendingPairings : SameBut .nothing t (x.handlePendingPairings t) := by
  apply sameBut_guarded
  split_ifs <;> rfl

/-- An approval is about the pairings only. -/
theorem sameBut_handlePairingApprove : SameBut .pairing t (x.handlePairingApprove t) := by
  apply sameBut_guarded
  split_ifs
  · rfl
  · split
    · rfl
    · dsimp only
      split <;> rfl

/-- A rejection is about the pairings only. -/
theorem sameBut_handlePairingReject : SameBut .pairing t (x.handlePairingReject t) := by
  apply sameBut_guarded
  split_ifs
  · rfl
  · split
    · rfl
    · dsimp only
      split_ifs <;> rfl

/-- A claim only asks. -/
theorem sameBut_handlePairingClaim : SameBut .nothing t (x.handlePairingClaim t) := by
  unfold handlePairingClaim
  split_ifs
  · rfl
  · split
    · rfl
    · split
      · rfl
      · split <;> rfl

/-- Saving the identity of the host changes nothing else. -/
theorem socket_saveHostIdentity (identity : HostIdentity) :
    (x.saveHostIdentity t identity).1.socket =
      t.socket.update (x.saveHostIdentity t identity).1.socket .hostIdentity := by
  unfold saveHostIdentity
  split_ifs <;> rfl

/-- New settings are part of the host's identity. -/
theorem sameBut_handleHostConfig : SameBut .hostIdentity t (x.handleHostConfig t) := by
  apply sameBut_guarded
  split_ifs
  · rfl
  · split
    · rfl
    · exact sameBut_called _ _ (socket_saveHostIdentity _)

/-- Listing the launch records changes nothing. -/
theorem sameBut_handleListHostRecords : SameBut .nothing t (x.handleListHostRecords t) := by
  apply sameBut_guarded
  split_ifs <;> rfl

/-- The launch records are part of the host's identity. -/
theorem sameBut_handleDeleteHostRecord (recordId : Bytes) :
    SameBut .hostIdentity t (x.handleDeleteHostRecord recordId t) := by
  apply sameBut_guarded
  split_ifs
  · rfl
  · rfl
  · split
    · rfl
    · exact sameBut_called _ _ (socket_saveHostIdentity _)

/-- The token of the host's own page is approved like a device. -/
theorem sameBut_handleLocalBrowserToken : SameBut .pairing t (x.handleLocalBrowserToken t) := by
  apply sameBut_guarded
  split_ifs
  · rfl
  · dsimp only
    split
    · rfl
    · split_ifs <;> rfl

/-- Reading the certificate changes nothing. -/
theorem sameBut_handleHostTlsCertificate : SameBut .nothing t (x.handleHostTlsCertificate t) := by
  apply sameBut_guarded
  split_ifs with hstore hpath
  · rfl
  · dsimp only
    split_ifs
    · rfl
    · split <;> rfl
  · dsimp only
    rw [if_neg hpath]
    split <;> rfl

/-- Listing the observations changes nothing. -/
theorem sameBut_handleObservations : SameBut .nothing t (x.handleObservations t) := by
  apply sameBut_guarded
  split_ifs
  · rfl
  · split <;> rfl

/-- Listing the clients changes nothing. -/
theorem sameBut_handleHostClients : SameBut .nothing t (x.handleHostClients t) := by
  apply sameBut_guarded
  split_ifs <;> rfl

/-- Listing the approved devices changes nothing. -/
theorem sameBut_handleTrustedDevices : SameBut .nothing t (x.handleTrustedDevices t) := by
  apply sameBut_guarded
  split_ifs <;> rfl

/-- A client that is cut off is one client less. -/
theorem sameBut_handleDisconnectClient (clientId : Bytes) :
    SameBut .clients t (x.handleDisconnectClient clientId t) := by
  apply sameBut_guarded
  split_ifs <;> rfl

/-- A removed device is a matter of the pairings. -/
theorem sameBut_handleRemoveTrustedDevice (deviceId : Bytes) (status : String) :
    SameBut .pairing t (x.handleRemoveTrustedDevice deviceId status t) := by
  apply sameBut_guarded
  split_ifs
  · rfl
  · rfl
  · split
    · rfl
    · split
      dsimp only
      split_ifs <;> rfl

/-- All that is done with templates is about templates. -/
theorem sameBut_handleTemplatesRequest (requestPath : Bytes) :
    SameBut .templates t (x.handleTemplatesRequest requestPath t) := by
  unfold handleTemplatesRequest
  dsimp only
  split_ifs
  · rfl
  · rfl
  · exact sameBut_guarded rfl
  · rfl
  · split
    · apply sameBut_guarded
      split <;> rfl
    · apply sameBut_guarded
      split
      · rfl
      · split
        · rfl
        · split <;> rfl
    · apply sameBut_guarded
      split <;> rfl
    · rfl
  · rfl

/-! ### Sessions -/

/-- A session that is created may be saved as a launch record. -/
theorem sameBut_handleCreateSessionRequest :
    SameBut .hostIdentity t (x.handleCreateSessionRequest t) := by
  unfold handleCreateSessionRequest
  split
  · rfl
  · split
    · rfl
    · dsimp only
      split
      · rfl
      · unfold autoSave
        split_ifs
        · exact socket_saveHostIdentity _
        · rfl

/-- A log session is not saved. -/
theorem sameBut_handleCreateLogSessionRequest :
    SameBut .nothing t (x.handleCreateLogSessionRequest t) := by
  unfold handleCreateLogSessionRequest
  split
  · rfl
  · split_ifs
    · rfl
    · dsimp only
      split <;> rfl

/-- Showing a session changes nothing. -/
theorem sameBut_showSession (sessionId : Bytes) (body : String → SessionEntry → HttpResponse) :
    SameBut .nothing t (showSession t sessionId body) := by
  unfold showSession
  split <;> rfl

/-- A snapshot may come with a new viewport. -/
theorem sameBut_handleSnapshot (sessionId : Bytes) :
    SameBut .viewports t (x.handleSnapshot sessionId t) := by
  apply sameBut_guarded
  split
  · rfl
  · split
    · rfl
    · split_ifs <;> rfl

/-- Reading a file changes nothing. -/
theorem sameBut_handleFile (sessionId : Bytes) : SameBut .nothing t (x.handleFile sessionId t) := by
  apply sameBut_guarded
  dsimp only
  split_ifs
  · rfl
  · split
    · rfl
    · rfl
    · rfl
    · split_ifs <;> rfl

/-- Reading a tail changes nothing. -/
theorem sameBut_handleTail (sessionId : Bytes) : SameBut .nothing t (x.handleTail sessionId t) := by
  apply sameBut_guarded
  split
  · rfl
  · exact sameBut_showSession sessionId _

/-- Neither input to a session nor the end of one is about what is kept beside the sessions. -/
theorem socket_sendInput (sessionId input : Bytes) :
    (x.sendInput t sessionId input).1.socket =
      t.socket.update (x.sendInput t sessionId input).1.socket .nothing := by
  unfold sendInput
  split <;> rfl

/-- Stopping a session changes none of the parts. -/
theorem socket_stopSession (sessionId : Bytes) :
    (x.stopSession t sessionId).1.socket =
      t.socket.update (x.stopSession t sessionId).1.socket .nothing := by
  unfold stopSession
  split <;> rfl

/-- Input goes to the session only. -/
theorem sameBut_handleInput (sessionId : Bytes) :
    SameBut .nothing t (x.handleInput sessionId t) := by
  apply sameBut_guarded
  split
  · rfl
  · exact sameBut_called _ _ (socket_sendInput sessionId _)

/-- A message goes to the session only. -/
theorem sameBut_handleMessage (sessionId : Bytes) :
    SameBut .nothing t (x.handleMessage sessionId t) := by
  apply sameBut_guarded
  split
  · rfl
  · exact sameBut_called _ _ (socket_sendInput sessionId _)

/-- The tags of a session are the session's. -/
theorem sameBut_handleGroups (sessionId : Bytes) :
    SameBut .nothing t (x.handleGroups sessionId t) := by
  apply sameBut_guarded
  split
  · rfl
  · rfl
  · dsimp only
    split <;> rfl

/-- A stop is about the session. -/
theorem sameBut_handleStop (sessionId : Bytes) : SameBut .nothing t (x.handleStop sessionId t) := by
  apply sameBut_guarded
  exact sameBut_called _ _ (socket_stopSession sessionId)

/-- A stop on the host's own listener is about the session. -/
theorem sameBut_handleHostStop (sessionId : Bytes) :
    SameBut .nothing t (x.handleHostStop sessionId t) := by
  apply sameBut_guarded
  split_ifs
  · rfl
  · have hstopped := socket_stopSession (x := x) (t := t) sessionId
    split
    · rename_i heq
      rw [heq] at hstopped
      exact hstopped
    · rename_i heq
      rw [heq] at hstopped
      split
      · exact hstopped
      · exact hstopped

/-! ### Evidence -/

/-- What is observed is kept with the evidence. -/
theorem socket_observe (result : EvidenceResult) :
    (x.observe t result).socket = t.socket.update (x.observe t result).socket .evidence := by
  unfold observe
  split
  · rfl
  · split_ifs <;> rfl

/-- Evidence is stored and observed, and nothing else. -/
theorem sameBut_finalizeEvidenceResponse (result : EvidenceResult) (persist : Bool)
    (persistedTitle : Bytes) :
    SameBut .evidence t (x.finalizeEvidenceResponse result persist persistedTitle t) := by
  have hobserve := socket_observe (x := x) (t := t) result
  unfold finalizeEvidenceResponse
  generalize x.observe t result = t' at hobserve ⊢
  have hstored : ∀ store response,
      SameBut .evidence t (t'.modify ({ · with evidence := store }), response) := by
    intro store response
    unfold SameBut Turn.modify
    dsimp only
    rw [hobserve]
    rfl
  dsimp only
  split_ifs
  · exact hobserve
  · exact hobserve
  all_goals exact hstored _ _

/-- A look at a log changes the evidence only. -/
theorem sameBut_handleEvidenceRequest (sessionId operation : Bytes) :
    SameBut .evidence t (x.handleEvidenceRequest sessionId operation t) := by
  unfold handleEvidenceRequest
  split_ifs
  · rfl
  · apply sameBut_guarded
    split
    · rfl
    · rfl
    · rfl
    · split
      · rfl
      · exact sameBut_finalizeEvidenceResponse _ _ _

/-- Storing evidence changes the evidence only. -/
theorem sameBut_createStoredEvidence (sessionId : Bytes) :
    SameBut .evidence t (x.createStoredEvidence sessionId t) := by
  unfold createStoredEvidence
  split
  · rfl
  · split
    · split
      · rfl
      · dsimp only
        split <;> rfl
    · rfl

/-- All that is done with stored evidence is about evidence. -/
theorem sameBut_handleStoredEvidenceRequest (sessionId : Bytes) (evidenceId : Option Bytes) :
    SameBut .evidence t (x.handleStoredEvidenceRequest sessionId evidenceId t) := by
  unfold handleStoredEvidenceRequest
  dsimp only
  split_ifs
  · rfl
  · split
    · split
      · exact sameBut_guarded rfl
      · exact sameBut_guarded (sameBut_createStoredEvidence sessionId)
      · rfl
    · split_ifs
      · rfl
      · split
        · apply sameBut_guarded
          split <;> rfl
        · apply sameBut_guarded
          split <;> rfl
        · rfl

/-! ### All of them -/

/-- **Every route leaves all parts but its own.** -/
theorem sameBut_dispatch (route : HttpRoute) : SameBut route.part t (x.dispatch t route) := by
  cases route with
  | preflight => rfl
  | health => rfl
  | vendorAsset asset contentType => rfl
  | hostInfo => rfl
  | discoveryInfo => rfl
  | notFound => rfl
  | templates requestPath => exact sameBut_handleTemplatesRequest requestPath
  | root => exact sameBut_handleRoot
  | hostPage asset contentType => exact sameBut_handleHostPage asset contentType
  | remotePage asset contentType => exact sameBut_handleRemotePage asset contentType
  | remoteAssets targetPath => exact sameBut_handleRemoteAssets targetPath
  | uiAssets targetPath => exact sameBut_guarded (sameBut_refl .nothing t _)
  | pairingRequest => exact sameBut_handlePairingRequest
  | pendingPairings => exact sameBut_handlePendingPairings
  | pairingApprove => exact sameBut_handlePairingApprove
  | pairingReject => exact sameBut_handlePairingReject
  | pairingClaim => exact sameBut_handlePairingClaim
  | hostConfig => exact sameBut_handleHostConfig
  | listHostRecords => exact sameBut_handleListHostRecords
  | deleteHostRecord recordId => exact sameBut_handleDeleteHostRecord recordId
  | hostTlsCertificate => exact sameBut_handleHostTlsCertificate
  | serveLog => exact sameBut_guarded (sameBut_refl .nothing t _)
  | observations => exact sameBut_handleObservations
  | localBrowserToken => exact sameBut_handleLocalBrowserToken
  | hostClients => exact sameBut_handleHostClients
  | trustedDevices => exact sameBut_handleTrustedDevices
  | disconnectClient clientId => exact sameBut_handleDisconnectClient clientId
  | removeTrustedDevice deviceId status =>
      exact sameBut_handleRemoveTrustedDevice deviceId status
  | hostSessions => exact sameBut_guarded (sameBut_refl .nothing t _)
  | sessions => exact sameBut_guarded (sameBut_refl .nothing t _)
  | createHostSession => exact sameBut_guarded sameBut_handleCreateSessionRequest
  | createSession => exact sameBut_guarded sameBut_handleCreateSessionRequest
  | createLogSession => exact sameBut_guarded sameBut_handleCreateLogSessionRequest
  | clearHostSessions =>
      exact sameBut_guarded (show SameBut .nothing t (x.clearInactiveSessions t) from rfl)
  | clearSessions =>
      exact sameBut_guarded (show SameBut .nothing t (x.clearInactiveSessions t) from rfl)
  | evidence sessionId operation => exact sameBut_handleEvidenceRequest sessionId operation
  | storedEvidence sessionId evidenceId =>
      exact sameBut_handleStoredEvidenceRequest sessionId evidenceId
  | snapshot sessionId => exact sameBut_handleSnapshot sessionId
  | file sessionId => exact sameBut_handleFile sessionId
  | tail sessionId => exact sameBut_handleTail sessionId
  | input sessionId => exact sameBut_handleInput sessionId
  | messages sessionId => exact sameBut_handleMessage sessionId
  | groups sessionId => exact sameBut_handleGroups sessionId
  | stop sessionId => exact sameBut_handleStop sessionId
  | stopHostSession sessionId => exact sameBut_handleHostStop sessionId
  | env sessionId => exact sameBut_guarded (sameBut_showSession sessionId _)
  | session sessionId => exact sameBut_guarded (sameBut_showSession sessionId _)

end Exchange

/-! ### Whole runs -/

/-- A part of two daemons is the same. -/
def Daemon.Agree (d d' : Daemon) : Part → Prop
  | .nothing => True
  | .hostIdentity => d'.hostIdentity = d.hostIdentity
  | .pairing => d'.pairing = d.pairing
  | .templates => d'.templates = d.templates
  | .evidence => d'.evidence = d.evidence ∧ d'.observations = d.observations
  | .clients => d'.clients = d.clients
  | .viewports => d'.viewports = d.viewports

/-- A daemon agrees with itself. -/
theorem Daemon.agree_refl (d : Daemon) (part : Part) : d.Agree d part := by
  cases part with
  | nothing => trivial
  | evidence => exact ⟨rfl, rfl⟩
  | _ => rfl

/-- What two steps leave is left by both. -/
theorem Daemon.Agree.trans {d d' d'' : Daemon} {part : Part} (h : d.Agree d' part)
    (h' : d'.Agree d'' part) : d.Agree d'' part := by
  cases part with
  | nothing => trivial
  | evidence => exact ⟨h'.1.trans h.1, h'.2.trans h.2⟩
  | _ => exact Eq.trans h' h

/-- Writing one part leaves the others. -/
theorem Daemon.agree_update (before now : Daemon) {part own : Part} (h : own ≠ part) :
    before.Agree (before.update now own) part := by
  have hself := before.agree_refl part
  cases own with
  | nothing => exact hself
  | _ =>
      cases part with
      | nothing => trivial
      | _ => first | exact hself | exact absurd rfl h

/-- What happens to the daemon: it is sent a request, or its sessions go on. -/
inductive DaemonEvent
  | request (x : Exchange)
  | sessions (manager : Service.SessionManager)

/-- Every event is possible at any time. -/
def daemonStep (t : Turn Daemon) : DaemonEvent → Option (Turn Daemon)
  | .request x => some (x.handleRequest t).1
  | .sessions manager => some { t with manager }

/-- **A part that no request is about is left as it was**, over every run of requests to whichever
listeners, by whomever and however they are answered, and whatever the sessions do between them. -/
theorem parts_left_alone {t t' : Turn Daemon} {events : List DaemonEvent}
    (hrun : Found.Runs.Reaches daemonStep t events t') {part : Part}
    (h : ∀ x, .request x ∈ events → (route x.context x.request).part ≠ part) :
    t.socket.Agree t'.socket part := by
  induction hrun with
  | refl t => exact t.socket.agree_refl part
  | @cons t next t' event events hstep _ ih =>
      have hrest := ih fun x hmem => h x (List.mem_cons_of_mem event hmem)
      refine Daemon.Agree.trans ?_ hrest
      cases event with
      | sessions manager =>
          obtain rfl := Option.some.inj hstep
          exact t.socket.agree_refl part
      | request x =>
          obtain rfl := Option.some.inj hstep
          have hsame : Exchange.SameBut _ t (x.handleRequest t) := Exchange.sameBut_dispatch _
          unfold Exchange.SameBut at hsame
          rw [hsame]
          exact t.socket.agree_update _ (h x List.mem_cons_self)

/-- The host asks for a token for the page it shows. -/
def Exchange.hostPage : Exchange where
  lib := Found.JsonText.compactJson
  answers := { HttpAnswers.idle with token := "b2" }
  context := { listenerRole := .adminLocal, isLocalRequest := true }
  request := { method := .get, target := Found.Bytes.utf8 "/host/local-token" }

/-- The host's page asks for its token. -/
theorem Exchange.route_hostPage :
    route Exchange.hostPage.context Exchange.hostPage.request = .localBrowserToken := by
  decide +kernel

/-- The stranger asks for a stop. -/
theorem Exchange.route_stranger :
    route Exchange.stranger.context Exchange.stranger.request =
      .stop (Found.Bytes.utf8 "s_1") := by
  decide +kernel

/-- The host's page is let in, somebody wants to stop a session, and the sessions go on: there is
one approved device more, and the host is who it was. -/
theorem parts_left_alone_stranger :
    ∃ t, Found.Runs.Reaches daemonStep Exchange.approvedHost
        [.request Exchange.hostPage, .request Exchange.stranger,
          .sessions Exchange.approvedHost.manager] t ∧
      t.socket.pairing.pairingStore.approved.map (·.bearerToken) = ["a1", "b2"] ∧
      Exchange.approvedHost.socket.Agree t.socket .hostIdentity := by
  have hrun : Found.Runs.Reaches daemonStep Exchange.approvedHost
      [.request Exchange.hostPage, .request Exchange.stranger,
        .sessions Exchange.approvedHost.manager] _ :=
    .cons rfl (.cons rfl (.cons rfl (.refl _)))
  refine ⟨_, hrun, ?_, parts_left_alone hrun fun x hmem => ?_⟩
  · unfold Exchange.handleRequest
    rw [Exchange.route_hostPage, Exchange.route_stranger]
    decide +kernel
  · have hx : x = Exchange.hostPage ∨ x = Exchange.stranger := by simpa using hmem
    rcases hx with rfl | rfl
    · rw [Exchange.route_hostPage]
      decide
    · rw [Exchange.route_stranger]
      decide

end Sentrits.Net.Http
