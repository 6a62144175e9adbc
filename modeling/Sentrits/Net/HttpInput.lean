import Sentrits.Net.HttpAccess
import Sentrits.Net.InputControl

/-!
# Requests that send input

Two routes of the HTTP listeners send input to a session: that of input and that of messages. Both
ask whether the request comes from an approved device, neither asks who controls the session.

* `inputControlled_dispatch`: **no other route** sends input.
* `Exchange.PassesInput`: a request to one of the two that gets through to a runtime.
* `inputControlled_handleRequest_iff`: **exactly these requests** send input without control.

Source: `src/net/http_shared.cpp`.
-/

namespace Sentrits.Net.Http.Exchange

open Found Found.Bytes Auth Session Store Service

variable {x : Exchange} {t : Turn Daemon}

/-! ### Handlers that call nothing -/

/-- A handler that calls nothing calls nothing behind a check. -/
theorem issued_guarded (t : Turn Daemon) (refusal : Option HttpResponse) {otherwise : Reply}
    (h : otherwise.1.issued = t.issued) : (guarded t refusal otherwise).1.issued = t.issued := by
  cases refusal with
  | none => exact h
  | some response => rfl

/-- Templates reach no terminal. -/
theorem issued_handleTemplatesRequest (requestPath : Bytes) :
    (x.handleTemplatesRequest requestPath t).1.issued = t.issued := by
  unfold handleTemplatesRequest
  dsimp only
  split_ifs
  · rfl
  · rfl
  · exact issued_guarded t _ rfl
  · rfl
  · split
    · apply issued_guarded
      split <;> rfl
    · apply issued_guarded
      split
      · rfl
      · split
        · rfl
        · split <;> rfl
    · apply issued_guarded
      split <;> rfl
    · rfl
  · rfl

/-- The start page reaches no terminal. -/
theorem issued_handleRoot : (x.handleRoot t).1.issued = t.issued := by
  unfold handleRoot
  dsimp only
  split_ifs
  · exact issued_guarded t _ rfl
  · rfl

/-- The pages for the host reach no terminal. -/
theorem issued_handleHostPage (asset contentType : String) :
    (x.handleHostPage asset contentType t).1.issued = t.issued := by
  unfold handleHostPage
  split_ifs
  · rfl
  · exact issued_guarded t _ rfl

/-- Listing the pending requests reaches no terminal. -/
theorem issued_handlePendingPairings : (x.handlePendingPairings t).1.issued = t.issued := by
  apply issued_guarded
  split_ifs <;> rfl

/-- An approval reaches no terminal. -/
theorem issued_handlePairingApprove : (x.handlePairingApprove t).1.issued = t.issued := by
  apply issued_guarded
  split_ifs
  · rfl
  · split
    · rfl
    · dsimp only
      split <;> rfl

/-- A rejection reaches no terminal. -/
theorem issued_handlePairingReject : (x.handlePairingReject t).1.issued = t.issued := by
  apply issued_guarded
  split_ifs
  · rfl
  · split
    · rfl
    · dsimp only
      split_ifs <;> rfl

/-- Saving the host's identity reaches no terminal. -/
theorem issued_saveHostIdentity (identity : HostIdentity) :
    (x.saveHostIdentity t identity).1.issued = t.issued := by
  unfold saveHostIdentity
  split_ifs <;> rfl

/-- New settings reach no terminal. -/
theorem issued_handleHostConfig : (x.handleHostConfig t).1.issued = t.issued := by
  apply issued_guarded
  split_ifs
  · rfl
  · split
    · rfl
    next payload _ =>
      have hsaved := issued_saveHostIdentity (x := x) (t := t)
        (updateHostConfig (x.hostIdentityOrDefault t) payload)
      split
      · simp_all
      · simp_all

/-- Listing the launch records reaches no terminal. -/
theorem issued_handleListHostRecords : (x.handleListHostRecords t).1.issued = t.issued := by
  apply issued_guarded
  split_ifs <;> rfl

/-- Deleting a launch record reaches no terminal. -/
theorem issued_handleDeleteHostRecord (recordId : Bytes) :
    (x.handleDeleteHostRecord recordId t).1.issued = t.issued := by
  apply issued_guarded
  split_ifs
  · rfl
  · rfl
  · split
    · rfl
    next identity _ =>
      have hsaved := issued_saveHostIdentity (x := x) (t := t) identity
      split
      · simp_all
      · simp_all

/-- The token of the host's own page reaches no terminal. -/
theorem issued_handleLocalBrowserToken : (x.handleLocalBrowserToken t).1.issued = t.issued := by
  apply issued_guarded
  split_ifs
  · rfl
  · dsimp only
    split
    · rfl
    · split_ifs <;> rfl

/-- The certificate reaches no terminal. -/
theorem issued_handleHostTlsCertificate : (x.handleHostTlsCertificate t).1.issued = t.issued := by
  apply issued_guarded
  dsimp only
  split_ifs
  · rfl
  · rfl
  · split <;> rfl
  · split <;> rfl

/-- The observations reach no terminal. -/
theorem issued_handleObservations : (x.handleObservations t).1.issued = t.issued := by
  apply issued_guarded
  split_ifs
  · rfl
  · split <;> rfl

/-- Listing the clients reaches no terminal. -/
theorem issued_handleHostClients : (x.handleHostClients t).1.issued = t.issued := by
  apply issued_guarded
  split_ifs <;> rfl

/-- Listing the approved devices reaches no terminal. -/
theorem issued_handleTrustedDevices : (x.handleTrustedDevices t).1.issued = t.issued := by
  apply issued_guarded
  split_ifs <;> rfl

/-- Cutting a client off reaches no terminal. -/
theorem issued_handleDisconnectClient (clientId : Bytes) :
    (x.handleDisconnectClient clientId t).1.issued = t.issued := by
  apply issued_guarded
  split_ifs <;> rfl

/-- Removing a device reaches no terminal. -/
theorem issued_handleRemoveTrustedDevice (deviceId : Bytes) (status : String) :
    (x.handleRemoveTrustedDevice deviceId status t).1.issued = t.issued := by
  apply issued_guarded
  split_ifs
  · rfl
  · rfl
  · split
    · rfl
    · dsimp only
      split_ifs <;> rfl

/-- Saving what was launched reaches no terminal. -/
theorem issued_autoSave (request : CreateSessionRequest) :
    (x.autoSave t request).issued = t.issued := by
  unfold autoSave
  split_ifs
  · exact issued_saveHostIdentity _
  · rfl

/-- A new session is sent no input. -/
theorem issued_handleCreateSessionRequest :
    (x.handleCreateSessionRequest t).1.issued = t.issued := by
  unfold handleCreateSessionRequest
  split
  · rfl
  · split
    · rfl
    · dsimp only
      split
      · rfl
      · exact issued_autoSave _

/-- A new log session is sent no input. -/
theorem issued_handleCreateLogSessionRequest :
    (x.handleCreateLogSessionRequest t).1.issued = t.issued := by
  unfold handleCreateLogSessionRequest
  split
  · rfl
  · split_ifs
    · rfl
    · dsimp only
      split <;> rfl

/-- Showing a session reaches no terminal. -/
theorem issued_showSession (sessionId : Bytes) (body : String → SessionEntry → HttpResponse) :
    (showSession t sessionId body).1.issued = t.issued := by
  unfold showSession
  split <;> rfl

/-- A snapshot reaches no terminal. -/
theorem issued_handleSnapshot (sessionId : Bytes) :
    (x.handleSnapshot sessionId t).1.issued = t.issued := by
  apply issued_guarded
  split
  · rfl
  · split
    · rfl
    · split_ifs <;> rfl

/-- Reading a file reaches no terminal. -/
theorem issued_handleFile (sessionId : Bytes) : (x.handleFile sessionId t).1.issued = t.issued := by
  apply issued_guarded
  dsimp only
  split_ifs
  · rfl
  · split
    · rfl
    · rfl
    · rfl
    · split_ifs <;> rfl

/-- Reading a tail reaches no terminal. -/
theorem issued_handleTail (sessionId : Bytes) : (x.handleTail sessionId t).1.issued = t.issued := by
  apply issued_guarded
  split
  · rfl
  · exact issued_showSession sessionId _

/-- New tags reach no terminal. -/
theorem issued_handleGroups (sessionId : Bytes) :
    (x.handleGroups sessionId t).1.issued = t.issued := by
  apply issued_guarded
  split
  · rfl
  · rfl
  · dsimp only
    split <;> rfl

/-- Storing evidence reaches no terminal. -/
theorem issued_createStoredEvidence (sessionId : Bytes) :
    (x.createStoredEvidence sessionId t).1.issued = t.issued := by
  unfold createStoredEvidence
  split
  · rfl
  · split
    · split
      · rfl
      · dsimp only
        split <;> rfl
    · rfl

/-- Stored evidence reaches no terminal. -/
theorem issued_handleStoredEvidenceRequest (sessionId : Bytes) (evidenceId : Option Bytes) :
    (x.handleStoredEvidenceRequest sessionId evidenceId t).1.issued = t.issued := by
  unfold handleStoredEvidenceRequest
  dsimp only
  split_ifs
  · rfl
  · cases evidenceId with
    | none =>
        dsimp only
        split
        · exact issued_guarded t _ rfl
        · exact issued_guarded t _ (issued_createStoredEvidence sessionId)
        · rfl
    | some evidenceId =>
        dsimp only
        split_ifs
        · rfl
        · split
          · apply issued_guarded
            split <;> rfl
          · apply issued_guarded
            split <;> rfl
          · rfl

/-- An observation reaches no terminal. -/
theorem issued_observe (result : EvidenceResult) : (x.observe t result).issued = t.issued := by
  unfold observe
  split
  · rfl
  · split_ifs <;> rfl

/-- Answering a look at a log reaches no terminal. -/
theorem issued_finalizeEvidenceResponse (result : EvidenceResult) (persist : Bool)
    (persistedTitle : Bytes) :
    (x.finalizeEvidenceResponse result persist persistedTitle t).1.issued = t.issued := by
  have hobserve := issued_observe (x := x) (t := t) result
  unfold finalizeEvidenceResponse
  dsimp only
  split_ifs <;> exact hobserve

/-- A look at a log reaches no terminal. -/
theorem issued_handleEvidenceRequest (sessionId operation : Bytes) :
    (x.handleEvidenceRequest sessionId operation t).1.issued = t.issued := by
  unfold handleEvidenceRequest
  split_ifs
  · rfl
  · apply issued_guarded
    split
    · rfl
    · rfl
    · rfl
    · split
      · rfl
      · exact issued_finalizeEvidenceResponse _ _ _

/-! ### All routes -/

/-- A stop is no input. -/
theorem inputControlled_stopSession (h : t.InputControlled) (sessionId : Bytes) :
    (x.stopSession t sessionId).1.InputControlled := by
  unfold stopSession
  split
  · exact h
  · exact h.stopSession _ none _

/-- A stop on the remote listener is no input. -/
theorem inputControlled_handleStop (h : t.InputControlled) (sessionId : Bytes) :
    (x.handleStop sessionId t).1.InputControlled := by
  have hstopped := inputControlled_stopSession (x := x) h sessionId
  unfold handleStop
  rcases x.require t .controlSession with _ | response
  · dsimp only [guarded]
    split <;> simp_all
  · exact h

/-- A stop on the host's own listener is no input. -/
theorem inputControlled_handleHostStop (h : t.InputControlled) (sessionId : Bytes) :
    (x.handleHostStop sessionId t).1.InputControlled := by
  have hstopped := inputControlled_stopSession (x := x) h sessionId
  unfold handleHostStop
  rcases x.requireLocalHostAdmin t with _ | response
  · dsimp only [guarded]
    split_ifs
    · exact h
    · split
      · simp_all
      · split <;> simp_all
  · exact h

/-- The routes that send input. -/
def sendsInput : HttpRoute → Bool
  | .input _ | .messages _ => true
  | _ => false

/-- **No other route** sends any. -/
theorem inputControlled_dispatch (h : t.InputControlled) {route : HttpRoute}
    (hroute : sendsInput route = false) : (x.dispatch t route).1.InputControlled := by
  cases route with
  | input sessionId => exact absurd hroute (by simp [sendsInput])
  | messages sessionId => exact absurd hroute (by simp [sendsInput])
  -- routes that stop a session
  | stop sessionId => exact inputControlled_handleStop h sessionId
  | stopHostSession sessionId => exact inputControlled_handleHostStop h sessionId
  -- routes that call nothing
  | preflight => exact h
  | health => exact h
  | vendorAsset asset contentType => exact h
  | hostInfo => exact h
  | discoveryInfo => exact h
  | notFound => exact h
  | templates requestPath => exact h.of_issued (issued_handleTemplatesRequest requestPath)
  | root => exact h.of_issued issued_handleRoot
  | hostPage asset contentType => exact h.of_issued (issued_handleHostPage asset contentType)
  | remotePage asset contentType =>
      apply h.of_issued
      exact congrArg Turn.issued (handleRemotePage_fst asset contentType)
  | remoteAssets targetPath =>
      apply h.of_issued
      exact congrArg Turn.issued (handleRemoteAssets_fst targetPath)
  | uiAssets targetPath => exact h.of_issued (issued_guarded t _ rfl)
  | pairingRequest => exact h.of_issued (onlyPairing_handlePairingRequest x t).issued
  | pendingPairings => exact h.of_issued issued_handlePendingPairings
  | pairingApprove => exact h.of_issued issued_handlePairingApprove
  | pairingReject => exact h.of_issued issued_handlePairingReject
  | pairingClaim => exact h.of_issued (congrArg Turn.issued handlePairingClaim_fst)
  | hostConfig => exact h.of_issued issued_handleHostConfig
  | listHostRecords => exact h.of_issued issued_handleListHostRecords
  | hostTlsCertificate => exact h.of_issued issued_handleHostTlsCertificate
  | serveLog => exact h.of_issued (issued_guarded t _ rfl)
  | observations => exact h.of_issued issued_handleObservations
  | localBrowserToken => exact h.of_issued issued_handleLocalBrowserToken
  | hostSessions => exact h.of_issued (issued_guarded t _ rfl)
  | createHostSession =>
      exact h.of_issued (issued_guarded t _ issued_handleCreateSessionRequest)
  | hostClients => exact h.of_issued issued_handleHostClients
  | trustedDevices => exact h.of_issued issued_handleTrustedDevices
  | clearHostSessions => exact h.of_issued (issued_guarded t _ rfl)
  | disconnectClient clientId => exact h.of_issued (issued_handleDisconnectClient clientId)
  | removeTrustedDevice deviceId status =>
      exact h.of_issued (issued_handleRemoveTrustedDevice deviceId status)
  | deleteHostRecord recordId => exact h.of_issued (issued_handleDeleteHostRecord recordId)
  | sessions => exact h.of_issued (issued_guarded t _ rfl)
  | createSession => exact h.of_issued (issued_guarded t _ issued_handleCreateSessionRequest)
  | createLogSession => exact h.of_issued (issued_guarded t _ issued_handleCreateLogSessionRequest)
  | clearSessions => exact h.of_issued (issued_guarded t _ rfl)
  | snapshot sessionId => exact h.of_issued (issued_handleSnapshot sessionId)
  | file sessionId => exact h.of_issued (issued_handleFile sessionId)
  | evidence sessionId operation =>
      exact h.of_issued (issued_handleEvidenceRequest sessionId operation)
  | storedEvidence sessionId evidenceId =>
      exact h.of_issued (issued_handleStoredEvidenceRequest sessionId evidenceId)
  | tail sessionId => exact h.of_issued (issued_handleTail sessionId)
  | groups sessionId => exact h.of_issued (issued_handleGroups sessionId)
  | env sessionId => exact h.of_issued (issued_guarded t _ (issued_showSession sessionId _))
  | session sessionId => exact h.of_issued (issued_guarded t _ (issued_showSession sessionId _))

/-! ### The two routes that send input -/

/-- A path names a session with a runtime. -/
def reachesRuntime (t : Turn Daemon) (sessionId : Bytes) : Bool :=
  (textOf sessionId).any t.manager.hasRuntime

/-- A request to control a session, with a body that can be read, reaches a runtime. -/
def GetsThrough (x : Exchange) (t : Turn Daemon) {α : Type} (parse : String → Option α)
    (sessionId : Bytes) : Prop :=
  x.require t .controlSession = none ∧ (x.request.parsedBody parse).isSome = true ∧
    reachesRuntime t sessionId = true

/-- A request with input, or with a message, gets through. -/
def PassesInput (x : Exchange) (t : Turn Daemon) : Prop :=
  match route x.context x.request with
  | .input sessionId => x.GetsThrough t (parseInputRequest x.lib) sessionId
  | .messages sessionId => x.GetsThrough t (parseMessageRequest x.lib) sessionId
  | _ => False

/-- Input of no client is in order exactly when there is no runtime for it. -/
theorem inputControlled_sendInput_iff (h : t.InputControlled) (sessionId input : Bytes) :
    (x.sendInput t sessionId input).1.InputControlled ↔ reachesRuntime t sessionId = false := by
  unfold sendInput reachesRuntime
  rcases textOf sessionId with _ | name
  · exact iff_of_true h rfl
  · have hanonymous := IssuedCall.inputControlled_anonymous_iff t.manager name input
    dsimp only [Option.any_some]
    rw [← hanonymous]
    constructor
    · intro hsent
      apply hsent
      simp
    · intro hcall
      exact h.append hcall (Turn.issued_sendInput _ _ _ _ _)

/-- What a handler does that reads a body and sends input of it, whatever it answers. -/
theorem inputControlled_body_iff (h : t.InputControlled) {α : Type} {parse : String → Option α}
    {sessionId : Bytes} {otherwise : Reply}
    (hnone : x.request.parsedBody parse = none → otherwise.1 = t)
    (hsome : ∀ payload, x.request.parsedBody parse = some payload →
      ∃ input, otherwise.1 = (x.sendInput t sessionId input).1) :
    (guarded t (x.require t .controlSession) otherwise).1.InputControlled ↔
      ¬ x.GetsThrough t parse sessionId := by
  unfold GetsThrough
  rcases x.require t .controlSession with _ | response
  · rcases hbody : x.request.parsedBody parse with _ | payload
    · apply iff_of_true
      · show otherwise.1.InputControlled
        rw [hnone hbody]
        exact h
      · simp
    · obtain ⟨input, heq⟩ := hsome payload hbody
      show otherwise.1.InputControlled ↔ _
      rw [heq, inputControlled_sendInput_iff h sessionId input]
      simp
  · exact iff_of_true h (by simp)

/-- **`/input` is in order exactly when** its input does not get through. -/
theorem inputControlled_handleInput_iff (h : t.InputControlled) (sessionId : Bytes) :
    (x.handleInput sessionId t).1.InputControlled ↔
      ¬ x.GetsThrough t (parseInputRequest x.lib) sessionId := by
  apply inputControlled_body_iff h
  · intro hnone
    rw [hnone]
  · intro input hsome
    refine ⟨utf8 input, ?_⟩
    rw [hsome]
    dsimp only
    split
    · simp_all
    · simp_all

/-- **`/messages` is in order exactly when** its text does not get through. -/
theorem inputControlled_handleMessage_iff (h : t.InputControlled) (sessionId : Bytes) :
    (x.handleMessage sessionId t).1.InputControlled ↔
      ¬ x.GetsThrough t (parseMessageRequest x.lib) sessionId := by
  apply inputControlled_body_iff h
  · intro hnone
    rw [hnone]
  · intro payload hsome
    refine ⟨utf8 payload.input, ?_⟩
    rw [hsome]
    dsimp only
    split
    · simp_all
    · simp_all

/-- **Exactly the requests that get through** send input without control. -/
theorem inputControlled_handleRequest_iff (h : t.InputControlled) :
    (x.handleRequest t).1.InputControlled ↔ ¬ x.PassesInput t := by
  unfold handleRequest PassesInput
  rcases hroute : sendsInput (route x.context x.request)
  · apply iff_of_true
    · exact inputControlled_dispatch h hroute
    · split <;> simp_all [sendsInput]
  · split
    next sessionId heq =>
      rw [heq]
      exact inputControlled_handleInput_iff h sessionId
    next sessionId heq =>
      rw [heq]
      exact inputControlled_handleMessage_iff h sessionId
    next hinput hmessages =>
      unfold sendsInput at hroute
      split at hroute <;> simp_all

end Sentrits.Net.Http.Exchange
