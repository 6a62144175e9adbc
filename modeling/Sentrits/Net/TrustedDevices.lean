import Sentrits.Net.HttpAccess
import Sentrits.Net.RouteParts

/-!
# Devices the host trusts

What a token opens depends on the devices that are approved, and these change with the requests the
daemon is sent: some let a device in, others remove one. All of them are for the host alone.

* `Exchange.letsIn`, `Exchange.removes`: the device a request is about.
* `DeviceEvent`, `deviceStep`: requests in any order, and whatever else goes on between them.
* `LetIn`: a device was let in by the host, and was not removed since.
* `approved_handleRequest`, `removed_handleRequest`: the step lemmas.
* `let_in_by_the_host`: **over whole runs**, a remote request that gets past a check, or changes
  more than the pairing requests, shows the token of a device that was let in and not removed since.

Sources: `src/net/http_shared.cpp`, `src/auth/default_pairing_service.cpp`,
`src/store/file_stores.cpp`.
-/

namespace Sentrits.Auth.PairingService

open Found.Keyed Store

/-! ### What becomes of the approved devices -/

/-- A device that is approved after a write was approved before it, or written. -/
theorem mem_approved_upsert {store : PairingStore} {record added : PairingRecord}
    (h : record ∈ (store.upsertApprovedPairing added).1.approved) :
    record = added ∨ record ∈ store.approved := by
  unfold PairingStore.upsertApprovedPairing at h
  rcases store.save_cases store.pending (upsert PairingRecord.deviceKey added store.approved) with
    heq | heq
  · rw [heq] at h
    exact mem_of_mem_upsert h
  · rw [heq] at h
    exact Or.inr h

/-- Removing a device lets none in, and the device is gone when it says so. -/
theorem mem_approved_remove {store : PairingStore} {record : PairingRecord} {deviceId : String}
    (h : record ∈ (store.removeApprovedPairing deviceId).1.approved) :
    record ∈ store.approved ∧
      ((store.removeApprovedPairing deviceId).2 = true → record.deviceKey ≠ deviceId) := by
  unfold PairingStore.removeApprovedPairing at h ⊢
  split_ifs at h ⊢ with hhas
  · rcases store.save_cases store.pending (remove PairingRecord.deviceKey deviceId store.approved)
      with heq | heq
    · rw [heq] at h ⊢
      have hkept := mem_remove.mp h
      exact ⟨hkept.1, fun _ => hkept.2⟩
    · rw [heq] at h ⊢
      exact ⟨h, fun hremoved => absurd hremoved Bool.false_ne_true⟩
  · exact ⟨h, False.elim⟩

/-- Removing a request leaves the devices. -/
theorem approved_removePending (store : PairingStore) (pairingId : String) :
    (store.removePendingPairing pairingId).1.approved = store.approved := by
  unfold PairingStore.removePendingPairing
  split_ifs
  · rcases store.save_cases (remove PairingRequest.pairingId pairingId store.pending)
      store.approved with heq | heq
    · rw [heq]
    · rw [heq]
  · rfl

/-- **An approval lets in nobody else**, whatever its writes come to. -/
theorem mem_approved_approvePairing {service : PairingService} {pairingId code : String} {nowMs : ℤ}
    {deviceId bearerToken : String} {approvedAtUnixMs : ℤ} {record : PairingRecord}
    (h : record ∈ (service.approvePairing pairingId code nowMs deviceId bearerToken
      approvedAtUnixMs).1.pairingStore.approved) :
    record ∈ service.pairingStore.approved ∨
      record.deviceKey = deviceId ∧ record.bearerToken = bearerToken := by
  have hexpires := expires_removeExpired (fun _ h => h)
    (Expires.refl nowMs service.pairingRequestTtlMs service.pairingStore)
  unfold approvePairing at h
  dsimp only at h
  generalize removeExpired nowMs _ _ _ = store at hexpires h
  rw [← hexpires.approved]
  split at h
  · exact Or.inl h
  rename_i pending _
  let added : PairingRecord :=
    { deviceId := { value := deviceId }
      deviceName := pending.deviceName
      deviceType := pending.deviceType
      bearerToken
      approvedAtUnixMs }
  split_ifs at h
  · exact Or.inl h
  · exact Or.inl h
  -- the device is written, the request removed, and the device removed again when that fails
  have hmem : record ∈ (store.upsertApprovedPairing added).1.approved := by
    revert h
    rcases store.upsertApprovedPairing added with ⟨written, _ | _⟩
    · exact id
    · have hpending := approved_removePending written pairingId
      dsimp only
      generalize written.removePendingPairing pairingId = removed at hpending ⊢
      rcases removed with ⟨left, _ | _⟩
      · intro h
        rw [← hpending]
        exact (mem_approved_remove h).1
      · intro h
        rw [← hpending]
        exact h
  rcases mem_approved_upsert hmem with rfl | hold
  · exact Or.inr ⟨rfl, rfl⟩
  · exact Or.inl hold

/-- A rejection leaves the devices. -/
theorem approved_rejectPairing (service : PairingService) (pairingId : String) (nowMs : ℤ) :
    (service.rejectPairing pairingId nowMs).1.pairingStore.approved =
      service.pairingStore.approved := by
  exact approved_removePending service.pairingStore pairingId

end Sentrits.Auth.PairingService

namespace Sentrits.Net.Http

open Found Found.Bytes Found.Runs Auth Store

namespace Exchange

/-! ### What a request does to the approved devices -/

/-- The devices that are approved. -/
def approvedDevices (t : Turn Daemon) : List PairingRecord := (pairingStore t).approved

/-- The id and the token of the device a request may let in. -/
def letsIn (x : Exchange) : Option (String × String) :=
  match route x.context x.request with
  | .pairingApprove => some (x.answers.deviceId, x.answers.bearerToken)
  | .localBrowserToken => some (localDeviceId, x.answers.token)
  | _ => none

/-- The id of the device a request asks to remove. -/
def removes (x : Exchange) : Option String :=
  match route x.context x.request with
  | .removeTrustedDevice deviceId _ => textOf deviceId
  | _ => none

/-- The request came from the host itself, to its own listener. -/
def FromHost (x : Exchange) : Prop :=
  x.context.listenerRole = .adminLocal ∧ x.context.isLocalRequest = true

variable {x : Exchange} {t : Turn Daemon}

/-- The approved devices change with their own part alone. -/
theorem pairing_update (before now : Daemon) {part : Part} (h : part ≠ .pairing) :
    (before.update now part).pairing = before.pairing :=
  before.agree_update now h

/-- A check for the host alone lets through what comes from the host. -/
theorem fromHost_of_requireLocal {action : AuthorizationAction}
    (h : x.requireLocal t action = none) : x.FromHost := by
  unfold requireLocal requireLocalAuthorization at h
  split_ifs at h with hrole hlocal
  exact ⟨not_not.mp hrole, by simpa using hlocal⟩

/-- A refusal is no success. -/
theorem status_requireLocal {action : AuthorizationAction} {response : HttpResponse}
    (h : x.requireLocal t action = some response) : response.status ≠ 200 := by
  unfold requireLocal requireLocalAuthorization requireAuthorization at h
  dsimp only at h
  split_ifs at h
  all_goals
    obtain rfl := Option.some.inj h
    simp [errorResponse]

/-- An approval lets in the device it draws. -/
theorem approved_handlePairingApprove {record : PairingRecord}
    (h : record ∈ approvedDevices (x.handlePairingApprove t).1) :
    record ∈ approvedDevices t ∨
      x.FromHost ∧ record.deviceKey = x.answers.deviceId ∧
        record.bearerToken = x.answers.bearerToken := by
  unfold handlePairingApprove at h
  rcases hrequire : x.requireLocal t .approvePairing with _ | response
  swap
  · rw [hrequire] at h
    exact Or.inl h
  rw [hrequire] at h
  dsimp only [guarded] at h
  split_ifs at h
  · exact Or.inl h
  split at h
  · exact Or.inl h
  rename_i payload _
  have hafter : record ∈ (t.socket.pairing.approvePairing payload.pairingId payload.code
      x.answers.nowUnixMs x.answers.deviceId x.answers.bearerToken
      x.answers.approvedAtUnixMs).1.pairingStore.approved := by
    split at h
    · exact h
    · exact h
  rcases PairingService.mem_approved_approvePairing hafter with hold | hnew
  · exact Or.inl hold
  · exact Or.inr ⟨fromHost_of_requireLocal hrequire, hnew⟩

/-- A rejection lets nobody in. -/
theorem approved_handlePairingReject {record : PairingRecord}
    (h : record ∈ approvedDevices (x.handlePairingReject t).1) : record ∈ approvedDevices t := by
  unfold handlePairingReject at h
  rcases hrequire : x.requireLocal t .approvePairing with _ | response
  swap
  · rw [hrequire] at h
    exact h
  rw [hrequire] at h
  dsimp only [guarded] at h
  split_ifs at h
  · exact h
  split at h
  · exact h
  rename_i payload _
  have hafter : record ∈ (t.socket.pairing.rejectPairing payload.pairingId
      x.answers.nowUnixMs).1.pairingStore.approved := by
    split_ifs at h
    · exact h
    · exact h
  rw [PairingService.approved_rejectPairing] at hafter
  exact hafter

/-- The page of the host is let in as a device of its own. -/
theorem approved_handleLocalBrowserToken {record : PairingRecord}
    (h : record ∈ approvedDevices (x.handleLocalBrowserToken t).1) :
    record ∈ approvedDevices t ∨
      x.FromHost ∧ record.deviceKey = localDeviceId ∧ record.bearerToken = x.answers.token := by
  unfold handleLocalBrowserToken requireLocalHostAdmin at h
  rcases hrequire : x.requireLocal t .configureHost with _ | response
  swap
  · rw [hrequire] at h
    exact Or.inl h
  rw [hrequire] at h
  dsimp only [guarded] at h
  split at h
  · exact Or.inl h
  split at h
  · exact Or.inl h
  have hafter : record ∈ (t.socket.pairing.pairingStore.upsertApprovedPairing
      { deviceId := { value := localDeviceId }
        deviceName := "Host Browser"
        deviceType := .browser
        bearerToken := x.answers.token
        approvedAtUnixMs := 0 }).1.approved := by
    split_ifs at h
    · exact h
    · exact h
  rcases PairingService.mem_approved_upsert hafter with rfl | hold
  · exact Or.inr ⟨fromHost_of_requireLocal hrequire, rfl, rfl⟩
  · exact Or.inl hold

/-- Removing a device lets nobody in, and the device is gone when the request succeeds. -/
theorem approved_handleRemoveTrustedDevice {deviceId : Bytes} {status : String}
    {record : PairingRecord}
    (h : record ∈ approvedDevices (x.handleRemoveTrustedDevice deviceId status t).1) :
    record ∈ approvedDevices t ∧
      (textOf deviceId = some record.deviceKey →
        (x.handleRemoveTrustedDevice deviceId status t).2.status ≠ 200) := by
  unfold handleRemoveTrustedDevice requireLocalHostAdmin at h ⊢
  rcases hrequire : x.requireLocal t .configureHost with _ | response
  swap
  · rw [hrequire] at h
    exact ⟨h, fun _ => status_requireLocal hrequire⟩
  rw [hrequire] at h
  dsimp only [guarded] at h ⊢
  by_cases hstore : (!x.context.pairingStore) = true
  · rw [if_pos hstore] at h ⊢
    exact ⟨h, fun _ => (by decide : 503 ≠ 200)⟩
  rw [if_neg hstore] at h ⊢
  by_cases hempty : deviceId.isEmpty = true
  · rw [if_pos hempty] at h ⊢
    exact ⟨h, fun _ => (by decide : 400 ≠ 200)⟩
  rw [if_neg hempty] at h ⊢
  generalize textOf deviceId = named at h ⊢
  rcases named with _ | deviceId
  · exact ⟨h, fun hkey => absurd hkey (by simp)⟩
  dsimp only at h ⊢
  have hafter : record ∈
      (t.socket.pairing.pairingStore.removeApprovedPairing deviceId).1.approved := by
    split_ifs at h
    · exact h
    · exact h
  obtain ⟨hold, hremoved⟩ := PairingService.mem_approved_remove hafter
  refine ⟨hold, fun hkey => ?_⟩
  have hkept : (t.socket.pairing.pairingStore.removeApprovedPairing deviceId).2 ≠ true :=
    fun hdone => hremoved hdone (Option.some.inj hkey).symm
  rw [if_pos (by simpa using hkept)]
  exact (by decide : 404 ≠ 200)

/-- **What a request does to the approved devices**: one that is approved was approved before, or
the request let it in and came from the host. -/
theorem approved_handleRequest {record : PairingRecord}
    (h : record ∈ approvedDevices (x.handleRequest t).1) :
    record ∈ approvedDevices t ∨
      x.FromHost ∧ x.letsIn = some (record.deviceKey, record.bearerToken) := by
  unfold handleRequest at h
  unfold letsIn
  have hsame : SameBut (route x.context x.request).part t
      (x.dispatch t (route x.context x.request)) := sameBut_dispatch _
  revert h hsame
  cases route x.context x.request with
  | pairingRequest =>
      intro h _
      change record ∈ (pairingStore (x.handlePairingRequest t).1).approved at h
      rw [(onlyPairing_handlePairingRequest x t).starts.approved] at h
      exact Or.inl h
  | pairingApprove =>
      intro h _
      rcases approved_handlePairingApprove h with hold | ⟨hhost, hkey, htoken⟩
      · exact Or.inl hold
      · exact Or.inr ⟨hhost, by rw [hkey, htoken]⟩
  | pairingReject => exact fun h _ => Or.inl (approved_handlePairingReject h)
  | localBrowserToken =>
      intro h _
      rcases approved_handleLocalBrowserToken h with hold | ⟨hhost, hkey, htoken⟩
      · exact Or.inl hold
      · exact Or.inr ⟨hhost, by rw [hkey, htoken]⟩
  | removeTrustedDevice deviceId status =>
      exact fun h _ => Or.inl (approved_handleRemoveTrustedDevice h).1
  -- the other routes leave the pairings
  | _ =>
      intro h hsame
      unfold approvedDevices pairingStore at h
      rw [hsame, pairing_update _ _ (by rintro ⟨⟩)] at h
      exact Or.inl h

/-- **A device is gone** once a request to remove it has succeeded. -/
theorem removed_handleRequest {record : PairingRecord}
    (h : record ∈ approvedDevices (x.handleRequest t).1)
    (hremoves : x.removes = some record.deviceKey) : (x.handleRequest t).2.status ≠ 200 := by
  unfold removes at hremoves
  unfold handleRequest at h ⊢
  revert h hremoves
  cases route x.context x.request with
  | removeTrustedDevice deviceId status =>
      exact fun h hremoves => (approved_handleRemoveTrustedDevice h).2 hremoves
  | _ => exact fun _ hremoves => absurd hremoves (by simp)

end Exchange

/-! ### Whole runs -/

open Exchange

/-- What happens to the daemon: it is sent a request, or something else goes on. -/
inductive DeviceEvent
  | request (x : Exchange)
  | elsewhere (t : Turn Daemon)

/-- Nothing but requests touches the approved devices. -/
def deviceStep (t : Turn Daemon) : DeviceEvent → Option (Turn Daemon)
  | .request x => some (x.handleRequest t).1
  | .elsewhere t' => if approvedDevices t' = approvedDevices t then some t' else none

/-- A request of the host put the device in with its token, and no request to remove it has
succeeded since. -/
def LetIn (past : List (Turn Daemon × DeviceEvent)) (record : PairingRecord) : Prop :=
  ∃ before t x after, past = before ++ (t, .request x) :: after ∧ x.FromHost ∧
    x.letsIn = some (record.deviceKey, record.bearerToken) ∧
    record ∈ approvedDevices (x.handleRequest t).1 ∧
    ∀ s y, (s, .request y) ∈ after → y.removes = some record.deviceKey →
      (y.handleRequest s).2.status ≠ 200

/-- A device stays let in until a request removes it. -/
theorem LetIn.append {past : List (Turn Daemon × DeviceEvent)} {record : PairingRecord}
    (h : LetIn past record) {t : Turn Daemon} {event : DeviceEvent}
    (hkept : ∀ y, event = .request y → y.removes = some record.deviceKey →
      (y.handleRequest t).2.status ≠ 200) : LetIn (past ++ [(t, event)]) record := by
  obtain ⟨before, s, x, after, rfl, hhost, hletsIn, hput, hafter⟩ := h
  refine ⟨before, s, x, after ++ [(t, event)], by simp, hhost, hletsIn, hput, ?_⟩
  intro s' y hmem hremoves
  rcases List.mem_append.mp hmem with hmem | hmem
  · exact hafter s' y hmem hremoves
  · obtain ⟨rfl, rfl⟩ := Prod.mk.inj (List.mem_singleton.mp hmem)
    exact hkept y rfl hremoves

/-- Every approved device was let in: one step. -/
theorem letIn_step (t : Turn Daemon) (event : DeviceEvent) (t' : Turn Daemon)
    (past : List (Turn Daemon × DeviceEvent))
    (h : ∀ record ∈ approvedDevices t, LetIn past record)
    (hstep : deviceStep t event = some t') :
    ∀ record ∈ approvedDevices t', LetIn (past ++ [(t, event)]) record := by
  intro record hmem
  cases event with
  | elsewhere other =>
      dsimp only [deviceStep] at hstep
      split_ifs at hstep with hsame
      obtain rfl := Option.some.inj hstep
      exact (h record (hsame ▸ hmem)).append fun y hy => absurd hy (by simp)
  | request x =>
      obtain rfl := Option.some.inj hstep
      rcases approved_handleRequest hmem with hold | ⟨hhost, hletsIn⟩
      · apply (h record hold).append
        rintro y hy hremoves
        obtain rfl := DeviceEvent.request.inj hy
        exact removed_handleRequest hmem hremoves
      · exact ⟨past, t, x, [], rfl, hhost, hletsIn, hmem,
          fun _ _ hmem => absurd hmem List.not_mem_nil⟩

/-- **Whoever gets past a check, or changes more than the pairing requests, was let in by the
host.** From a daemon that has approved no device, over every run of requests to its listeners, and
whatever else goes on between them: a request to the remote listener that is not refused for want of
a token, or that changes anything but the pairing requests, shows the token of a device that a
request from the host itself has put in and that none has removed since. -/
theorem let_in_by_the_host {t t' : Turn Daemon} {events : List DeviceEvent}
    (hnew : approvedDevices t = []) (hrun : Reaches deviceStep t events t') {z : Exchange}
    (hremote : z.context.listenerRole = .remoteClient) (hauthorizer : z.context.authorizer = true)
    (h : (∃ action, action.isLocal = false ∧ z.require t' action = none) ∨
      ¬ OnlyPairing z t' (z.handleRequest t').1) :
    ∃ record, LetIn (history deviceStep t events) record ∧
      utf8 record.bearerToken = extractBearerToken z.request := by
  have hletIn : ∀ record ∈ approvedDevices t', LetIn (history deviceStep t events) record :=
    hrun.history_invariant (fun t past => ∀ record ∈ approvedDevices t, LetIn past record)
      letIn_step (fun record hmem => by rw [hnew] at hmem; exact absurd hmem List.not_mem_nil)
  by_contra hnone
  have hunapproved : z.IsUnapproved t' := by
    refine ⟨hremote, hauthorizer, ?_⟩
    rintro ⟨record, hmem, htoken⟩
    exact hnone ⟨record, hletIn record hmem, htoken⟩
  rcases h with ⟨action, haction, hrequire⟩ | hchanged
  · have hrefused := isSome_requireAuthorization hunapproved haction
    unfold require at hrequire
    rw [hrequire] at hrefused
    exact Bool.false_ne_true hrefused
  · apply hchanged
    unfold handleRequest
    by_cases hroute : route z.context z.request = .pairingRequest
    · rw [hroute]
      exact onlyPairing_handlePairingRequest z t'
    · rw [dispatch_of_unapproved hunapproved hroute]
      exact .refl z t'

/-- The page, on the remote listener. -/
def pageAbroad : Exchange where
  lib := JsonText.compactJson
  answers := .idle
  context := {}
  request :=
    { method := .get
      target := utf8 "/sessions"
      authorization := some (utf8 "Bearer b2") }

/-- A daemon nobody has talked to yet. -/
def quietHost : Turn Daemon :=
  { approvedHost with socket := { approvedHost.socket with pairing := {} } }

/-- The page is let through on the remote listener, for the host let it in. -/
theorem let_in_by_the_host_page :
    ∃ record, LetIn (history deviceStep quietHost [.request hostPage]) record ∧
      utf8 record.bearerToken = extractBearerToken pageAbroad.request := by
  have hrun : Reaches deviceStep quietHost [.request hostPage]
      (hostPage.handleRequest quietHost).1 := .cons rfl (.refl _)
  have hin : pageAbroad.require (hostPage.handleRequest quietHost).1 .observeSessions = none := by
    unfold handleRequest
    rw [route_hostPage]
    decide
  exact let_in_by_the_host rfl hrun rfl rfl (Or.inl ⟨.observeSessions, rfl, hin⟩)

end Sentrits.Net.Http
