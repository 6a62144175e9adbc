import Sentrits.Store.PairingStore

/-!
# The pairing service

A device asks to be paired and shows a code; the host approves the request with that code, or
rejects it; the device then claims its bearer token. Requests that wait too long expire. What the
clock reads and the generators draw are arguments of the calls.

* `startPairing_spec`: **what starting a pairing does**, whatever the writes come to.
* `startPairing_of_quiet`, `approvePairing_of_quiet`, `rejectPairing_of_quiet`: **one specification
  for each call**, on a store whose writes succeed.

Sources: `include/vibe/auth/default_pairing_service.h`, `src/auth/default_pairing_service.cpp`.
-/

namespace Sentrits.Auth

open Found.Keyed Store

/-- Source: `default_pairing_service.h` `DefaultPairingService::ApprovedClaim`. -/
structure ApprovedClaim where
  code : String
  record : PairingRecord
  deriving DecidableEq

/-- Source: `default_pairing_service.h` `DefaultPairingService`. -/
structure PairingService where
  pairingStore : PairingStore := {}
  pairingRequestTtlMs : ℤ := 10 * 60 * 1000
  approvedClaims : List (String × ApprovedClaim) := []
  rejectedClaims : List (String × ℤ) := []
  deriving DecidableEq

/-- Source: `pairing.h` `PairingClaimStatus`. -/
inductive PairingClaimStatus
  | pending
  | approved
  | rejected
  | expired
  deriving DecidableEq

/-! ### The calls -/

/-- Source: `default_pairing_service.cpp` `IsExpired`. -/
def isExpired (request : PairingRequest) (nowMs ttlMs : ℤ) : Bool :=
  if ttlMs ≤ 0 then false else request.requestedAtUnixMs + ttlMs < nowMs

/-- The loop over the loaded requests that removes the expired ones. -/
def removeExpired (nowMs ttlMs : ℤ) : List PairingRequest → PairingStore → PairingStore
  | [], store => store
  | request :: requests, store =>
      if isExpired request nowMs ttlMs then
        removeExpired nowMs ttlMs requests (store.removePendingPairing request.pairingId).1
      else removeExpired nowMs ttlMs requests store

namespace PairingService

/-- The request with the id among the pending ones. -/
def findPending (service : PairingService) (pairingId : String) : Option PairingRequest :=
  find PairingRequest.pairingId pairingId service.pairingStore.pending

/-- Source: `default_pairing_service.cpp` `DefaultPairingService::StartPairing`. -/
def startPairing (service : PairingService) (deviceName : String) (deviceType : DeviceType)
    (nowMs : ℤ) (pairingId code : String) : PairingService × Option PairingRequest :=
  if deviceName.isEmpty then (service, none)
  else
    let store := removeExpired nowMs service.pairingRequestTtlMs service.pairingStore.pending
      service.pairingStore
    let request : PairingRequest :=
      { pairingId, deviceName, deviceType, code, requestedAtUnixMs := nowMs }
    if request.pairingId.isEmpty ∨ request.code.utf8ByteSize ≠ 6 then
      ({ service with pairingStore := store }, none)
    else
      match store.upsertPendingPairing request with
      | (store, false) => ({ service with pairingStore := store }, none)
      | (store, true) => ({ service with pairingStore := store }, some request)

/-- Oldest first, without the expired ones.
Source: `default_pairing_service.cpp` `DefaultPairingService::ListPendingPairings`. -/
def listPendingPairings (service : PairingService) (nowMs : ℤ) : List PairingRequest :=
  (service.pairingStore.pending.filter
      fun request => !isExpired request nowMs service.pairingRequestTtlMs).mergeSort
    fun left right =>
      if left.requestedAtUnixMs ≠ right.requestedAtUnixMs then
        left.requestedAtUnixMs < right.requestedAtUnixMs
      else left.pairingId ≤ right.pairingId

/-- Source: `default_pairing_service.cpp` `DefaultPairingService::ApprovePairing`. -/
def approvePairing (service : PairingService) (pairingId code : String) (nowMs : ℤ)
    (deviceId bearerToken : String) (approvedAtUnixMs : ℤ) :
    PairingService × Option PairingRecord :=
  let ttlMs := service.pairingRequestTtlMs
  let store := removeExpired nowMs ttlMs service.pairingStore.pending service.pairingStore
  match service.findPending pairingId with
  | none => ({ service with pairingStore := store }, none)
  | some pending =>
      if isExpired pending nowMs ttlMs ∨ pending.code ≠ code then
        ({ service with pairingStore := store }, none)
      else
        let record : PairingRecord :=
          { deviceId := { value := deviceId }
            deviceName := pending.deviceName
            deviceType := pending.deviceType
            bearerToken
            approvedAtUnixMs }
        if record.deviceId.value.isEmpty ∨ record.bearerToken.isEmpty then
          ({ service with pairingStore := store }, none)
        else
          match store.upsertApprovedPairing record with
          | (store, false) => ({ service with pairingStore := store }, none)
          | (store, true) =>
              match store.removePendingPairing pairingId with
              | (store, false) =>
                  ({ service with
                      pairingStore := (store.removeApprovedPairing record.deviceId.value).1 },
                    none)
              | (store, true) =>
                  ({ service with
                      pairingStore := store
                      approvedClaims :=
                        upsert Prod.fst (pairingId, { code, record }) service.approvedClaims
                      rejectedClaims := remove Prod.fst pairingId service.rejectedClaims },
                    some record)

/-- Source: `default_pairing_service.cpp` `DefaultPairingService::ClaimApprovedPairing`. -/
def claimApprovedPairing (service : PairingService) (pairingId code : String) :
    Option PairingRecord :=
  match find Prod.fst pairingId service.approvedClaims with
  | none => none
  | some (_, claim) => if claim.code ≠ code then none else some claim.record

/-- Source: `default_pairing_service.cpp` `DefaultPairingService::GetPairingClaimStatus`. -/
def getPairingClaimStatus (service : PairingService) (pairingId code : String) (nowMs : ℤ) :
    PairingClaimStatus :=
  match find Prod.fst pairingId service.approvedClaims with
  | some (_, claim) => if claim.code = code then .approved else .rejected
  | none =>
      if Has Prod.fst pairingId service.rejectedClaims then .rejected
      else
        match service.findPending pairingId with
        | none => .rejected
        | some pending =>
            if isExpired pending nowMs service.pairingRequestTtlMs then .expired
            else if pending.code = code then .pending
            else .rejected

/-- Source: `default_pairing_service.cpp` `DefaultPairingService::RejectPairing`. -/
def rejectPairing (service : PairingService) (pairingId : String) (nowMs : ℤ) :
    PairingService × Bool :=
  let approvedClaims := remove Prod.fst pairingId service.approvedClaims
  let rejectedClaims := upsert Prod.fst (pairingId, nowMs) service.rejectedClaims
  match service.pairingStore.removePendingPairing pairingId with
  | (pairingStore, removed) =>
      ({ service with pairingStore, approvedClaims, rejectedClaims }, removed)

/-! ### The loop -/

/-- What is left of a store that can write when some requests were taken from it. -/
structure Pruned (before after : PairingStore) : Prop where
  pending : after.pending.Sublist before.pending
  approved : after.approved = before.approved
  quiet : after.Quiet

/-- Nothing may be pruned. -/
theorem Pruned.refl {store : PairingStore} (h : store.Quiet) : Pruned store store where
  pending := List.Sublist.refl _
  approved := rfl
  quiet := h

/-- Removing expired requests takes requests away, and nothing else, when the writes succeed. -/
theorem pruned_removeExpired (nowMs ttlMs : ℤ) (requests : List PairingRequest)
    {store : PairingStore} (h : store.Quiet) :
    Pruned store (removeExpired nowMs ttlMs requests store) := by
  induction requests generalizing store with
  | nil => exact Pruned.refl h
  | cons request requests ih =>
      unfold removeExpired
      split_ifs
      · rw [PairingStore.removePendingPairing_of_quiet h]
        let removed : PairingStore :=
          { store with
            pending := remove PairingRequest.pairingId request.pairingId store.pending }
        have hquiet : removed.Quiet := h
        have hrest := ih hquiet
        exact { hrest with pending := hrest.pending.trans List.filter_sublist }
      · exact ih h

/-! ### Starting a pairing, whatever the writes come to -/

/-- What is left of a store when some expired requests were taken from it: each request that is gone
has the id of an expired one. -/
structure Expires (nowMs ttlMs : ℤ) (before after : PairingStore) : Prop where
  approved : after.approved = before.approved
  pending : after.pending.Sublist before.pending
  expired : ∀ request ∈ before.pending, request ∉ after.pending →
    ∃ gone ∈ before.pending, gone.pairingId = request.pairingId ∧ isExpired gone nowMs ttlMs = true

/-- Nothing may have expired. -/
theorem Expires.refl (nowMs ttlMs : ℤ) (store : PairingStore) :
    Expires nowMs ttlMs store store where
  approved := rfl
  pending := List.Sublist.refl _
  expired := fun _ hmem hgone => absurd hmem hgone

/-- One more expired request is taken away, or the write fails. -/
theorem Expires.removePendingPairing {nowMs ttlMs : ℤ} {before store : PairingStore}
    (h : Expires nowMs ttlMs before store) {request : PairingRequest}
    (hrequest : request ∈ before.pending) (hexpired : isExpired request nowMs ttlMs = true) :
    Expires nowMs ttlMs before (store.removePendingPairing request.pairingId).1 := by
  unfold PairingStore.removePendingPairing
  split_ifs
  · rcases store.save_cases (remove PairingRequest.pairingId request.pairingId store.pending)
      store.approved with heq | heq
    · rw [heq]
      refine ⟨h.approved, List.filter_sublist.trans h.pending, ?_⟩
      intro other hother hgone
      by_cases hkept : other ∈ store.pending
      · have hid : other.pairingId = request.pairingId := by
          by_contra hne
          exact hgone (mem_remove.mpr ⟨hkept, hne⟩)
        exact ⟨request, hrequest, hid.symm, hexpired⟩
      · exact h.expired other hother hkept
    · rw [heq]
      exact ⟨h.approved, h.pending, h.expired⟩
  · exact h

/-- The loop takes expired requests away, and nothing else. -/
theorem expires_removeExpired {nowMs ttlMs : ℤ} {requests : List PairingRequest}
    {before store : PairingStore} (hrequests : ∀ request ∈ requests, request ∈ before.pending)
    (h : Expires nowMs ttlMs before store) :
    Expires nowMs ttlMs before (removeExpired nowMs ttlMs requests store) := by
  induction requests generalizing store with
  | nil => exact h
  | cons request requests ih =>
      have hrest := fun other hother => hrequests other (List.mem_cons_of_mem request hother)
      unfold removeExpired
      split_ifs with hexpired
      · exact ih hrest (h.removePendingPairing (hrequests request List.mem_cons_self) hexpired)
      · exact ih hrest h

/-- The pending requests after a pairing was started: some expired ones are gone, and there may be a
new one with the drawn id. -/
structure StartsPairing (nowMs ttlMs : ℤ) (pairingId : String) (before after : PairingStore) :
    Prop where
  approved : after.approved = before.approved
  pending : ∃ store, Expires nowMs ttlMs before store ∧
    (after.pending = store.pending ∨
      ∃ request : PairingRequest, request.pairingId = pairingId ∧
        request.requestedAtUnixMs = nowMs ∧
        after.pending = upsert PairingRequest.pairingId request store.pending)

/-- **What starting a pairing does to the service**, whatever the writes come to. -/
theorem startPairing_spec (service : PairingService) (deviceName : String) (deviceType : DeviceType)
    (nowMs : ℤ) (pairingId code : String) :
    ∃ store, StartsPairing nowMs service.pairingRequestTtlMs pairingId service.pairingStore store ∧
      (service.startPairing deviceName deviceType nowMs pairingId code).1 =
        { service with pairingStore := store } := by
  have hexpires := expires_removeExpired (fun _ h => h)
    (Expires.refl nowMs service.pairingRequestTtlMs service.pairingStore)
  unfold startPairing
  by_cases hname : deviceName.isEmpty
  · rw [if_pos hname]
    exact ⟨service.pairingStore, ⟨rfl, _, Expires.refl _ _ _, Or.inl rfl⟩, rfl⟩
  · rw [if_neg hname]
    generalize removeExpired nowMs _ _ _ = store at hexpires ⊢
    dsimp only
    split_ifs
    · exact ⟨store, ⟨hexpires.approved, store, hexpires, Or.inl rfl⟩, rfl⟩
    · let request : PairingRequest :=
        { pairingId, deviceName, deviceType, code, requestedAtUnixMs := nowMs }
      have hwrite : store.upsertPendingPairing request = _ ∨
          store.upsertPendingPairing request = _ := store.save_cases _ _
      rcases hwrite with heq | heq
      · rw [heq]
        refine ⟨_, ?_, rfl⟩
        exact ⟨hexpires.approved, store, hexpires, Or.inr ⟨request, rfl, rfl, rfl⟩⟩
      · rw [heq]
        refine ⟨_, ?_, rfl⟩
        exact ⟨hexpires.approved, store, hexpires, Or.inl rfl⟩

/-! ### What each call does when the writes succeed -/

variable {service : PairingService}

/-- **What starting a pairing does**: it drops some requests, and adds the new one or answers
nothing. -/
theorem startPairing_of_quiet (h : service.pairingStore.Quiet) (deviceName : String)
    (deviceType : DeviceType) (nowMs : ℤ) (pairingId code : String) :
    ∃ store, Pruned service.pairingStore store ∧
      (service.startPairing deviceName deviceType nowMs pairingId code =
          ({ service with pairingStore := store }, none) ∨
        ∃ request, request.pairingId = pairingId ∧
          service.startPairing deviceName deviceType nowMs pairingId code =
            ({ service with
                pairingStore :=
                  { store with pending := upsert PairingRequest.pairingId request store.pending } },
              some request)) := by
  have hpruned := pruned_removeExpired nowMs service.pairingRequestTtlMs
    service.pairingStore.pending h
  unfold startPairing
  generalize removeExpired nowMs _ _ _ = store at hpruned ⊢
  by_cases hname : deviceName.isEmpty
  · rw [if_pos hname]
    exact ⟨service.pairingStore, Pruned.refl h, Or.inl rfl⟩
  · rw [if_neg hname]
    refine ⟨store, hpruned, ?_⟩
    dsimp only
    split_ifs
    · exact Or.inl rfl
    · rw [PairingStore.upsertPendingPairing_of_quiet hpruned.quiet]
      exact Or.inr ⟨_, rfl, rfl⟩

/-- **What approving a pairing does**, with a device id that no approved device has: it drops some
requests; and it either answers nothing, or a pending request had the id and the code and was not
expired, and then the request is gone and the device is approved. -/
theorem approvePairing_of_quiet (h : service.pairingStore.Quiet) (pairingId code : String)
    (nowMs : ℤ) {deviceId : String} (bearerToken : String) (approvedAtUnixMs : ℤ)
    (hfresh : ¬ Has PairingRecord.deviceKey deviceId
      service.pairingStore.approved) :
    ∃ store, Pruned service.pairingStore store ∧
      (service.approvePairing pairingId code nowMs deviceId bearerToken approvedAtUnixMs =
          ({ service with pairingStore := store }, none) ∨
        ∃ request record, request ∈ service.pairingStore.pending ∧
          request.pairingId = pairingId ∧ request.code = code ∧
          isExpired request nowMs service.pairingRequestTtlMs = false ∧
          record.deviceKey = deviceId ∧ record.bearerToken = bearerToken ∧
          service.approvePairing pairingId code nowMs deviceId bearerToken approvedAtUnixMs =
            ({ service with
                pairingStore :=
                  { store with
                    pending := remove PairingRequest.pairingId pairingId store.pending
                    approved := store.approved ++ [record] }
                approvedClaims :=
                  upsert Prod.fst (pairingId, { code, record }) service.approvedClaims
                rejectedClaims := remove Prod.fst pairingId service.rejectedClaims },
              some record)) := by
  have hpruned := pruned_removeExpired nowMs service.pairingRequestTtlMs
    service.pairingStore.pending h
  unfold approvePairing
  dsimp only
  generalize removeExpired nowMs _ _ _ = store at hpruned ⊢
  refine ⟨store, hpruned, ?_⟩
  rcases hfind : service.findPending pairingId with _ | request
  · exact Or.inl rfl
  · obtain ⟨hmem, hid⟩ := mem_of_find hfind
    dsimp only
    by_cases hbad : isExpired request nowMs service.pairingRequestTtlMs ∨ request.code ≠ code
    · rw [if_pos hbad]
      exact Or.inl rfl
    · rw [if_neg hbad]
      rw [not_or, Bool.not_eq_true, ne_eq, not_not] at hbad
      split_ifs
      · exact Or.inl rfl
      · generalize hrecord : PairingRecord.mk _ request.deviceName _ _ _ = record
        have hdevice : record.deviceKey = deviceId := by rw [← hrecord]; rfl
        have htoken : record.bearerToken = bearerToken := by rw [← hrecord]
        have happended : upsert PairingRecord.deviceKey record
            store.approved = store.approved ++ [record] := by
          apply upsert_absent
          rw [hdevice, hpruned.approved]
          exact hfresh
        have hquiet : ({ store with approved := store.approved ++ [record] } : PairingStore).Quiet :=
          hpruned.quiet
        rw [PairingStore.upsertApprovedPairing_of_quiet hpruned.quiet, happended]
        dsimp only
        rw [PairingStore.removePendingPairing_of_quiet hquiet]
        by_cases hhas : Has PairingRequest.pairingId pairingId store.pending
        · rw [decide_eq_true hhas]
          exact Or.inr ⟨request, record, hmem, hid, hbad.2, hbad.1, hdevice, htoken, rfl⟩
        · -- the request went with an expired one of the same id: the device is taken back
          have htaken : remove PairingRecord.deviceKey deviceId
              (store.approved ++ [record]) = store.approved := by
            rw [remove_append_singleton_self hdevice, remove_eq_self_iff, hpruned.approved]
            exact hfresh
          rw [decide_eq_false hhas, remove_eq_self_iff.mpr hhas]
          dsimp only
          rw [PairingStore.removeApprovedPairing_of_quiet hquiet]
          dsimp only
          rw [htaken]
          exact Or.inl rfl

/-- What rejecting a pairing does: no request with the id is pending, and no claim of it is left. -/
theorem rejectPairing_of_quiet (h : service.pairingStore.Quiet) (pairingId : String) (nowMs : ℤ) :
    (service.rejectPairing pairingId nowMs).1 =
      { service with
        pairingStore :=
          { service.pairingStore with
            pending := remove PairingRequest.pairingId pairingId service.pairingStore.pending }
        approvedClaims := remove Prod.fst pairingId service.approvedClaims
        rejectedClaims := upsert Prod.fst (pairingId, nowMs) service.rejectedClaims } := by
  unfold rejectPairing
  rw [PairingStore.removePendingPairing_of_quiet h]

/-- A claim is answered with a record exactly when its status is `Approved`. -/
theorem getPairingClaimStatus_approved_iff (service : PairingService) (pairingId code : String)
    (nowMs : ℤ) :
    service.getPairingClaimStatus pairingId code nowMs = .approved ↔
      (service.claimApprovedPairing pairingId code).isSome = true := by
  unfold getPairingClaimStatus claimApprovedPairing
  rcases find Prod.fst pairingId service.approvedClaims with _ | ⟨_, claim⟩
  · dsimp only
    split_ifs
    · simp
    · rcases service.findPending pairingId with _ | pending
      · simp
      · dsimp only
        split_ifs <;> simp
  · by_cases hcode : claim.code = code
    · simp [hcode]
    · simp [hcode]

end PairingService

end Sentrits.Auth
