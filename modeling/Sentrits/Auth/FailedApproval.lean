import Sentrits.Auth.Authorizer
import Sentrits.Auth.PairingService

/-!
# Approvals that fail

To approve a request the service records the device, then takes the request off the pending ones.
When that fails it takes the device off again, and answers nothing; whether the third write
succeeded it does not look.

* `approvePairing_of_not_recorded`, `approvePairing_of_stuck`: what an approval leaves of the
  approved devices when it answers nothing.
* `SharedTokens`, `Unnoticed`: when the third write, and its failure, do no harm.
* `tokens_kept_iff`: **a failed approval lets through the tokens that were let through before
  exactly when** the write that goes wrong does no harm.

Sources: `src/auth/default_pairing_service.cpp`, `src/auth/default_authorizer.cpp`.
-/

namespace Sentrits.Auth

open Found Found.Bytes Found.Keyed Store

/-! ### Tokens -/

/-- The same tokens are let through for both lists of devices. -/
def SameTokens (approved approved' : List PairingRecord) : Prop :=
  ∀ token, token ≠ "" →
    ((∃ record ∈ approved', record.bearerToken = token) ↔
      ∃ record ∈ approved, record.bearerToken = token)

/-- **What the authorizer makes of two lists of devices.** -/
theorem sameTokens_iff {store store' : PairingStore} :
    SameTokens store.approved store'.approved ↔
      ∀ bearerToken, (authenticateBearerToken store' bearerToken).authorized =
        (authenticateBearerToken store bearerToken).authorized := by
  have hempty : utf8 "" = [] := by decide
  have hauthorized : ∀ bearerToken,
      ((authenticateBearerToken store' bearerToken).authorized =
          (authenticateBearerToken store bearerToken).authorized) ↔
        ((bearerToken ≠ [] ∧ Approved store' bearerToken) ↔
          (bearerToken ≠ [] ∧ Approved store bearerToken)) := by
    intro bearerToken
    rw [Bool.eq_iff_iff, authenticateBearerToken_authorized_iff,
      authenticateBearerToken_authorized_iff]
  constructor
  · intro h bearerToken
    rw [hauthorized]
    apply and_congr_right
    intro hne
    have hkept : ∀ {a b : List PairingRecord}, SameTokens a b →
        ∀ record ∈ b, utf8 record.bearerToken = bearerToken →
          ∃ other ∈ a, utf8 other.bearerToken = bearerToken := by
      intro a b hsame record hrecord htoken
      have hrecordne : record.bearerToken ≠ "" := by
        intro heq
        rw [heq, hempty] at htoken
        exact hne htoken.symm
      obtain ⟨other, hother, heq⟩ := (hsame _ hrecordne).mp ⟨record, hrecord, rfl⟩
      exact ⟨other, hother, by rw [heq]; exact htoken⟩
    have hsymm : SameTokens store'.approved store.approved := fun token htoken =>
      (h token htoken).symm
    constructor
    · rintro ⟨record, hrecord, htoken⟩
      exact hkept h record hrecord htoken
    · rintro ⟨record, hrecord, htoken⟩
      exact hkept hsymm record hrecord htoken
  · intro h token htoken
    have hne : utf8 token ≠ [] := fun heq => htoken (utf8_injective (heq.trans hempty.symm))
    have htext : ∀ s : PairingStore, Approved s (utf8 token) ↔
        ∃ record ∈ s.approved, record.bearerToken = token := by
      intro s
      unfold Approved
      constructor
      · rintro ⟨record, hrecord, heq⟩
        exact ⟨record, hrecord, utf8_injective heq⟩
      · rintro ⟨record, hrecord, rfl⟩
        exact ⟨record, hrecord, rfl⟩
    have hboth := (hauthorized (utf8 token)).mp (h (utf8 token))
    rw [and_iff_right hne, and_iff_right hne, htext, htext] at hboth
    exact hboth

/-- Every token of the device is a token of another device. -/
def SharedTokens (approved : List PairingRecord) (deviceId : String) : Prop :=
  ∀ record ∈ approved, record.deviceKey = deviceId → record.bearerToken ≠ "" →
    ∃ other ∈ approved, other.deviceKey ≠ deviceId ∧ other.bearerToken = record.bearerToken

/-- The token was let through before, and the record that goes for it has no token of its own. -/
def Unnoticed (approved : List PairingRecord) (deviceId bearerToken : String) : Prop :=
  (∃ record ∈ approved, record.bearerToken = bearerToken) ∧
    ∀ front old back, approved = front ++ old :: back →
      ¬Has PairingRecord.deviceKey deviceId front → old.deviceKey = deviceId →
      old.bearerToken ≠ "" → old.bearerToken ≠ bearerToken →
        ∃ other ∈ front ++ back, other.bearerToken = old.bearerToken

/-- **A device is taken off.** -/
theorem sameTokens_remove_iff (approved : List PairingRecord) (deviceId : String) :
    SameTokens approved (remove PairingRecord.deviceKey deviceId approved) ↔
      SharedTokens approved deviceId := by
  constructor
  · intro h record hrecord _ htoken
    obtain ⟨other, hother, heq⟩ := (h record.bearerToken htoken).mpr ⟨record, hrecord, rfl⟩
    obtain ⟨hmem, hkey⟩ := mem_remove.mp hother
    exact ⟨other, hmem, hkey, heq⟩
  · intro h token htoken
    constructor
    · rintro ⟨record, hrecord, heq⟩
      exact ⟨record, (mem_remove.mp hrecord).1, heq⟩
    · rintro ⟨record, hrecord, rfl⟩
      by_cases hkey : record.deviceKey = deviceId
      · obtain ⟨other, hother, hotherkey, heq⟩ := h record hrecord hkey htoken
        exact ⟨other, mem_remove.mpr ⟨hother, hotherkey⟩, heq⟩
      · exact ⟨record, mem_remove.mpr ⟨hrecord, hkey⟩, rfl⟩

/-- **A device is put in.** -/
theorem sameTokens_upsert_iff (approved : List PairingRecord) {record : PairingRecord}
    (htoken : record.bearerToken ≠ "") :
    SameTokens approved (upsert PairingRecord.deviceKey record approved) ↔
      Unnoticed approved record.deviceKey record.bearerToken := by
  constructor
  · intro h
    refine ⟨(h _ htoken).mp ⟨record, mem_upsert_self record approved, rfl⟩, ?_⟩
    intro front old back hsplit hfront hkey hold hne
    have hmem : old ∈ approved := by
      rw [hsplit]
      exact List.mem_append_right _ List.mem_cons_self
    obtain ⟨other, hother, heq⟩ := (h old.bearerToken hold).mpr ⟨old, hmem, rfl⟩
    rw [hsplit, upsert_split hfront hkey, List.mem_append, List.mem_cons] at hother
    refine ⟨other, List.mem_append.mpr ?_, heq⟩
    rcases hother with hother | rfl | hother
    · exact Or.inl hother
    · exact absurd heq.symm hne
    · exact Or.inr hother
  · rintro ⟨hknown, hreplaced⟩ token htoken'
    constructor
    · rintro ⟨other, hother, rfl⟩
      rcases mem_of_mem_upsert hother with rfl | hother
      · exact hknown
      · exact ⟨other, hother, rfl⟩
    · rintro ⟨other, hother, rfl⟩
      by_cases hhas : Has PairingRecord.deviceKey record.deviceKey approved
      · obtain ⟨front, old, back, hsplit, hfront, hkey⟩ := has_split hhas
        have hput : upsert PairingRecord.deviceKey record approved = front ++ record :: back := by
          rw [hsplit, upsert_split hfront hkey]
        have hkept : ∀ kept ∈ front ++ back,
            kept ∈ upsert PairingRecord.deviceKey record approved := by
          intro kept hkept
          rw [hput]
          rcases List.mem_append.mp hkept with hmem | hmem
          · exact List.mem_append_left _ hmem
          · exact List.mem_append_right _ (List.mem_cons_of_mem record hmem)
        rw [hsplit, List.mem_append, List.mem_cons] at hother
        rcases hother with hother | rfl | hother
        · exact ⟨other, hkept other (List.mem_append_left _ hother), rfl⟩
        · -- the record that is replaced
          by_cases hsame : other.bearerToken = record.bearerToken
          · exact ⟨record, mem_upsert_self record approved, hsame.symm⟩
          · obtain ⟨kept, hmem, heq⟩ :=
              hreplaced front other back hsplit hfront hkey htoken' hsame
            exact ⟨kept, hkept kept hmem, heq⟩
        · exact ⟨other, hkept other (List.mem_append_right _ hother), rfl⟩
      · rw [upsert_absent hhas]
        exact ⟨other, List.mem_append_left _ hother, rfl⟩

/-! ### The three writes -/

/-- A write, by what the next write of the store comes to. -/
theorem save_eq (store : PairingStore) (pending : List PairingRequest)
    (approved : List PairingRecord) :
    store.save pending approved =
      if store.outcomes.headD true then
        ({ pending, approved, outcomes := store.outcomes.tail }, true)
      else ({ store with outcomes := store.outcomes.tail }, false) := by
  unfold PairingStore.save
  rcases store.outcomes with _ | ⟨_ | _, outcomes⟩ <;> rfl

/-- The store records a device, and then does not take the request off the pending ones: that write
fails, or an expired request had its id. -/
def Stuck (store : PairingStore) (pairingId : String) : Prop :=
  store.outcomes.headD true = true ∧
    (Has PairingRequest.pairingId pairingId store.pending → store.outcomes.tail.headD true = false)

instance (store : PairingStore) (pairingId : String) : Decidable (Stuck store pairingId) := by
  unfold Stuck
  infer_instance

/-- The write that takes the device off again succeeds. -/
def RollsBack (store : PairingStore) (pairingId : String) : Prop :=
  (if Has PairingRequest.pairingId pairingId store.pending then store.outcomes.tail.tail
    else store.outcomes.tail).headD true = true

instance (store : PairingStore) (pairingId : String) : Decidable (RollsBack store pairingId) := by
  unfold RollsBack
  infer_instance

/-- **What the second and the third write leave** of a store in which the device was recorded. -/
theorem removeApprovedPairing_of_stuck {store : PairingStore} {pairingId : String}
    (hstuck : Stuck store pairingId) (record : PairingRecord) :
    ∃ recorded removed, store.upsertApprovedPairing record = (recorded, true) ∧
      recorded.removePendingPairing pairingId = (removed, false) ∧
      (removed.removeApprovedPairing record.deviceKey).1.approved =
        if RollsBack store pairingId then
          remove PairingRecord.deviceKey record.deviceKey store.approved
        else upsert PairingRecord.deviceKey record store.approved := by
  have hrecorded : store.upsertApprovedPairing record =
      ({ store with
          approved := upsert PairingRecord.deviceKey record store.approved
          outcomes := store.outcomes.tail }, true) := by
    rw [PairingStore.upsertApprovedPairing, save_eq, if_pos hstuck.1]
  have hhas : Has PairingRecord.deviceKey record.deviceKey
      (upsert PairingRecord.deviceKey record store.approved) :=
    ⟨record, mem_upsert_self record store.approved, rfl⟩
  have htake : ∀ outcomes,
      (PairingStore.removeApprovedPairing
          { store with
            approved := upsert PairingRecord.deviceKey record store.approved
            outcomes := outcomes } record.deviceKey).1.approved =
        if outcomes.headD true = true then
          remove PairingRecord.deviceKey record.deviceKey store.approved
        else upsert PairingRecord.deviceKey record store.approved := by
    intro outcomes
    rw [PairingStore.removeApprovedPairing, if_pos hhas, save_eq, remove_upsert_self]
    dsimp only
    split_ifs
    · rfl
    · rfl
  by_cases hpending : Has PairingRequest.pairingId pairingId store.pending
  · have hfails : ¬store.outcomes.tail.headD true = true := by
      rw [hstuck.2 hpending]
      decide
    refine ⟨_, { store with
        approved := upsert PairingRecord.deviceKey record store.approved
        outcomes := store.outcomes.tail.tail }, hrecorded, ?_, ?_⟩
    · rw [PairingStore.removePendingPairing, if_pos hpending, save_eq, if_neg hfails]
    · have hthird : RollsBack store pairingId ↔ store.outcomes.tail.tail.headD true = true := by
        rw [RollsBack, if_pos hpending]
      rw [htake]
      exact if_congr hthird.symm rfl rfl
  · refine ⟨_, { store with
        approved := upsert PairingRecord.deviceKey record store.approved
        outcomes := store.outcomes.tail }, hrecorded, ?_, ?_⟩
    · rw [PairingStore.removePendingPairing, if_neg hpending]
    · have hsecond : RollsBack store pairingId ↔ store.outcomes.tail.headD true = true := by
        rw [RollsBack, if_neg hpending]
      rw [htake]
      exact if_congr hsecond.symm rfl rfl

/-- A device that is recorded while the request goes is no failure. -/
theorem writes_of_not_stuck {store : PairingStore} {pairingId : String}
    (hstuck : ¬Stuck store pairingId) (record : PairingRecord) :
    (∃ store', store.upsertApprovedPairing record = (store', false) ∧
        store'.approved = store.approved) ∨
      ∃ recorded removed, store.upsertApprovedPairing record = (recorded, true) ∧
        recorded.removePendingPairing pairingId = (removed, true) := by
  rw [PairingStore.upsertApprovedPairing, save_eq]
  split_ifs with hwrite
  · right
    unfold Stuck at hstuck
    push Not at hstuck
    obtain ⟨hpending, hsecond⟩ := hstuck hwrite
    refine ⟨_, { pending := remove PairingRequest.pairingId pairingId store.pending
                 approved := upsert PairingRecord.deviceKey record store.approved
                 outcomes := store.outcomes.tail.tail }, rfl, ?_⟩
    rw [PairingStore.removePendingPairing, if_pos hpending, save_eq,
      if_pos (by simpa using hsecond)]
  · exact Or.inl ⟨_, rfl, rfl⟩

/-! ### Approvals -/

namespace PairingService

/-- The store once expired requests were taken off it. -/
def cleared (service : PairingService) (nowMs : ℤ) : PairingStore :=
  removeExpired nowMs service.pairingRequestTtlMs service.pairingStore.pending service.pairingStore

/-- Requests that have expired are no devices. -/
theorem approved_cleared (service : PairingService) (nowMs : ℤ) :
    (service.cleared nowMs).approved = service.pairingStore.approved :=
  (expires_removeExpired (fun _ h => h)
    (Expires.refl nowMs service.pairingRequestTtlMs service.pairingStore)).approved

/-- The request waits and has not expired, the code is right, and what was drawn is not empty. -/
def Approvable (service : PairingService) (pairingId code : String) (nowMs : ℤ)
    (deviceId bearerToken : String) : Prop :=
  (∃ pending ∈ service.findPending pairingId,
      isExpired pending nowMs service.pairingRequestTtlMs = false ∧ pending.code = code) ∧
    deviceId.isEmpty = false ∧ bearerToken.isEmpty = false

instance (service : PairingService) (pairingId code : String) (nowMs : ℤ)
    (deviceId bearerToken : String) :
    Decidable (service.Approvable pairingId code nowMs deviceId bearerToken) := by
  unfold Approvable
  infer_instance

variable {service : PairingService} {pairingId code : String} {nowMs : ℤ}
  {deviceId bearerToken : String} {approvedAtUnixMs : ℤ}

/-- **An approval that is stuck** answers nothing, and leaves the device or what was in its place.
-/
theorem approvePairing_of_stuck
    (happrovable : service.Approvable pairingId code nowMs deviceId bearerToken)
    (hstuck : Stuck (service.cleared nowMs) pairingId) (approvedAtUnixMs : ℤ) :
    ∃ record : PairingRecord, record.deviceKey = deviceId ∧ record.bearerToken = bearerToken ∧
      (service.approvePairing pairingId code nowMs deviceId bearerToken approvedAtUnixMs).2 = none ∧
      (service.approvePairing pairingId code nowMs deviceId bearerToken
          approvedAtUnixMs).1.pairingStore.approved =
        if RollsBack (service.cleared nowMs) pairingId then
          remove PairingRecord.deviceKey deviceId service.pairingStore.approved
        else upsert PairingRecord.deviceKey record service.pairingStore.approved := by
  obtain ⟨⟨pending, hpending, hexpired, hcode⟩, hdevice, htoken⟩ := happrovable
  have hfound : service.findPending pairingId = some pending := hpending
  let record : PairingRecord :=
    { deviceId := { value := deviceId }
      deviceName := pending.deviceName
      deviceType := pending.deviceType
      bearerToken
      approvedAtUnixMs }
  obtain ⟨recorded, removed, hrecorded, hremoved, happroved⟩ :=
    removeApprovedPairing_of_stuck hstuck record
  rw [approved_cleared] at happroved
  have heq : service.approvePairing pairingId code nowMs deviceId bearerToken approvedAtUnixMs =
      ({ service with pairingStore := (removed.removeApprovedPairing deviceId).1 }, none) := by
    have hclear : removeExpired nowMs service.pairingRequestTtlMs service.pairingStore.pending
        service.pairingStore = service.cleared nowMs := rfl
    unfold approvePairing
    dsimp only
    rw [hfound, hclear]
    dsimp only
    rw [if_neg (by simp [hexpired, hcode]), if_neg (by simp [hdevice, htoken]), hrecorded]
    dsimp only
    rw [hremoved]
  refine ⟨record, rfl, rfl, ?_, ?_⟩
  · rw [heq]
  · rw [heq]
    exact happroved

/-- **Any other approval that answers nothing** leaves the devices. -/
theorem approvePairing_of_not_recorded
    (h : ¬(service.Approvable pairingId code nowMs deviceId bearerToken ∧
      Stuck (service.cleared nowMs) pairingId))
    (hnone : (service.approvePairing pairingId code nowMs deviceId bearerToken
      approvedAtUnixMs).2 = none) :
    (service.approvePairing pairingId code nowMs deviceId bearerToken
      approvedAtUnixMs).1.pairingStore.approved = service.pairingStore.approved := by
  have hclear : removeExpired nowMs service.pairingRequestTtlMs service.pairingStore.pending
      service.pairingStore = service.cleared nowMs := rfl
  have hkept := service.approved_cleared nowMs
  unfold approvePairing at hnone ⊢
  dsimp only at hnone ⊢
  rw [hclear] at hnone ⊢
  rcases hfound : service.findPending pairingId with _ | pending
  · exact hkept
  · rw [hfound] at hnone
    dsimp only at hnone ⊢
    split_ifs at hnone ⊢ with hrefused hempty
    · exact hkept
    · exact hkept
    · have happrovable : service.Approvable pairingId code nowMs deviceId bearerToken := by
        simp only [not_or, Bool.not_eq_true, ne_eq, not_not] at hrefused hempty
        exact ⟨⟨pending, hfound, hrefused⟩, hempty⟩
      have hstuck := not_and.mp h happrovable
      rcases writes_of_not_stuck hstuck
          { deviceId := { value := deviceId }
            deviceName := pending.deviceName
            deviceType := pending.deviceType
            bearerToken
            approvedAtUnixMs } with
        ⟨store', hwrite, hsame⟩ | ⟨recorded, removed, hwrite, hremove⟩
      · rw [hwrite]
        exact hsame.trans hkept
      · rw [hwrite] at hnone
        dsimp only at hnone
        rw [hremove] at hnone
        exact absurd hnone (by simp)

/-- **A failed approval grants nothing, and takes nothing away, exactly when the write that went
wrong does no harm:** when a device was recorded and its request could not be taken off, either the
device is taken off again and was no device with a token of its own before, or it stays, with a
token that was let through before and in the place of none that had one of its own. -/
theorem tokens_kept_iff (service : PairingService) (pairingId code : String) (nowMs : ℤ)
    (deviceId bearerToken : String) (approvedAtUnixMs : ℤ) :
    ((service.approvePairing pairingId code nowMs deviceId bearerToken approvedAtUnixMs).2 = none →
        ∀ token,
          (authenticateBearerToken (service.approvePairing pairingId code nowMs deviceId bearerToken
              approvedAtUnixMs).1.pairingStore token).authorized =
            (authenticateBearerToken service.pairingStore token).authorized) ↔
      (service.Approvable pairingId code nowMs deviceId bearerToken →
        Stuck (service.cleared nowMs) pairingId →
          if RollsBack (service.cleared nowMs) pairingId then
            SharedTokens service.pairingStore.approved deviceId
          else Unnoticed service.pairingStore.approved deviceId bearerToken) := by
  rw [← sameTokens_iff]
  by_cases h : service.Approvable pairingId code nowMs deviceId bearerToken ∧
      Stuck (service.cleared nowMs) pairingId
  · obtain ⟨happrovable, hstuck⟩ := h
    obtain ⟨record, rfl, rfl, hnone, happroved⟩ :=
      approvePairing_of_stuck happrovable hstuck approvedAtUnixMs
    have htoken : record.bearerToken ≠ "" := by
      intro heq
      have hnotempty := happrovable.2.2
      rw [heq] at hnotempty
      exact absurd hnotempty (by decide)
    rw [happroved]
    constructor
    · intro hsame _ _
      have hsame := hsame hnone
      split_ifs at hsame ⊢
      · exact (sameTokens_remove_iff _ _).mp hsame
      · exact (sameTokens_upsert_iff _ htoken).mp hsame
    · intro hharmless _
      have hharmless := hharmless happrovable hstuck
      split_ifs at hharmless ⊢
      · exact (sameTokens_remove_iff _ _).mpr hharmless
      · exact (sameTokens_upsert_iff _ htoken).mpr hharmless
  · apply iff_of_true
    · intro hnone
      rw [approvePairing_of_not_recorded h hnone]
      exact fun token _ => Iff.rfl
    · exact fun happrovable hstuck => absurd ⟨happrovable, hstuck⟩ h

/-- A request that waits, and a store that writes once and then no more. -/
def writesOnce : PairingService where
  pairingStore :=
    { pending := [{ pairingId := "p_1", deviceName := "phone", code := "123456" }]
      outcomes := [true, false, false] }

/-- The approval of the request answers nothing, and its token is let through. -/
theorem tokens_not_kept :
    ¬∀ (service : PairingService) (pairingId code : String) (nowMs : ℤ)
        (deviceId bearerToken : String) (approvedAtUnixMs : ℤ),
        (service.approvePairing pairingId code nowMs deviceId bearerToken
          approvedAtUnixMs).2 = none →
          ∀ token,
            (authenticateBearerToken (service.approvePairing pairingId code nowMs deviceId
                bearerToken approvedAtUnixMs).1.pairingStore token).authorized =
              (authenticateBearerToken service.pairingStore token).authorized := by
  intro h
  have hkept := h writesOnce "p_1" "123456" 0 "d_1" "a1" 0 (by decide) (utf8 "a1")
  exact absurd hkept (by decide)

end PairingService

end Sentrits.Auth
