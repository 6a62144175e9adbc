import Sentrits.Auth.PairingService

/-!
# Rejections that fail

To reject a request the service forgets what was approved for its id and notes the id as rejected;
only then does it take the request off the pending ones. That fails when no request has the id, or
when the store does not write.

* `rejectPairing_eq_false_iff`: when a rejection fails.
* `Unchanged`: all that can be asked of the service is answered as before.
* `NothingToLose`: whoever asks for the id is turned away already.
* `unchanged_iff`: **a failed rejection has no effect exactly when** there is nothing to lose.

Source: `src/auth/default_pairing_service.cpp`.
-/

namespace Sentrits.Auth

open Found.Keyed Store

/-! ### What is asked of the service -/

/-- All that can be asked of the service is answered as before, at any time. -/
structure Unchanged (service service' : PairingService) : Prop where
  pending : service'.pairingStore.pending = service.pairingStore.pending
  approved : service'.pairingStore.approved = service.pairingStore.approved
  claim : ∀ pairingId code,
    service'.claimApprovedPairing pairingId code = service.claimApprovedPairing pairingId code
  status : ∀ pairingId code nowMs, service'.getPairingClaimStatus pairingId code nowMs =
    service.getPairingClaimStatus pairingId code nowMs

namespace PairingService

variable {service : PairingService} {pairingId : String} {nowMs : ℤ}

/-- A request has the id, and the next write of the store succeeds. -/
def Rejects (service : PairingService) (pairingId : String) : Prop :=
  Has PairingRequest.pairingId pairingId service.pairingStore.pending ∧
    service.pairingStore.outcomes.head? ≠ some false

/-- Nothing was approved for the id, and it was rejected before or no request has it. -/
def NothingToLose (service : PairingService) (pairingId : String) : Prop :=
  ¬Has Prod.fst pairingId service.approvedClaims ∧
    (Has Prod.fst pairingId service.rejectedClaims ∨
      ¬Has PairingRequest.pairingId pairingId service.pairingStore.pending)

/-! ### The write -/

/-- A write fails when the store says so. -/
theorem save_eq_false_iff (store : PairingStore) (pending : List PairingRequest)
    (approved : List PairingRecord) :
    (store.save pending approved).2 = false ↔ store.outcomes.head? = some false := by
  unfold PairingStore.save
  rcases store.outcomes with _ | ⟨_ | _, outcomes⟩
  · simp
  · simp
  · simp

/-- **When a rejection fails.** -/
theorem rejectPairing_eq_false_iff :
    (service.rejectPairing pairingId nowMs).2 = false ↔ ¬service.Rejects pairingId := by
  unfold rejectPairing PairingStore.removePendingPairing Rejects
  dsimp only
  split_ifs with hhas
  · rw [save_eq_false_iff, and_iff_right hhas, ne_eq, not_not]
  · exact iff_of_true rfl (fun h => hhas h.1)

/-- A rejection that fails leaves the lists of the store. -/
theorem lists_rejectPairing (h : ¬service.Rejects pairingId) :
    (service.rejectPairing pairingId nowMs).1.pairingStore.pending = service.pairingStore.pending ∧
      (service.rejectPairing pairingId nowMs).1.pairingStore.approved =
        service.pairingStore.approved := by
  have hfailed : (service.rejectPairing pairingId nowMs).2 = false :=
    rejectPairing_eq_false_iff.mpr h
  clear h
  unfold rejectPairing PairingStore.removePendingPairing at hfailed ⊢
  dsimp only at hfailed ⊢
  split_ifs at hfailed ⊢
  · rcases PairingStore.save_cases service.pairingStore
      (remove PairingRequest.pairingId pairingId service.pairingStore.pending)
      service.pairingStore.approved with heq | heq
    · rw [heq] at hfailed
      simp at hfailed
    · rw [heq]
      exact ⟨rfl, rfl⟩
  · exact ⟨rfl, rfl⟩

/-! ### What is answered then -/

/-- Nobody can claim what was approved for the id. -/
theorem claim_rejectPairing_self (code : String) :
    (service.rejectPairing pairingId nowMs).1.claimApprovedPairing pairingId code = none := by
  have hclaims : (service.rejectPairing pairingId nowMs).1.approvedClaims =
      remove Prod.fst pairingId service.approvedClaims := rfl
  unfold claimApprovedPairing
  rw [hclaims, find_remove_self]

/-- Whoever asks for the id is turned away. -/
theorem status_rejectPairing_self (code : String) (askedMs : ℤ) :
    (service.rejectPairing pairingId nowMs).1.getPairingClaimStatus pairingId code askedMs =
      .rejected := by
  have hclaims : (service.rejectPairing pairingId nowMs).1.approvedClaims =
      remove Prod.fst pairingId service.approvedClaims := rfl
  have hrejected : Has Prod.fst pairingId
      (service.rejectPairing pairingId nowMs).1.rejectedClaims :=
    ⟨_, mem_upsert_self (pairingId, nowMs) service.rejectedClaims, rfl⟩
  unfold getPairingClaimStatus
  rw [hclaims, find_remove_self]
  dsimp only
  rw [if_pos hrejected]

section OtherIds

variable {other : String} (hne : other ≠ pairingId)

include hne

/-- What was approved for another id is left. -/
theorem find_approvedClaims_rejectPairing :
    find Prod.fst other (service.rejectPairing pairingId nowMs).1.approvedClaims =
      find Prod.fst other service.approvedClaims := by
  have hclaims : (service.rejectPairing pairingId nowMs).1.approvedClaims =
      remove Prod.fst pairingId service.approvedClaims := rfl
  rw [hclaims, find_remove_of_ne hne]

/-- A rejection is about its own request when a claim is made. -/
theorem claim_rejectPairing_of_ne (code : String) :
    (service.rejectPairing pairingId nowMs).1.claimApprovedPairing other code =
      service.claimApprovedPairing other code := by
  unfold claimApprovedPairing
  rw [find_approvedClaims_rejectPairing hne]

/-- No other claim is noted as rejected. -/
theorem has_rejectedClaims_rejectPairing :
    Has Prod.fst other (service.rejectPairing pairingId nowMs).1.rejectedClaims ↔
      Has Prod.fst other service.rejectedClaims := by
  have hclaims : (service.rejectPairing pairingId nowMs).1.rejectedClaims =
      upsert Prod.fst (pairingId, nowMs) service.rejectedClaims := rfl
  rw [← not_iff_not, ← find_eq_none_iff, ← find_eq_none_iff, hclaims,
    find_upsert_of_ne hne.symm]

/-- The status of another request is told as before. -/
theorem status_rejectPairing_of_ne (h : ¬service.Rejects pairingId) (code : String)
    (askedMs : ℤ) :
    (service.rejectPairing pairingId nowMs).1.getPairingClaimStatus other code askedMs =
      service.getPairingClaimStatus other code askedMs := by
  have hpending : (service.rejectPairing pairingId nowMs).1.findPending other =
      service.findPending other := by
    unfold findPending
    rw [(lists_rejectPairing h).1]
  unfold getPairingClaimStatus
  rw [find_approvedClaims_rejectPairing hne, hpending]
  simp only [has_rejectedClaims_rejectPairing hne]
  rfl

end OtherIds

/-! ### When nothing is lost -/

/-- Whoever asks for an id with nothing to lose is turned away. -/
theorem status_of_nothingToLose (h : service.NothingToLose pairingId) (code : String)
    (askedMs : ℤ) : service.getPairingClaimStatus pairingId code askedMs = .rejected := by
  unfold getPairingClaimStatus
  rw [find_eq_none_iff.mpr h.1]
  dsimp only
  rcases h.2 with hrejected | hpending
  · rw [if_pos hrejected]
  · have hfind : service.findPending pairingId = none := find_eq_none_iff.mpr hpending
    rw [hfind]
    exact ite_self _

/-- Where there is something to lose, somebody is not turned away. -/
theorem exists_status_ne (h : ¬service.NothingToLose pairingId) :
    ∃ code, ∀ askedMs, service.getPairingClaimStatus pairingId code askedMs ≠ .rejected := by
  unfold NothingToLose at h
  rw [not_and, not_or, not_not] at h
  unfold getPairingClaimStatus
  rcases hclaim : find Prod.fst pairingId service.approvedClaims with _ | ⟨_, claim⟩
  · obtain ⟨hrejected, hpending⟩ := h (find_eq_none_iff.mp hclaim)
    rcases hfind : service.findPending pairingId with _ | request
    · exact absurd hpending (find_eq_none_iff.mp hfind)
    · refine ⟨request.code, fun askedMs => ?_⟩
      dsimp only
      rw [if_neg hrejected]
      by_cases hexpired : isExpired request askedMs service.pairingRequestTtlMs = true
      · rw [if_pos hexpired]
        decide
      · rw [if_neg hexpired, if_pos rfl]
        decide
  · refine ⟨claim.code, fun askedMs => ?_⟩
    dsimp only
    rw [if_pos rfl]
    decide

/-- **A failed rejection has no effect exactly when there is nothing to lose:** nothing was approved
for the id, and it was rejected before or no request has it. -/
theorem unchanged_iff (service : PairingService) (pairingId : String) (nowMs : ℤ) :
    ((service.rejectPairing pairingId nowMs).2 = false →
        Unchanged service (service.rejectPairing pairingId nowMs).1) ↔
      service.Rejects pairingId ∨ service.NothingToLose pairingId := by
  rw [rejectPairing_eq_false_iff]
  by_cases hrejects : service.Rejects pairingId
  · exact iff_of_true (fun h => absurd hrejects h) (Or.inl hrejects)
  rw [or_iff_right hrejects]
  constructor
  · intro hkept
    by_contra hlose
    obtain ⟨code, hcode⟩ := exists_status_ne hlose
    have hsame := (hkept hrejects).status pairingId code 0
    rw [status_rejectPairing_self] at hsame
    exact hcode 0 hsame.symm
  · intro hnothing _
    refine ⟨(lists_rejectPairing hrejects).1, (lists_rejectPairing hrejects).2,
      fun other code => ?_, fun other code askedMs => ?_⟩
    · by_cases hother : other = pairingId
      · subst hother
        rw [claim_rejectPairing_self]
        unfold claimApprovedPairing
        rw [find_eq_none_iff.mpr hnothing.1]
      · exact claim_rejectPairing_of_ne hother code
    · by_cases hother : other = pairingId
      · subst hother
        rw [status_rejectPairing_self, status_of_nothingToLose hnothing]
      · exact status_rejectPairing_of_ne hother hrejects code askedMs

/-- A device that was approved and has not claimed its token yet. -/
def approvedPhone : PairingService :=
  (({ pairingStore :=
        { pending := [{ pairingId := "p_1", deviceName := "phone", code := "123456" }] } } :
      PairingService).approvePairing "p_1" "123456" 0 "d_1" "a1" 0).1

/-- The host rejects it, and is told that there is no such request; the token cannot be claimed any
more. -/
theorem changed_by_failed_rejection :
    approvedPhone.claimApprovedPairing "p_1" "123456" ≠ none ∧
      ¬∀ (service : PairingService) (pairingId : String) (nowMs : ℤ),
        (service.rejectPairing pairingId nowMs).2 = false →
          Unchanged service (service.rejectPairing pairingId nowMs).1 := by
  refine ⟨by decide, fun h => ?_⟩
  have hclaim := (h approvedPhone "p_1" 0 (by decide)).claim "p_1" "123456"
  exact absurd hclaim (by decide)

end PairingService

end Sentrits.Auth
