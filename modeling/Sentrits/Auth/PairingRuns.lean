import Sentrits.Auth.PairingService
import Sentrits.Found.Runs

/-!
# Whole runs of the pairing service

Calls come in any order, from any client, at any reading of the clock; the daemon may restart in
between, which forgets the claims and keeps the store. What the generators draw is new each time.

* `Call`, `step`: the calls, with what the clock reads and the generators draw in them.
* `Sound`: what a run from an empty store keeps, of the service and of what it did.
* `Sound.start`, `Sound.approve`, `Sound.reject`: the step lemmas.
* `approvals_sound`: **every approved device was let in by one approval** of a request that was
  pending, in time and named by its code; a pairing id is approved at most once; and what was
  approved or rejected is not pending again.

Sources: `src/auth/default_pairing_service.cpp`.
-/

namespace Sentrits.Auth

open Found.Keyed Found.Runs Store

namespace PairingService

/-! ### Calls -/

/-- A call on the service, with what the clock reads and the generators draw in it. -/
inductive Call
  | startPairing (deviceName : String) (deviceType : DeviceType) (nowMs : ℤ)
      (pairingId pairingCode : String)
  | approvePairing (pairingId code : String) (nowMs : ℤ) (deviceId bearerToken : String)
      (approvedAtUnixMs : ℤ)
  | rejectPairing (pairingId : String) (nowMs : ℤ)
  | claimApprovedPairing (pairingId code : String)
  | restart
  deriving DecidableEq

/-- The service after a call. A claim reads only. -/
def after (service : PairingService) : Call → PairingService
  | .startPairing deviceName deviceType nowMs pairingId pairingCode =>
      (service.startPairing deviceName deviceType nowMs pairingId pairingCode).1
  | .approvePairing pairingId code nowMs deviceId bearerToken approvedAtUnixMs =>
      (service.approvePairing pairingId code nowMs deviceId bearerToken approvedAtUnixMs).1
  | .rejectPairing pairingId nowMs => (service.rejectPairing pairingId nowMs).1
  | .claimApprovedPairing _ _ => service
  | .restart => { service with approvedClaims := [], rejectedClaims := [] }

/-- Every call is possible in every state. -/
def step (service : PairingService) (call : Call) : Option PairingService :=
  some (service.after call)

/-- The record a call answers with, and the pairing id it does that for. -/
def approval (service : PairingService) : Call → Option (String × PairingRecord)
  | .approvePairing pairingId code nowMs deviceId bearerToken approvedAtUnixMs =>
      (service.approvePairing pairingId code nowMs deviceId bearerToken approvedAtUnixMs).2.map
        fun record => (pairingId, record)
  | _ => none

namespace Call

/-- The pairing id a call draws. -/
def drawnPairing : Call → Option String
  | .startPairing _ _ _ pairingId _ => some pairingId
  | _ => none

/-- The device id a call draws. -/
def drawnDevice : Call → Option String
  | .approvePairing _ _ _ deviceId _ _ => some deviceId
  | _ => none

/-- The bearer token a call draws. -/
def drawnToken : Call → Option String
  | .approvePairing _ _ _ _ bearerToken _ => some bearerToken
  | _ => none

/-- The pairing id a call rejects. -/
def rejected : Call → Option String
  | .rejectPairing pairingId _ => some pairingId
  | _ => none

end Call

/-- No generator draws anything twice. -/
structure Fresh (calls : List Call) : Prop where
  pairings : (calls.filterMap Call.drawnPairing).Nodup
  devices : (calls.filterMap Call.drawnDevice).Nodup
  tokens : (calls.filterMap Call.drawnToken).Nodup

/-! ### What a run did -/

/-- The steps of a run so far. -/
abbrev Past := List (PairingService × Call)

/-- The records the run answered approvals with, each with its pairing id. -/
def approvals (past : Past) : List (String × PairingRecord) :=
  past.filterMap fun call => call.1.approval call.2

/-- The call approves a request that is pending, names its code, and comes in time. -/
def Rightful (service : PairingService) (call : Call) : Prop :=
  ∀ pairingId record, service.approval call = some (pairingId, record) →
    ∃ request ∈ service.pairingStore.pending, ∃ code nowMs deviceId bearerToken approvedAtUnixMs,
      call = .approvePairing pairingId code nowMs deviceId bearerToken approvedAtUnixMs ∧
        request.pairingId = pairingId ∧ request.code = code ∧
        isExpired request nowMs service.pairingRequestTtlMs = false

/-- The pairing id was approved in the run, or it was rejected after it had been drawn. -/
def Decided (past : Past) (pairingId : String) : Prop :=
  pairingId ∈ (approvals past).map Prod.fst ∨
    ∃ before service call later, past = before ++ (service, call) :: later ∧
      call.rejected = some pairingId ∧
      pairingId ∈ (before.map Prod.snd).filterMap Call.drawnPairing

/-! ### What one call can do -/

/-- All that a call can do to the service when the writes succeed. -/
structure Effect (service : PairingService) (call : Call) (service' : PairingService) : Prop where
  quiet : service'.pairingStore.Quiet
  pending : ∀ request ∈ service'.pairingStore.pending,
    request ∈ service.pairingStore.pending ∨ call.drawnPairing = some request.pairingId
  approved : ∀ record ∈ service'.pairingStore.approved,
    record ∈ service.pairingStore.approved ∨ ∃ pairingId,
      service.approval call = some (pairingId, record)
  claims : ∀ claim ∈ service'.approvedClaims,
    claim ∈ service.approvedClaims ∨ service.approval call = some (claim.1, claim.2.record)
  gone : ∀ pairingId, call.rejected = some pairingId ∨
      (service.approval call).map Prod.fst = some pairingId →
    ¬ Has PairingRequest.pairingId pairingId service'.pairingStore.pending
  drawn : ∀ pairingId record, service.approval call = some (pairingId, record) →
    call.drawnDevice = some record.deviceKey ∧ call.drawnToken = some record.bearerToken
  rightful : Rightful service call

/-- A call that approves nothing and rejects nothing. -/
theorem Effect.of_pruned {service service' : PairingService} {call : Call} {store : PairingStore}
    (hpruned : Pruned service.pairingStore store) (hstore : service'.pairingStore = store)
    (hclaims : ∀ claim ∈ service'.approvedClaims, claim ∈ service.approvedClaims)
    (happroval : service.approval call = none) (hrejected : call.rejected = none) :
    Effect service call service' where
  quiet := hstore ▸ hpruned.quiet
  pending := fun request hmem => Or.inl (hpruned.pending.subset (hstore ▸ hmem))
  approved := fun record hmem => by
    rw [hstore, hpruned.approved] at hmem
    exact Or.inl hmem
  claims := fun claim hmem => Or.inl (hclaims claim hmem)
  gone := by simp [happroval, hrejected]
  drawn := by simp [happroval]
  rightful := by simp [Rightful, happroval]

/-- What a new request changes. -/
theorem effect_startPairing {service : PairingService} (h : service.pairingStore.Quiet)
    (deviceName : String) (deviceType : DeviceType) (nowMs : ℤ) (pairingId pairingCode : String) :
    Effect service (.startPairing deviceName deviceType nowMs pairingId pairingCode)
      (service.startPairing deviceName deviceType nowMs pairingId pairingCode).1 := by
  obtain ⟨store, hpruned, heq | ⟨request, rfl, heq⟩⟩ :=
    startPairing_of_quiet h deviceName deviceType nowMs pairingId pairingCode
  · rw [heq]
    exact Effect.of_pruned hpruned rfl (fun _ hmem => hmem) rfl rfl
  · rw [heq]
    have heffect : Effect service
        (.startPairing deviceName deviceType nowMs request.pairingId pairingCode)
        { service with pairingStore := store } :=
      Effect.of_pruned hpruned rfl (fun _ hmem => hmem) rfl rfl
    refine { heffect with pending := fun other hmem => ?_, gone := by simp [approval, Call.rejected] }
    rcases mem_of_mem_upsert hmem with rfl | hmem
    · exact Or.inr rfl
    · exact Or.inl (hpruned.pending.subset hmem)

/-- What an approval changes. -/
theorem effect_approvePairing {service : PairingService} (h : service.pairingStore.Quiet)
    (pairingId code : String) (nowMs : ℤ) {deviceId : String} (bearerToken : String)
    (approvedAtUnixMs : ℤ)
    (hfresh : ¬ Has PairingRecord.deviceKey deviceId service.pairingStore.approved) :
    Effect service (.approvePairing pairingId code nowMs deviceId bearerToken approvedAtUnixMs)
      (service.approvePairing pairingId code nowMs deviceId bearerToken approvedAtUnixMs).1 := by
  obtain ⟨store, hpruned, heq | ⟨request, record, hmem, hid, hcode, htime, hdevice, htoken, heq⟩⟩ :=
    approvePairing_of_quiet h pairingId code nowMs bearerToken approvedAtUnixMs hfresh
  · rw [heq]
    exact Effect.of_pruned hpruned rfl (fun _ hmem => hmem) (by simp [approval, heq]) rfl
  · have happroval : service.approval
        (.approvePairing pairingId code nowMs deviceId bearerToken approvedAtUnixMs) =
          some (pairingId, record) := by
      simp [approval, heq]
    rw [heq]
    exact
      { quiet := hpruned.quiet
        pending := fun other hother => Or.inl (hpruned.pending.subset (mem_remove.mp hother).1)
        approved := fun other hother => by
          rcases List.mem_append.mp hother with hold | hnew
          · rw [hpruned.approved] at hold
            exact Or.inl hold
          · rw [List.mem_singleton.mp hnew]
            exact Or.inr ⟨pairingId, happroval⟩
        claims := fun claim hclaim => by
          rcases mem_of_mem_upsert hclaim with rfl | hold
          · exact Or.inr happroval
          · exact Or.inl hold
        gone := fun other hother => by
          have hsame : other = pairingId := by simpa [happroval, Call.rejected, eq_comm] using hother
          rw [hsame]
          exact not_has_remove pairingId store.pending
        drawn := fun other record' hother => by
          rw [happroval, Option.some.injEq, Prod.mk.injEq] at hother
          rw [← hother.2, hdevice, htoken]
          exact ⟨rfl, rfl⟩
        rightful := fun other record' hother => by
          rw [happroval, Option.some.injEq, Prod.mk.injEq] at hother
          rw [← hother.1]
          exact ⟨request, hmem, code, nowMs, deviceId, bearerToken, approvedAtUnixMs, rfl, hid,
            hcode, htime⟩ }

/-- What a rejection changes. -/
theorem effect_rejectPairing {service : PairingService} (h : service.pairingStore.Quiet)
    (pairingId : String) (nowMs : ℤ) :
    Effect service (.rejectPairing pairingId nowMs) (service.rejectPairing pairingId nowMs).1 := by
  rw [rejectPairing_of_quiet h]
  exact
    { quiet := h
      pending := fun request hmem => Or.inl (mem_remove.mp hmem).1
      approved := fun record hmem => Or.inl hmem
      claims := fun claim hmem => Or.inl (mem_remove.mp hmem).1
      gone := fun other hother => by
        have hsame : pairingId = other := by simpa [approval, Call.rejected] using hother
        rw [← hsame]
        exact not_has_remove pairingId service.pairingStore.pending
      drawn := by simp [approval]
      rightful := by simp [Rightful, approval] }

/-- **What a call can do**, when the device id it draws is new to the store. -/
theorem effect_after {service : PairingService} (h : service.pairingStore.Quiet) {call : Call}
    (hfresh : ∀ deviceId, call.drawnDevice = some deviceId →
      ¬ Has PairingRecord.deviceKey deviceId service.pairingStore.approved) :
    Effect service call (service.after call) := by
  cases call with
  | startPairing deviceName deviceType nowMs pairingId pairingCode =>
      exact effect_startPairing h deviceName deviceType nowMs pairingId pairingCode
  | approvePairing pairingId code nowMs deviceId bearerToken approvedAtUnixMs =>
      exact effect_approvePairing h pairingId code nowMs bearerToken approvedAtUnixMs
        (hfresh deviceId rfl)
  | rejectPairing pairingId nowMs => exact effect_rejectPairing h pairingId nowMs
  | claimApprovedPairing pairingId code =>
      exact Effect.of_pruned (Pruned.refl h) rfl (fun _ hmem => hmem) rfl rfl
  | restart =>
      exact Effect.of_pruned (Pruned.refl h) rfl (fun _ hmem => absurd hmem List.not_mem_nil)
        rfl rfl

/-! ### What a run keeps -/

/-- What every run from an empty store keeps, of the service and of what it did. -/
structure Sound (service : PairingService) (past : Past) : Prop where
  quiet : service.pairingStore.Quiet
  /-- What is pending was started. -/
  pending : ∀ request ∈ service.pairingStore.pending,
    request.pairingId ∈ (past.map Prod.snd).filterMap Call.drawnPairing
  /-- What is approved was let in by an approval. -/
  approved : ∀ record ∈ service.pairingStore.approved,
    ∃ pairingId, (pairingId, record) ∈ approvals past
  /-- What is claimed is what the approval answered. -/
  claims : ∀ claim ∈ service.approvedClaims, (claim.1, claim.2.record) ∈ approvals past
  /-- The ids of an approval were drawn. -/
  drawn : ∀ approval ∈ approvals past,
    approval.1 ∈ (past.map Prod.snd).filterMap Call.drawnPairing ∧
      approval.2.deviceKey ∈ (past.map Prod.snd).filterMap Call.drawnDevice ∧
      approval.2.bearerToken ∈ (past.map Prod.snd).filterMap Call.drawnToken
  /-- No two approvals have an id in common. -/
  pairings : ((approvals past).map Prod.fst).Nodup
  devices : ((approvals past).map fun approval => approval.2.deviceKey).Nodup
  tokens : ((approvals past).map fun approval => approval.2.bearerToken).Nodup
  decided : ∀ pairingId, Decided past pairingId →
    ¬ Has PairingRequest.pairingId pairingId service.pairingStore.pending
  rightful : ∀ call ∈ past, Rightful call.1 call.2

/-- Nothing has been asked for in the beginning. -/
theorem sound_init (ttlMs : ℤ) : Sound { pairingRequestTtlMs := ttlMs } [] where
  quiet := rfl
  pending := by simp
  approved := by simp
  claims := by simp
  drawn := by simp [approvals]
  pairings := by simp [approvals]
  devices := by simp [approvals]
  tokens := by simp [approvals]
  decided := by simp [Has]
  rightful := by simp

/-- The approvals of one call more. -/
theorem approvals_append (past : Past) (service : PairingService) (call : Call) :
    approvals (past ++ [(service, call)]) = approvals past ++ (service.approval call).toList := by
  unfold approvals
  rw [List.filterMap_append]
  rcases h : service.approval call with _ | approval
  · simp [h]
  · simp [h]

/-- How a pairing id gets decided by one more call. -/
theorem decided_append {past : Past} {service : PairingService} {call : Call} {pairingId : String}
    (h : Decided (past ++ [(service, call)]) pairingId) :
    Decided past pairingId ∨ (service.approval call).map Prod.fst = some pairingId ∨
      (call.rejected = some pairingId ∧
        pairingId ∈ (past.map Prod.snd).filterMap Call.drawnPairing) := by
  rcases h with happroved | ⟨before, other, rejecting, later, heq, hrejected, hdrawn⟩
  · rw [approvals_append, List.map_append, List.mem_append] at happroved
    rcases happroved with hold | hnew
    · exact Or.inl (Or.inl hold)
    · obtain ⟨approval, hmem, rfl⟩ := List.mem_map.mp hnew
      exact Or.inr (Or.inl (by rw [Option.mem_toList.mp hmem]; rfl))
  · rcases List.eq_nil_or_concat later with rfl | ⟨later', last, rfl⟩
    · obtain ⟨rfl, hlast⟩ := List.append_inj' heq rfl
      obtain ⟨rfl, rfl⟩ := Prod.mk.inj (List.singleton_inj.mp hlast)
      exact Or.inr (Or.inr ⟨hrejected, hdrawn⟩)
    · rw [List.concat_eq_append, ← List.cons_append, ← List.append_assoc] at heq
      obtain ⟨hpast, -⟩ := List.append_inj' heq rfl
      exact Or.inl (Or.inr ⟨before, other, rejecting, later', hpast, hrejected, hdrawn⟩)

/-- What has been decided was drawn. -/
theorem Sound.drawn_of_decided {service : PairingService} {past : Past} (h : Sound service past)
    {pairingId : String} (hdecided : Decided past pairingId) :
    pairingId ∈ (past.map Prod.snd).filterMap Call.drawnPairing := by
  rcases hdecided with happroved | ⟨before, other, call, later, rfl, -, hdrawn⟩
  · obtain ⟨approval, hmem, rfl⟩ := List.mem_map.mp happroved
    exact (h.drawn approval hmem).1
  · simp only [List.map_append, List.filterMap_append, List.mem_append]
    exact Or.inl hdrawn

/-- What a call draws is new after the calls so far. -/
structure FreshCall (past : Past) (call : Call) : Prop where
  pairing : ∀ pairingId, call.drawnPairing = some pairingId →
    pairingId ∉ (past.map Prod.snd).filterMap Call.drawnPairing
  device : ∀ deviceId, call.drawnDevice = some deviceId →
    deviceId ∉ (past.map Prod.snd).filterMap Call.drawnDevice
  token : ∀ token, call.drawnToken = some token →
    token ∉ (past.map Prod.snd).filterMap Call.drawnToken

/-- A device id that is new after the calls so far is new to the store. -/
theorem Sound.not_has_device {service : PairingService} {past : Past} (h : Sound service past)
    {call : Call} (hfresh : FreshCall past call) :
    ∀ deviceId, call.drawnDevice = some deviceId →
      ¬ Has PairingRecord.deviceKey deviceId service.pairingStore.approved := by
  rintro deviceId hdrawn ⟨record, hmem, rfl⟩
  obtain ⟨pairingId, happroval⟩ := h.approved record hmem
  exact hfresh.device _ hdrawn (h.drawn _ happroval).2.1

/-- A pairing id that a call approves had not been approved before. -/
theorem Sound.not_mem_of_approval {service : PairingService} {past : Past}
    (h : Sound service past) {call : Call} (hrightful : Rightful service call)
    {pairingId : String} {record : PairingRecord}
    (happroval : service.approval call = some (pairingId, record)) :
    pairingId ∉ (approvals past).map Prod.fst := by
  intro hmem
  obtain ⟨request, hpending, -, -, -, -, -, -, hid, -⟩ := hrightful pairingId record happroval
  exact h.decided pairingId (Or.inl hmem) ⟨request, hpending, hid⟩

/-- A list without repetitions stays one when something new is added that a call may add. -/
theorem nodup_append_toList {α : Type} {xs : List α} (h : xs.Nodup) {x : Option α}
    (hx : ∀ y, x = some y → y ∉ xs) : (xs ++ x.toList).Nodup := by
  cases x with
  | none => simpa using h
  | some y =>
      rw [Option.toList_some, List.nodup_append]
      refine ⟨h, List.nodup_singleton y, fun z hz w hw heq => ?_⟩
      rw [List.mem_singleton.mp hw] at heq
      exact hx y rfl (heq ▸ hz)

/-- **The step lemma.** -/
theorem Sound.step {service : PairingService} {past : Past} (h : Sound service past) {call : Call}
    (hfresh : FreshCall past call) : Sound (service.after call) (past ++ [(service, call)]) := by
  have heffect := effect_after h.quiet (h.not_has_device hfresh)
  have hold : ∀ {draw : Call → Option String} {id : String},
      id ∈ (past.map Prod.snd).filterMap draw →
        id ∈ ((past ++ [(service, call)]).map Prod.snd).filterMap draw := by
    intro draw id hmem
    rw [List.map_append, List.filterMap_append, List.mem_append]
    exact Or.inl hmem
  have hnew : ∀ {draw : Call → Option String} {id : String}, draw call = some id →
      id ∈ ((past ++ [(service, call)]).map Prod.snd).filterMap draw := by
    intro draw id hdraw
    simp [List.filterMap_append, hdraw]
  constructor
  case quiet => exact heffect.quiet
  case pending =>
    intro request hmem
    rcases heffect.pending request hmem with hmem | hdrawn
    · exact hold (h.pending request hmem)
    · exact hnew hdrawn
  case approved =>
    intro record hmem
    rw [approvals_append]
    rcases heffect.approved record hmem with hmem | ⟨pairingId, happroval⟩
    · obtain ⟨pairingId, hpast⟩ := h.approved record hmem
      exact ⟨pairingId, List.mem_append_left _ hpast⟩
    · exact ⟨pairingId, List.mem_append_right _ (by simp [happroval])⟩
  case claims =>
    intro claim hmem
    rw [approvals_append]
    rcases heffect.claims claim hmem with hmem | happroval
    · exact List.mem_append_left _ (h.claims claim hmem)
    · exact List.mem_append_right _ (by simp [happroval])
  case drawn =>
    intro approval hmem
    rw [approvals_append, List.mem_append] at hmem
    rcases hmem with hpast | hlast
    · obtain ⟨hpairing, hdevice, htoken⟩ := h.drawn approval hpast
      exact ⟨hold hpairing, hold hdevice, hold htoken⟩
    · have happroval := Option.mem_toList.mp hlast
      obtain ⟨hdevice, htoken⟩ := heffect.drawn _ _ happroval
      obtain ⟨request, hpending, -, -, -, -, -, -, hid, -⟩ := heffect.rightful _ _ happroval
      exact ⟨hold (hid ▸ h.pending request hpending), hnew hdevice, hnew htoken⟩
  case pairings =>
    rw [approvals_append, List.map_append, ← Option.toList_map]
    refine nodup_append_toList h.pairings fun pairingId hsome => ?_
    obtain ⟨⟨_, record⟩, happroval, rfl⟩ := Option.map_eq_some_iff.mp hsome
    exact h.not_mem_of_approval heffect.rightful happroval
  case devices =>
    rw [approvals_append, List.map_append, ← Option.toList_map]
    refine nodup_append_toList h.devices fun deviceId hsome hmem => ?_
    obtain ⟨approval, happroval, rfl⟩ := Option.map_eq_some_iff.mp hsome
    obtain ⟨other, hother, heq⟩ := List.mem_map.mp hmem
    exact hfresh.device _ (heffect.drawn _ _ happroval).1 (heq ▸ (h.drawn other hother).2.1)
  case tokens =>
    rw [approvals_append, List.map_append, ← Option.toList_map]
    refine nodup_append_toList h.tokens fun token hsome hmem => ?_
    obtain ⟨approval, happroval, rfl⟩ := Option.map_eq_some_iff.mp hsome
    obtain ⟨other, hother, heq⟩ := List.mem_map.mp hmem
    exact hfresh.token _ (heffect.drawn _ _ happroval).2 (heq ▸ (h.drawn other hother).2.2)
  case decided =>
    rintro pairingId hdecided
    rcases decided_append hdecided with hpast | happroved | ⟨hrejected, -⟩
    · rintro ⟨request, hmem, rfl⟩
      rcases heffect.pending request hmem with hmem | hdrawn
      · exact h.decided _ hpast ⟨request, hmem, rfl⟩
      · exact hfresh.pairing _ hdrawn (h.drawn_of_decided hpast)
    · exact heffect.gone pairingId (Or.inr happroved)
    · exact heffect.gone pairingId (Or.inl hrejected)
  case rightful =>
    intro other hmem
    rcases List.mem_append.mp hmem with hpast | hlast
    · exact h.rightful other hpast
    · rw [List.mem_singleton.mp hlast]
      exact heffect.rightful

/-- Every list of calls is a run. -/
theorem reaches_foldl (service : PairingService) (calls : List Call) :
    Reaches step service calls (calls.foldl after service) := by
  induction calls generalizing service with
  | nil => exact .refl service
  | cons call calls ih => exact .cons rfl (ih (service.after call))

/-- The last call of calls that draw nothing twice draws something new. -/
theorem Fresh.append {past : Past} {service : PairingService} {call : Call}
    (h : Fresh ((past ++ [(service, call)]).map Prod.snd)) :
    Fresh (past.map Prod.snd) ∧ FreshCall past call := by
  have hsplit : ∀ {draw : Call → Option String},
      (((past ++ [(service, call)]).map Prod.snd).filterMap draw).Nodup →
        ((past.map Prod.snd).filterMap draw).Nodup ∧
          ∀ id, draw call = some id → id ∉ (past.map Prod.snd).filterMap draw := by
    intro draw hnodup
    rw [List.map_append, List.filterMap_append, List.nodup_append] at hnodup
    obtain ⟨hpast, -, hdisjoint⟩ := hnodup
    exact ⟨hpast, fun id hid hmem => hdisjoint id hmem id (by simp [hid]) rfl⟩
  obtain ⟨hpairings, hpairing⟩ := hsplit h.pairings
  obtain ⟨hdevices, hdevice⟩ := hsplit h.devices
  obtain ⟨htokens, htoken⟩ := hsplit h.tokens
  exact ⟨⟨hpairings, hdevices, htokens⟩, ⟨hpairing, hdevice, htoken⟩⟩

/-- The run lemma. -/
theorem sound_of_run (ttlMs : ℤ) {calls : List Call} (hfresh : Fresh calls) :
    Sound (calls.foldl after { pairingRequestTtlMs := ttlMs })
      (history step { pairingRequestTtlMs := ttlMs } calls) := by
  have hrun := reaches_foldl { pairingRequestTtlMs := ttlMs } calls
  have hgen := hrun.history_invariant
    (fun service past => Fresh (past.map Prod.snd) → Sound service past)
    (fun before call after past ih hstep hnext => ?_) (fun _ => sound_init ttlMs)
  · exact hgen (by rw [hrun.history_labels]; exact hfresh)
  · cases hstep
    obtain ⟨hpast, hcall⟩ := hnext.append
    exact (ih hpast).step hcall

/-- In a list that a function is injective on, a value of it occurs once. -/
theorem countP_snd_eq_one {approvals : List (String × PairingRecord)} {record : PairingRecord}
    (hnodup : (approvals.map fun approval => approval.2.deviceKey).Nodup) {pairingId : String}
    (hmem : (pairingId, record) ∈ approvals) :
    (approvals.countP fun approval => approval.2 = record) = 1 := by
  induction approvals with
  | nil => exact absurd hmem List.not_mem_nil
  | cons approval rest ih =>
      rw [List.map_cons, List.nodup_cons] at hnodup
      rcases List.mem_cons.mp hmem with rfl | hrest
      · rw [List.countP_cons_of_pos (by simp), Nat.succ_inj, List.countP_eq_zero]
        intro other hother heq
        simp only [decide_eq_true_eq] at heq
        exact hnodup.1 (List.mem_map.mpr ⟨other, hother, by rw [heq]⟩)
      · have hne : approval.2 ≠ record := by
          rintro rfl
          exact hnodup.1 (List.mem_map.mpr ⟨_, hrest, rfl⟩)
        rw [List.countP_cons_of_neg (by simpa using hne)]
        exact ih hnodup.2 hrest

/-- **Pairing is safe over whole runs.** From an empty store whose writes succeed, whatever is
called in whatever order and whatever the clock reads, as long as the generators draw nothing twice:
every approval was of a request that was pending, in time and named by its code; every approved
record comes from exactly one approval; no pairing id and no token belong to two approvals; a claim
answers the record of an approval of its pairing id; and what was approved or rejected is not
pending again. -/
theorem approvals_sound (ttlMs : ℤ) {calls : List Call} (hfresh : Fresh calls) :
    let service := calls.foldl after { pairingRequestTtlMs := ttlMs }
    let past := history step { pairingRequestTtlMs := ttlMs } calls
    (∀ call ∈ past, Rightful call.1 call.2) ∧
      (∀ record ∈ service.pairingStore.approved,
        ((approvals past).countP fun approval => approval.2 = record) = 1) ∧
      ((approvals past).map Prod.fst).Nodup ∧
      ((approvals past).map fun approval => approval.2.bearerToken).Nodup ∧
      (∀ pairingId code record, service.claimApprovedPairing pairingId code = some record →
        (pairingId, record) ∈ approvals past) ∧
      ∀ pairingId, Decided past pairingId →
        ¬ Has PairingRequest.pairingId pairingId service.pairingStore.pending := by
  intro service past
  have hsound : Sound service past := sound_of_run ttlMs hfresh
  refine ⟨hsound.rightful, ?_, hsound.pairings, hsound.tokens, ?_, hsound.decided⟩
  · intro record hmem
    obtain ⟨pairingId, happroval⟩ := hsound.approved record hmem
    exact countP_snd_eq_one hsound.devices happroval
  · intro pairingId code record hclaim
    unfold claimApprovedPairing at hclaim
    rcases hfind : find Prod.fst pairingId service.approvedClaims with _ | ⟨_, claim⟩
    · rw [hfind] at hclaim
      cases hclaim
    · obtain ⟨hmem, rfl⟩ := mem_of_find hfind
      rw [hfind] at hclaim
      dsimp only at hclaim
      split_ifs at hclaim
      rw [← Option.some.inj hclaim]
      exact hsound.claims _ hmem

/-- A request is approved with a wrong code, then with its code, then again; another one expires; a
third one is rejected. -/
theorem approvals_sound_run :
    let calls : List Call :=
      [.startPairing "phone" .mobile 0 "p_1" "123456",
        .approvePairing "p_1" "000000" 1 "d_0" "t_0" 1,
        .approvePairing "p_1" "123456" 2 "d_1" "t_1" 3,
        .approvePairing "p_1" "123456" 4 "d_2" "t_2" 4,
        .claimApprovedPairing "p_1" "123456",
        .startPairing "tablet" .mobile 5 "p_2" "222222",
        .approvePairing "p_2" "222222" 600006 "d_3" "t_3" 600006,
        .startPairing "laptop" .desktop 600007 "p_3" "333333",
        .rejectPairing "p_3" 600008, .restart]
    let service := calls.foldl after { pairingRequestTtlMs := 600000 }
    let past := history step { pairingRequestTtlMs := 600000 } calls
    (∀ call ∈ past, Rightful call.1 call.2) ∧
      (∀ record ∈ service.pairingStore.approved,
        ((approvals past).countP fun approval => approval.2 = record) = 1) ∧
      ((approvals past).map Prod.fst).Nodup ∧
      ((approvals past).map fun approval => approval.2.bearerToken).Nodup ∧
      (∀ pairingId code record, service.claimApprovedPairing pairingId code = some record →
        (pairingId, record) ∈ approvals past) ∧
      ∀ pairingId, Decided past pairingId →
        ¬ Has PairingRequest.pairingId pairingId service.pairingStore.pending :=
  approvals_sound 600000 { pairings := by decide, devices := by decide, tokens := by decide }

end PairingService

end Sentrits.Auth
