import Mathlib.Data.Int.Notation
import Sentrits.Found.Keyed

/-!
# The pairing store

Pairing requests that wait for the host to decide, and the devices it approved, with the operations
of the store on them. Whether the store can write is not up to the callers: `outcomes` is what its
next writes come to, and a write past the end of the list succeeds.

* `PairingStore.Quiet`: every write succeeds.
* `upsertPendingPairing_of_quiet` and the like: what the operations do then.

Sources: `include/vibe/auth/pairing.h`, `include/vibe/store/pairing_store.h`,
`src/store/file_stores.cpp`.
-/

namespace Sentrits.Auth

/-- Source: `pairing.h` `DeviceId`. -/
structure DeviceId where
  value : String
  deriving DecidableEq

/-- Source: `pairing.h` `DeviceType`. -/
inductive DeviceType
  | unknown
  | mobile
  | desktop
  | browser
  deriving DecidableEq

/-- Source: `pairing.h` `PairingRequest`. -/
structure PairingRequest where
  pairingId : String
  deviceName : String
  deviceType : DeviceType := .unknown
  code : String
  requestedAtUnixMs : ℤ := 0
  deriving DecidableEq

/-- Source: `pairing.h` `PairingRecord`. -/
structure PairingRecord where
  deviceId : DeviceId
  deviceName : String
  deviceType : DeviceType := .unknown
  bearerToken : String
  approvedAtUnixMs : ℤ := 0
  deriving DecidableEq

/-- What the store knows a device by. -/
def PairingRecord.deviceKey (record : PairingRecord) : String := record.deviceId.value

end Sentrits.Auth

namespace Sentrits.Store

open Found.Keyed Auth

/-- Source: `pairing_store.h` `PairingStore`, as `FilePairingStore` keeps it. -/
structure PairingStore where
  pending : List PairingRequest := []
  approved : List PairingRecord := []
  /-- What the next writes of the store come to. -/
  outcomes : List Bool := []
  deriving DecidableEq

namespace PairingStore

/-! ### The operations -/

/-- Writes the lists anew; they change when the write succeeds.
Source: `file_stores.cpp` `SavePairingSnapshot`. -/
def save (store : PairingStore) (pending : List PairingRequest) (approved : List PairingRecord) :
    PairingStore × Bool :=
  match store.outcomes with
  | [] => ({ pending, approved, outcomes := [] }, true)
  | true :: outcomes => ({ pending, approved, outcomes }, true)
  | false :: outcomes => ({ store with outcomes }, false)

/-- Source: `file_stores.cpp` `FilePairingStore::UpsertPendingPairing`. -/
def upsertPendingPairing (store : PairingStore) (request : PairingRequest) : PairingStore × Bool :=
  store.save (upsert PairingRequest.pairingId request store.pending) store.approved

/-- Source: `file_stores.cpp` `FilePairingStore::UpsertApprovedPairing`. -/
def upsertApprovedPairing (store : PairingStore) (record : PairingRecord) : PairingStore × Bool :=
  store.save store.pending (upsert PairingRecord.deviceKey record store.approved)

/-- Nothing is written when no request has the id.
Source: `file_stores.cpp` `FilePairingStore::RemovePendingPairing`. -/
def removePendingPairing (store : PairingStore) (pairingId : String) : PairingStore × Bool :=
  if Has PairingRequest.pairingId pairingId store.pending then
    store.save (remove PairingRequest.pairingId pairingId store.pending) store.approved
  else (store, false)

/-- Source: `file_stores.cpp` `FilePairingStore::RemoveApprovedPairing`. -/
def removeApprovedPairing (store : PairingStore) (deviceId : String) : PairingStore × Bool :=
  if Has PairingRecord.deviceKey deviceId store.approved then
    store.save store.pending (remove PairingRecord.deviceKey deviceId store.approved)
  else (store, false)

/-- A write puts the lists in place, or leaves those there are. -/
theorem save_cases (store : PairingStore) (pending : List PairingRequest)
    (approved : List PairingRecord) :
    store.save pending approved = ({ pending, approved, outcomes := store.outcomes.tail }, true) ∨
      store.save pending approved = ({ store with outcomes := store.outcomes.tail }, false) := by
  unfold save
  rcases store.outcomes with _ | ⟨_ | _, outcomes⟩
  · exact Or.inl rfl
  · exact Or.inr rfl
  · exact Or.inl rfl

/-! ### A store whose writes succeed -/

/-- Every write of the store succeeds from here on. -/
def Quiet (store : PairingStore) : Prop := store.outcomes = []

instance (store : PairingStore) : Decidable store.Quiet :=
  inferInstanceAs (Decidable (_ = _))

variable {store : PairingStore}

/-- A store that is not disturbed saves. -/
theorem save_of_quiet (h : store.Quiet) (pending : List PairingRequest)
    (approved : List PairingRecord) :
    store.save pending approved = ({ store with pending, approved }, true) := by
  unfold save
  rw [show store.outcomes = [] from h]

/-- A store that is not disturbed keeps a request. -/
theorem upsertPendingPairing_of_quiet (h : store.Quiet) (request : PairingRequest) :
    store.upsertPendingPairing request =
      ({ store with pending := upsert PairingRequest.pairingId request store.pending }, true) :=
  save_of_quiet h _ _

/-- A store that is not disturbed keeps a device. -/
theorem upsertApprovedPairing_of_quiet (h : store.Quiet) (record : PairingRecord) :
    store.upsertApprovedPairing record =
      ({ store with approved := upsert PairingRecord.deviceKey record store.approved }, true) :=
  save_of_quiet h _ _

/-- A store that is not disturbed removes a request. -/
theorem removePendingPairing_of_quiet (h : store.Quiet) (pairingId : String) :
    store.removePendingPairing pairingId =
      ({ store with pending := remove PairingRequest.pairingId pairingId store.pending },
        decide (Has PairingRequest.pairingId pairingId store.pending)) := by
  unfold removePendingPairing
  split_ifs with hhas
  · rw [save_of_quiet h, decide_eq_true hhas]
  · rw [remove_eq_self_iff.mpr hhas, decide_eq_false hhas]

/-- A store that is not disturbed removes a device. -/
theorem removeApprovedPairing_of_quiet (h : store.Quiet) (deviceId : String) :
    (store.removeApprovedPairing deviceId).1 =
      { store with approved := remove PairingRecord.deviceKey deviceId store.approved } := by
  unfold removeApprovedPairing
  split_ifs with hhas
  · rw [save_of_quiet h]
  · rw [remove_eq_self_iff.mpr hhas]

end PairingStore

end Sentrits.Store
