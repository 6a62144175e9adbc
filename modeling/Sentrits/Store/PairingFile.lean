import Sentrits.Store.PairingStore
import Sentrits.Store.SessionFile

/-!
# The pairing file

`pairings.json` is an object with the pending requests and the approved devices, each an array. As
with the session file, every operation reads and writes the whole file.

* `pairingRequestFromJson_eq`, `pairingRecordFromJson_eq`: **what is written is read back**, up to
  the range of a timestamp.
* `pairingRequestFromJson_again`, `pairingRecordFromJson_again`: what was read once is read again as
  it was.

Sources: `src/store/file_stores.cpp`.
-/

namespace Sentrits.Auth

/-- Source: `file_stores.cpp` `ToString(DeviceType)`. -/
def DeviceType.toString : DeviceType → String
  | .unknown => "unknown"
  | .mobile => "mobile"
  | .desktop => "desktop"
  | .browser => "browser"

end Sentrits.Auth

namespace Sentrits.Store

open Found Found.Json Found.Keyed Auth

/-! ### One entry -/

/-- Source: `file_stores.cpp` `ParseDeviceType`. -/
def parseDeviceType (value : String) : Option DeviceType :=
  if value = "unknown" then some .unknown
  else if value = "mobile" then some .mobile
  else if value = "desktop" then some .desktop
  else if value = "browser" then some .browser
  else none

/-- Source: `file_stores.cpp` `PairingRequestFromJson`. -/
def pairingRequestFromJson (value : Json) : Option PairingRequest := do
  let object ← value.asObject
  let pairingId ← required asString (ifContains object "pairingId")
  let deviceName ← required asString (ifContains object "deviceName")
  let deviceTypeName ← required asString (ifContains object "deviceType")
  let code ← required asString (ifContains object "code")
  let requestedAtUnixMs ← required asInt64 (ifContains object "requestedAtUnixMs")
  let deviceType ← parseDeviceType deviceTypeName
  some { pairingId, deviceName, deviceType, code, requestedAtUnixMs := requestedAtUnixMs.toInt }

/-- The fields of a request.
Source: `file_stores.cpp` `ToJsonValue(PairingRequest)`. -/
def pairingRequestFields (request : PairingRequest) : List (String × Option Json) :=
  [("pairingId", some (.string request.pairingId)),
    ("deviceName", some (.string request.deviceName)),
    ("deviceType", some (.string request.deviceType.toString)),
    ("code", some (.string request.code)),
    ("requestedAtUnixMs", some (.int64 (Int64.ofInt request.requestedAtUnixMs)))]

/-- Source: `file_stores.cpp` `ToJsonValue(PairingRequest)`. -/
def pairingRequestToJsonValue (request : PairingRequest) : Json :=
  .object (ofFields (pairingRequestFields request))

/-- Source: `file_stores.cpp` `PairingRecordFromJson`. -/
def pairingRecordFromJson (value : Json) : Option PairingRecord := do
  let object ← value.asObject
  let deviceId ← required asString (ifContains object "deviceId")
  let deviceName ← required asString (ifContains object "deviceName")
  let deviceTypeName ← required asString (ifContains object "deviceType")
  let bearerToken ← required asString (ifContains object "bearerToken")
  let approvedAtUnixMs ← required asInt64 (ifContains object "approvedAtUnixMs")
  let deviceType ← parseDeviceType deviceTypeName
  some
    { deviceId := { value := deviceId }
      deviceName, deviceType, bearerToken
      approvedAtUnixMs := approvedAtUnixMs.toInt }

/-- The fields of an approved device.
Source: `file_stores.cpp` `ToJsonValue(PairingRecord)`. -/
def pairingRecordFields (record : PairingRecord) : List (String × Option Json) :=
  [("deviceId", some (.string record.deviceId.value)),
    ("deviceName", some (.string record.deviceName)),
    ("deviceType", some (.string record.deviceType.toString)),
    ("bearerToken", some (.string record.bearerToken)),
    ("approvedAtUnixMs", some (.int64 (Int64.ofInt record.approvedAtUnixMs)))]

/-- Source: `file_stores.cpp` `ToJsonValue(PairingRecord)`. -/
def pairingRecordToJsonValue (record : PairingRecord) : Json :=
  .object (ofFields (pairingRecordFields record))

/-! ### The file -/

/-- Source: `file_stores.cpp` `PairingSnapshot`. -/
structure PairingSnapshot where
  pending : List PairingRequest := []
  approved : List PairingRecord := []
  deriving DecidableEq

/-- Source: `file_stores.cpp` `PairingSnapshotFromJson`. -/
def pairingSnapshotFromJson (value : Json) : Option PairingSnapshot := do
  let object ← value.asObject
  let pendingItems ← required asArray (ifContains object "pending")
  let approvedItems ← required asArray (ifContains object "approved")
  let pending ← pendingItems.mapM pairingRequestFromJson
  let approved ← approvedItems.mapM pairingRecordFromJson
  some { pending, approved }

/-- Source: `file_stores.cpp` `ToJsonValue(PairingSnapshot)`. -/
def PairingSnapshot.toJsonValue (snapshot : PairingSnapshot) : Json :=
  .object
    [("pending", .array (snapshot.pending.map pairingRequestToJsonValue)),
      ("approved", .array (snapshot.approved.map pairingRecordToJsonValue))]

namespace FilePairingStore

/-- Source: `file_stores.cpp` `LoadPairingSnapshot`. -/
def loadPairingSnapshot (lib : JsonLibrary) (file : Option String) : PairingSnapshot :=
  loadFromJsonFile lib file {} pairingSnapshotFromJson

/-- What `SavePairingSnapshot` writes.
Source: `file_stores.cpp` `SavePairingSnapshot`. -/
def savePairingSnapshot (lib : JsonLibrary) (snapshot : PairingSnapshot) : String :=
  lib.serialize snapshot.toJsonValue

/-- What the file holds once the call has returned true.
Source: `file_stores.cpp` `FilePairingStore::UpsertPendingPairing`. -/
def upsertPendingPairing (lib : JsonLibrary) (file : Option String) (request : PairingRequest) :
    Option String :=
  let snapshot := loadPairingSnapshot lib file
  some (savePairingSnapshot lib
    { snapshot with pending := upsert PairingRequest.pairingId request snapshot.pending })

/-- What the file holds once the call has returned true.
Source: `file_stores.cpp` `FilePairingStore::UpsertApprovedPairing`. -/
def upsertApprovedPairing (lib : JsonLibrary) (file : Option String) (record : PairingRecord) :
    Option String :=
  let snapshot := loadPairingSnapshot lib file
  some (savePairingSnapshot lib
    { snapshot with approved := upsert PairingRecord.deviceKey record snapshot.approved })

/-- What the file holds once the call has returned true; `none` when it returns false without
writing.
Source: `file_stores.cpp` `FilePairingStore::RemovePendingPairing`. -/
def removePendingPairing (lib : JsonLibrary) (file : Option String) (pairingId : String) :
    Option String :=
  let snapshot := loadPairingSnapshot lib file
  let pending := remove PairingRequest.pairingId pairingId snapshot.pending
  if pending.length = snapshot.pending.length then none
  else some (savePairingSnapshot lib { snapshot with pending })

/-- What the file holds once the call has returned true; `none` when it returns false without
writing.
Source: `file_stores.cpp` `FilePairingStore::RemoveApprovedPairing`. -/
def removeApprovedPairing (lib : JsonLibrary) (file : Option String) (deviceId : String) :
    Option String :=
  let snapshot := loadPairingSnapshot lib file
  let approved := remove PairingRecord.deviceKey deviceId snapshot.approved
  if approved.length = snapshot.approved.length then none
  else some (savePairingSnapshot lib { snapshot with approved })

end FilePairingStore

/-! ### Entries are read back -/

/-- A type of device is read back. -/
@[simp]
theorem parseDeviceType_toString (deviceType : DeviceType) :
    parseDeviceType deviceType.toString = some deviceType := by
  cases deviceType <;> decide

/-- **What the object written for a request is read as.** -/
theorem pairingRequestFromJson_eq (request : PairingRequest) :
    pairingRequestFromJson (pairingRequestToJsonValue request) =
      some { request with requestedAtUnixMs := (Int64.ofInt request.requestedAtUnixMs).toInt } := by
  have hnodup : ((pairingRequestFields request).map Prod.fst).Nodup := by
    show ["pairingId", "deviceName", "deviceType", "code", "requestedAtUnixMs"].Nodup
    decide
  have hfield : ∀ key {value}, (pairingRequestFields request).lookup key = some value →
      ifContains (ofFields (pairingRequestFields request)) key = value :=
    fun _ _ h => ifContains_of_lookup hnodup h
  unfold pairingRequestFromJson pairingRequestToJsonValue
  refine bind_of_eq_some (asObject_object _) ?_
  refine bind_required (hfield "pairingId" rfl) rfl ?_
  refine bind_required (hfield "deviceName" rfl) rfl ?_
  refine bind_required (hfield "deviceType" rfl) rfl ?_
  refine bind_required (hfield "code" rfl) rfl ?_
  refine bind_required (hfield "requestedAtUnixMs" rfl) rfl ?_
  refine bind_of_eq_some (parseDeviceType_toString request.deviceType) ?_
  rfl

/-- **What the object written for a device is read as.** -/
theorem pairingRecordFromJson_eq (record : PairingRecord) :
    pairingRecordFromJson (pairingRecordToJsonValue record) =
      some { record with approvedAtUnixMs := (Int64.ofInt record.approvedAtUnixMs).toInt } := by
  have hnodup : ((pairingRecordFields record).map Prod.fst).Nodup := by
    show ["deviceId", "deviceName", "deviceType", "bearerToken", "approvedAtUnixMs"].Nodup
    decide
  have hfield : ∀ key {value}, (pairingRecordFields record).lookup key = some value →
      ifContains (ofFields (pairingRecordFields record)) key = value :=
    fun _ _ h => ifContains_of_lookup hnodup h
  unfold pairingRecordFromJson pairingRecordToJsonValue
  refine bind_of_eq_some (asObject_object _) ?_
  refine bind_required (hfield "deviceId" rfl) rfl ?_
  refine bind_required (hfield "deviceName" rfl) rfl ?_
  refine bind_required (hfield "deviceType" rfl) rfl ?_
  refine bind_required (hfield "bearerToken" rfl) rfl ?_
  refine bind_required (hfield "approvedAtUnixMs" rfl) rfl ?_
  refine bind_of_eq_some (parseDeviceType_toString record.deviceType) ?_
  rfl

/-- What was read is read again from what is written for it. -/
theorem pairingRequestFromJson_again {value : Json} {request : PairingRequest}
    (h : pairingRequestFromJson value = some request) :
    pairingRequestFromJson (pairingRequestToJsonValue request) = some request := by
  unfold pairingRequestFromJson at h
  obtain ⟨object, -, h⟩ := exists_of_bind h
  obtain ⟨pairingId, -, h⟩ := exists_of_bind h
  obtain ⟨deviceName, -, h⟩ := exists_of_bind h
  obtain ⟨deviceTypeName, -, h⟩ := exists_of_bind h
  obtain ⟨code, -, h⟩ := exists_of_bind h
  obtain ⟨requestedAtUnixMs, -, h⟩ := exists_of_bind h
  obtain ⟨deviceType, -, h⟩ := exists_of_bind h
  cases h
  rw [pairingRequestFromJson_eq, Int64.ofInt_toInt]

/-- What was read is read again from what is written for it. -/
theorem pairingRecordFromJson_again {value : Json} {record : PairingRecord}
    (h : pairingRecordFromJson value = some record) :
    pairingRecordFromJson (pairingRecordToJsonValue record) = some record := by
  unfold pairingRecordFromJson at h
  obtain ⟨object, -, h⟩ := exists_of_bind h
  obtain ⟨deviceId, -, h⟩ := exists_of_bind h
  obtain ⟨deviceName, -, h⟩ := exists_of_bind h
  obtain ⟨deviceTypeName, -, h⟩ := exists_of_bind h
  obtain ⟨bearerToken, -, h⟩ := exists_of_bind h
  obtain ⟨approvedAtUnixMs, -, h⟩ := exists_of_bind h
  obtain ⟨deviceType, -, h⟩ := exists_of_bind h
  cases h
  rw [pairingRecordFromJson_eq, Int64.ofInt_toInt]

end Sentrits.Store
