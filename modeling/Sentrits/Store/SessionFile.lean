import Sentrits.Found.JsonText
import Sentrits.Found.Keyed
import Sentrits.Store.Base64
import Sentrits.Store.HostIdentity
import Sentrits.Store.SessionStore

/-!
# The session file

`sessions.json` holds the records of the sessions as an array of objects. The store reads the whole
file, changes the list, and writes the whole file.

* `persistedSessionRecordFromJson_toJsonValue`: **a record is read back** from the object written
  for it, whatever bytes its tail holds.
* `storable_of_persistedSessionRecordFromJson`: what the decoder reads can be written again.
* `loadSessions_upsertSessionRecord`, `loadSessions_removeSessionRecord`: what a load finds after an
  upsert and after a removal.
* `sessionStore_roundTrip`: **both laws together**.

Sources: `include/vibe/store/session_store.h`, `src/store/file_stores.cpp`.
-/

namespace Sentrits.Store

open Found Found.Json Found.Keyed Session

/-! ### One record -/

/-- Source: `file_stores.cpp` `ParseSessionStatus`. -/
def parseSessionStatus (value : String) : Option SessionStatus :=
  if value = "Created" then some .created
  else if value = "Starting" then some .starting
  else if value = "Running" then some .running
  else if value = "AwaitingInput" then some .awaitingInput
  else if value = "Exited" then some .exited
  else if value = "Error" then some .error
  else none

/-- Source: `file_stores.cpp` `PersistedSessionRecordFromJson`. -/
def persistedSessionRecordFromJson (value : Json) : Option PersistedSessionRecord := do
  let object ← value.asObject
  let sessionId ← required asString (ifContains object "sessionId")
  let providerName ← required asString (ifContains object "provider")
  let workspaceRoot ← required asString (ifContains object "workspaceRoot")
  let title ← required asString (ifContains object "title")
  let statusName ← required asString (ifContains object "status")
  let tailText ← required asString (ifContains object "recentTerminalTailBase64")
  let conversationId ← orNone asString (ifContains object "conversationId")
  let provider ← parseProviderType providerName
  let status ← parseSessionStatus statusName
  let recentTerminalTail ← base64Decode (Bytes.utf8 tailText)
  let currentSequence ← required asUInt64 (ifContains object "currentSequence")
  let groupTags ← orDefault [] (fun tags => tags.asArray.bind asStrings)
    (ifContains object "groupTags")
  some
    { sessionId, provider, workspaceRoot, title, status, conversationId
      groupTags := normalizeGroupTags groupTags
      currentSequence := currentSequence.toNat
      recentTerminalTail }

/-- The fields of a record.
Source: `file_stores.cpp` `ToJsonValue(PersistedSessionRecord)`. -/
def PersistedSessionRecord.fields (record : PersistedSessionRecord) : List (String × Option Json) :=
  [("sessionId", some (.string record.sessionId)),
    ("provider", some (.string record.provider.toString)),
    ("workspaceRoot", some (.string record.workspaceRoot)),
    ("title", some (.string record.title)),
    ("status", some (.string record.status.toString)),
    ("conversationId", record.conversationId.map .string),
    ("groupTags", some (.array (record.groupTags.map .string))),
    ("currentSequence", some (.ofUInt64 (UInt64.ofNat record.currentSequence))),
    ("recentTerminalTailBase64",
      some (.string (String.ofList (base64Encode record.recentTerminalTail))))]

/-- Source: `file_stores.cpp` `ToJsonValue(PersistedSessionRecord)`. -/
def PersistedSessionRecord.toJsonValue (record : PersistedSessionRecord) : Json :=
  .object (ofFields record.fields)

/-! ### The file -/

/-- Source: `file_stores.cpp` `LoadFromJsonFile`. -/
def loadFromJsonFile {α : Type} (lib : JsonLibrary) (file : Option String) (fallback : α)
    (loader : Json → Option α) : α :=
  match file.bind lib.parse with
  | none => fallback
  | some value => (loader value).getD fallback

/-- Source: `file_stores.cpp` `SessionRecordsFromJson`. -/
def sessionRecordsFromJson (value : Json) : Option (List PersistedSessionRecord) := do
  let items ← value.asArray
  items.mapM persistedSessionRecordFromJson

/-- Source: `file_stores.cpp` `ToJsonValue(std::vector<PersistedSessionRecord>)`. -/
def sessionRecordsToJsonValue (records : List PersistedSessionRecord) : Json :=
  .array (records.map (·.toJsonValue))

namespace FileSessionStore

/-- Source: `file_stores.cpp` `FileSessionStore::LoadSessions`. -/
def loadSessions (lib : JsonLibrary) (file : Option String) : List PersistedSessionRecord :=
  loadFromJsonFile lib file [] sessionRecordsFromJson

/-- What the file holds once the call has returned true.
Source: `file_stores.cpp` `FileSessionStore::UpsertSessionRecord`. -/
def upsertSessionRecord (lib : JsonLibrary) (file : Option String)
    (record : PersistedSessionRecord) : String :=
  lib.serialize (sessionRecordsToJsonValue
    (Store.upsertSessionRecord record (loadSessions lib file)))

/-- What the file holds once the call has returned true; `none` when it returns false without
writing.
Source: `file_stores.cpp` `FileSessionStore::RemoveSessionRecord`. -/
def removeSessionRecord (lib : JsonLibrary) (file : Option String) (sessionId : String) :
    Option String :=
  let records := loadSessions lib file
  let remaining := Store.removeSessionRecord sessionId records
  if remaining.length = records.length then none
  else some (lib.serialize (sessionRecordsToJsonValue remaining))

end FileSessionStore

/-! ### A record is read back -/

/-- What a record must be like to come back as it is: its tags in normal form, its counter a 64-bit
number. -/
structure PersistedSessionRecord.Storable (record : PersistedSessionRecord) : Prop where
  groupTags : NormalTags record.groupTags
  currentSequence : record.currentSequence < 2 ^ 64

/-- A status is read back. -/
@[simp]
theorem parseSessionStatus_toString (status : SessionStatus) :
    parseSessionStatus status.toString = some status := by
  cases status <;> decide

/-- No field is written twice. -/
theorem PersistedSessionRecord.nodup_fields (record : PersistedSessionRecord) :
    (record.fields.map Prod.fst).Nodup := by
  show ["sessionId", "provider", "workspaceRoot", "title", "status", "conversationId", "groupTags",
    "currentSequence", "recentTerminalTailBase64"].Nodup
  decide

/-- The fields of a written record. -/
theorem PersistedSessionRecord.ifContains_fields (record : PersistedSessionRecord) (key : String)
    {value : Option Json} (h : record.fields.lookup key = some value) :
    ifContains (ofFields record.fields) key = value :=
  ifContains_of_lookup record.nodup_fields h

/-- What the object written for a record is read as. -/
theorem persistedSessionRecordFromJson_eq (record : PersistedSessionRecord) :
    persistedSessionRecordFromJson record.toJsonValue =
      some
        { record with
          groupTags := normalizeGroupTags record.groupTags
          currentSequence := record.currentSequence % 2 ^ 64 } := by
  unfold persistedSessionRecordFromJson PersistedSessionRecord.toJsonValue
  refine bind_of_eq_some (asObject_object _) ?_
  refine bind_required (record.ifContains_fields "sessionId" rfl) rfl ?_
  refine bind_required (record.ifContains_fields "provider" rfl) rfl ?_
  refine bind_required (record.ifContains_fields "workspaceRoot" rfl) rfl ?_
  refine bind_required (record.ifContains_fields "title" rfl) rfl ?_
  refine bind_required (record.ifContains_fields "status" rfl) rfl ?_
  refine bind_required (record.ifContains_fields "recentTerminalTailBase64" rfl) rfl ?_
  refine bind_orNone (record.ifContains_fields "conversationId" rfl)
    (orNone_map asString_string record.conversationId) ?_
  refine bind_of_eq_some (parseProviderType_toString record.provider) ?_
  refine bind_of_eq_some (parseSessionStatus_toString record.status) ?_
  refine bind_of_eq_some (base64Decode_base64Encode record.recentTerminalTail) ?_
  refine bind_required (record.ifContains_fields "currentSequence" rfl)
    (asUInt64_ofUInt64 (UInt64.ofNat record.currentSequence)) ?_
  refine bind_orDefault (record.ifContains_fields "groupTags" rfl)
    (asStrings_map_string record.groupTags) ?_
  rw [UInt64.toNat_ofNat']

/-- **A record is read back** from the object that is written for it. -/
theorem persistedSessionRecordFromJson_toJsonValue {record : PersistedSessionRecord}
    (h : record.Storable) : persistedSessionRecordFromJson record.toJsonValue = some record := by
  rw [persistedSessionRecordFromJson_eq, normalizeGroupTags_of_normalTags h.groupTags,
    Nat.mod_eq_of_lt h.currentSequence]

/-- What the decoder reads can be written again. -/
theorem storable_of_persistedSessionRecordFromJson {value : Json}
    {record : PersistedSessionRecord} (h : persistedSessionRecordFromJson value = some record) :
    record.Storable := by
  unfold persistedSessionRecordFromJson at h
  obtain ⟨object, -, h⟩ := exists_of_bind h
  obtain ⟨sessionId, -, h⟩ := exists_of_bind h
  obtain ⟨providerName, -, h⟩ := exists_of_bind h
  obtain ⟨workspaceRoot, -, h⟩ := exists_of_bind h
  obtain ⟨title, -, h⟩ := exists_of_bind h
  obtain ⟨statusName, -, h⟩ := exists_of_bind h
  obtain ⟨tailText, -, h⟩ := exists_of_bind h
  obtain ⟨conversationId, -, h⟩ := exists_of_bind h
  obtain ⟨provider, -, h⟩ := exists_of_bind h
  obtain ⟨status, -, h⟩ := exists_of_bind h
  obtain ⟨recentTerminalTail, -, h⟩ := exists_of_bind h
  obtain ⟨currentSequence, -, h⟩ := exists_of_bind h
  obtain ⟨groupTags, -, h⟩ := exists_of_bind h
  cases h
  exact
    { groupTags := normalTags_normalizeGroupTags groupTags
      currentSequence := currentSequence.toNat_lt }

/-! ### The list is read back -/

namespace FileSessionStore

variable {lib : JsonLibrary}

/-- What a load finds can be written again. -/
theorem storable_of_mem_loadSessions {file : Option String} {record : PersistedSessionRecord}
    (h : record ∈ loadSessions lib file) : record.Storable := by
  unfold loadSessions loadFromJsonFile at h
  rcases hparse : file.bind lib.parse with _ | value
  · rw [hparse] at h
    exact absurd h List.not_mem_nil
  · rw [hparse] at h
    dsimp only at h
    rcases hread : sessionRecordsFromJson value with _ | records
    · rw [hread] at h
      exact absurd h List.not_mem_nil
    · rw [hread, Option.getD_some] at h
      obtain ⟨items, -, hitems⟩ := exists_of_bind hread
      obtain ⟨item, -, hitem⟩ := exists_of_mem_mapM hitems h
      exact storable_of_persistedSessionRecordFromJson hitem

/-- A load finds the list that was written. -/
theorem loadSessions_serialize {records : List PersistedSessionRecord}
    (h : ∀ record ∈ records, record.Storable) :
    loadSessions lib (some (lib.serialize (sessionRecordsToJsonValue records))) = records := by
  have hread : sessionRecordsFromJson (sessionRecordsToJsonValue records) = some records := by
    refine bind_of_eq_some (asArray_array _) ?_
    apply mapM_map_of_readsBack
    exact fun record hmem => persistedSessionRecordFromJson_toJsonValue (h record hmem)
  simp only [loadSessions, loadFromJsonFile, Option.bind_some, lib.parse_serialize, hread,
    Option.getD_some]

/-- What a load finds after an upsert. -/
theorem loadSessions_upsertSessionRecord {record : PersistedSessionRecord} (h : record.Storable)
    (file : Option String) :
    loadSessions lib (some (upsertSessionRecord lib file record)) =
      upsert PersistedSessionRecord.sessionId record (loadSessions lib file) := by
  unfold upsertSessionRecord
  rw [upsertSessionRecord_eq]
  apply loadSessions_serialize
  intro other hother
  rcases mem_of_mem_upsert hother with rfl | hother
  · exact h
  · exact storable_of_mem_loadSessions hother

/-- A removal that finds nothing to remove writes nothing. -/
theorem removeSessionRecord_eq_none_iff {file : Option String} {sessionId : String} :
    removeSessionRecord lib file sessionId = none ↔
      ¬ Has PersistedSessionRecord.sessionId sessionId (loadSessions lib file) := by
  unfold removeSessionRecord
  dsimp only
  rw [removeSessionRecord_eq, ← remove_eq_self_iff]
  constructor
  · intro h
    split_ifs at h with hlength
    exact List.filter_sublist.eq_of_length hlength
  · intro h
    rw [if_pos (congrArg List.length h)]

/-- What a load finds after a removal. -/
theorem loadSessions_removeSessionRecord {file : Option String} {sessionId : String}
    {text : String} (h : removeSessionRecord lib file sessionId = some text) :
    loadSessions lib (some text) =
      remove PersistedSessionRecord.sessionId sessionId (loadSessions lib file) := by
  unfold removeSessionRecord at h
  dsimp only at h
  split_ifs at h
  rw [← Option.some.inj h, removeSessionRecord_eq]
  apply loadSessions_serialize
  intro other hother
  exact storable_of_mem_loadSessions (mem_remove.mp hother).1

/-- **Session records survive the store.** A record with normal tags, whatever bytes its tail holds,
is read back from the object written for it; after an upsert a load finds the old list with the
record in the place of the one it replaces, or behind the others; after a removal it finds the old
list without the removed record, and a removal that finds nothing writes nothing. -/
theorem sessionStore_roundTrip (lib : JsonLibrary) {record : PersistedSessionRecord}
    (h : record.Storable) :
    persistedSessionRecordFromJson record.toJsonValue = some record ∧
      ∀ file,
        (¬ Has PersistedSessionRecord.sessionId record.sessionId (loadSessions lib file) →
          loadSessions lib (some (upsertSessionRecord lib file record)) =
            loadSessions lib file ++ [record]) ∧
        (∀ front existing back, loadSessions lib file = front ++ existing :: back →
          existing.sessionId = record.sessionId →
          ¬ Has PersistedSessionRecord.sessionId record.sessionId front →
          loadSessions lib (some (upsertSessionRecord lib file record)) =
            front ++ record :: back) ∧
        ∀ sessionId,
          (removeSessionRecord lib file sessionId = none ↔
            ∀ other ∈ loadSessions lib file, other.sessionId ≠ sessionId) ∧
          ∀ text, removeSessionRecord lib file sessionId = some text →
            loadSessions lib (some text) =
              (loadSessions lib file).filter fun other => other.sessionId ≠ sessionId := by
  refine ⟨persistedSessionRecordFromJson_toJsonValue h, fun file => ⟨?_, ?_, ?_⟩⟩
  · intro habsent
    rw [loadSessions_upsertSessionRecord h, upsert_absent habsent]
  · intro front existing back hold hsame hfront
    rw [loadSessions_upsertSessionRecord h, hold, upsert_split hfront hsame]
  · intro sessionId
    refine ⟨removeSessionRecord_eq_none_iff.trans ?_, fun text => loadSessions_removeSessionRecord⟩
    simp [Has]

/-- A record with a tail that is not text, put into a file that holds another session and itself. -/
theorem sessionStore_roundTrip_binaryTail :
    let record : PersistedSessionRecord :=
      { sessionId := "s_2", workspaceRoot := "/w", title := "t", status := .running
        groupTags := ["build"], currentSequence := 2 ^ 63 + 1, recentTerminalTail := [0, 255, 27] }
    persistedSessionRecordFromJson record.toJsonValue = some record ∧
      ∀ file,
        (¬ Has PersistedSessionRecord.sessionId record.sessionId
            (loadSessions JsonText.compactJson file) →
          loadSessions JsonText.compactJson
              (some (upsertSessionRecord JsonText.compactJson file record)) =
            loadSessions JsonText.compactJson file ++ [record]) ∧
        (∀ front existing back,
          loadSessions JsonText.compactJson file = front ++ existing :: back →
          existing.sessionId = record.sessionId →
          ¬ Has PersistedSessionRecord.sessionId record.sessionId front →
          loadSessions JsonText.compactJson
              (some (upsertSessionRecord JsonText.compactJson file record)) =
            front ++ record :: back) ∧
        ∀ sessionId,
          (removeSessionRecord JsonText.compactJson file sessionId = none ↔
            ∀ other ∈ loadSessions JsonText.compactJson file, other.sessionId ≠ sessionId) ∧
          ∀ text, removeSessionRecord JsonText.compactJson file sessionId = some text →
            loadSessions JsonText.compactJson (some text) =
              (loadSessions JsonText.compactJson file).filter
                fun other => other.sessionId ≠ sessionId :=
  sessionStore_roundTrip JsonText.compactJson
    { groupTags :=
        { nodup := by decide
          nonempty := by decide
          normal := by decide }
      currentSequence := by decide }

end FileSessionStore

end Sentrits.Store
