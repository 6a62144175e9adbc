import Sentrits.Found.JsonText
import Sentrits.Store.PairingFile

/-!
# What an operation leaves of a store file

An operation of the session store or of the pairing store loads the whole file and writes it anew.
A load is all or nothing: one element that does not decode makes it the empty list, and what the
operation then writes holds nothing of what was there.

* `SessionOp`, `PairingOp`: the operations, and the entries they are about.
* `SessionsKept`, `PairingsKept`: every other entry is still in the file.
* `sessionsKept_iff`, `pairingsKept_iff`: when it is.
* `storeFiles_keep_others_iff`: **an operation keeps the other entries exactly when** every element
  of the file decodes, or no other entry does.

Sources: `src/store/file_stores.cpp`.
-/

namespace Sentrits.Store

open Found Found.Json Found.Keyed Auth Session

/-! ### Entries of an array -/

/-- Some element of the array is read as the value. -/
def Holds {α : Type} (decode : Json → Option α) (items : List Json) (value : α) : Prop :=
  ∃ item ∈ items, decode item = some value

/-- Every element of the array decodes. -/
def AllDecode {α : Type} (decode : Json → Option α) (items : List Json) : Prop :=
  ∀ item ∈ items, (decode item).isSome = true

section Entries

variable {α : Type} {decode : Json → Option α} {encode : α → Json}

/-- Nothing stands in an empty file. -/
theorem holds_nil (value : α) : ¬ Holds decode [] value := by
  rintro ⟨item, hmem, -⟩
  exact List.not_mem_nil hmem

/-- What is written anew of what was loaded is read as it was. -/
theorem holds_of_loaded (hagain : ∀ item value, decode item = some value →
      decode (encode value) = some value) {items : List Json} {values values' : List α}
    (hload : items.mapM decode = some values) {value : α} (hholds : Holds decode items value)
    (hkept : value ∈ values → value ∈ values') : Holds decode (values'.map encode) value := by
  obtain ⟨item, hmem, hitem⟩ := hholds
  refine ⟨encode value, List.mem_map_of_mem ?_, hagain item value hitem⟩
  exact hkept (mem_of_mapM hload hmem hitem)

/-- An array that does not load has an element that does not decode. -/
theorem not_allDecode_of_mapM {items : List Json} (h : items.mapM decode = none) :
    ¬ AllDecode decode items := by
  intro hall
  have hsome := isSome_mapM_iff.mpr hall
  rw [h] at hsome
  cases hsome

/-- What is read is read of every item. -/
theorem allDecode_of_mapM {items : List Json} {values : List α}
    (h : items.mapM decode = some values) : AllDecode decode items := by
  apply isSome_mapM_iff.mp
  rw [h]
  rfl

end Entries

/-! ### The session file -/

/-- An operation of the session store. -/
inductive SessionOp
  | upsertSessionRecord (record : PersistedSessionRecord)
  | removeSessionRecord (sessionId : String)

namespace SessionOp

/-- The session the operation is about. -/
def target : SessionOp → String
  | .upsertSessionRecord record => record.sessionId
  | .removeSessionRecord sessionId => sessionId

/-- What the file holds once the operation has returned true. -/
def perform (lib : JsonLibrary) (file : Option String) : SessionOp → Option String
  | .upsertSessionRecord record => some (FileSessionStore.upsertSessionRecord lib file record)
  | .removeSessionRecord sessionId => FileSessionStore.removeSessionRecord lib file sessionId

end SessionOp

/-- Every record of the array, the operation's own apart, is in the text's array. -/
def SessionsKept (lib : JsonLibrary) (items : List Json) (op : SessionOp) (text : String) : Prop :=
  ∃ items', lib.parse text = some (.array items') ∧
    ∀ record, Holds persistedSessionRecordFromJson items record → record.sessionId ≠ op.target →
      Holds persistedSessionRecordFromJson items' record

/-- Every element decodes, or none but the operation's own does. -/
def SessionsSafe (items : List Json) (op : SessionOp) : Prop :=
  AllDecode persistedSessionRecordFromJson items ∨
    ∀ record, Holds persistedSessionRecordFromJson items record → record.sessionId = op.target

variable {lib : JsonLibrary}

/-- A record that was read is read back. -/
theorem persistedSessionRecordFromJson_again (item : Json) (record : PersistedSessionRecord)
    (h : persistedSessionRecordFromJson item = some record) :
    persistedSessionRecordFromJson record.toJsonValue = some record :=
  persistedSessionRecordFromJson_toJsonValue (storable_of_persistedSessionRecordFromJson h)

/-- What a load makes of an array. -/
theorem loadSessions_array {text : String} {items : List Json}
    (h : lib.parse text = some (.array items)) :
    FileSessionStore.loadSessions lib (some text) =
      (items.mapM persistedSessionRecordFromJson).getD [] := by
  simp only [FileSessionStore.loadSessions, loadFromJsonFile, Option.bind_some, h]
  rfl

/-- **When an operation of the session store keeps the other records.** -/
theorem sessionsKept_iff {text text' : String} {items : List Json} {op : SessionOp}
    (hparse : lib.parse text = some (.array items)) (hop : op.perform lib (some text) = some text') :
    SessionsKept lib items op text' ↔ SessionsSafe items op := by
  have hload := loadSessions_array hparse
  rcases hitems : items.mapM persistedSessionRecordFromJson with _ | records
  · -- the load fails: what is written is about the operation's session only
    rw [hitems, Option.getD_none] at hload
    have hnot := not_allDecode_of_mapM hitems
    cases op with
    | removeSessionRecord sessionId =>
        have hnone : FileSessionStore.removeSessionRecord lib (some text) sessionId = none := by
          rw [FileSessionStore.removeSessionRecord_eq_none_iff, hload]
          rintro ⟨record, hmem, -⟩
          exact List.not_mem_nil hmem
        rw [SessionOp.perform, hnone] at hop
        cases hop
    | upsertSessionRecord record =>
        have htext : text' = lib.serialize (sessionRecordsToJsonValue [record]) := by
          rw [← Option.some.inj hop, FileSessionStore.upsertSessionRecord, hload]
          rfl
        have hparse' : lib.parse text' = some (.array [record.toJsonValue]) := by
          rw [htext, lib.parse_serialize]
          rfl
        constructor
        · rintro ⟨items', hitems', hkept⟩
          obtain rfl : [record.toJsonValue] = items' := by
            simpa [hparse'] using hitems'
          refine Or.inr fun other hother => ?_
          by_contra hne
          obtain ⟨item, hmem, hitem⟩ := hkept other hother hne
          rw [List.mem_singleton.mp hmem, persistedSessionRecordFromJson_eq] at hitem
          rw [← Option.some.inj hitem] at hne
          exact hne rfl
        · rintro (hall | hnone)
          · exact absurd hall hnot
          · exact ⟨_, hparse', fun other hother hne => absurd (hnone other hother) hne⟩
  · rw [hitems, Option.getD_some] at hload
    refine ⟨fun _ => Or.inl (allDecode_of_mapM hitems), fun _ => ?_⟩
    cases op with
    | upsertSessionRecord record =>
        refine ⟨(upsert PersistedSessionRecord.sessionId record records).map (·.toJsonValue), ?_, ?_⟩
        · rw [← Option.some.inj hop, FileSessionStore.upsertSessionRecord, hload,
            upsertSessionRecord_eq, lib.parse_serialize]
          rfl
        · intro other hother hne
          exact holds_of_loaded persistedSessionRecordFromJson_again hitems hother
            fun hmem => mem_upsert_of_ne hmem hne
    | removeSessionRecord sessionId =>
        refine ⟨(remove PersistedSessionRecord.sessionId sessionId records).map (·.toJsonValue),
          ?_, ?_⟩
        · rw [SessionOp.perform, FileSessionStore.removeSessionRecord, hload] at hop
          split_ifs at hop
          rw [← Option.some.inj hop, lib.parse_serialize]
          rfl
        · intro other hother hne
          exact holds_of_loaded persistedSessionRecordFromJson_again hitems hother
            fun hmem => mem_remove.mpr ⟨hmem, hne⟩

/-! ### The pairing file -/

/-- An operation of the pairing store. -/
inductive PairingOp
  | upsertPendingPairing (request : PairingRequest)
  | upsertApprovedPairing (record : PairingRecord)
  | removePendingPairing (pairingId : String)
  | removeApprovedPairing (deviceId : String)

namespace PairingOp

/-- The operation is about this request. -/
def TargetsPending (request : PairingRequest) : PairingOp → Prop
  | .upsertPendingPairing other => request.pairingId = other.pairingId
  | .removePendingPairing pairingId => request.pairingId = pairingId
  | _ => False

/-- The operation is about this device. -/
def TargetsApproved (record : PairingRecord) : PairingOp → Prop
  | .upsertApprovedPairing other => record.deviceKey = other.deviceKey
  | .removeApprovedPairing deviceId => record.deviceKey = deviceId
  | _ => False

/-- What the file holds once the operation has returned true. -/
def perform (lib : JsonLibrary) (file : Option String) : PairingOp → Option String
  | .upsertPendingPairing request => FilePairingStore.upsertPendingPairing lib file request
  | .upsertApprovedPairing record => FilePairingStore.upsertApprovedPairing lib file record
  | .removePendingPairing pairingId => FilePairingStore.removePendingPairing lib file pairingId
  | .removeApprovedPairing deviceId => FilePairingStore.removeApprovedPairing lib file deviceId

/-- What the operation makes of what it loaded. -/
def apply (snapshot : PairingSnapshot) : PairingOp → PairingSnapshot
  | .upsertPendingPairing request =>
      { snapshot with pending := upsert PairingRequest.pairingId request snapshot.pending }
  | .upsertApprovedPairing record =>
      { snapshot with approved := upsert PairingRecord.deviceKey record snapshot.approved }
  | .removePendingPairing pairingId =>
      { snapshot with pending := remove PairingRequest.pairingId pairingId snapshot.pending }
  | .removeApprovedPairing deviceId =>
      { snapshot with approved := remove PairingRecord.deviceKey deviceId snapshot.approved }

end PairingOp

/-- Every request and every device of the two arrays, the operation's own apart, is in the arrays
of the text's object. -/
def PairingsKept (lib : JsonLibrary) (pendingItems approvedItems : List Json) (op : PairingOp)
    (text : String) : Prop :=
  ∃ fields pendingItems' approvedItems', lib.parse text = some (.object fields) ∧
    ifContains fields "pending" = some (.array pendingItems') ∧
    ifContains fields "approved" = some (.array approvedItems') ∧
    (∀ request, Holds pairingRequestFromJson pendingItems request → ¬ op.TargetsPending request →
      Holds pairingRequestFromJson pendingItems' request) ∧
    ∀ record, Holds pairingRecordFromJson approvedItems record → ¬ op.TargetsApproved record →
      Holds pairingRecordFromJson approvedItems' record

/-- Every element decodes, or none but the operation's own does. -/
def PairingsSafe (pendingItems approvedItems : List Json) (op : PairingOp) : Prop :=
  (AllDecode pairingRequestFromJson pendingItems ∧ AllDecode pairingRecordFromJson approvedItems) ∨
    (∀ request, Holds pairingRequestFromJson pendingItems request → op.TargetsPending request) ∧
      ∀ record, Holds pairingRecordFromJson approvedItems record → op.TargetsApproved record

/-- An operation that returns true writes what it made of what it loaded. -/
theorem parse_of_perform {file : Option String} {op : PairingOp} {text : String}
    (h : op.perform lib file = some text) :
    lib.parse text = some (op.apply (FilePairingStore.loadPairingSnapshot lib file)).toJsonValue := by
  have hsaved : text = FilePairingStore.savePairingSnapshot lib
      (op.apply (FilePairingStore.loadPairingSnapshot lib file)) := by
    cases op with
    | upsertPendingPairing request => exact (Option.some.inj h).symm
    | upsertApprovedPairing record => exact (Option.some.inj h).symm
    | removePendingPairing pairingId =>
        rw [PairingOp.perform, FilePairingStore.removePendingPairing] at h
        split_ifs at h
        exact (Option.some.inj h).symm
    | removeApprovedPairing deviceId =>
        rw [PairingOp.perform, FilePairingStore.removeApprovedPairing] at h
        split_ifs at h
        exact (Option.some.inj h).symm
  rw [hsaved, FilePairingStore.savePairingSnapshot, lib.parse_serialize]

/-- What the operation keeps of what it loaded. -/
theorem PairingOp.mem_apply (op : PairingOp) (snapshot : PairingSnapshot) :
    (∀ request ∈ snapshot.pending, ¬ op.TargetsPending request →
        request ∈ (op.apply snapshot).pending) ∧
      ∀ record ∈ snapshot.approved, ¬ op.TargetsApproved record →
        record ∈ (op.apply snapshot).approved := by
  cases op with
  | upsertPendingPairing request =>
      exact ⟨fun other hmem hne => mem_upsert_of_ne hmem hne, fun record hmem _ => hmem⟩
  | upsertApprovedPairing record =>
      exact ⟨fun request hmem _ => hmem, fun other hmem hne => mem_upsert_of_ne hmem hne⟩
  | removePendingPairing pairingId =>
      exact ⟨fun other hmem hne => mem_remove.mpr ⟨hmem, hne⟩, fun record hmem _ => hmem⟩
  | removeApprovedPairing deviceId =>
      exact ⟨fun request hmem _ => hmem, fun other hmem hne => mem_remove.mpr ⟨hmem, hne⟩⟩

/-- Of an empty snapshot the operation makes its own entry at most, as it will be read. -/
theorem PairingOp.target_of_apply_empty (op : PairingOp) :
    (∀ request, Holds pairingRequestFromJson
        ((op.apply {}).pending.map pairingRequestToJsonValue) request →
          op.TargetsPending request) ∧
      ∀ record, Holds pairingRecordFromJson
        ((op.apply {}).approved.map pairingRecordToJsonValue) record →
          op.TargetsApproved record := by
  cases op with
  | upsertPendingPairing request =>
      refine ⟨?_, fun record hholds => absurd hholds (holds_nil record)⟩
      rintro other ⟨item, hmem, hitem⟩
      rw [List.mem_singleton.mp hmem, pairingRequestFromJson_eq] at hitem
      rw [← Option.some.inj hitem]
      rfl
  | upsertApprovedPairing record =>
      refine ⟨fun request hholds => absurd hholds (holds_nil request), ?_⟩
      rintro other ⟨item, hmem, hitem⟩
      rw [List.mem_singleton.mp hmem, pairingRecordFromJson_eq] at hitem
      rw [← Option.some.inj hitem]
      rfl
  | removePendingPairing pairingId =>
      exact ⟨fun request hholds => absurd hholds (holds_nil request),
        fun record hholds => absurd hholds (holds_nil record)⟩
  | removeApprovedPairing deviceId =>
      exact ⟨fun request hholds => absurd hholds (holds_nil request),
        fun record hholds => absurd hholds (holds_nil record)⟩

/-- What a load makes of an object with the two arrays. -/
theorem loadPairingSnapshot_object {text : String} {fields : List (String × Json)}
    {pendingItems approvedItems : List Json} (h : lib.parse text = some (.object fields))
    (hpending : ifContains fields "pending" = some (.array pendingItems))
    (happroved : ifContains fields "approved" = some (.array approvedItems)) :
    FilePairingStore.loadPairingSnapshot lib (some text) =
      ((pendingItems.mapM pairingRequestFromJson).bind fun pending =>
        (approvedItems.mapM pairingRecordFromJson).map fun approved =>
          { pending, approved }).getD {} := by
  have hread : pairingSnapshotFromJson (.object fields) =
      (pendingItems.mapM pairingRequestFromJson).bind fun pending =>
        (approvedItems.mapM pairingRecordFromJson).map fun approved => { pending, approved } := by
    unfold pairingSnapshotFromJson
    refine bind_of_eq_some (asObject_object _) ?_
    refine bind_required hpending rfl ?_
    refine bind_required happroved rfl ?_
    rcases pendingItems.mapM pairingRequestFromJson with _ | pending
    · rfl
    · rcases approvedItems.mapM pairingRecordFromJson with _ | approved <;> rfl
  simp only [FilePairingStore.loadPairingSnapshot, loadFromJsonFile, Option.bind_some, h, hread]

/-- **When an operation of the pairing store keeps the other entries.** -/
theorem pairingsKept_iff {text text' : String} {fields : List (String × Json)}
    {pendingItems approvedItems : List Json} {op : PairingOp}
    (hparse : lib.parse text = some (.object fields))
    (hpending : ifContains fields "pending" = some (.array pendingItems))
    (happroved : ifContains fields "approved" = some (.array approvedItems))
    (hop : op.perform lib (some text) = some text') :
    PairingsKept lib pendingItems approvedItems op text' ↔
      PairingsSafe pendingItems approvedItems op := by
  have hparse' := parse_of_perform hop
  have hload := loadPairingSnapshot_object hparse hpending happroved
  by_cases hall : AllDecode pairingRequestFromJson pendingItems ∧
      AllDecode pairingRecordFromJson approvedItems
  · refine ⟨fun _ => Or.inl hall, fun _ => ?_⟩
    obtain ⟨pending, hrequests⟩ := Option.isSome_iff_exists.mp (isSome_mapM_iff.mpr hall.1)
    obtain ⟨approved, hrecords⟩ := Option.isSome_iff_exists.mp (isSome_mapM_iff.mpr hall.2)
    rw [hrequests, hrecords] at hload
    rw [hload] at hparse'
    obtain ⟨hkeptPending, hkeptApproved⟩ := op.mem_apply { pending, approved }
    refine ⟨_, _, _, hparse', rfl, rfl, fun request hholds hne => ?_, fun record hholds hne => ?_⟩
    · exact holds_of_loaded (fun _ _ => pairingRequestFromJson_again) hrequests hholds
        fun hmem => hkeptPending request hmem hne
    · exact holds_of_loaded (fun _ _ => pairingRecordFromJson_again) hrecords hholds
        fun hmem => hkeptApproved record hmem hne
  · -- the load fails: what is written is the operation's own entry at most
    have hempty : FilePairingStore.loadPairingSnapshot lib (some text) = {} := by
      rw [hload]
      rcases hrequests : pendingItems.mapM pairingRequestFromJson with _ | pending
      · rfl
      · rcases hrecords : approvedItems.mapM pairingRecordFromJson with _ | approved
        · rfl
        · exact absurd ⟨allDecode_of_mapM hrequests, allDecode_of_mapM hrecords⟩ hall
    rw [hempty] at hparse'
    obtain ⟨htargetPending, htargetApproved⟩ := op.target_of_apply_empty
    constructor
    · rintro ⟨fields', pendingItems', approvedItems', hfields, hpending', happroved', hrequests,
        hrecords⟩
      rw [hparse'] at hfields
      obtain rfl := Json.object.inj (Option.some.inj hfields)
      obtain rfl := Json.array.inj (Option.some.inj hpending')
      obtain rfl := Json.array.inj (Option.some.inj happroved')
      refine Or.inr ⟨fun request hholds => ?_, fun record hholds => ?_⟩
      · by_contra hne
        exact hne (htargetPending request (hrequests request hholds hne))
      · by_contra hne
        exact hne (htargetApproved record (hrecords record hholds hne))
    · rintro (hsafe | ⟨hrequests, hrecords⟩)
      · exact absurd hsafe hall
      · exact ⟨_, _, _, hparse', rfl, rfl,
          fun request hholds hne => absurd (hrequests request hholds) hne,
          fun record hholds hne => absurd (hrecords record hholds) hne⟩

/-! ### Both files -/

/-- **An operation keeps the other entries exactly when** every element of the file's arrays
decodes, or none does but those the operation is about: for a session file that is an array, and for
a pairing file that is an object with its two arrays, whatever else they hold. -/
theorem storeFiles_keep_others_iff (lib : JsonLibrary) :
    (∀ text items op text', lib.parse text = some (.array items) →
      SessionOp.perform lib (some text) op = some text' →
        (SessionsKept lib items op text' ↔ SessionsSafe items op)) ∧
      ∀ text fields pendingItems approvedItems op text', lib.parse text = some (.object fields) →
        ifContains fields "pending" = some (.array pendingItems) →
        ifContains fields "approved" = some (.array approvedItems) →
        PairingOp.perform lib (some text) op = some text' →
          (PairingsKept lib pendingItems approvedItems op text' ↔
            PairingsSafe pendingItems approvedItems op) :=
  ⟨fun _ _ _ _ hparse hop => sessionsKept_iff hparse hop,
    fun _ _ _ _ _ _ hparse hpending happroved hop =>
      pairingsKept_iff hparse hpending happroved hop⟩

/-- A session that was running when the daemon stopped. -/
def runningRecord : PersistedSessionRecord where
  sessionId := "s_1"
  workspaceRoot := "/work"
  title := "build"
  status := .running

/-- The file of that session and of one whose record does not decode. -/
def mixedItems : List Json := [runningRecord.toJsonValue, .null]

/-- The operation that loses it: another session is added. -/
def addSession : SessionOp :=
  .upsertSessionRecord { sessionId := "s_2", workspaceRoot := "/work", title := "test" }

/-- The exact condition at that file, and at a pairing file with one paired phone. -/
theorem storeFiles_keep_others_iff_mixed :
    let text := JsonText.compactJson.serialize (.array mixedItems)
    let phone : PairingRecord :=
      { deviceId := { value := "d_1" }, deviceName := "phone", bearerToken := "t_1" }
    let request : PairingRequest := { pairingId := "p_2", deviceName := "tablet", code := "222222" }
    let snapshot : PairingSnapshot := { approved := [phone] }
    (SessionsKept JsonText.compactJson mixedItems addSession
        (FileSessionStore.upsertSessionRecord JsonText.compactJson (some text)
          { sessionId := "s_2", workspaceRoot := "/work", title := "test" }) ↔
      SessionsSafe mixedItems addSession) ∧
      (PairingsKept JsonText.compactJson [] [pairingRecordToJsonValue phone]
          (.upsertPendingPairing request)
          (FilePairingStore.savePairingSnapshot JsonText.compactJson
            { FilePairingStore.loadPairingSnapshot JsonText.compactJson
                (some (FilePairingStore.savePairingSnapshot JsonText.compactJson snapshot)) with
              pending := upsert PairingRequest.pairingId request
                (FilePairingStore.loadPairingSnapshot JsonText.compactJson
                  (some (FilePairingStore.savePairingSnapshot JsonText.compactJson
                    snapshot))).pending }) ↔
        PairingsSafe [] [pairingRecordToJsonValue phone] (.upsertPendingPairing request)) :=
  ⟨(storeFiles_keep_others_iff JsonText.compactJson).1 _ _ _ _
      (JsonText.compactJson.parse_serialize _) rfl,
    (storeFiles_keep_others_iff JsonText.compactJson).2 _ _ _ _ _ _
      (JsonText.compactJson.parse_serialize _) rfl rfl rfl⟩

/-- A session is added, and the running one is gone from the file. -/
theorem storeFiles_lose_running :
    ¬ ∀ text items op text', JsonText.compactJson.parse text = some (.array items) →
      SessionOp.perform JsonText.compactJson (some text) op = some text' →
        SessionsKept JsonText.compactJson items op text' := by
  intro hall
  let text := JsonText.compactJson.serialize (.array mixedItems)
  have hparse : JsonText.compactJson.parse text = some (.array mixedItems) :=
    JsonText.compactJson.parse_serialize _
  have hrunning : persistedSessionRecordFromJson runningRecord.toJsonValue = some runningRecord :=
    persistedSessionRecordFromJson_toJsonValue
      { groupTags := NormalTags.nil, currentSequence := by decide }
  have hkept := hall text mixedItems addSession _ hparse rfl
  rcases (sessionsKept_iff hparse rfl).mp hkept with hsafe | hsafe
  · have hnull := hsafe .null (by simp [mixedItems])
    cases hnull
  · have hsame := hsafe runningRecord ⟨_, List.mem_cons_self, hrunning⟩
    exact absurd hsame (by decide)

end Sentrits.Store
