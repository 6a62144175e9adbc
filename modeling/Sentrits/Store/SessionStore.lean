import Sentrits.Found.Bytes
import Sentrits.Found.Keyed
import Sentrits.Session.Types

/-!
# Persisted session records

What the daemon keeps of a session across restarts, and the three operations of the session store
on the list of records it holds.

* `upsertSessionRecord_eq`, `removeSessionRecord_eq`: both are the updates of a list with a key.

Sources: `include/vibe/store/session_store.h`, `src/store/file_stores.cpp`.
-/

namespace Sentrits.Store

open Found Found.Keyed Session

/-- Source: `session_store.h` `PersistedSessionRecord`. -/
structure PersistedSessionRecord where
  sessionId : String
  provider : ProviderType := .codex
  workspaceRoot : String
  title : String
  status : SessionStatus := .created
  conversationId : Option String := none
  groupTags : List String := []
  currentSequence : ℕ := 0
  recentTerminalTail : Bytes := []
  deriving DecidableEq

/-- The first record of the session is replaced, or the record appended.
Source: `file_stores.cpp` `UpsertBy`, `FileSessionStore::UpsertSessionRecord`. -/
def upsertSessionRecord (record : PersistedSessionRecord) :
    List PersistedSessionRecord → List PersistedSessionRecord
  | [] => [record]
  | existing :: records =>
      if existing.sessionId = record.sessionId then record :: records
      else existing :: upsertSessionRecord record records

/-- Source: `file_stores.cpp` `RemoveBy`, `FileSessionStore::RemoveSessionRecord`. -/
def removeSessionRecord (sessionId : String) (records : List PersistedSessionRecord) :
    List PersistedSessionRecord :=
  records.filter (·.sessionId ≠ sessionId)

/-- A record is put in under its session. -/
theorem upsertSessionRecord_eq (record : PersistedSessionRecord)
    (records : List PersistedSessionRecord) :
    upsertSessionRecord record records =
      upsert PersistedSessionRecord.sessionId record records := by
  induction records with
  | nil => rfl
  | cons existing records ih => rw [upsertSessionRecord, upsert, ih]

/-- A record is removed under its session. -/
theorem removeSessionRecord_eq (sessionId : String) (records : List PersistedSessionRecord) :
    removeSessionRecord sessionId records =
      remove PersistedSessionRecord.sessionId sessionId records := rfl

end Sentrits.Store
