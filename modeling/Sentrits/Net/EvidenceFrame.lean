import Sentrits.Net.RouteParts

/-!
# Who touches the stored evidence

Of all routes of the listeners two deal with the store of evidence: the one that looks at a log,
when what is seen shall be kept, and the one of the stored evidence itself.

* `KeepsStore`: a request leaves the store of evidence as it was.
* `keepsStore_dispatch`: **every other route leaves it.**

Source: `src/net/http_shared.cpp`.
-/

namespace Sentrits.Net.Http.Exchange

open Found Auth Store Service

variable {x : Exchange} {t : Turn Daemon}

/-- The answer leaves the store of evidence as it was. -/
def KeepsStore (t : Turn Daemon) (reply : Reply) : Prop :=
  reply.1.socket.evidence = t.socket.evidence

/-- What is behind a check leaves the store if it does so when it is let through. -/
theorem keepsStore_guarded {refusal : Option HttpResponse} {otherwise : Reply}
    (h : KeepsStore t otherwise) : KeepsStore t (guarded t refusal otherwise) := by
  rcases refusal with _ | response
  · exact h
  · rfl

/-- The evidence changes with its own part alone. -/
theorem evidence_update (before now : Daemon) {part : Part} (h : part ≠ .evidence) :
    (before.update now part).evidence = before.evidence :=
  (before.agree_update now h).1

/-- **No other route touches the stored evidence.** -/
theorem keepsStore_dispatch {route : HttpRoute}
    (hevidence : ∀ sessionId operation, route ≠ .evidence sessionId operation)
    (hstored : ∀ sessionId evidenceId, route ≠ .storedEvidence sessionId evidenceId) :
    KeepsStore t (x.dispatch t route) := by
  have hpart : route.part ≠ .evidence := by
    cases route with
    | evidence sessionId operation => exact absurd rfl (hevidence sessionId operation)
    | storedEvidence sessionId evidenceId => exact absurd rfl (hstored sessionId evidenceId)
    | _ => rintro ⟨⟩
  have hsame : SameBut route.part t (x.dispatch t route) := sameBut_dispatch route
  unfold KeepsStore
  rw [hsame, evidence_update _ _ hpart]

end Sentrits.Net.Http.Exchange
