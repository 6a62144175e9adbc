import Sentrits.Service.Control
import Sentrits.Service.TerminalInput

/-!
# Whom the manager records as controller

A client is recorded as the controller of a session from the moment its request for control is
granted until the session passes to somebody else or to nobody. Here the record is followed for one
client, over every operation of the manager.

* `RecordsController`: some session has the client as its controller.
* `sameController_of_recorded`: **only a request of the client puts it on record**.
* `HostOnly`: it is on record for one session only, as its host.
* `requestControl_granted`, `requestControl_refused`, `not_recorded_releaseControl`: what a request
  of the host and a release do to the record.

Source: `src/service/session_manager.cpp`.
-/

namespace Sentrits.Service

open Found Session

namespace SessionEntry

/-- The controllers of two entries are the same. -/
theorem SameController.client {e e' : SessionEntry} (h : SameController e e') {c : String} :
    e'.controllerClientId = some c ↔ e.controllerClientId = some c := by
  rw [h.2]

/-- Shutting down a session leaves its controller, or leaves it without one. -/
theorem client_shutdown (e : SessionEntry) (terminated : Bool) :
    SameController e (e.shutdown terminated).entry ∨
      (e.shutdown terminated).entry.controllerClientId = none := by
  have hlog : ∀ f : SessionEntry, SameController f (f.shutdownLogProcess terminated).1 := by
    intro f
    unfold shutdownLogProcess
    split
    · dsimp only
      split_ifs <;> exact ⟨rfl, rfl⟩
    · exact .refl f
  have hfinish : ∀ (f : SessionEntry) (changed : Bool), SameController e f →
      SameController e (f.finishShutdown changed terminated).entry ∨
        (f.finishShutdown changed terminated).entry.controllerClientId = none := by
    intro f changed hsame
    unfold finishShutdown
    dsimp only
    split_ifs
    · exact Or.inr rfl
    · exact Or.inl ⟨(hlog f).1.trans hsame.1, (hlog f).2.trans hsame.2⟩
  unfold shutdown
  split
  · exact hfinish e false (.refl e)
  · dsimp only
    split_ifs
    · exact hfinish _ true ⟨rfl, rfl⟩
    · exact Or.inl ⟨rfl, rfl⟩

/-- Stopping a session leaves its controller, or leaves it without one. -/
theorem client_stop (e : SessionEntry) (terminated : Bool) :
    SameController e (e.stop terminated).entry ∨
      (e.stop terminated).entry.controllerClientId = none := by
  unfold stop
  split_ifs
  · exact Or.inr rfl
  · split
    · dsimp only
      split_ifs
      · exact Or.inr rfl
      · exact Or.inl ⟨rfl, rfl⟩
    · exact Or.inl (.refl e)
    · dsimp only
      split_ifs
      · exact Or.inr rfl
      · exact Or.inl ⟨rfl, rfl⟩

/-- Releasing control leaves a session without a controller, or changes nothing. -/
theorem client_releaseControl (e : SessionEntry) (d : String) :
    (e.releaseControl d).entry = e ∨ (e.releaseControl d).entry.controllerClientId = none := by
  unfold releaseControl
  split_ifs
  · exact Or.inl rfl
  · split
    · exact Or.inl rfl
    · split_ifs
      · exact Or.inl rfl
      · exact Or.inr rfl

/-- The client that asks is the only one a request can put on record. -/
theorem client_requestControl (e : SessionEntry) (d : String) (kind : ControllerKind) :
    (e.requestControl d kind).entry = e ∨
      (e.requestControl d kind).entry.controllerClientId = some d := by
  unfold requestControl
  split_ifs
  · exact Or.inl rfl
  · exact Or.inr rfl
  · exact Or.inr rfl
  · exact Or.inl rfl

/-- **Only a request of the client puts it on record**: a session it is on record for after any
other operation is one it was on record for, and control is where it was. -/
theorem sameController_of_recorded {e e' : SessionEntry} {c : String} {op : Op}
    (hafter : e.after op = some e') (hclient : e'.controllerClientId = some c)
    (hother : ∀ id kind, op ≠ .requestControl id c kind) : SameController e e' := by
  have hsame : ∀ {f : SessionEntry}, SameController e f ∨ f.controllerClientId = none →
      f = e' → SameController e e' := by
    rintro f (h | h) rfl
    · exact h
    · rw [h] at hclient
      exact absurd hclient (by simp)
  have hite : ∀ {id : String} {f : SessionEntry},
      SameController e f ∨ f.controllerClientId = none →
      some (if e.id = id then f else e) = some e' → SameController e e' := by
    intro id f hf heq
    have heq := Option.some.inj heq
    by_cases hid : e.id = id
    · rw [if_pos hid] at heq
      exact hsame hf heq
    · rw [if_neg hid] at heq
      exact hsame (Or.inl (.refl e)) heq
  cases op with
  | createSession | createLogSession | loadPersistedSessions =>
      exact hsame (Or.inl (.refl e)) (Option.some.inj hafter)
  | appendLogStdout id data ts | appendLogStderr id data ts =>
      exact hite (Or.inl (appendLog_sameController e _ data ts)) hafter
  | updateSessionGroupTags id mode tags =>
      exact hite (Or.inl (updateGroupTags_sameController e mode tags)) hafter
  | resizeSession id size ptyResized =>
      exact hite (Or.inl (resize_sameController e size ptyResized)) hafter
  | stopSession id terminated => exact hite (client_stop e terminated) hafter
  | clearInactiveSessions =>
      simp only [after] at hafter
      split_ifs at hafter
      exact hsame (Or.inl (.refl e)) (Option.some.inj hafter)
  | requestControl id d kind =>
      have hne : d ≠ c := by
        rintro rfl
        exact hother id kind rfl
      have heq := Option.some.inj hafter
      split_ifs at heq
      · rcases client_requestControl e d kind with h | h
        · exact hsame (Or.inl (.refl e)) (h.symm.trans heq)
        · rw [heq, hclient] at h
          exact absurd (Option.some.inj h).symm hne
      · exact hsame (Or.inl (.refl e)) heq
  | releaseControl id d =>
      refine hite ?_ hafter
      rcases client_releaseControl e d with h | h
      · rw [h]
        exact Or.inl (.refl e)
      · exact Or.inr h
  | shutdown terminated => exact hsame (client_shutdown e _) (Option.some.inj hafter)
  | pollSession id answers => exact hite (Or.inl (poll_sameController e answers)) hafter
  | pollAll answers =>
      refine hsame ?_ (Option.some.inj hafter)
      split_ifs
      · exact Or.inl (.refl e)
      · exact Or.inl (poll_sameController e _)

/-- **The host** gets control whenever the session takes input. -/
theorem requestControl_host (e : SessionEntry) (c : String) :
    e.requestControl c .host =
      if e.status.isInteractive then
        { entry := { e with controllerClientId := some c, controllerKind := .host } }
      else { entry := e, result := false } := by
  unfold requestControl
  cases e.status.isInteractive <;> cases e.controllerKind <;> rfl

/-- A host that releases control is off the record. -/
theorem client_releaseControl_host {e : SessionEntry} {c : String}
    (hclient : e.controllerClientId = some c) (hkind : e.controllerKind = .host) :
    (e.releaseControl c).entry.controllerClientId = none := by
  unfold releaseControl
  simp [hclient, hkind]

/-- The host's client has control if it is on record. -/
theorem hasControl_of_host {e : SessionEntry} {c : String}
    (hclient : e.controllerClientId = some c) (hkind : e.controllerKind = .host) :
    e.hasControl c = true := by
  simp [hasControl, hclient, hkind]

end SessionEntry

namespace SessionManager

/-- The client is on record as the controller of some session. -/
def RecordsController (m : SessionManager) (c : String) : Prop :=
  ∃ e ∈ m.sessions, e.controllerClientId = some c

instance (m : SessionManager) (c : String) : Decidable (m.RecordsController c) := by
  unfold RecordsController
  infer_instance

/-- The client is on record for no session but this one, and as its host. -/
def HostOnly (m : SessionManager) (sessionId c : String) : Prop :=
  ∀ e ∈ m.sessions, e.controllerClientId = some c → e.id = sessionId ∧ e.controllerKind = .host

/-- Who is not on record is nowhere so as a remote client. -/
theorem hostOnly_of_not_recorded {m : SessionManager} {c : String} (h : ¬ m.RecordsController c)
    (sessionId : String) : m.HostOnly sessionId c :=
  fun e he hclient => absurd ⟨e, he, hclient⟩ h

/-- A client on record as host has control. -/
theorem hasControl_of_recorded {m : SessionManager} (h : m.Inv) {sessionId c : String}
    (hhost : m.HostOnly sessionId c) (hrecords : m.RecordsController c) :
    m.hasControl sessionId c = true := by
  obtain ⟨e, he, hclient⟩ := hrecords
  obtain ⟨rfl, hkind⟩ := hhost e he hclient
  unfold hasControl
  rw [findEntry_of_mem h.nodup he]
  exact SessionEntry.hasControl_of_host hclient hkind

/-- Whoever has control is on record. -/
theorem recorded_of_hasControl {m : SessionManager} {sessionId c : String}
    (h : m.hasControl sessionId c = true) : m.RecordsController c := by
  obtain ⟨e, hfind, hcontrol⟩ := exists_of_hasControl h
  refine ⟨e, List.mem_of_find?_eq_some hfind, ?_⟩
  unfold SessionEntry.hasControl at hcontrol
  rw [Bool.and_eq_true] at hcontrol
  simpa using hcontrol.1

/-- **Any other operation** keeps the client off the record, or where it was. -/
theorem hostOnly_perform {m : SessionManager} (h : m.Inv) {storeOk : String → Bool} {op : Op}
    {sessionId c : String} (hhost : m.HostOnly sessionId c)
    (hother : ∀ id kind, op ≠ .requestControl id c kind) :
    (m.perform storeOk op).1.HostOnly sessionId c := by
  intro e' he' hclient
  rcases mem_perform h he' with ⟨e, he, hafter, hkeeps⟩ | ⟨hfresh, -⟩
  · have hsame := SessionEntry.sameController_of_recorded hafter hclient hother
    obtain ⟨hid, hkind⟩ := hhost e he (hsame.client.mp hclient)
    exact ⟨hkeeps.id_eq.trans hid, hsame.1.trans hkind⟩
  · rw [hfresh.noClient] at hclient
    exact absurd hclient (by simp)

/-- Nobody comes on record by the calls of others. -/
theorem recorded_of_perform {m : SessionManager} (h : m.Inv) {storeOk : String → Bool} {op : Op}
    {c : String} (hother : ∀ id kind, op ≠ .requestControl id c kind)
    (hrecords : (m.perform storeOk op).1.RecordsController c) : m.RecordsController c := by
  obtain ⟨e', he', hclient⟩ := hrecords
  rcases mem_perform h he' with ⟨e, he, hafter, -⟩ | ⟨hfresh, -⟩
  · have hsame := SessionEntry.sameController_of_recorded hafter hclient hother
    exact ⟨e, he, hsame.client.mp hclient⟩
  · rw [hfresh.noClient] at hclient
    exact absurd hclient (by simp)

/-- What a session is after an operation, is found among the sessions. -/
theorem mem_perform_of_after {m : SessionManager} (h : m.Inv) (storeOk : String → Bool) (op : Op)
    {e e' : SessionEntry} (he : e ∈ m.sessions) (hafter : e.after op = some e') :
    e' ∈ (m.perform storeOk op).1.sessions := by
  have hstep : step m { op, storeOk } = some (m.perform storeOk op).1 := rfl
  exact mem_of_after h hstep he hafter

/-- An operation that leaves the controller of every session leaves the record. -/
theorem recorded_perform_iff {m : SessionManager} (h : m.Inv) {storeOk : String → Bool} {op : Op}
    {c : String} (hother : ∀ id kind, op ≠ .requestControl id c kind)
    (hsame : ∀ e ∈ m.sessions, ∃ e', e.after op = some e' ∧ e.SameController e') :
    (m.perform storeOk op).1.RecordsController c ↔ m.RecordsController c := by
  refine ⟨recorded_of_perform h hother, ?_⟩
  rintro ⟨e, he, hclient⟩
  obtain ⟨e', hafter, hsame⟩ := hsame e he
  exact ⟨e', mem_perform_of_after h storeOk op he hafter, hsame.client.mpr hclient⟩

/-- Resizing leaves the controller of every session. -/
theorem sameController_resizeSession (m : SessionManager) (sessionId : String) (size : TerminalSize)
    (ptyResized : Bool) :
    ∀ e ∈ m.sessions, ∃ e', e.after (.resizeSession sessionId size ptyResized) = some e' ∧
      e.SameController e' := by
  intro e _
  refine ⟨_, by rfl, ?_⟩
  split_ifs
  · exact SessionEntry.resize_sameController e _ _
  · exact .refl e

/-- The session takes input, so a request of the host is granted. -/
def TakesInput (m : SessionManager) (sessionId : String) : Prop :=
  ∃ e, m.findEntry sessionId = some e ∧ e.status.isInteractive = true

/-- A request of the host puts the client on record for that session only, as its host. -/
theorem hostOnly_requestControl {m : SessionManager} (h : m.Inv) (storeOk : String → Bool)
    {sessionId c : String} (hhost : m.HostOnly sessionId c) :
    (m.perform storeOk (.requestControl sessionId c .host)).1.HostOnly sessionId c := by
  intro e' he' hclient
  rcases mem_perform h he' with ⟨e, he, hafter, hkeeps⟩ | ⟨hfresh, -⟩
  · obtain rfl := Option.some.inj hafter
    split_ifs at hclient hkeeps ⊢ with hid
    · refine ⟨hkeeps.id_eq.trans hid, ?_⟩
      rw [SessionEntry.requestControl_host] at hclient ⊢
      split_ifs at hclient ⊢
      · rfl
      · exact (hhost e he hclient).2
    · exact hhost e he hclient
  · rw [hfresh.noClient] at hclient
    exact absurd hclient (by simp)

/-- **A request of the host that is granted**: the session is found under its new controller. -/
theorem requestControl_granted {m : SessionManager} (h : m.Inv) (storeOk : String → Bool)
    {sessionId : String} (c : String) {e : SessionEntry} (hfind : m.findEntry sessionId = some e)
    (hactive : e.status.isInteractive = true) :
    (m.perform storeOk (.requestControl sessionId c .host)).2 = true ∧
      (m.perform storeOk (.requestControl sessionId c .host)).1.findEntry sessionId =
        some { e with controllerClientId := some c, controllerKind := .host } := by
  obtain rfl : e.id = sessionId := by simpa using List.find?_some hfind
  have hafter : e.after (.requestControl e.id c .host) =
      some { e with controllerClientId := some c, controllerKind := .host } := by
    simp [SessionEntry.after, SessionEntry.requestControl_host, hactive]
  have hmem := mem_perform_of_after h storeOk (.requestControl e.id c .host)
    (List.mem_of_find?_eq_some hfind) hafter
  refine ⟨?_, findEntry_of_mem (inv_perform h _ _).nodup hmem⟩
  simp [perform, applyOne, hfind, SessionEntry.requestControl_host, hactive]

/-- **A request of the host that is refused** puts nobody on record. -/
theorem requestControl_refused {m : SessionManager} (h : m.Inv) (storeOk : String → Bool)
    {sessionId : String} (c : String) (hrefused : ¬ m.TakesInput sessionId) :
    (m.perform storeOk (.requestControl sessionId c .host)).2 = false ∧
      ((m.perform storeOk (.requestControl sessionId c .host)).1.RecordsController c →
        m.RecordsController c) := by
  rcases hfind : m.findEntry sessionId with _ | e
  · simp [perform, applyOne, hfind]
  · have hid : e.id = sessionId := by simpa using List.find?_some hfind
    have he := List.mem_of_find?_eq_some hfind
    have hoff : ¬ e.status.isInteractive = true := fun hactive => hrefused ⟨e, hfind, hactive⟩
    refine ⟨by simp [perform, applyOne, hfind, SessionEntry.requestControl_host, hoff], ?_⟩
    rintro ⟨e', he', hclient⟩
    rcases mem_perform h he' with ⟨e₀, he₀, hafter, -⟩ | ⟨hfresh, -⟩
    · obtain rfl := Option.some.inj hafter
      split_ifs at hclient with hid₀
      · obtain rfl : e₀ = e := List.inj_on_of_nodup_map h.nodup he₀ he (hid₀.trans hid.symm)
        rw [SessionEntry.requestControl_host, if_neg hoff] at hclient
        exact ⟨e₀, he₀, hclient⟩
      · exact ⟨e₀, he₀, hclient⟩
    · rw [hfresh.noClient] at hclient
      exact absurd hclient (by simp)

/-- **A release** takes a host off the record. -/
theorem not_recorded_releaseControl {m : SessionManager} (h : m.Inv) (storeOk : String → Bool)
    {sessionId c : String} (hhost : m.HostOnly sessionId c) :
    ¬ (m.perform storeOk (.releaseControl sessionId c)).1.RecordsController c := by
  rintro ⟨e', he', hclient⟩
  rcases mem_perform h he' with ⟨e, he, hafter, -⟩ | ⟨hfresh, -⟩
  · have hsame := SessionEntry.sameController_of_recorded hafter hclient (by simp)
    have hbefore := hsame.client.mp hclient
    obtain ⟨hid, hkind⟩ := hhost e he hbefore
    obtain rfl := Option.some.inj hafter
    rw [if_pos hid, SessionEntry.client_releaseControl_host hbefore hkind] at hclient
    exact absurd hclient (by simp)
  · rw [hfresh.noClient] at hclient
    exact absurd hclient (by simp)

end SessionManager

end Sentrits.Service
