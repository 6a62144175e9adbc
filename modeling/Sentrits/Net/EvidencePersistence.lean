import Sentrits.Net.SessionRoutes
import Sentrits.Net.StoredEvidence
import Sentrits.Service.ManagerEvidence

/-!
# Keeping evidence

A request may ask for evidence to be kept: one that looks at a log, with a flag, and one that
stores a snapshot of it. The evidence is written as JSON and read again when it is shown; what a
process has written into its log need not be text, and then it is not read again.

* `PersistsEvidence`: **an error stores nothing, what was stored stays, and what is stored is
  shown** from then on.
* `snapshotOf`: the snapshot that a request gets to store.
* `evidence_persisted_iff`: when evidence is kept.

Source: `src/net/http_shared.cpp`.
-/

namespace Sentrits.Net.Http.Exchange

open Found Found.Bytes Found.Keyed Auth Store Service

variable {x : Exchange} {t : Turn Daemon}

/-! ### What is asked for -/

/-- The route asks for evidence to be kept: a look at a log with the flag, or a snapshot of one. -/
def AsksToPersist (x : Exchange) : HttpRoute → Prop
  | .evidence _ _ => parseBoolQueryValue x.request.target "persist" false = some true
  | .storedEvidence _ none =>
      x.request.method = .post ∧
        (x.request.parsedBody (parseJsonObjectBody x.lib)).bind (jsonStringField · "kind") =
          some "log_snapshot"
  | _ => False

/-- What a request asks for, and gets: an error stores nothing, what was stored stays, and what is
stored newly is shown from then on. -/
structure PersistsEvidence (x : Exchange) (t : Turn Daemon) : Prop where
  atomic : 400 ≤ (x.handleRequest t).2.status → ∀ directory,
    (x.handleRequest t).1.socket.evidence.Stored directory ↔ t.socket.evidence.Stored directory
  kept : ∀ directory, t.socket.evidence.Stored directory →
    (x.handleRequest t).1.socket.evidence.Stored directory
  shown : ∀ directory, (x.handleRequest t).1.socket.evidence.Stored directory →
    ¬ t.socket.evidence.Stored directory → ∀ t' : Turn Daemon,
      Later directory.key (x.handleRequest t).1.socket.evidence t'.socket.evidence →
        Shown x.lib t' directory

/-! ### When it is so -/

/-- A snapshot that a request gets to store. -/
structure Snapshot where
  sessionId : Bytes
  title : Bytes
  result : EvidenceResult
  replayToken : String

/-- The snapshot, when everything that is checked first is in order. -/
def snapshotOf (x : Exchange) (t : Turn Daemon) : HttpRoute → Option Snapshot
  | .evidence sessionId operation =>
      if x.request.method = .get ∧ (x.require t .observeSessions).isNone ∧
          x.context.storageRoot = true then
        match x.requestedTitle, x.requestedQuery operation with
        | .ok title, .ok query =>
            (x.captureEvidence t sessionId query).map fun result =>
              let title := title.getD (defaultStoredEvidenceTitle result)
              { sessionId := utf8 result.source.sessionId
                title := if title.isEmpty then utf8 "stored evidence" else title
                result
                replayToken := makeReplayToken result }
        | _, _ => none
      else none
  | .storedEvidence sessionId none =>
      if (x.require t .controlSession).isNone ∧ x.context.storageRoot = true then do
        let body ← x.request.parsedBody (parseJsonObjectBody x.lib)
        let title ← jsonStringField body "title"
        let result ← (evidenceQueryOf body).bind (x.captureEvidence t sessionId)
        some { sessionId, title := utf8 title, result, replayToken := "" }
      else none
  | _ => none

/-- The document of a snapshot. -/
def documentOf (x : Exchange) (s : Snapshot) : Bytes :=
  x.answers.serialize (makeEvidenceResultJson s.result s.replayToken)

/-- The metadata of a snapshot. -/
def summaryOf (x : Exchange) (s : Snapshot) : StoredEvidenceSummary :=
  StoredEvidenceStore.summaryOf .logSnapshot s.sessionId (utf8 x.evidenceId) s.title
    (x.documentOf s) x.answers.nowUnixMs

/-- All that is written of a snapshot is text, and its time can be read again. -/
def LegibleSnapshot (x : Exchange) (s : Snapshot) : Prop :=
  Legible s.result ∧ IsText s.title ∧ 0 ≤ x.answers.nowUnixMs

instance (x : Exchange) (s : Snapshot) : Decidable (x.LegibleSnapshot s) :=
  inferInstanceAs (Decidable (_ ∧ _))

/-- The condition: whatever gets written where nothing is stored yet is legible, and where the drawn
name is taken nothing is changed. -/
def KeepsEvidence (x : Exchange) (t : Turn Daemon) : Prop :=
  ∀ s ∈ x.snapshotOf t (route x.context x.request),
    ∀ key ∈ StoredEvidenceStore.directoryKey s.sessionId (utf8 x.evidenceId),
      match t.socket.evidence.record? key with
      | none =>
          t.socket.evidence.outcomes.headD true = true →
            t.socket.evidence.outcomes.tail.headD true = true → x.LegibleSnapshot s
      | some record =>
          StoredEvidenceStore.LeftBy record (x.documentOf s) (x.summaryOf s)
            t.socket.evidence.outcomes

/-- What the store makes of a snapshot. -/
def createdBy (x : Exchange) (t : Turn Daemon) (s : Snapshot) :
    StoredEvidenceStore × Option StoredEvidenceSummary :=
  t.socket.evidence.createEvidence .logSnapshot s.sessionId (utf8 x.evidenceId) s.title
    (x.documentOf s) x.answers.nowUnixMs

/-- A look at a log with the flag: either something is not in order, and the store is left, or the
snapshot is what the answer is made of. -/
theorem handleEvidenceRequest_cases {sessionId operation : Bytes}
    (hasks : x.AsksToPersist (.evidence sessionId operation)) :
    (x.snapshotOf t (.evidence sessionId operation) = none ∧
        KeepsStore t (x.handleEvidenceRequest sessionId operation t)) ∨
      ∃ (result : EvidenceResult) (title : Bytes),
        x.snapshotOf t (.evidence sessionId operation) =
            some
              { sessionId := utf8 result.source.sessionId
                title := if title.isEmpty then utf8 "stored evidence" else title
                result
                replayToken := makeReplayToken result } ∧
          x.context.storageRoot = true ∧
          x.handleEvidenceRequest sessionId operation t =
            x.finalizeEvidenceResponse result true title t := by
  have hpersist : parseBoolQueryValue x.request.target "persist" false = some true := hasks
  unfold handleEvidenceRequest snapshotOf
  rw [hpersist]
  by_cases hmethod : x.request.method = .get
  · rw [if_neg (not_not_intro hmethod)]
    rcases hrequire : x.require t .observeSessions with _ | refusal
    · rcases htitle : x.requestedTitle with response | title
      · exact Or.inl ⟨by simp, rfl⟩
      · rcases hquery : x.requestedQuery operation with response | query
        · exact Or.inl ⟨by simp [hquery], rfl⟩
        · dsimp only [guarded]
          rcases hcapture : x.captureEvidence t sessionId query with _ | result
          · exact Or.inl ⟨by simp [hquery, hcapture], rfl⟩
          · by_cases hroot : x.context.storageRoot = true
            · refine Or.inr ⟨result, title.getD (defaultStoredEvidenceTitle result), ?_, hroot, rfl⟩
              rw [if_pos ⟨hmethod, rfl, hroot⟩, hquery]
              dsimp only
              rw [hcapture]
              rfl
            · refine Or.inl ⟨by simp [hroot], ?_⟩
              dsimp only
              unfold KeepsStore finalizeEvidenceResponse
              dsimp only
              rw [if_neg (by simp), if_pos (by simp [hroot]), evidence_observe]
    · exact Or.inl ⟨by simp, rfl⟩
  · rw [if_pos hmethod]
    exact Or.inl ⟨by simp [hmethod], rfl⟩

/-- A field that must not be empty has bytes. -/
theorem utf8_ne_nil_of_jsonStringField {body : List (String × Json)} {field text : String}
    (h : jsonStringField body field = some text) : utf8 text ≠ [] := by
  obtain ⟨value, -, hvalue⟩ := Option.bind_eq_some_iff.mp h
  exact fun hnil => (Json.asNonEmptyString_eq_some.mp hvalue).2 (utf8_injective hnil)

/-- A request to store a snapshot: either something is not in order, and the store is left, or the
answer says whether the snapshot was stored. -/
theorem handleStoredEvidenceRequest_cases {sessionId : Bytes}
    (hasks : x.AsksToPersist (.storedEvidence sessionId none)) :
    (x.snapshotOf t (.storedEvidence sessionId none) = none ∧
        KeepsStore t (x.handleStoredEvidenceRequest sessionId none t)) ∨
      ∃ s, x.snapshotOf t (.storedEvidence sessionId none) = some s ∧ s.title ≠ [] ∧
        (x.handleStoredEvidenceRequest sessionId none t).1.socket.evidence =
            (x.createdBy t s).1 ∧
          (400 ≤ (x.handleStoredEvidenceRequest sessionId none t).2.status →
            (x.createdBy t s).2 = none) := by
  obtain ⟨hmethod, hkind⟩ := hasks
  obtain ⟨body, hbody, hkind⟩ := Option.bind_eq_some_iff.mp hkind
  unfold handleStoredEvidenceRequest snapshotOf
  rw [hmethod, hbody]
  dsimp only
  by_cases hroot : x.context.storageRoot = true
  · rw [if_neg (show ¬ (!x.context.storageRoot) = true by simp [hroot])]
    rcases hrequire : x.require t .controlSession with _ | refusal
    · rw [if_pos ⟨rfl, hroot⟩]
      dsimp only [guarded]
      unfold createStoredEvidence
      rw [hbody]
      dsimp only
      rw [hkind]
      rcases htitle : jsonStringField body "title" with _ | title
      · exact Or.inl ⟨by simp [htitle], rfl⟩
      · dsimp only
        unfold requestedDocument
        rw [if_neg (by decide), if_pos rfl]
        rcases hcapture : (evidenceQueryOf body).bind (x.captureEvidence t sessionId) with
          _ | result
        · refine Or.inl ⟨?_, rfl⟩
          simp [htitle, hcapture]
        · refine Or.inr ⟨{ sessionId, title := utf8 title, result, replayToken := "" }, ?_, ?_, ?_⟩
          · simp [htitle, hcapture]
          · exact utf8_ne_nil_of_jsonStringField htitle
          · dsimp only
            unfold createdBy documentOf
            dsimp only
            rcases t.socket.evidence.createEvidence _ _ _ _ _ _ with ⟨store, _ | summary⟩
            · exact ⟨rfl, fun _ => rfl⟩
            · exact ⟨rfl, fun h => absurd h (by decide : ¬ 400 ≤ 201)⟩
    · exact Or.inl ⟨by simp, rfl⟩
  · rw [if_pos (show (!x.context.storageRoot) = true by simp [hroot])]
    exact Or.inl ⟨by simp [hroot], rfl⟩

/-- **A request that stores no snapshot** leaves the store. -/
theorem keepsStore_of_snapshotOf {route : HttpRoute} (hasks : x.AsksToPersist route)
    (h : x.snapshotOf t route = none) : KeepsStore t (x.dispatch t route) := by
  cases route with
  | evidence sessionId operation =>
      rcases handleEvidenceRequest_cases (t := t) hasks with ⟨-, hkeeps⟩ | ⟨result, title, hsome, -⟩
      · exact hkeeps
      · rw [h] at hsome
        cases hsome
  | storedEvidence sessionId evidenceId =>
      cases evidenceId with
      | none =>
          rcases handleStoredEvidenceRequest_cases (t := t) hasks with ⟨-, hkeeps⟩ | ⟨s, hsome, -⟩
          · exact hkeeps
          · rw [h] at hsome
            cases hsome
      | some evidenceId => exact hasks.elim
  | _ => exact hasks.elim

/-- A look at a log is answered by its handler. -/
theorem dispatch_evidence (sessionId operation : Bytes) :
    x.dispatch t (.evidence sessionId operation) =
      x.handleEvidenceRequest sessionId operation t := rfl

/-- **A request that stores a snapshot** leaves what the store makes of it, and is in error only
when it is not stored or not legible. -/
theorem dispatch_of_snapshotOf (hwrites : WritesBytes x.lib x.answers.serialize) {route : HttpRoute}
    (hasks : x.AsksToPersist route) {s : Snapshot} (h : x.snapshotOf t route = some s) :
    s.title ≠ [] ∧ (x.dispatch t route).1.socket.evidence = (x.createdBy t s).1 ∧
      (400 ≤ (x.dispatch t route).2.status → (x.createdBy t s).2 = none ∨ ¬ Legible s.result) := by
  cases route with
  | evidence sessionId operation =>
      rcases handleEvidenceRequest_cases (t := t) hasks with
        ⟨hnone, -⟩ | ⟨result, title, hsome, hroot, heq⟩
      · rw [h] at hnone
        cases hnone
      · obtain rfl := Option.some.inj (h.symm.trans hsome)
        obtain ⟨hstore, hstatus⟩ := finalizeEvidenceResponse_persist (t := t) result title hroot
        refine ⟨?_, ?_, ?_⟩
        · dsimp only
          split_ifs with hempty
          · decide
          · exact fun hnil => hempty (List.isEmpty_iff.mpr hnil)
        · rw [dispatch_evidence, heq, hstore]
          rfl
        · rw [dispatch_evidence, heq, hstatus, hwrites.parse_serialize]
          refine Or.imp_right fun hnone hlegible => ?_
          have hread := (isSome_toJson?_makeEvidenceResultJson result
            (makeReplayToken result)).mpr hlegible
          have hobject : ((makeEvidenceResultJson result (makeReplayToken result)).toJson?.bind
              Json.asObject).isSome = true := by
            rw [← hread]
            exact ByteJson.isSome_asObject_toJson? _
          rw [Option.isNone_iff_eq_none.mp hnone] at hobject
          cases hobject
  | storedEvidence sessionId evidenceId =>
      cases evidenceId with
      | none =>
          rcases handleStoredEvidenceRequest_cases (t := t) hasks with
            ⟨hnone, -⟩ | ⟨s', hsome, htitle, hstore, hstatus⟩
          · rw [h] at hnone
            cases hnone
          · obtain rfl := Option.some.inj (h.symm.trans hsome)
            exact ⟨htitle, hstore, fun herror => Or.inl (hstatus herror)⟩
      | some evidenceId => exact hasks.elim
  | _ => exact hasks.elim

/-! ### When evidence is kept -/

/-- Nothing happens to a store that is left. -/
theorem persistsEvidence_of_stored_iff
    (h : ∀ directory, (x.handleRequest t).1.socket.evidence.Stored directory ↔
      t.socket.evidence.Stored directory) : x.PersistsEvidence t where
  atomic _ := h
  kept directory := (h directory).mpr
  shown directory hstored hnew := absurd ((h directory).mp hstored) hnew

/-- The record that a snapshot is stored as where nothing was stored before. -/
def recordOf (x : Exchange) (t : Turn Daemon) (s : Snapshot)
    (key : SafeIdentifier × SafeIdentifier) : EvidenceDirectory :=
  (t.socket.evidence.withNew .logSnapshot key (x.documentOf s)).withMetadata (x.summaryOf s)

/-- **It is shown from then on exactly when** it is legible. -/
theorem shown_recordOf_iff (hwrites : WritesBytes x.lib x.answers.serialize) {s : Snapshot}
    {key : SafeIdentifier × SafeIdentifier} {t' : Turn Daemon}
    (hfind : find EvidenceDirectory.key (x.recordOf t s key).key t'.socket.evidence.directories =
      some (x.recordOf t s key)) :
    Shown x.lib t' (x.recordOf t s key) ↔ x.LegibleSnapshot s := by
  have hshown : Shown x.lib t' (x.recordOf t s key) ↔
      (IsText s.title ∧ 0 ≤ x.answers.nowUnixMs) ∧
        ((textOf (x.documentOf s)).bind x.lib.parse).isSome = true :=
    shown_iff hfind rfl rfl rfl
  rw [hshown, documentOf, hwrites.parse_serialize, isSome_toJson?_makeEvidenceResultJson,
    and_comm]
  exact Iff.rfl

section Snapshot

variable {s : Snapshot} {key : SafeIdentifier × SafeIdentifier}

/-- The condition, on the snapshot there is. -/
theorem keepsEvidence_iff (hsnapshot : x.snapshotOf t (route x.context x.request) = some s)
    (hkey : StoredEvidenceStore.directoryKey s.sessionId (utf8 x.evidenceId) = some key) :
    x.KeepsEvidence t ↔
      match t.socket.evidence.record? key with
      | none =>
          t.socket.evidence.outcomes.headD true = true →
            t.socket.evidence.outcomes.tail.headD true = true → x.LegibleSnapshot s
      | some record =>
          StoredEvidenceStore.LeftBy record (x.documentOf s) (x.summaryOf s)
            t.socket.evidence.outcomes := by
  unfold KeepsEvidence
  rw [hsnapshot]
  simp only [Option.mem_def, Option.some.injEq, forall_eq']
  rw [hkey]
  simp only [Option.some.injEq, forall_eq']

/-- **Where nothing is stored yet**: a record that gets written has to be shown, and it is when it
is legible. -/
theorem persistsEvidence_iff_of_absent (hwrites : WritesBytes x.lib x.answers.serialize)
    (hkey : StoredEvidenceStore.directoryKey s.sessionId (utf8 x.evidenceId) = some key)
    (htitle : s.title ≠ [])
    (hstore : (x.handleRequest t).1.socket.evidence = (x.createdBy t s).1)
    (hstatus : 400 ≤ (x.handleRequest t).2.status →
      (x.createdBy t s).2 = none ∨ ¬ Legible s.result)
    (habsent : t.socket.evidence.record? key = none) :
    x.PersistsEvidence t ↔
      (t.socket.evidence.outcomes.headD true = true →
        t.socket.evidence.outcomes.tail.headD true = true → x.LegibleSnapshot s) := by
  have hdocument : x.documentOf s ≠ [] := hwrites.nonempty _
  have hstored : ∀ directory, (x.handleRequest t).1.socket.evidence.Stored directory ↔
      t.socket.evidence.Stored directory ∨
        t.socket.evidence.outcomes.headD true = true ∧
          t.socket.evidence.outcomes.tail.headD true = true ∧ directory = x.recordOf t s key := by
    rw [hstore]
    exact StoredEvidenceStore.stored_createEvidence_of_absent hkey htitle hdocument habsent
  have hfresh : ¬ t.socket.evidence.Stored (x.recordOf t s key) := by
    rw [StoredEvidenceStore.stored_iff_record?]
    unfold recordOf
    rw [EvidenceDirectory.key_withMetadata, StoredEvidenceStore.key_withNew, habsent]
    exact Option.some_ne_none _ ∘ Eq.symm
  constructor
  · intro hpersists hfirst hsecond
    have hnew := (hstored (x.recordOf t s key)).mpr (Or.inr ⟨hfirst, hsecond, rfl⟩)
    have hshown := hpersists.shown _ hnew hfresh (x.handleRequest t).1 .refl
    exact (shown_recordOf_iff hwrites
      (StoredEvidenceStore.stored_iff_find.mp hnew).1).mp hshown
  · intro hlegible
    by_cases hboth : t.socket.evidence.outcomes.headD true = true ∧
        t.socket.evidence.outcomes.tail.headD true = true
    · refine ⟨?_, fun directory h => (hstored directory).mpr (Or.inl h), ?_⟩
      · intro herror
        rcases hstatus herror with hnone | hillegible
        · rw [createdBy, StoredEvidenceStore.createEvidence_snd hkey htitle hdocument,
            if_pos hboth] at hnone
          cases hnone
        · exact absurd (hlegible hboth.1 hboth.2).1 hillegible
      · intro directory hdirectory hold t' hlater
        obtain ⟨-, -, rfl⟩ := ((hstored directory).mp hdirectory).resolve_left hold
        rw [shown_recordOf_iff hwrites]
        · exact hlegible hboth.1 hboth.2
        · rw [find_of_later hlater]
          exact (StoredEvidenceStore.stored_iff_find.mp hdirectory).1
    · apply persistsEvidence_of_stored_iff
      intro directory
      rw [hstored, or_iff_left fun h => hboth ⟨h.1, h.2.1⟩]

/-- **Where the name is taken**: what stands there has to stay. -/
theorem persistsEvidence_iff_of_present (hwrites : WritesBytes x.lib x.answers.serialize)
    (hkey : StoredEvidenceStore.directoryKey s.sessionId (utf8 x.evidenceId) = some key)
    (htitle : s.title ≠ [])
    (hstore : (x.handleRequest t).1.socket.evidence = (x.createdBy t s).1)
    {record : EvidenceDirectory} (hpresent : t.socket.evidence.record? key = some record) :
    x.PersistsEvidence t ↔
      StoredEvidenceStore.LeftBy record (x.documentOf s) (x.summaryOf s)
        t.socket.evidence.outcomes := by
  have hdocument : x.documentOf s ≠ [] := hwrites.nonempty _
  constructor
  · intro hpersists
    have hkept := hpersists.kept record
      (StoredEvidenceStore.record?_eq_some_iff.mp hpresent).1
    rw [hstore] at hkept
    exact (StoredEvidenceStore.stored_createEvidence_of_present hkey htitle hdocument
      hpresent).mp hkept
  · intro hleft
    apply persistsEvidence_of_stored_iff
    rw [hstore]
    exact StoredEvidenceStore.stored_createEvidence_of_leftBy hkey htitle hdocument hpresent hleft

/-- A snapshot that is not legible is stored all the same, where nothing has its name, and it is
never shown. -/
theorem stored_not_shown (hwrites : WritesBytes x.lib x.answers.serialize)
    (hasks : x.AsksToPersist (route x.context x.request))
    (hsnapshot : x.snapshotOf t (route x.context x.request) = some s)
    (hkey : StoredEvidenceStore.directoryKey s.sessionId (utf8 x.evidenceId) = some key)
    (habsent : t.socket.evidence.record? key = none)
    (hwritten : t.socket.evidence.outcomes.headD true = true ∧
      t.socket.evidence.outcomes.tail.headD true = true)
    (hillegible : ¬ x.LegibleSnapshot s) :
    (x.handleRequest t).1.socket.evidence.Stored (x.recordOf t s key) ∧
      ¬ Shown x.lib (x.handleRequest t).1 (x.recordOf t s key) := by
  obtain ⟨htitle, hstore, -⟩ := dispatch_of_snapshotOf hwrites hasks hsnapshot
  have hdocument : x.documentOf s ≠ [] := hwrites.nonempty _
  have hnew : (x.handleRequest t).1.socket.evidence.Stored (x.recordOf t s key) := by
    rw [show (x.handleRequest t).1.socket.evidence = (x.createdBy t s).1 from hstore]
    exact (StoredEvidenceStore.stored_createEvidence_of_absent hkey htitle hdocument habsent _).mpr
      (Or.inr ⟨hwritten.1, hwritten.2, rfl⟩)
  refine ⟨hnew, fun hshown => hillegible ?_⟩
  exact (shown_recordOf_iff hwrites (StoredEvidenceStore.stored_iff_find.mp hnew).1).mp hshown

/-- What is not legible is answered with an error, when it was looked at. -/
theorem status_of_not_legible (hwrites : WritesBytes x.lib x.answers.serialize)
    {sessionId operation : Bytes} (hasks : x.AsksToPersist (.evidence sessionId operation))
    (hsnapshot : x.snapshotOf t (.evidence sessionId operation) = some s)
    (hillegible : ¬ Legible s.result) :
    400 ≤ (x.dispatch t (.evidence sessionId operation)).2.status := by
  rcases handleEvidenceRequest_cases (t := t) hasks with
    ⟨hnone, -⟩ | ⟨result, title, hsome, hroot, heq⟩
  · rw [hsnapshot] at hnone
    cases hnone
  · obtain rfl := Option.some.inj (hsnapshot.symm.trans hsome)
    rw [dispatch_evidence, heq, (finalizeEvidenceResponse_persist result title hroot).2,
      hwrites.parse_serialize]
    right
    have hnone : (makeEvidenceResultJson result (makeReplayToken result)).toJson? = none := by
      rw [← Option.not_isSome_iff_eq_none, isSome_toJson?_makeEvidenceResultJson]
      exact hillegible
    rw [hnone]
    rfl

end Snapshot

/-- **When evidence is kept.** A request that asks for it keeps it exactly when all that gets
written of it, where nothing is stored yet, is text and dated after the epoch: the lines of the
log, the query and the title; and when nothing is changed where the name that was drawn is taken. -/
theorem evidence_persisted_iff (hwrites : WritesBytes x.lib x.answers.serialize)
    (hasks : x.AsksToPersist (route x.context x.request)) :
    x.PersistsEvidence t ↔ x.KeepsEvidence t := by
  rcases hsnapshot : x.snapshotOf t (route x.context x.request) with _ | s
  · have hkeeps : KeepsStore t (x.handleRequest t) := keepsStore_of_snapshotOf hasks hsnapshot
    refine iff_of_true (persistsEvidence_of_stored_iff fun directory => ?_) ?_
    · rw [show (x.handleRequest t).1.socket.evidence = t.socket.evidence from hkeeps]
    · intro s hs
      rw [hsnapshot] at hs
      cases hs
  obtain ⟨htitle, hstore, hstatus⟩ := dispatch_of_snapshotOf hwrites hasks hsnapshot
  rcases hkey : StoredEvidenceStore.directoryKey s.sessionId (utf8 x.evidenceId) with _ | key
  · refine iff_of_true (persistsEvidence_of_stored_iff fun directory => ?_) ?_
    · rw [show (x.handleRequest t).1.socket.evidence = (x.createdBy t s).1 from hstore, createdBy,
        StoredEvidenceStore.createEvidence_of_rejected (Or.inl hkey)]
    · intro s' hs' key hkey'
      obtain rfl := Option.some.inj (hsnapshot.symm.trans hs')
      rw [hkey] at hkey'
      cases hkey'
  · rw [keepsEvidence_iff hsnapshot hkey]
    rcases hrecord : t.socket.evidence.record? key with _ | record
    · exact persistsEvidence_iff_of_absent hwrites hkey htitle hstore hstatus hrecord
    · exact persistsEvidence_iff_of_present hwrites hkey htitle hstore hrecord

/-! ### A log with one line -/

/-- Somebody on the host looks at the end of a log and wants it to be kept. -/
def keeper : Exchange where
  lib := JsonText.compactJson
  answers :=
    { HttpAnswers.idle with
      nowUnixMs := 2
      token := "0a"
      evidence := fun manager sessionId query => (manager.evidence sessionId query).join }
  context := { listenerRole := .adminLocal, isLocalRequest := true }
  request := { method := .get, target := utf8 "/sessions/s/evidence/tail?persist=true" }

/-- No directory comes twice where there is none. -/
theorem distinct_nil : (([] : List EvidenceDirectory).map EvidenceDirectory.key).Nodup :=
  List.nodup_nil

/-- One event may be kept at least. -/
theorem maxEvents_positive : 0 < 1000 := by decide

/-- There are not too many where there is none. -/
theorem bounded_nil :
    ([] : List ObservationEvent).length ≤
      (ObservationStoreLimits.mk 1000 maxEvents_positive).maxEvents :=
  Nat.zero_le _

/-- A host with a log, into which a process has written a line. -/
def logHost (line : Bytes) : Turn Daemon where
  manager :=
    SessionManager.run {}
      [{ op := .createLogSession { title := "log" }
          { candidates := ["s"], resolved := .error "", start := { started := false } } },
        { op := .appendLogStdout "s" (line ++ [lf]) 1 }]
  socket :=
    { evidence := { distinct := distinct_nil }
      observations := { limits := { positive := maxEvents_positive }, bounded := bounded_nil } }

/-- The request is a look at a log. -/
theorem route_keeper :
    route keeper.context keeper.request = .evidence (utf8 "s") (utf8 "tail") := by
  have hpath : StaticAssets.stripQueryString keeper.request.target =
      utf8 "/sessions/" ++ (utf8 "s" ++ utf8 "/evidence/" ++ utf8 "tail") := by
    decide +kernel
  have hdot : StaticAssets.isUiStaticAssetPath
      (StaticAssets.stripQueryString keeper.request.target) = false := by
    decide +kernel
  have hpre : utf8 "/sessions/" <+: StaticAssets.stripQueryString keeper.request.target := by
    rw [hpath]
    exact List.prefix_append _ _
  rw [route_of_sessions hpre (by decide) (by decide) _ hdot, hpath, List.drop_left]
  exact sessionRoute_evidence rfl (by decide) (by simp)

/-- The library writes bytes as they are. -/
theorem writesBytes_keeper : WritesBytes keeper.lib keeper.answers.serialize := by
  exact ByteJson.writesBytes_print

/-- The request asks for its evidence to be kept. -/
theorem asksToPersist_keeper : keeper.AsksToPersist (.evidence (utf8 "s") (utf8 "tail")) := by
  show parseBoolQueryValue keeper.request.target "persist" false = some true
  decide +kernel

/-- A line of text is kept. -/
theorem evidence_persisted_line : keeper.PersistsEvidence (logHost (utf8 "ready")) := by
  have hlegible : ∀ s ∈ keeper.snapshotOf (logHost (utf8 "ready"))
      (route keeper.context keeper.request), keeper.LegibleSnapshot s := by
    rw [route_keeper]
    decide +kernel
  have hiff := evidence_persisted_iff (t := logHost (utf8 "ready")) writesBytes_keeper
  rw [route_keeper] at hiff
  refine (hiff asksToPersist_keeper).mpr ?_
  exact fun s hs _ _ _ _ => hlegible s hs

/-- A host into whose log a byte was written that is no text. -/
def strayHost : Turn Daemon := logHost [255]

/-- The snapshot of that log. -/
def straySnapshot : Snapshot :=
  (keeper.snapshotOf strayHost (route keeper.context keeper.request)).get (by
    rw [route_keeper]
    decide +kernel)

/-- The snapshot is one that may be kept. -/
theorem straySnapshot_mem :
    straySnapshot ∈ keeper.snapshotOf strayHost (.evidence (utf8 "s") (utf8 "tail")) := by
  rw [← route_keeper]
  exact (Option.some_get _).symm

/-- The snapshot cannot be written as text. -/
theorem not_legible_straySnapshot : ¬ Legible straySnapshot.result := by
  have hsnapshot : ∀ s ∈ keeper.snapshotOf strayHost (.evidence (utf8 "s") (utf8 "tail")),
      ¬ Legible s.result := by
    decide +kernel
  exact hsnapshot _ straySnapshot_mem

/-- The request is in error. -/
theorem status_strayHost : 400 ≤ (keeper.handleRequest strayHost).2.status := by
  unfold handleRequest
  rw [route_keeper]
  exact status_of_not_legible writesBytes_keeper asksToPersist_keeper straySnapshot_mem
    not_legible_straySnapshot

/-- **The byte that is no text** is answered with an error, but it is stored, and never shown. -/
theorem evidence_not_persisted :
    (400 ≤ (keeper.handleRequest strayHost).2.status ∧
        ∃ directory, (keeper.handleRequest strayHost).1.socket.evidence.Stored directory ∧
          ¬ strayHost.socket.evidence.Stored directory ∧
          ¬ Shown keeper.lib (keeper.handleRequest strayHost).1 directory) ∧
      ¬ keeper.PersistsEvidence strayHost := by
  have hnamed : ∀ s ∈ keeper.snapshotOf strayHost (.evidence (utf8 "s") (utf8 "tail")),
      (StoredEvidenceStore.directoryKey s.sessionId (utf8 keeper.evidenceId)).isSome = true := by
    decide +kernel
  obtain ⟨key, hkey⟩ := Option.isSome_iff_exists.mp (hnamed _ straySnapshot_mem)
  have hstored := @stored_not_shown keeper strayHost straySnapshot key writesBytes_keeper
  rw [route_keeper] at hstored
  obtain ⟨hnew, hhidden⟩ := hstored asksToPersist_keeper straySnapshot_mem hkey rfl ⟨rfl, rfl⟩
    fun h => not_legible_straySnapshot h.1
  have hfresh : ¬ strayHost.socket.evidence.Stored (keeper.recordOf strayHost straySnapshot key) :=
    fun h => List.not_mem_nil h.1
  refine ⟨⟨status_strayHost, _, hnew, hfresh, hhidden⟩, fun h => ?_⟩
  exact hfresh ((h.atomic status_strayHost _).mp hnew)

end Sentrits.Net.Http.Exchange
