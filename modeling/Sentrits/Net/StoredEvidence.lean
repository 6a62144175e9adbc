import Sentrits.Net.EvidenceFrame
import Sentrits.Store.EvidenceRecords

/-!
# Stored evidence

Evidence that is stored is loaded by its name and listed with the others of its session; it stays
as it is until a request asks to remove it or is given its name for evidence of its own.

* `Shown`: stored evidence is shown to whoever may look, and it is listed.
* `shown_iff`: **when a log snapshot is shown.**
* `Later`: what later requests make of the store, as long as none is about that evidence.
* `find_of_later`: **they leave it.**

Source: `src/net/http_shared.cpp`.
-/

namespace Sentrits.Net.Http.Exchange

open Found Found.Bytes Found.Keyed Auth Store Service

variable {x : Exchange} {t : Turn Daemon}

/-! ### Looking at stored evidence -/

/-- The request looks at stored evidence, with the right to do so. -/
structure Looks (y : Exchange) (t : Turn Daemon) : Prop where
  method : y.request.method = .get
  storageRoot : y.context.storageRoot = true
  allowed : y.require t .observeSessions = none

/-- Whoever may look is shown the evidence, and finds it in the list of its session. -/
structure Shown (lib : JsonLibrary) (t : Turn Daemon) (directory : EvidenceDirectory) : Prop where
  loaded : ∀ y : Exchange, y.lib = lib → y.Looks t → ∃ record : StoredEvidenceRecord,
    y.dispatch t
        (.storedEvidence directory.sessionId.value (some directory.evidenceId.value)) =
      (t, { status := 200, body := .storedEvidence record }) ∧
      directory.metadata = some record.summary ∧ record.evidenceJson = directory.evidence
  listed : ∀ y : Exchange, y.Looks t → ∃ summaries : List StoredEvidenceSummary,
    y.dispatch t (.storedEvidence directory.sessionId.value none) =
      (t, { status := 200, body := .storedEvidenceList summaries }) ∧
      ∃ summary ∈ summaries, directory.metadata = some summary

/-! ### When stored evidence is shown -/

section Shown

variable {lib : JsonLibrary} {directory : EvidenceDirectory} {summary : StoredEvidenceSummary}
  {document : Bytes}

/-- The names of a directory lead to it. -/
theorem directoryKey_value (key : SafeIdentifier × SafeIdentifier) :
    StoredEvidenceStore.directoryKey key.1.value key.2.value = some key := by
  have hof : ∀ id : SafeIdentifier, SafeIdentifier.of? id.value = some id := fun id => by
    rw [SafeIdentifier.of?, dif_pos id.safe]
  unfold StoredEvidenceStore.directoryKey
  rw [hof, hof]
  rfl

/-- Metadata is read again when its title is text and its time is not before the epoch. -/
theorem loadMetadata_eq (hmetadata : directory.metadata = some summary) :
    directory.loadMetadata =
      if IsText summary.title ∧ 0 ≤ summary.createdAtUnixMs then some summary else none := by
  rw [EvidenceDirectory.loadMetadata, hmetadata, Option.filter_some]
  exact if_congr (by simp [IsText]) rfl rfl

/-- A log snapshot that stands in a directory is loaded when its title is text and its time is not
before the epoch. -/
theorem loadEvidence_of_find {store : StoredEvidenceStore}
    (hfind : find EvidenceDirectory.key directory.key store.directories = some directory)
    (hmetadata : directory.metadata = some summary) (hkind : summary.kind = "log_snapshot")
    (hdocument : directory.evidence = some document) :
    store.loadEvidence directory.sessionId.value directory.evidenceId.value =
      if IsText summary.title ∧ 0 ≤ summary.createdAtUnixMs then
        some { summary, evidenceJson := some document }
      else none := by
  have hkey : StoredEvidenceStore.directoryKey directory.sessionId.value
      directory.evidenceId.value = some directory.key := directoryKey_value directory.key
  unfold StoredEvidenceStore.loadEvidence
  rw [hkey, Option.bind_eq_bind, Option.bind_some, hfind,
    Option.bind_eq_bind, Option.bind_some, loadMetadata_eq hmetadata]
  split_ifs
  · rw [Option.bind_eq_bind, Option.bind_some, if_neg (by simp [hkind]), if_pos hkind, hdocument]
    rfl
  · rfl

/-- Whoever looks at a piece of evidence. -/
theorem dispatch_loadEvidence {y : Exchange} (h : y.Looks t) (directory : EvidenceDirectory) :
    y.dispatch t (.storedEvidence directory.sessionId.value (some directory.evidenceId.value)) =
      match t.socket.evidence.loadEvidence directory.sessionId.value directory.evidenceId.value with
      | none => (t, errorResponse 404 "evidence not found")
      | some record => (t, y.makeStoredEvidenceRecordJson record) := by
  have hplain := directory.evidenceId.plainName
  have hname : ¬ (directory.evidenceId.value.isEmpty ||
      directory.evidenceId.value.contains LexicalPath.slash) = true := by
    simp [hplain.ne_nil, hplain.noSlash]
  unfold dispatch handleStoredEvidenceRequest
  dsimp only
  rw [if_neg (by simp [h.storageRoot]), if_neg hname, h.method, h.allowed]
  rfl

/-- Whoever looks at the list. -/
theorem dispatch_listEvidence {y : Exchange} (h : y.Looks t) (sessionId : Bytes) :
    y.dispatch t (.storedEvidence sessionId none) =
      (t,
        { status := 200
          body := .storedEvidenceList (t.socket.evidence.listEvidence sessionId) }) := by
  unfold dispatch handleStoredEvidenceRequest
  dsimp only
  rw [if_neg (by simp [h.storageRoot]), h.method, h.allowed]
  rfl

/-- A snapshot is shown when its document is a JSON text. -/
theorem makeStoredEvidenceRecordJson_eq (y : Exchange) (summary : StoredEvidenceSummary)
    (document : Bytes) :
    y.makeStoredEvidenceRecordJson { summary, evidenceJson := some document } =
      if ((textOf document).bind y.lib.parse).isSome = true then
        { status := 200, body := .storedEvidence { summary, evidenceJson := some document } }
      else errorResponse 500 "invalid stored evidence" := by
  unfold makeStoredEvidenceRecordJson
  rw [Option.any_some]
  rcases (textOf document).bind y.lib.parse with _ | value
  · rfl
  · rfl

/-- Somebody on the host who looks. -/
def onlooker (lib : JsonLibrary) : Exchange where
  lib := lib
  answers := .idle
  context := { listenerRole := .adminLocal, isLocalRequest := true }
  request := { method := .get, target := [] }

/-- The onlooker only looks. -/
theorem looks_onlooker (lib : JsonLibrary) (t : Turn Daemon) : (onlooker lib).Looks t := by
  refine ⟨rfl, rfl, ?_⟩
  unfold require requireAuthorization
  rw [if_pos ⟨rfl, rfl, Or.inl rfl⟩]

/-- **A log snapshot is shown exactly when** its title is text, its time is not before the epoch,
and its document is a JSON text. -/
theorem shown_iff
    (hfind : find EvidenceDirectory.key directory.key t.socket.evidence.directories =
      some directory)
    (hmetadata : directory.metadata = some summary) (hkind : summary.kind = "log_snapshot")
    (hdocument : directory.evidence = some document) :
    Shown lib t directory ↔
      (IsText summary.title ∧ 0 ≤ summary.createdAtUnixMs) ∧
        ((textOf document).bind lib.parse).isSome = true := by
  have hload := loadEvidence_of_find hfind hmetadata hkind hdocument
  constructor
  · intro h
    obtain ⟨record, hreply, -, -⟩ := h.loaded (onlooker lib) rfl (looks_onlooker lib t)
    rw [dispatch_loadEvidence (looks_onlooker lib t), hload] at hreply
    by_cases hread : IsText summary.title ∧ 0 ≤ summary.createdAtUnixMs
    · refine ⟨hread, ?_⟩
      rw [if_pos hread] at hreply
      by_contra hparse
      dsimp only at hreply
      rw [makeStoredEvidenceRecordJson_eq, show (onlooker lib).lib = lib from rfl,
        if_neg hparse] at hreply
      exact absurd (congrArg (fun reply : Reply => reply.2.status) hreply)
        (by decide : ¬ 500 = 200)
    · rw [if_neg hread] at hreply
      exact absurd (congrArg (fun reply : Reply => reply.2.status) hreply)
        (by decide : ¬ 404 = 200)
  · rintro ⟨hread, hparse⟩
    refine ⟨?_, ?_⟩
    · intro y hlib hlooks
      refine ⟨{ summary, evidenceJson := some document }, ?_, hmetadata, hdocument.symm⟩
      rw [dispatch_loadEvidence hlooks, hload, if_pos hread]
      dsimp only
      rw [makeStoredEvidenceRecordJson_eq, hlib, if_pos hparse]
    · intro y hlooks
      refine ⟨_, dispatch_listEvidence hlooks _, summary, ?_, hmetadata⟩
      unfold StoredEvidenceStore.listEvidence
      rw [List.mem_mergeSort, List.mem_filterMap]
      refine ⟨directory, List.mem_filter.mpr ⟨(mem_of_find hfind).1, by simp⟩, ?_⟩
      rw [loadMetadata_eq hmetadata, if_pos hread]

end Shown

/-! ### Later requests -/

/-- The request is not about the evidence under the key: it does not ask to remove it, and would
store its own under another name. -/
structure Spares (y : Exchange) (key : SafeIdentifier × SafeIdentifier) : Prop where
  otherId : utf8 y.evidenceId ≠ key.2.value
  notRemoved : y.request.method = .delete → ∀ sessionId evidenceId,
    route y.context y.request = .storedEvidence sessionId (some evidenceId) →
      StoredEvidenceStore.directoryKey sessionId evidenceId ≠ some key

/-- What later requests make of a store, each on whatever turn it comes to, as long as none is about
the evidence under the key. -/
inductive Later (key : SafeIdentifier × SafeIdentifier) (store : StoredEvidenceStore) :
    StoredEvidenceStore → Prop
  | refl : Later key store store
  | step {y : Exchange} {t : Turn Daemon} :
      Later key store t.socket.evidence → y.Spares key →
        Later key store (y.handleRequest t).1.socket.evidence

/-! ### The two handlers -/

/-- Remembering who looked changes nothing that is stored. -/
theorem evidence_observe (result : EvidenceResult) :
    (x.observe t result).socket.evidence = t.socket.evidence := by
  unfold observe
  split
  · rfl
  · split_ifs <;> rfl

/-- What a look at a log is answered with the flag: the snapshot is stored, and what was written is
read again. -/
theorem finalizeEvidenceResponse_persist (result : EvidenceResult) (title : Bytes)
    (hroot : x.context.storageRoot = true) :
    let body := x.answers.serialize (makeEvidenceResultJson result (makeReplayToken result))
    let stored := t.socket.evidence.createEvidence .logSnapshot (utf8 result.source.sessionId)
      (utf8 x.evidenceId) (if title.isEmpty then utf8 "stored evidence" else title) body
      x.answers.nowUnixMs
    let reply := x.finalizeEvidenceResponse result true title t
    reply.1.socket.evidence = stored.1 ∧
      (400 ≤ reply.2.status ↔
        stored.2 = none ∨ (((textOf body).bind x.lib.parse).bind Json.asObject).isNone = true) := by
  dsimp only
  unfold finalizeEvidenceResponse
  dsimp only
  rw [if_neg (by simp), if_neg (by simp [hroot]), evidence_observe]
  unfold StoredEvidenceStore.createLogSnapshotEvidence
  generalize t.socket.evidence.createEvidence _ _ _ _ _ _ = stored
  obtain ⟨store, _ | summary⟩ := stored
  · exact ⟨rfl, iff_of_true (by decide : 400 ≤ 500) (Or.inl rfl)⟩
  · rw [if_neg (by simp)]
    split_ifs with hparse
    · exact ⟨rfl, iff_of_true (by decide : 400 ≤ 500) (Or.inr hparse)⟩
    · exact ⟨rfl, iff_of_false (by decide : ¬ 400 ≤ 200) fun h => h.elim nofun hparse⟩

section Frame

variable {key : SafeIdentifier × SafeIdentifier}

/-- What is stored under another name is not stored under the key. -/
theorem directoryKey_ne {evidenceId : Bytes} (h : evidenceId ≠ key.2.value) (sessionId : Bytes) :
    StoredEvidenceStore.directoryKey sessionId evidenceId ≠ some key := by
  intro heq
  obtain ⟨session, -, heq⟩ := Option.bind_eq_some_iff.mp heq
  obtain ⟨evidence, hevidence, heq⟩ := Option.bind_eq_some_iff.mp heq
  obtain rfl := Option.some.inj heq
  unfold SafeIdentifier.of? at hevidence
  split_ifs at hevidence
  exact h (congrArg SafeIdentifier.value (Option.some.inj hevidence))

/-- What leaves the store leaves what is found in it. -/
theorem find_of_keepsStore {reply : Reply} (h : KeepsStore t reply) :
    find EvidenceDirectory.key key reply.1.socket.evidence.directories =
      find EvidenceDirectory.key key t.socket.evidence.directories := by
  rw [show reply.1.socket.evidence = t.socket.evidence from h]

/-- Other evidence stays where new evidence is stored. -/
theorem find_finalizeEvidenceResponse (h : utf8 x.evidenceId ≠ key.2.value)
    (result : EvidenceResult) (persist : Bool) (title : Bytes) :
    find EvidenceDirectory.key key
        (x.finalizeEvidenceResponse result persist title t).1.socket.evidence.directories =
      find EvidenceDirectory.key key t.socket.evidence.directories := by
  by_cases hroot : x.context.storageRoot = true
  · cases persist with
    | false =>
        show find EvidenceDirectory.key key (x.observe t result).socket.evidence.directories = _
        rw [evidence_observe]
    | true =>
        rw [(finalizeEvidenceResponse_persist result title hroot).1]
        exact StoredEvidenceStore.find_createEvidence_of_ne (directoryKey_ne h _)
  · have hleft : (x.finalizeEvidenceResponse result persist title t).1 = x.observe t result := by
      unfold finalizeEvidenceResponse
      cases persist with
      | false => rfl
      | true =>
          dsimp only
          rw [if_neg (by simp), if_pos (by simp [hroot])]
    rw [hleft, evidence_observe]

/-- Other evidence stays where a log is looked at. -/
theorem find_handleEvidenceRequest (h : utf8 x.evidenceId ≠ key.2.value)
    (sessionId operation : Bytes) :
    find EvidenceDirectory.key key
        (x.handleEvidenceRequest sessionId operation t).1.socket.evidence.directories =
      find EvidenceDirectory.key key t.socket.evidence.directories := by
  unfold handleEvidenceRequest
  split_ifs
  · rfl
  · rcases x.require t .observeSessions with _ | refusal
    · dsimp only [guarded]
      split
      · rfl
      · rfl
      · rfl
      · split
        · rfl
        · exact find_finalizeEvidenceResponse h _ _ _
    · rfl

/-- Other evidence stays where evidence is created. -/
theorem find_createStoredEvidence (h : utf8 x.evidenceId ≠ key.2.value) (sessionId : Bytes) :
    find EvidenceDirectory.key key
        (x.createStoredEvidence sessionId t).1.socket.evidence.directories =
      find EvidenceDirectory.key key t.socket.evidence.directories := by
  unfold createStoredEvidence
  split
  · rfl
  · split
    · split
      · rfl
      · dsimp only
        split
        · exact StoredEvidenceStore.find_createEvidence_of_ne (directoryKey_ne h sessionId)
        · exact StoredEvidenceStore.find_createEvidence_of_ne (directoryKey_ne h sessionId)
    · rfl

/-- Evidence stays unless it is what is removed. -/
theorem find_handleStoredEvidenceRequest (h : utf8 x.evidenceId ≠ key.2.value) {sessionId : Bytes}
    {evidenceId : Option Bytes}
    (hremove : x.request.method = .delete → ∀ name ∈ evidenceId,
      StoredEvidenceStore.directoryKey sessionId name ≠ some key) :
    find EvidenceDirectory.key key
        (x.handleStoredEvidenceRequest sessionId evidenceId t).1.socket.evidence.directories =
      find EvidenceDirectory.key key t.socket.evidence.directories := by
  unfold handleStoredEvidenceRequest
  dsimp only
  split_ifs
  · rfl
  · cases evidenceId with
    | none =>
        dsimp only
        split
        · exact find_of_keepsStore (keepsStore_guarded rfl)
        · rcases x.require t .controlSession with _ | refusal
          · exact find_createStoredEvidence h sessionId
          · rfl
        · rfl
    | some name =>
        dsimp only
        split_ifs
        · rfl
        · split
          · refine find_of_keepsStore (keepsStore_guarded ?_)
            split <;> rfl
          · rename_i hmethod
            have hleft : find EvidenceDirectory.key key
                  (t.socket.evidence.removeEvidence sessionId name).1.directories =
                find EvidenceDirectory.key key t.socket.evidence.directories :=
              StoredEvidenceStore.find_removeEvidence_of_ne (hremove hmethod name rfl)
            rcases x.require t .controlSession with _ | refusal
            · dsimp only [guarded]
              split
              · rename_i heq
                rw [heq] at hleft
                exact hleft
              · rename_i heq
                rw [heq] at hleft
                exact hleft
            · rfl
          · rfl

/-- **Later requests leave the evidence** they are not about. -/
theorem find_of_later {store store' : StoredEvidenceStore} (h : Later key store store') :
    find EvidenceDirectory.key key store'.directories =
      find EvidenceDirectory.key key store.directories := by
  induction h with
  | refl => rfl
  | @step y t _ hspares ih =>
      rw [← ih]
      unfold handleRequest
      by_cases hevidence : ∃ sessionId operation,
          route y.context y.request = .evidence sessionId operation
      · obtain ⟨sessionId, operation, hroute⟩ := hevidence
        rw [hroute]
        exact find_handleEvidenceRequest hspares.otherId sessionId operation
      · by_cases hstored : ∃ sessionId evidenceId,
            route y.context y.request = .storedEvidence sessionId evidenceId
        · obtain ⟨sessionId, evidenceId, hroute⟩ := hstored
          rw [hroute]
          refine find_handleStoredEvidenceRequest hspares.otherId ?_
          rintro hmethod name rfl
          exact hspares.notRemoved hmethod sessionId name hroute
        · apply find_of_keepsStore
          apply keepsStore_dispatch
          · exact fun sessionId operation hroute => hevidence ⟨sessionId, operation, hroute⟩
          · exact fun sessionId evidenceId hroute => hstored ⟨sessionId, evidenceId, hroute⟩

end Frame

end Sentrits.Net.Http.Exchange
