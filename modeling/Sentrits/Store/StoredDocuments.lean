import Mathlib.Data.List.Basic
import Sentrits.Found.Keyed
import Sentrits.Found.LexicalPath

/-!
# Prompt templates and stored evidence

Two kinds of documents lie below the storage root, each in a file or a directory that a client
names: prompt templates, and the evidence that was stored of a session. What may stand in such a
name is fixed, so that it names one entry of one directory.

* `SafeIdentifier`: a name of letters, digits, underscores, dashes and dots, that is not dots alone.
* `SafeIdentifier.plainName`, `inside_documentPath`: **such a name never leaves its directory.**
* `PromptTemplateStore`, `StoredEvidenceStore`: the two stores, with what their next writes come to.

Source: `src/store/file_stores.cpp`.
-/

namespace Sentrits.Store

open Found Found.Bytes Found.Keyed Found.LexicalPath

/-! ### Names -/

/-- The letters and digits of the C locale, and three signs. -/
def isSafeChar (ch : UInt8) : Bool :=
  (0x30 ≤ ch && ch ≤ 0x39) || (0x41 ≤ ch && ch ≤ 0x5A) || (0x61 ≤ ch && ch ≤ 0x7A) || ch == 0x5F ||
    ch == 0x2D || ch == 0x2E

/-- Source: `file_stores.cpp` `IsSafeIdentifier`. -/
def isSafeIdentifier (value : Bytes) : Bool :=
  if value.isEmpty || value == dot || value == dotdot then false else value.all isSafeChar

/-- A name that passes the check. -/
structure SafeIdentifier where
  value : Bytes
  safe : isSafeIdentifier value = true
  deriving DecidableEq

/-- The name, when it passes. -/
def SafeIdentifier.of? (value : Bytes) : Option SafeIdentifier :=
  if h : isSafeIdentifier value = true then some ⟨value, h⟩ else none

/-- Source: `file_stores.cpp` `IsSafeTemplateId`. -/
def templateId (value : Bytes) : Option SafeIdentifier :=
  if utf8 ".md" <:+ value then SafeIdentifier.of? value else none

/-- **A safe name is one plain name.** -/
theorem SafeIdentifier.plainName (id : SafeIdentifier) : PlainName id.value := by
  obtain ⟨value, h⟩ := id
  unfold isSafeIdentifier at h
  split_ifs at h with hspecial
  rw [Bool.or_eq_true, Bool.or_eq_true, not_or, not_or] at hspecial
  obtain ⟨⟨hempty, hdot⟩, hdotdot⟩ := hspecial
  refine ⟨?_, ?_, ?_, ?_⟩
  · exact fun heq => hempty (List.isEmpty_iff.mpr heq)
  · intro hslash
    exact absurd (List.all_eq_true.mp h slash hslash) (by decide)
  · exact fun heq => hdot (beq_iff_eq.mpr heq)
  · exact fun heq => hdotdot (beq_iff_eq.mpr heq)

/-- The path of an entry that some names lead to.
Source: `file_stores.cpp` `TemplatePath`, `EvidenceDirectory`. -/
def documentPath (root : Bytes) (names : List SafeIdentifier) : Bytes :=
  names.foldl (fun path name => join path name.value) root

/-- **What safe names lead to lies inside the directory they start from.** -/
theorem inside_documentPath (root : Bytes) (names : List SafeIdentifier) :
    Inside root (documentPath root names) := by
  unfold documentPath
  induction names using List.reverseRecOn with
  | nil => exact ⟨rfl, List.prefix_rfl⟩
  | append_singleton names name ih =>
      rw [List.foldl_append]
      obtain ⟨habsolute, hpre⟩ := inside_join
        (names.foldl (fun path name => join path name.value) root) name.plainName.contained
      exact ⟨ih.1.trans habsolute, ih.2.trans hpre⟩

/-! ### Writes -/

/-- What the next write comes to, and the writes after it; a write that nothing is said of
succeeds. -/
def nextOutcome : List Bool → Bool × List Bool
  | [] => (true, [])
  | outcome :: outcomes => (outcome, outcomes)

/-! ### Prompt templates -/

/-- A file of the directory of templates. -/
structure PromptTemplate where
  id : SafeIdentifier
  content : Bytes
  deriving DecidableEq

/-- Source: `file_stores.h` `PromptTemplateSummary`; the time of the last write is left out. -/
structure PromptTemplateSummary where
  id : Bytes
  title : Bytes
  sizeBytes : ℕ
  deriving DecidableEq

/-- Source: `file_stores.h` `FilePromptTemplateStore`, with the files it finds. -/
structure PromptTemplateStore where
  templates : List PromptTemplate := []
  /-- What the next writes of the store come to. -/
  outcomes : List Bool := []
  deriving DecidableEq

/-- Source: `file_stores.cpp` `TemplateTitleFromId`. -/
def templateTitleFromId (templateId : Bytes) : Bytes :=
  let base := if utf8 ".md" <:+ templateId then templateId.take (templateId.length - 3) else templateId
  let base := base.map fun ch => if ch == 0x5F || ch == 0x2D then 0x20 else ch
  match base with
  | [] => []
  | ch :: rest => (if 0x61 ≤ ch ∧ ch ≤ 0x7A then ch - 0x20 else ch) :: rest

/-- The first heading of the content, or what the name says.
Source: `file_stores.cpp` `TemplateTitleFromContent`. -/
def templateTitleFromContent (templateId content : Bytes) : Bytes :=
  match (content.splitOn lf).find? fun line => utf8 "# " <+: line ∧ 2 < line.length with
  | some line => line.drop 2
  | none => templateTitleFromId templateId

/-- Source: `file_stores.cpp` `TemplateSummaryFromFile`. -/
def PromptTemplate.summary (template : PromptTemplate) : PromptTemplateSummary where
  id := template.id.value
  title := templateTitleFromContent template.id.value template.content
  sizeBytes := template.content.length

/-- The two templates of a new host.
Source: `file_stores.cpp` `SeedDefaultTemplatesIfEmpty`. -/
def defaultTemplates : List PromptTemplate :=
  [{ id := ⟨utf8 "code_review.md", by decide⟩
     content := utf8 ("# Code Review\n\n## Task\n\x7b\x7bTASK\x7d\x7d\n\n" ++
       "## Evidence\n\x7b\x7bEVIDENCE\x7d\x7d\n\n" ++
       "## Constraints\n- Prioritize correctness, regressions, and missing tests.\n" ++
       "- Keep the review concise and grounded in file references.\n\n" ++
       "## Verification\n\x7b\x7bVERIFICATION\x7d\x7d\n") },
   { id := ⟨utf8 "debugging.md", by decide⟩
     content := utf8 ("# Debugging\n\n## Symptom\n\x7b\x7bSYMPTOM\x7d\x7d\n\n" ++
       "## Evidence\n\x7b\x7bEVIDENCE\x7d\x7d\n\n" ++
       "## Request\nFind the root cause, make the smallest fix, and summarize verification.\n") }]

namespace PromptTemplateStore

/-- Source: `file_stores.cpp` `WriteFileAtomically`, on a template. -/
def write (store : PromptTemplateStore) (template : PromptTemplate) : PromptTemplateStore × Bool :=
  match nextOutcome store.outcomes with
  | (true, outcomes) =>
      ({ templates := upsert PromptTemplate.id template store.templates, outcomes }, true)
  | (false, outcomes) => ({ store with outcomes }, false)

/-- A name that is an extension and nothing else has no extension.
Source: `file_stores.cpp` `SeedDefaultTemplatesIfEmpty`. -/
def seedDefaultTemplatesIfEmpty (store : PromptTemplateStore) : PromptTemplateStore :=
  if store.templates.any fun template => utf8 ".md" <:+ template.id.value ∧
      template.id.value ≠ utf8 ".md" then store
  else defaultTemplates.foldl (fun store template => (store.write template).1) store

/-- Source: `file_stores.cpp` `FilePromptTemplateStore::ListTemplates`. -/
def listTemplates (store : PromptTemplateStore) : PromptTemplateStore × List PromptTemplateSummary :=
  let store := store.seedDefaultTemplatesIfEmpty
  (store, (store.templates.map (·.summary)).mergeSort fun lhs rhs => lhs.id ≤ rhs.id)

/-- Source: `file_stores.cpp` `FilePromptTemplateStore::LoadTemplate`. -/
def loadTemplate (store : PromptTemplateStore) (id : Bytes) :
    PromptTemplateStore × Option PromptTemplate :=
  let store := store.seedDefaultTemplatesIfEmpty
  (store, (templateId id).bind fun id => find PromptTemplate.id id store.templates)

/-- Source: `file_stores.cpp` `FilePromptTemplateStore::UpsertTemplate`. -/
def upsertTemplate (store : PromptTemplateStore) (id content : Bytes) : PromptTemplateStore × Bool :=
  match templateId id with
  | none => (store, false)
  | some id => if content.isEmpty then (store, false) else store.write { id, content }

/-- Source: `file_stores.cpp` `FilePromptTemplateStore::RemoveTemplate`. -/
def removeTemplate (store : PromptTemplateStore) (id : Bytes) : PromptTemplateStore × Bool :=
  match templateId id with
  | none => (store, false)
  | some id =>
      if Has PromptTemplate.id id store.templates then
        match nextOutcome store.outcomes with
        | (true, outcomes) =>
            ({ templates := remove PromptTemplate.id id store.templates, outcomes }, true)
        | (false, outcomes) => ({ store with outcomes }, false)
      else (store, false)

end PromptTemplateStore

/-! ### Stored evidence -/

/-- Source: `file_stores.h` `StoredEvidenceSummary`. -/
structure StoredEvidenceSummary where
  evidenceId : Bytes
  sessionId : Bytes
  kind : String
  /-- A title may come out of a request target, and then it is not text. -/
  title : Bytes
  contentType : String
  createdAtUnixMs : ℤ
  sizeBytes : ℕ
  deriving DecidableEq

/-- A directory of evidence with the three files there may be in it. -/
structure EvidenceDirectory where
  sessionId : SafeIdentifier
  evidenceId : SafeIdentifier
  /-- What was written to `metadata.json`. -/
  metadata : Option StoredEvidenceSummary := none
  /-- The file `content.md`. -/
  content : Option Bytes := none
  /-- The file `evidence.json`. -/
  evidence : Option Bytes := none
  deriving DecidableEq

/-- The names that lead to a directory. -/
def EvidenceDirectory.key (directory : EvidenceDirectory) : SafeIdentifier × SafeIdentifier :=
  (directory.sessionId, directory.evidenceId)

/-- Source: `file_stores.h` `StoredEvidenceRecord`. -/
structure StoredEvidenceRecord where
  summary : StoredEvidenceSummary
  markdownContent : Option Bytes := none
  evidenceJson : Option Bytes := none
  deriving DecidableEq

/-- The two kinds of evidence, and the file each is kept in. -/
inductive EvidenceKind
  | userMarkdown
  | logSnapshot
  deriving DecidableEq

/-- The name it is stored under. -/
def EvidenceKind.name : EvidenceKind → String
  | .userMarkdown => "user_markdown"
  | .logSnapshot => "log_snapshot"

/-- The type it is served as. -/
def EvidenceKind.contentType : EvidenceKind → String
  | .userMarkdown => "text/markdown"
  | .logSnapshot => "application/json"

/-- Writes the document of a directory. -/
def EvidenceDirectory.withDocument (directory : EvidenceDirectory) (document : Bytes) :
    EvidenceKind → EvidenceDirectory
  | .userMarkdown => { directory with content := some document }
  | .logSnapshot => { directory with evidence := some document }

/-- The metadata is a JSON file: it is read back when its texts are texts and its time is not before
the epoch.
Source: `file_stores.cpp` `LoadStoredEvidenceMetadata`. -/
def EvidenceDirectory.loadMetadata (directory : EvidenceDirectory) : Option StoredEvidenceSummary :=
  directory.metadata.filter fun summary =>
    (textOf summary.title).isSome && decide (0 ≤ summary.createdAtUnixMs)

/-- Source: `file_stores.h` `FileStoredEvidenceStore`, with the directories it finds. -/
structure StoredEvidenceStore where
  directories : List EvidenceDirectory := []
  /-- What the next writes and removals of the store come to. -/
  outcomes : List Bool := []
  /-- Two names lead to two directories. -/
  distinct : (directories.map EvidenceDirectory.key).Nodup := by decide
  deriving DecidableEq

namespace StoredEvidenceStore

/-- Newest first.
Source: `file_stores.cpp` `FileStoredEvidenceStore::ListEvidence`. -/
def listEvidence (store : StoredEvidenceStore) (sessionId : Bytes) : List StoredEvidenceSummary :=
  ((store.directories.filter (·.sessionId.value = sessionId)).filterMap (·.loadMetadata)).mergeSort
    fun lhs rhs =>
      if lhs.createdAtUnixMs ≠ rhs.createdAtUnixMs then lhs.createdAtUnixMs > rhs.createdAtUnixMs
      else lhs.evidenceId ≤ rhs.evidenceId

/-- Source: `file_stores.cpp` `EvidenceDirectory`. -/
def directoryKey (sessionId evidenceId : Bytes) : Option (SafeIdentifier × SafeIdentifier) := do
  let sessionId ← SafeIdentifier.of? sessionId
  let evidenceId ← SafeIdentifier.of? evidenceId
  some (sessionId, evidenceId)

/-- Source: `file_stores.cpp` `FileStoredEvidenceStore::LoadEvidence`. -/
def loadEvidence (store : StoredEvidenceStore) (sessionId evidenceId : Bytes) :
    Option StoredEvidenceRecord := do
  let key ← directoryKey sessionId evidenceId
  let directory ← find EvidenceDirectory.key key store.directories
  let summary ← directory.loadMetadata
  if summary.kind = "user_markdown" then
    let content ← directory.content
    some { summary, markdownContent := some content }
  else if summary.kind = "log_snapshot" then
    let evidence ← directory.evidence
    some { summary, evidenceJson := some evidence }
  else some { summary }

/-- Source: `file_stores.cpp` `WriteFileAtomically`, on a file of a directory. -/
def write (store : StoredEvidenceStore) (directory : EvidenceDirectory) : StoredEvidenceStore × Bool :=
  match nextOutcome store.outcomes with
  | (true, outcomes) =>
      ({ directories := upsert EvidenceDirectory.key directory store.directories
         outcomes
         distinct := nodup_upsert store.distinct directory },
        true)
  | (false, outcomes) => ({ store with outcomes }, false)

/-- Removes a directory with all that is in it, when that succeeds. -/
def removeAll (store : StoredEvidenceStore) (key : SafeIdentifier × SafeIdentifier) :
    StoredEvidenceStore × Bool :=
  match nextOutcome store.outcomes with
  | (true, outcomes) =>
      ({ directories := remove EvidenceDirectory.key key store.directories
         outcomes
         distinct := nodup_remove store.distinct key },
        true)
  | (false, outcomes) => ({ store with outcomes }, false)

/-- Writes a document and then its metadata; when one of the two fails, the directory is removed.
Source: `file_stores.cpp` `FileStoredEvidenceStore::CreateMarkdownEvidence`,
`FileStoredEvidenceStore::CreateLogSnapshotEvidence`. -/
def createEvidence (store : StoredEvidenceStore) (kind : EvidenceKind)
    (sessionId evidenceId title document : Bytes) (createdAtUnixMs : ℤ) :
    StoredEvidenceStore × Option StoredEvidenceSummary :=
  match directoryKey sessionId evidenceId with
  | none => (store, none)
  | some key =>
      if title.isEmpty || document.isEmpty then (store, none)
      else
        let summary : StoredEvidenceSummary :=
          { evidenceId, sessionId, kind := kind.name, title, contentType := kind.contentType
            createdAtUnixMs, sizeBytes := document.length }
        let directory := ((find EvidenceDirectory.key key store.directories).getD
          { sessionId := key.1, evidenceId := key.2 }).withDocument document kind
        match store.write directory with
        | (store, false) => ((store.removeAll key).1, none)
        | (store, true) =>
            match store.write { directory with metadata := some summary } with
            | (store, false) => ((store.removeAll key).1, none)
            | (store, true) => (store, some summary)

/-- Evidence that a user has written. -/
def createMarkdownEvidence (store : StoredEvidenceStore)
    (sessionId evidenceId title content : Bytes) (createdAtUnixMs : ℤ) :
    StoredEvidenceStore × Option StoredEvidenceSummary :=
  store.createEvidence .userMarkdown sessionId evidenceId title content createdAtUnixMs

/-- Evidence that was seen in a log. -/
def createLogSnapshotEvidence (store : StoredEvidenceStore)
    (sessionId evidenceId title evidenceJson : Bytes) (createdAtUnixMs : ℤ) :
    StoredEvidenceStore × Option StoredEvidenceSummary :=
  store.createEvidence .logSnapshot sessionId evidenceId title evidenceJson createdAtUnixMs

/-- Source: `file_stores.cpp` `FileStoredEvidenceStore::RemoveEvidence`. -/
def removeEvidence (store : StoredEvidenceStore) (sessionId evidenceId : Bytes) :
    StoredEvidenceStore × Bool :=
  match directoryKey sessionId evidenceId with
  | none => (store, false)
  | some key =>
      if Has EvidenceDirectory.key key store.directories then store.removeAll key
      else (store, false)

end StoredEvidenceStore

end Sentrits.Store
