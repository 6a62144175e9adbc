import Sentrits.Service.Observations

/-!
# Evidence as JSON

What a client is told about evidence, and what is stored of it. The lines of a log and a query are
whatever bytes they are; everything else in it is text.

* `makeEvidenceResultJson`: the code.
* `isSome_toJson?_makeEvidenceResultJson`: **it is a JSON value exactly when** the query and the
  lines are text.

Sources: `include/vibe/service/evidence.h`, `src/net/json.cpp`.
-/

namespace Sentrits.Service

/-- Source: `evidence.h` `ToString`. -/
def EvidenceSourceKind.toString : EvidenceSourceKind → String
  | .managedLogSession => "managed_log_session"

/-- Source: `evidence.h` `ToString`. -/
def LogStream.toString : LogStream → String
  | .stdout => "stdout"
  | .stderr => "stderr"

/-- Source: `evidence.h` `ToString`. -/
def EvidenceHighlightKind.toString : EvidenceHighlightKind → String
  | .matched => "match"
  | .warning => "warning"
  | .error => "error"
  | .preset => "preset"

end Sentrits.Service

namespace Sentrits.Net.Http

open Found Found.Bytes Service

/-! ### The parts -/

/-- A text. -/
def jsonText (text : String) : ByteJson := .ofJson (.string text)

/-- A counter. -/
def jsonCount (count : ℕ) : ByteJson := .ofJson (.ofUInt64 (UInt64.ofNat count))

/-- A truth value. -/
def jsonBool (value : Bool) : ByteJson := .ofJson (.bool value)

/-- Source: `json.cpp` `MakeEvidenceSourceRefJson`. -/
def makeEvidenceSourceRefJson (source : EvidenceSourceRef) : ByteJson :=
  .ofJson (.object
    [("kind", .string source.kind.toString), ("sessionId", .string source.sessionId)])

/-- Source: `json.cpp` `MakeEvidenceEntryJson`. -/
def makeEvidenceEntryJson (entry : EvidenceEntry) : ByteJson :=
  .object
    [("entryId", jsonText entry.entryId),
      ("source", makeEvidenceSourceRefJson entry.source),
      ("revision", jsonCount entry.revision),
      ("byteStart", jsonCount entry.byteStart),
      ("byteEnd", jsonCount entry.byteEnd),
      ("timestampUnixMs", .ofJson (.int64 (Int64.ofInt entry.timestampUnixMs))),
      ("stream", jsonText entry.stream.toString),
      ("text", .string entry.text),
      ("partial", jsonBool entry.isPartial)]

/-- Source: `json.cpp` `MakeEvidenceHighlightJson`. -/
def makeEvidenceHighlightJson (highlight : EvidenceHighlight) : ByteJson :=
  .object
    [("entryId", jsonText highlight.entryId),
      ("start", jsonCount highlight.start),
      ("length", jsonCount highlight.length),
      ("kind", jsonText highlight.kind.toString)]

/-! ### The whole -/

/-- Source: `json.cpp` `MakeEvidenceResultJson`. -/
def makeEvidenceResultJson (result : EvidenceResult) (replayToken : String) : ByteJson :=
  .object <|
    [("source", makeEvidenceSourceRefJson result.source),
      ("operation", jsonText result.operation.toString),
      ("query", .string result.query),
      ("revisionStart", jsonCount result.revisionStart),
      ("revisionEnd", jsonCount result.revisionEnd),
      ("oldestRevision", jsonCount result.oldestRevision),
      ("latestRevision", jsonCount result.latestRevision),
      ("entries", .array (result.entries.map makeEvidenceEntryJson)),
      ("highlights", .array (result.highlights.map makeEvidenceHighlightJson)),
      ("truncated", jsonBool result.truncated),
      ("bufferExhausted", jsonBool result.bufferExhausted),
      ("droppedEntries", jsonCount result.droppedEntries),
      ("droppedBytes", jsonCount result.droppedBytes)] ++
    (if result.errorCode = "" then [] else [("errorCode", jsonText result.errorCode)]) ++
    [("replayToken", jsonText replayToken)]

/-- The query and the lines of the result are text. -/
def Legible (result : EvidenceResult) : Prop :=
  IsText result.query ∧ ∀ entry ∈ result.entries, IsText entry.text

instance (result : EvidenceResult) : Decidable (Legible result) :=
  inferInstanceAs (Decidable (_ ∧ _))

/-- An entry is JSON exactly when its line is text. -/
theorem isSome_toJson?_makeEvidenceEntryJson (entry : EvidenceEntry) :
    (makeEvidenceEntryJson entry).toJson?.isSome = true ↔ IsText entry.text := by
  simp [makeEvidenceEntryJson, jsonText, makeEvidenceSourceRefJson, jsonCount, jsonBool]

/-- A highlight is always. -/
theorem isSome_toJson?_makeEvidenceHighlightJson (highlight : EvidenceHighlight) :
    (makeEvidenceHighlightJson highlight).toJson?.isSome = true := by
  simp [makeEvidenceHighlightJson, jsonText, jsonCount]

/-- **A result is a JSON value exactly when** its query and its lines are text. -/
theorem isSome_toJson?_makeEvidenceResultJson (result : EvidenceResult) (replayToken : String) :
    (makeEvidenceResultJson result replayToken).toJson?.isSome = true ↔ Legible result := by
  have herror : ∀ field ∈ if result.errorCode = "" then [] else
      [("errorCode", jsonText result.errorCode)], field.2.toJson?.isSome = true := by
    split_ifs <;> simp [jsonText]
  unfold makeEvidenceResultJson Legible
  rw [ByteJson.isSome_toJson?_object, List.forall_mem_append, List.forall_mem_append,
    and_iff_left (by simp [jsonText]), and_iff_left herror]
  simp [jsonText, makeEvidenceSourceRefJson, jsonCount, jsonBool,
    isSome_toJson?_makeEvidenceEntryJson, isSome_toJson?_makeEvidenceHighlightJson]

end Sentrits.Net.Http
