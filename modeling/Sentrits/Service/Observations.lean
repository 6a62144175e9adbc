import Sentrits.Found.JsonBytes
import Sentrits.Service.Evidence

/-!
# Who looked at evidence

When one session looks at the log of another, that is remembered as an observation; the store of
observations keeps the newest of them.

* `makeReplayToken`: what was asked, in one word.
* `assemble`: the observation of a result, when an actor asked for it.
* `ObservationStore`: **a store that never holds more than its limit.**
* `addWithStatus`, `listNewestFirst`: its calls.

Sources: `include/vibe/service/evidence.h`, `src/service/evidence_response_assembler.cpp`,
`src/service/observation_store.cpp`.
-/

namespace Sentrits.Service

open Found Found.Bytes

/-! ### Replay tokens -/

/-- Source: `evidence_response_assembler.cpp` `JsonEscape`. -/
def jsonEscape (input : Bytes) : Bytes := input.flatMap ByteJson.escapeByte

/-- Source: `evidence_response_assembler.cpp` `kBase64UrlAlphabet`. -/
def kBase64UrlAlphabet : List Char :=
  "ABCDEFGHIJKLMNOPQRSTUVWXYZabcdefghijklmnopqrstuvwxyz0123456789-_".toList

/-- The character of the alphabet at the index. -/
def base64UrlDigit (index : ℕ) : Char := kBase64UrlAlphabet.getD index '-'

/-- Source: `evidence_response_assembler.cpp` `Base64UrlEncode`. -/
def base64UrlEncode : Bytes → List Char
  | a :: b :: c :: input =>
      base64UrlDigit (a.toNat >>> 2 &&& 0x3F) ::
        base64UrlDigit ((a.toNat &&& 0x03) <<< 4 ||| (b.toNat >>> 4 &&& 0x0F)) ::
        base64UrlDigit ((b.toNat &&& 0x0F) <<< 2 ||| (c.toNat >>> 6 &&& 0x03)) ::
        base64UrlDigit (c.toNat &&& 0x3F) :: base64UrlEncode input
  | [a, b] =>
      [base64UrlDigit (a.toNat >>> 2 &&& 0x3F),
        base64UrlDigit ((a.toNat &&& 0x03) <<< 4 ||| (b.toNat >>> 4 &&& 0x0F)),
        base64UrlDigit ((b.toNat &&& 0x0F) <<< 2)]
  | [a] => [base64UrlDigit (a.toNat >>> 2 &&& 0x3F), base64UrlDigit ((a.toNat &&& 0x03) <<< 4)]
  | [] => []

/-- Source: `evidence_response_assembler.cpp` `MakeReplayToken`. -/
def makeReplayToken (result : EvidenceResult) : String :=
  String.ofList <| base64UrlEncode <|
    utf8 "\x7b\"source_session_id\":\"" ++ jsonEscape (utf8 result.source.sessionId) ++
    utf8 ("\",\"operation\":\"" ++ result.operation.toString ++
      "\",\"revision_start\":" ++ toString result.revisionStart ++
      ",\"revision_end\":" ++ toString result.revisionEnd ++
      ",\"limit\":" ++ toString result.entries.length ++ ",\"query\":\"") ++
    jsonEscape result.query ++ utf8 "\"\x7d"

/-! ### Observations -/

/-- Source: `evidence.h` `ObservationEvent`; the process of the actor and the replay token are left
out. -/
structure ObservationEvent where
  id : String := ""
  timestampUnixMs : ℤ
  actorSessionId : Bytes
  actorTitle : String
  operation : EvidenceOperation
  source : EvidenceSourceRef
  sourceTitle : String
  query : Bytes
  revisionStart : ℕ
  revisionEnd : ℕ
  resultCount : ℕ
  truncated : Bool
  summary : String
  deriving DecidableEq

/-- Source: `evidence_response_assembler.h` `EvidenceActorContext`. -/
structure EvidenceActorContext where
  actorSessionId : Bytes
  actorTitle : String
  deriving DecidableEq

/-- Source: `evidence_response_assembler.cpp` `MakeSummary`. -/
def makeSummary (result : EvidenceResult) (sourceTitle : String) : String :=
  s!"read {result.entries.length} {result.operation.toString} result" ++
    (if result.entries.length ≠ 1 then "s" else "") ++
    (if sourceTitle.isEmpty then "" else " from " ++ sourceTitle)

/-- The observation an actor's look at a log makes.
Source: `evidence_response_assembler.cpp` `EvidenceResponseAssembler::Assemble`. -/
def assemble (result : EvidenceResult) (sourceTitle : String) (actor : Option EvidenceActorContext)
    (timestampUnixMs : ℤ) : Option ObservationEvent :=
  match actor with
  | none => none
  | some actor =>
      if actor.actorSessionId.isEmpty then none
      else
        some
          { timestampUnixMs
            actorSessionId := actor.actorSessionId
            actorTitle := actor.actorTitle
            operation := result.operation
            source := result.source
            sourceTitle
            query := result.query
            revisionStart := result.revisionStart
            revisionEnd := result.revisionEnd
            resultCount := result.entries.length
            truncated := result.truncated
            summary := makeSummary result sourceTitle }

/-- Source: `observation_store.h` `ObservationStoreLimits`, with what the store asserts of it. -/
structure ObservationStoreLimits where
  maxEvents : ℕ := 1000
  positive : 0 < maxEvents := by decide
  deriving DecidableEq

/-- Source: `observation_store.cpp` `ObservationStore::EvictIfNeeded`. -/
def evictEvents (maxEvents : ℕ) : List ObservationEvent → List ObservationEvent
  | [] => []
  | event :: events =>
      if maxEvents < (event :: events).length then evictEvents maxEvents events
      else event :: events

/-- No more events are kept than there may be. -/
theorem length_evictEvents_le (maxEvents : ℕ) (events : List ObservationEvent) :
    (evictEvents maxEvents events).length ≤ maxEvents := by
  induction events with
  | nil => exact Nat.zero_le _
  | cons event events ih =>
      unfold evictEvents
      split_ifs with hlong
      · exact ih
      · exact Nat.le_of_not_lt hlong

/-- A store that never holds more than its limit.
Source: `observation_store.h` `ObservationStore`. -/
structure ObservationStore where
  limits : ObservationStoreLimits := {}
  events : List ObservationEvent := []
  nextEventSequence : ℕ := 1
  bounded : events.length ≤ limits.maxEvents := by exact Nat.zero_le _
  deriving DecidableEq

namespace ObservationStore

/-- Source: `observation_store.cpp` `ObservationStore::IsDuplicateTailObservation`. -/
def isDuplicateTailObservation (store : ObservationStore) (event : ObservationEvent) : Bool :=
  match store.events.getLast? with
  | none => false
  | some previous =>
      decide (event.operation = .tail ∧ previous.operation = .tail ∧
        previous.actorSessionId = event.actorSessionId ∧ previous.source = event.source ∧
        previous.query = event.query ∧ previous.revisionStart = event.revisionStart ∧
        previous.revisionEnd = event.revisionEnd ∧ previous.resultCount = event.resultCount ∧
        previous.truncated = event.truncated)

/-- Source: `observation_store.cpp` `ObservationStore::AddWithStatus`, `MakeEventId`. -/
def addWithStatus (store : ObservationStore) (event : ObservationEvent) : ObservationStore × Bool :=
  if store.isDuplicateTailObservation event then (store, false)
  else
    let named := event.id.isEmpty
    let event := if named then { event with id := s!"obs:{store.nextEventSequence}" } else event
    ({ limits := store.limits
       events := evictEvents store.limits.maxEvents (store.events ++ [event])
       nextEventSequence := store.nextEventSequence + if named then 1 else 0
       bounded := length_evictEvents_le _ _ },
      true)

/-- Source: `observation_store.cpp` `ObservationStore::ListNewestFirst`. -/
def listNewestFirst (store : ObservationStore) (limit : ℕ) : List ObservationEvent :=
  store.events.reverse.take limit

end ObservationStore

end Sentrits.Service
