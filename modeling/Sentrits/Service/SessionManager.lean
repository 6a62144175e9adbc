import Sentrits.Found.Runs
import Sentrits.Service.LaunchCommand
import Sentrits.Service.SessionEntry

/-!
# The session manager

`SessionManager` keeps the list of sessions and writes their records to the store. Each operation is
a function of the manager, its arguments and what the environment answers (the ids it draws, the
resolved environment, the child processes, whether a write to the store succeeds); `step` runs any
of them, so a run is any sequence of requests, polls and answers.

Source: `src/service/session_manager.cpp`.
-/

namespace Sentrits.Service

open Found Found.Bytes Found.Runs Session Store

/-- Source: `session_manager.h` `SessionManager`; poll timers and caches are left out. -/
structure SessionManager where
  sessions : List SessionEntry := []
  /-- What the session store holds, when there is one. -/
  sessionStore : Option (List PersistedSessionRecord) := none
  lastCreateErrorMessage : String := ""
  lastCreateErrorSessionId : Option String := none
  deriving DecidableEq

/-! ### What the environment answers -/

/-- Answers during `CreateSession`. -/
structure CreateAnswers where
  /-- The ids `MakeSessionId` draws. -/
  candidates : List String
  /-- What `ResolveEnvironment` returns. -/
  resolved : Except String EffectiveEnvironment
  /-- What `ResolveBootstrapShell` returns. -/
  bootstrapShell : Bytes
  /-- The factory makes a process. -/
  processAvailable : Bool := true
  start : StartResult

/-- Answers during `CreateLogSession`. -/
structure LogCreateAnswers where
  candidates : List String
  resolved : Except String EffectiveEnvironment
  start : StartResult

/-- An operation with the answers it gets. -/
inductive Op
  | createSession (request : CreateSessionRequest) (answers : CreateAnswers)
  | createLogSession (request : LogSessionCreateRequest) (answers : LogCreateAnswers)
  | appendLogStdout (sessionId : String) (data : Bytes) (timestampUnixMs : ℤ)
  | appendLogStderr (sessionId : String) (data : Bytes) (timestampUnixMs : ℤ)
  | loadPersistedSessions
  | updateSessionGroupTags (sessionId : String) (mode : SessionGroupTagsUpdateMode)
      (tags : List String)
  | resizeSession (sessionId : String) (size : TerminalSize) (ptyResized : Bool)
  | stopSession (sessionId : String) (terminated : Bool)
  | clearInactiveSessions
  | requestControl (sessionId clientId : String) (controllerKind : ControllerKind)
  | releaseControl (sessionId clientId : String)
  | shutdown (terminated : String → Bool)
  | pollSession (sessionId : String) (answers : PollAnswers)
  | pollAll (answers : String → PollAnswers)

/-- A call of the manager; `storeOk` says for which sessions a write to the store succeeds. -/
structure Call where
  op : Op
  storeOk : String → Bool := fun _ => true

namespace SessionManager

/-! ### Finding and changing an entry -/

/-- Source: `session_manager.cpp` `SessionManager::FindEntry`. -/
def findEntry (m : SessionManager) (sessionId : String) : Option SessionEntry :=
  m.sessions.find? (·.id = sessionId)

/-- Changes the entry `FindEntry` finds. -/
def modifyEntry (sessionId : String) (f : SessionEntry → SessionEntry) :
    List SessionEntry → List SessionEntry
  | [] => []
  | e :: entries =>
      if e.id = sessionId then f e :: entries else e :: modifyEntry sessionId f entries

/-- Source: `session_manager.cpp` `SessionManager::PersistEntry`. -/
def persistEntry (m : SessionManager) (storeOk : String → Bool) (e : SessionEntry) :
    SessionManager :=
  match e.persistedRecord with
  | none => m
  | some record =>
      if storeOk record.sessionId then
        { m with sessionStore := m.sessionStore.map (upsertSessionRecord record) }
      else m

/-- An operation on one session: nothing when it is not there. -/
def applyOne (m : SessionManager) (storeOk : String → Bool) (sessionId : String)
    (f : SessionEntry → EntryResult) : SessionManager × Bool :=
  match m.findEntry sessionId with
  | none => (m, false)
  | some e =>
      let m := { m with sessions := modifyEntry sessionId (fun e => (f e).entry) m.sessions }
      (if (f e).persist then m.persistEntry storeOk (f e).entry else m, (f e).result)

/-- An operation on all sessions, in order. -/
def applyAll (m : SessionManager) (storeOk : String → Bool) (f : SessionEntry → EntryResult) :
    SessionManager :=
  let results := m.sessions.map f
  ((results.filter (·.persist)).map (·.entry)).foldl (fun m e => m.persistEntry storeOk e)
    { m with sessions := results.map (·.entry) }

/-! ### Creating sessions -/

/-- The first id drawn that no session has, of at most 32.
Source: `session_manager.cpp` `SessionManager::MakeSessionId`. -/
def makeSessionId (m : SessionManager) (candidates : List String) : Option String :=
  ((candidates.take 32).find? fun candidate => (m.findEntry candidate).isNone).bind
    SessionId.tryCreate

/-- Source: `session_manager.cpp` `BuildCreateFailureLog`. -/
def buildCreateFailureLog (metadata : SessionMetadata)
    (effectiveEnvironment : Option EffectiveEnvironment) (errorMessage : String) : Bytes :=
  utf8 "session start failed\n" ++
    utf8 "provider: " ++ utf8 metadata.provider.toString ++ [lf] ++
    utf8 "workspace: " ++ utf8 metadata.workspaceRoot ++ [lf] ++
    (match effectiveEnvironment with
      | none => []
      | some environment =>
          utf8 "env mode: " ++ utf8 environment.mode.toString ++ [lf] ++
            (match environment.bootstrapShellPath with
              | none => []
              | some path => utf8 "shell: " ++ path ++ [lf]) ++
            (match environment.envFilePath with
              | none => []
              | some path => utf8 "env file: " ++ path ++ [lf])) ++
    utf8 "detail: " ++ utf8 errorMessage ++ [lf]

/-- The entry of a session whose creation failed.
Source: `session_manager.cpp` `SessionManager::RecordCreateFailureSession`. -/
def failureEntry (metadata : SessionMetadata) (effectiveEnvironment : Option EffectiveEnvironment)
    (errorMessage : String) : SessionEntry :=
  let failedMetadata := { metadata with status := .error }
  let failureLog := buildCreateFailureLog failedMetadata effectiveEnvironment errorMessage
  let currentSequence := if failureLog.isEmpty then 0 else 1
  { id := metadata.id
    category := .pty
    recoveredSnapshot := some
      { metadata := failedMetadata
        currentSequence := currentSequence
        recentTerminalTail := failureLog }
    controllerKind := .none
    lastObservedStatus := .error
    lastObservedSequence := currentSequence
    effectiveEnvironment := effectiveEnvironment }

/-- Source: `session_manager.cpp` `SessionManager::RecordCreateFailureSession`. -/
def recordCreateFailureSession (m : SessionManager) (storeOk : String → Bool)
    (metadata : SessionMetadata) (effectiveEnvironment : Option EffectiveEnvironment)
    (errorMessage : String) : SessionManager :=
  let e := failureEntry metadata effectiveEnvironment errorMessage
  persistEntry
    { m with
      sessions := m.sessions ++ [e]
      lastCreateErrorMessage := errorMessage
      lastCreateErrorSessionId := some metadata.id }
    storeOk e

/-- What is left of an environment after `std::move`: strings and lists are empty. -/
def movedFrom (environment : EffectiveEnvironment) : EffectiveEnvironment where
  entries := []
  mode := environment.mode
  bootstrapShellPath := environment.bootstrapShellPath.map fun _ => []
  envFilePath := environment.envFilePath.map fun _ => []
  bootstrapWarning := environment.bootstrapWarning.map fun _ => []

/-- The environment reported for a session whose environment could not be resolved. -/
def failedEnvironment (mode : EnvMode) (bootstrapShell : Bytes) (envFilePath : Option String) :
    EffectiveEnvironment where
  mode := mode
  bootstrapShellPath := if mode = .clean then none else some bootstrapShell
  envFilePath := envFilePath.map utf8

/-- The entry of a new terminal session, before its process is started. -/
def terminalEntry (metadata : SessionMetadata) (launchSpec : LaunchSpec)
    (effectiveEnvironment : EffectiveEnvironment) : SessionEntry where
  id := metadata.id
  category := .pty
  runtime := some (SessionRuntime.new { metadata := metadata } launchSpec)
  controllerKind := .host
  currentTerminalSize := launchSpec.terminalSize
  lastObservedStatus := .created
  effectiveEnvironment := some effectiveEnvironment

/-- The metadata of a session a request asks for. -/
def requestedMetadata (id : String) (request : CreateSessionRequest) : SessionMetadata where
  id := id
  provider := request.provider
  workspaceRoot := request.workspaceRoot
  title := request.title
  status := .created
  conversationId := request.conversationId
  groupTags := normalizeGroupTags request.groupTags

/-- Source: `session_manager.cpp` `SessionManager::CreateSession`. -/
def createSession (m : SessionManager) (storeOk : String → Bool) (request : CreateSessionRequest)
    (answers : CreateAnswers) : SessionManager × Option String :=
  let m := { m with lastCreateErrorMessage := "", lastCreateErrorSessionId := none }
  match m.makeSessionId answers.candidates with
  | none => ({ m with lastCreateErrorMessage := "failed to allocate session id" }, none)
  | some id =>
      let metadata := requestedMetadata id request
      match requestedCommand request with
      | .error message => (m.recordCreateFailureSession storeOk metadata none message, none)
      | .ok providerConfig =>
          let mode := request.envMode.getD .shell
          match answers.resolved with
          | .error error =>
              (m.recordCreateFailureSession storeOk metadata
                (some (failedEnvironment mode answers.bootstrapShell request.envFilePath))
                ("environment resolution failed: " ++ error), none)
          | .ok environment =>
              let launch :=
                terminalLaunch request mode environment answers.bootstrapShell providerConfig
              let launchSpec := buildLaunchSpec metadata launch.1 [] {} launch.2
              if answers.processAvailable then
                let e := terminalEntry metadata launchSpec launch.2
                let started := (SessionRuntime.new { metadata := metadata } launchSpec).start
                  answers.start
                if started.2 then
                  let e :=
                    { e with
                      runtime := some started.1
                      lastObservedStatus := started.1.status
                      lastObservedSequence := started.1.record.currentSequence }
                  (persistEntry { m with sessions := m.sessions ++ [e] } storeOk e, some id)
                else
                  -- the entry is popped; its environment was moved into it
                  (m.recordCreateFailureSession storeOk metadata (some (movedFrom launch.2))
                    (started.1.startError.getD "failed to start session process"), none)
              else
                (m.recordCreateFailureSession storeOk metadata (some launch.2)
                  "pty process unavailable", none)

/-- The entry of a new managed-log session. -/
def logEntry (id : String) (request : LogSessionCreateRequest)
    (effectiveEnvironment : Option EffectiveEnvironment) : SessionEntry where
  id := id
  category := .managedLog
  logBuffer := some (.empty { kind := .managedLogSession, sessionId := id } request.limits)
  recoveredSnapshot := some
    { metadata :=
        { id := id
          provider := .codex
          workspaceRoot := request.workspaceRoot
          title := request.title
          status := .running
          groupTags := normalizeGroupTags request.groupTags } }
  controllerKind := .host
  lastObservedStatus := .running
  effectiveEnvironment := effectiveEnvironment

/-- Source: `session_manager.cpp` `SessionManager::CreateLogSession`. -/
def createLogSession (m : SessionManager) (request : LogSessionCreateRequest)
    (answers : LogCreateAnswers) : SessionManager × Option String :=
  let m := { m with lastCreateErrorMessage := "", lastCreateErrorSessionId := none }
  match m.makeSessionId answers.candidates with
  | none => ({ m with lastCreateErrorMessage := "failed to allocate session id" }, none)
  | some id =>
      match requestedLogCommand request with
      | .error message => ({ m with lastCreateErrorMessage := message }, none)
      | .ok none => ({ m with sessions := m.sessions ++ [logEntry id request none] }, some id)
      | .ok (some _) =>
          match answers.resolved with
          | .error error =>
              ({ m with lastCreateErrorMessage := "environment resolution failed: " ++ error }, none)
          | .ok environment =>
              let e := logEntry id request (some environment)
              if answers.start.started then
                let e := { e with logProcess := some { pid := some answers.start.pid } }
                ({ m with sessions := m.sessions ++ [e] }, some id)
              else
                -- the entry just pushed is erased again
                ({ m with
                    lastCreateErrorMessage :=
                      if answers.start.errorMessage.isEmpty then "failed to start log process"
                      else answers.start.errorMessage
                    sessions := (m.sessions ++ [e]).filter (·.id ≠ id) }, none)

/-! ### Recovering sessions -/

/-- Source: `session_manager.cpp` `NormalizeRecoveredStatus`. -/
def normalizeRecoveredStatus (status : SessionStatus) : SessionStatus :=
  if status.isTerminal then status else .exited

/-- The entry of a session read from the store.
Source: `session_manager.cpp` `SessionManager::LoadPersistedSessions`. -/
def recoveredEntry (id : String) (persisted : PersistedSessionRecord) : SessionEntry where
  id := id
  category := .pty
  recoveredSnapshot := some
    { metadata :=
        { id := id
          provider := persisted.provider
          workspaceRoot := persisted.workspaceRoot
          title := persisted.title
          status := normalizeRecoveredStatus persisted.status
          conversationId := persisted.conversationId
          groupTags := normalizeGroupTags persisted.groupTags }
      currentSequence := persisted.currentSequence
      recentTerminalTail := persisted.recentTerminalTail }
  controllerKind := .host
  isRecovered := true
  lastObservedStatus := normalizeRecoveredStatus persisted.status
  lastObservedSequence := persisted.currentSequence

/-- The loop of `LoadPersistedSessions`. -/
def loadLoop (sessions : List SessionEntry) : List PersistedSessionRecord → List SessionEntry
  | [] => sessions
  | persisted :: records =>
      if (sessions.find? (·.id = persisted.sessionId)).isSome then loadLoop sessions records
      else
        match SessionId.tryCreate persisted.sessionId with
        | none => loadLoop sessions records
        | some id => loadLoop (sessions ++ [recoveredEntry id persisted]) records

/-- Source: `session_manager.cpp` `SessionManager::LoadPersistedSessions`. -/
def loadPersistedSessions (m : SessionManager) : SessionManager :=
  { m with sessions := loadLoop m.sessions (m.sessionStore.getD []) }

/-! ### The other operations -/

/-- Source: `session_manager.cpp` `SessionManager::ClearInactiveSessions`. -/
def clearInactiveSessions (m : SessionManager) (storeOk : String → Bool) : SessionManager :=
  let removed := (m.sessions.filter (!·.isActive)).filterMap fun e => e.metadata?.map (·.id)
  { m with
    sessions := m.sessions.filter (·.isActive)
    sessionStore := m.sessionStore.map fun records =>
      (removed.filter storeOk).foldl (fun records id => removeSessionRecord id records) records }

/-- Runs an operation. For the operations that answer yes or no, the second part is the answer; for
the creating ones, whether there is a session.
Source: the member functions of `SessionManager` of the same names. -/
def perform (m : SessionManager) (storeOk : String → Bool) : Op → SessionManager × Bool
  | .createSession request answers =>
      let (m, id) := m.createSession storeOk request answers
      (m, id.isSome)
  | .createLogSession request answers =>
      let (m, id) := m.createLogSession request answers
      (m, id.isSome)
  | .appendLogStdout sessionId data ts =>
      m.applyOne storeOk sessionId (·.appendLog .stdout data ts)
  | .appendLogStderr sessionId data ts =>
      m.applyOne storeOk sessionId (·.appendLog .stderr data ts)
  | .loadPersistedSessions => (m.loadPersistedSessions, true)
  | .updateSessionGroupTags sessionId mode tags =>
      m.applyOne storeOk sessionId (·.updateGroupTags mode tags)
  | .resizeSession sessionId size ptyResized =>
      m.applyOne storeOk sessionId (·.resize size ptyResized)
  | .stopSession sessionId terminated => m.applyOne storeOk sessionId (·.stop terminated)
  | .clearInactiveSessions => (m.clearInactiveSessions storeOk, true)
  | .requestControl sessionId clientId kind =>
      m.applyOne storeOk sessionId (·.requestControl clientId kind)
  | .releaseControl sessionId clientId =>
      m.applyOne storeOk sessionId (·.releaseControl clientId)
  | .shutdown terminated => (m.applyAll storeOk fun e => e.shutdown (terminated e.id), true)
  | .pollSession sessionId answers => m.applyOne storeOk sessionId (·.poll answers)
  | .pollAll answers =>
      (m.applyAll storeOk fun e =>
        if e.skippedByPollAll then { entry := e } else e.poll (answers e.id), true)

/-- One step of a run. -/
def step (m : SessionManager) (call : Call) : Option SessionManager :=
  some (m.perform call.storeOk call.op).1

/-- The manager as the daemon starts it: no sessions, and a store as it was left. -/
def Init (m : SessionManager) : Prop := m.sessions = []

end SessionManager

end Sentrits.Service
