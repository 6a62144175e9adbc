import Sentrits.Net.HostIdentityRequests

/-!
# Create requests that name a launch record

What a create request says takes the place of what the launch record it names says, field by field;
what it does not say is taken from the record. The command is one field that is written in two ways.

* `commandOf`, `requestedCommand_eq_run`: the command of a request, as it is run.
* `readFrom_of_parse`: what the payload has of a body.
* `OverridesRecord`: each field is that of the body where the body contains it, else that of the
  record.
* `overridesRecord_iff`: **this is so exactly when** the body contains the group tags, or the record
  has none, and no `argv` command stands against a shell command of the record.

Sources: `src/net/http_shared.cpp`, `src/net/request_parsing.cpp`,
`src/service/session_manager.cpp`.
-/

namespace Sentrits.Net

open Found Found.Json Session Store Service

/-! ### Commands -/

/-- A command, in either of the two ways it is written. -/
inductive LaunchCommand
  | argv (tokens : List String)
  | shell (text : String)
  deriving DecidableEq

/-- The command of a request or of a launch record: a shell command is looked at first.
Source: `session_manager.cpp` `SessionManager::CreateSession`. -/
def commandOf (commandArgv : Option (List String)) (commandShell : Option String) :
    Option LaunchCommand :=
  match commandShell with
  | some text => some (.shell text)
  | none => commandArgv.map .argv

/-- What is run for a command.
Source: `session_manager.cpp` `SessionManager::CreateSession`. -/
def LaunchCommand.run (provider : ProviderType) :
    Option LaunchCommand → Except String ProviderConfig
  | none => .ok (defaultProviderConfig provider)
  | some (.shell text) =>
      if text.isEmpty then .error "shell command must not be empty"
      else .ok { defaultProviderConfig provider with
        executable := Bytes.utf8 "/bin/sh"
        defaultArgs := [Bytes.utf8 "-lc", Bytes.utf8 text] }
  | some (.argv []) => .error "command argv must not be empty"
  | some (.argv (first :: rest)) =>
      if first.isEmpty then .error "command argv must not be empty"
      else .ok { defaultProviderConfig provider with
        executable := Bytes.utf8 first
        defaultArgs := rest.map Bytes.utf8 }

/-- **The command of a request** is what decides what is run. -/
theorem requestedCommand_eq_run (request : CreateSessionRequest) :
    requestedCommand request =
      LaunchCommand.run request.provider
        (commandOf request.commandArgv request.commandShell) := by
  unfold requestedCommand commandOf
  rcases request.commandShell with _ | text
  · rcases request.commandArgv with _ | _ | ⟨first, rest⟩
    · rfl
    · rfl
    · rfl
  · rfl

/-- The command the host runs for a provider when nothing else is asked for.
Source: `http_shared.cpp` `ApplyConfiguredProviderOverride`. -/
def configuredCommand (provider : ProviderType) (hostIdentity : Option HostIdentity) :
    Option LaunchCommand :=
  hostIdentity.bind fun identity =>
    let command := match provider with
      | .codex => identity.codexCommand
      | .claude => identity.claudeCommand
    if command.executable = "" then none else some (.argv (command.executable :: command.args))

/-- The command of the host is run where there is no other. -/
theorem commandOf_applyConfiguredProviderOverride (request : CreateSessionRequest)
    (hostIdentity : Option HostIdentity) :
    commandOf (applyConfiguredProviderOverride request hostIdentity).commandArgv
        (applyConfiguredProviderOverride request hostIdentity).commandShell =
      (commandOf request.commandArgv request.commandShell).or
        (configuredCommand request.provider hostIdentity) := by
  unfold applyConfiguredProviderOverride configuredCommand
  rcases hostIdentity with _ | identity
  · simp
  · dsimp only [Option.bind_some]
    by_cases hcommand : request.commandArgv.isSome ∨ request.commandShell.isSome
    · rw [if_pos hcommand]
      have hsome : (commandOf request.commandArgv request.commandShell).isSome = true := by
        unfold commandOf
        rcases hshell : request.commandShell with _ | text
        · rw [hshell] at hcommand
          simpa using hcommand
        · rfl
      rw [Option.or_of_isSome hsome]
    · rw [if_neg hcommand]
      rw [not_or, Option.not_isSome_iff_eq_none, Option.not_isSome_iff_eq_none] at hcommand
      rcases request.provider with _ | _
      · by_cases hexecutable : identity.codexCommand.executable = ""
        · simp [hexecutable]
        · simp [commandOf, hcommand.1, hcommand.2, hexecutable]
      · by_cases hexecutable : identity.claudeCommand.executable = ""
        · simp [hexecutable]
        · simp [commandOf, hcommand.1, hcommand.2, hexecutable]

/-- The other fields are not touched. -/
theorem fields_applyConfiguredProviderOverride (request : CreateSessionRequest)
    (hostIdentity : Option HostIdentity) :
    { applyConfiguredProviderOverride request hostIdentity with
      commandArgv := request.commandArgv } = request := by
  unfold applyConfiguredProviderOverride
  rcases hostIdentity with _ | identity
  · rfl
  · dsimp only
    split_ifs <;> rfl

/-- **Which command is left of two requests:** where one is asked with an `argv` command and the
other has a shell command, it is not that of the first. -/
theorem commandOf_payloadOr {payload : CreateSessionRequestPayload} (record : LaunchRecord)
    (hone : ¬(payload.commandArgv.isSome ∧ payload.commandShell.isSome)) :
    commandOf (payloadOr payload.commandArgv (some record) (·.commandArgv))
          (payloadOr payload.commandShell (some record) (·.commandShell)) =
        (commandOf payload.commandArgv payload.commandShell).or
          (commandOf record.commandArgv record.commandShell) ↔
      (payload.commandArgv.isSome = true → record.commandShell = none) := by
  unfold payloadOr commandOf
  rcases hargv : payload.commandArgv with _ | tokens <;>
    rcases hshell : payload.commandShell with _ | text
  · rcases hrecord : record.commandShell with _ | text <;> simp [hrecord]
  · simp
  · rcases hrecord : record.commandShell with _ | text <;> simp [hrecord]
  · rw [hargv, hshell] at hone
    exact absurd ⟨rfl, rfl⟩ hone

/-! ### Bodies -/

/-- What the payload has was read from the fields of the object.
Source: `request_parsing.cpp` `ParseCreateSessionRequest`. -/
structure CreateSessionRequestPayload.ReadFrom (payload : CreateSessionRequestPayload)
    (object : List (String × Json)) : Prop where
  provider : orNone parseProviderValue (ifContains object "provider") = some payload.provider
  workspaceRoot :
    orNone asNonEmptyString (ifContains object "workspaceRoot") = some payload.workspaceRoot
  title : orNone asNonEmptyString (ifContains object "title") = some payload.title
  conversationId :
    orNone asNonEmptyString (ifContains object "conversationId") = some payload.conversationId
  command : orNone parseCommandArgvValue
    ((ifContains object "commandArgv").or (ifContains object "command")) = some payload.commandArgv
  commandShell :
    orNone asNonEmptyString (ifContains object "commandShell") = some payload.commandShell
  groupTags : (orDefault [] parseNormalizedTagsArray (ifContains object "groupTags")).map some =
    some payload.groupTags
  envMode : orNone (fun mode => mode.asString.bind parseEnvMode) (ifContains object "envMode") =
    some payload.envMode
  environmentOverrides :
    orDefault [] parseOverrides (ifContains object "environmentOverrides") =
      some payload.environmentOverrides
  envFilePath : orDefault none asPossiblyEmptyString (ifContains object "envFilePath") =
    some payload.envFilePath

/-- Of two fields that may be missing, of which at most one is there. -/
theorem orNone_or {α : Type} {decode : Json → Option α} {field other : Option Json}
    {a b : Option α} (ha : orNone decode field = some a) (hb : orNone decode other = some b)
    (hone : ¬(b.isSome ∧ a.isSome)) :
    orNone decode (field.or other) = some (if a.isSome then a else b) := by
  rcases field with _ | value
  · cases ha
    exact hb
  · obtain ⟨x, hx, rfl⟩ := Option.map_eq_some_iff.mp ha
    exact ha

/-- **What the payload has of a body.** -/
theorem readFrom_of_parse {lib : JsonLibrary} {body : String}
    {payload : CreateSessionRequestPayload} {object : List (String × Json)}
    (hobject : (lib.parse body).bind asObject = some object)
    (h : parseCreateSessionRequest lib body = some payload) : payload.ReadFrom object := by
  unfold parseCreateSessionRequest at h
  obtain ⟨value, hvalue, h⟩ := exists_of_bind h
  obtain ⟨object', hobject', h⟩ := exists_of_bind h
  rw [hvalue, Option.bind_some, hobject'] at hobject
  obtain rfl := Option.some.inj hobject
  obtain ⟨provider, hprovider, h⟩ := exists_of_bind h
  obtain ⟨workspaceRoot, hworkspaceRoot, h⟩ := exists_of_bind h
  obtain ⟨title, htitle, h⟩ := exists_of_bind h
  obtain ⟨conversationId, hconversationId, h⟩ := exists_of_bind h
  obtain ⟨recordId, -, h⟩ := exists_of_bind h
  obtain ⟨command, hcommand, h⟩ := exists_of_bind h
  obtain ⟨commandArgv, hcommandArgv, h⟩ := exists_of_bind h
  obtain ⟨commandShell, hcommandShell, h⟩ := exists_of_bind h
  by_cases hboth : command.isSome ∧ commandArgv.isSome
  · rw [if_pos hboth] at h
    cases h
  by_cases hmixed : (command.isSome ∨ commandArgv.isSome) ∧ commandShell.isSome
  · rw [if_neg hboth, if_pos hmixed] at h
    cases h
  rw [if_neg hboth, if_neg hmixed] at h
  obtain ⟨groupTags, hgroupTags, h⟩ := exists_of_bind h
  obtain ⟨envMode, henvMode, h⟩ := exists_of_bind h
  obtain ⟨environmentOverrides, hoverrides, h⟩ := exists_of_bind h
  obtain ⟨envFilePath, henvFilePath, h⟩ := exists_of_bind h
  cases h
  exact
    { provider := hprovider
      workspaceRoot := hworkspaceRoot
      title := htitle
      conversationId := hconversationId
      command := orNone_or hcommandArgv hcommand hboth
      commandShell := hcommandShell
      groupTags := by rw [hgroupTags]; rfl
      envMode := henvMode
      environmentOverrides := hoverrides
      envFilePath := henvFilePath }

/-! ### Overriding -/

/-- The value of a field is what the body says, where it contains the field, else the other. -/
def Takes {α : Type} (field : Option Json) (decode : Json → Option α) (otherwise value : α) :
    Prop :=
  match field with
  | none => value = otherwise
  | some given => decode given = some value

/-- The command a body contains.
Source: `request_parsing.cpp` `ParseCreateSessionRequest`. -/
def givenCommand (object : List (String × Json)) : Option LaunchCommand :=
  commandOf (((ifContains object "commandArgv").or (ifContains object "command")).bind
      parseCommandArgvValue)
    ((ifContains object "commandShell").bind asNonEmptyString)

/-- **Each field of the request is that of the body where the body contains it, else that of the
record.** What the record does not say either is nothing, and for the command that of the host. -/
structure OverridesRecord (object : List (String × Json)) (record : LaunchRecord)
    (hostIdentity : Option HostIdentity) (request : CreateSessionRequest) : Prop where
  provider : Takes (ifContains object "provider") parseProviderValue record.provider
    request.provider
  workspaceRoot : Takes (ifContains object "workspaceRoot") asNonEmptyString record.workspaceRoot
    request.workspaceRoot
  title : Takes (ifContains object "title") asNonEmptyString record.title request.title
  conversationId : Takes (ifContains object "conversationId")
    (fun given => (asNonEmptyString given).map some) record.conversationId request.conversationId
  groupTags : Takes (ifContains object "groupTags") parseNormalizedTagsArray record.groupTags
    request.groupTags
  command : commandOf request.commandArgv request.commandShell =
    ((givenCommand object).or (commandOf record.commandArgv record.commandShell)).or
      (configuredCommand request.provider hostIdentity)
  envMode : Takes (ifContains object "envMode")
    (fun given => (given.asString.bind parseEnvMode).map some) none request.envMode
  environmentOverrides : Takes (ifContains object "environmentOverrides") parseOverrides []
    request.environmentOverrides
  envFilePath : Takes (ifContains object "envFilePath") asPossiblyEmptyString none
    request.envFilePath

/-- The body contains the group tags, or the record has none; and the record has no shell command
where the body contains an `argv` command. -/
structure Overridable (object : List (String × Json)) (record : LaunchRecord) : Prop where
  groupTags : ifContains object "groupTags" ≠ none ∨ record.groupTags = []
  command : ifContains object "commandArgv" ≠ none ∨ ifContains object "command" ≠ none →
    record.commandShell = none

/-- A field is taken where it is there, or its default. -/
theorem takes_of_orDefault {α : Type} {field : Option Json} {decode : Json → Option α}
    {fallback value : α} (h : orDefault fallback decode field = some value) :
    Takes field decode fallback value := by
  rcases field with _ | given
  · exact (Option.some.inj h).symm
  · exact h

/-- A field that is there is taken over what the record has. -/
theorem takes_of_orNone {α : Type} {field : Option Json} {decode : Json → Option α}
    {parsed : Option α} (h : orNone decode field = some parsed) (otherwise : α) :
    Takes field decode otherwise (parsed.getD otherwise) := by
  rcases field with _ | given
  · cases h
    rfl
  · obtain ⟨a, ha, rfl⟩ := Option.map_eq_some_iff.mp h
    exact ha

/-- The same for a field that need not be in the record either. -/
theorem takes_payloadOr {α : Type} {field : Option Json} {decode : Json → Option α}
    {parsed : Option α} (h : orNone decode field = some parsed) (record : LaunchRecord)
    (fromRecord : LaunchRecord → Option α) :
    Takes field (fun given => (decode given).map some) (fromRecord record)
      (payloadOr parsed (some record) fromRecord) := by
  rcases field with _ | given
  · cases h
    rfl
  · obtain ⟨a, ha, rfl⟩ := Option.map_eq_some_iff.mp h
    show (decode given).map some = some (some a)
    rw [ha]
    rfl

/-- What is read of a field that may be missing. -/
theorem bind_of_orNone {α : Type} {field : Option Json} {decode : Json → Option α}
    {parsed : Option α} (h : orNone decode field = some parsed) : field.bind decode = parsed := by
  rcases field with _ | given
  · cases h
    rfl
  · obtain ⟨a, ha, rfl⟩ := Option.map_eq_some_iff.mp h
    exact ha

/-- Something is read exactly when the field is there. -/
theorem isSome_of_orNone {α : Type} {field : Option Json} {decode : Json → Option α}
    {parsed : Option α} (h : orNone decode field = some parsed) :
    parsed.isSome = true ↔ field ≠ none := by
  rcases field with _ | given
  · cases h
    simp
  · obtain ⟨a, ha, rfl⟩ := Option.map_eq_some_iff.mp h
    simp

/-- The value of a field that both have. -/
theorem payloadOr_some {α : Type} (fromPayload : Option α) (record : LaunchRecord) (a : α) :
    payloadOr fromPayload (some record) (fun _ => some a) = some (fromPayload.getD a) := by
  rcases fromPayload with _ | b
  · rfl
  · rfl

/-- An `argv` is a command. -/
theorem isSome_commandOf {commandArgv : Option (List String)} (h : commandArgv.isSome = true)
    (commandShell : Option String) : (commandOf commandArgv commandShell).isSome = true := by
  unfold commandOf
  rcases commandShell with _ | text
  · rw [Option.isSome_map]
    exact h
  · rfl

/-- The same for a field that is never in the record. -/
theorem takes_optional {α : Type} {field : Option Json} {decode : Json → Option α}
    {parsed : Option α} (h : orNone decode field = some parsed) :
    Takes field (fun given => (decode given).map some) none parsed := by
  rcases field with _ | given
  · exact (Option.some.inj h).symm
  · obtain ⟨a, ha, rfl⟩ := Option.map_eq_some_iff.mp h
    show (decode given).map some = some (some a)
    rw [ha]
    rfl

/-- What is made of a payload that names a record. -/
theorem resolve_of_namedRecord {payload : CreateSessionRequestPayload}
    {hostIdentity : Option HostIdentity} {record : LaunchRecord}
    (hnamed : namedRecord payload hostIdentity = .ok (some record)) :
    resolveCreateSessionRequest payload hostIdentity =
      .ok (applyConfiguredProviderOverride
        { provider := payload.provider.getD record.provider
          workspaceRoot := payload.workspaceRoot.getD record.workspaceRoot
          title := payload.title.getD record.title
          conversationId := payloadOr payload.conversationId (some record) (·.conversationId)
          commandArgv := payloadOr payload.commandArgv (some record) (·.commandArgv)
          commandShell := payloadOr payload.commandShell (some record) (·.commandShell)
          groupTags := payload.groupTags.getD record.groupTags
          envMode := payload.envMode
          environmentOverrides := payload.environmentOverrides
          envFilePath := payload.envFilePath } hostIdentity) := by
  unfold resolveCreateSessionRequest
  rw [hnamed]
  have hgroupTags : payloadOr payload.groupTags (some record) (some ·.groupTags) =
      some (payload.groupTags.getD record.groupTags) :=
    payloadOr_some payload.groupTags record record.groupTags
  have hprovider : payloadOr payload.provider (some record) (some ·.provider) =
      some (payload.provider.getD record.provider) :=
    payloadOr_some payload.provider record record.provider
  have hworkspaceRoot : payloadOr payload.workspaceRoot (some record) (some ·.workspaceRoot) =
      some (payload.workspaceRoot.getD record.workspaceRoot) :=
    payloadOr_some payload.workspaceRoot record record.workspaceRoot
  have htitle : payloadOr payload.title (some record) (some ·.title) =
      some (payload.title.getD record.title) :=
    payloadOr_some payload.title record record.title
  dsimp only
  rw [hprovider, hworkspaceRoot, htitle, hgroupTags]
  rfl

/-- **The group tags** are never taken from the record: a body that does not contain them is read as
if it contained none. -/
theorem takes_groupTags_iff {object : List (String × Json)}
    {payload : CreateSessionRequestPayload} (h : payload.ReadFrom object) (record : LaunchRecord) :
    Takes (ifContains object "groupTags") parseNormalizedTagsArray record.groupTags
        (payload.groupTags.getD record.groupTags) ↔
      ifContains object "groupTags" ≠ none ∨ record.groupTags = [] := by
  have hread := h.groupTags
  rcases hfield : ifContains object "groupTags" with _ | given
  · rw [hfield] at hread
    have hnone : payload.groupTags = some [] := (Option.some.inj hread).symm
    rw [hnone]
    show [] = record.groupTags ↔ _
    rw [or_iff_right (fun hne => hne rfl)]
    exact eq_comm
  · rw [hfield] at hread
    obtain ⟨tags, htags, hsome⟩ := Option.map_eq_some_iff.mp hread
    rw [← hsome]
    exact iff_of_true htags (Or.inl (Option.some_ne_none given))

/-- **The command** is that of the body, else that of the record, else that of the host, exactly
when the record has no shell command where the body contains an `argv` command. -/
theorem command_iff {object : List (String × Json)} {payload : CreateSessionRequestPayload}
    (h : payload.ReadFrom object)
    (hone : ¬(payload.commandArgv.isSome ∧ payload.commandShell.isSome)) (record : LaunchRecord)
    (configured : Option LaunchCommand) :
    (commandOf (payloadOr payload.commandArgv (some record) (·.commandArgv))
          (payloadOr payload.commandShell (some record) (·.commandShell))).or configured =
        ((givenCommand object).or (commandOf record.commandArgv record.commandShell)).or
          configured ↔
      (ifContains object "commandArgv" ≠ none ∨ ifContains object "command" ≠ none →
        record.commandShell = none) := by
  have hgiven : givenCommand object = commandOf payload.commandArgv payload.commandShell := by
    unfold givenCommand
    rw [bind_of_orNone h.command, bind_of_orNone h.commandShell]
  have hargv : payload.commandArgv.isSome = true ↔
      ifContains object "commandArgv" ≠ none ∨ ifContains object "command" ≠ none := by
    rw [isSome_of_orNone h.command, ne_eq, Option.or_eq_none_iff, not_and_or]
  have hleft := commandOf_payloadOr record hone
  rw [← hgiven, hargv] at hleft
  constructor
  · intro hsame hcontains
    -- the body has a command, so that of the host does not matter
    have hsome := hargv.mpr hcontains
    have hasked : (givenCommand object).isSome = true := by
      rw [hgiven]
      exact isSome_commandOf hsome _
    have hmerged : (payloadOr payload.commandArgv (some record) (·.commandArgv)).isSome = true :=
      (isSome_payloadOr _ _).mpr (Or.inl hsome)
    rw [Option.or_of_isSome (isSome_commandOf hmerged _), Option.or_assoc,
      Option.or_of_isSome hasked] at hsame
    refine hleft.mp ?_ hcontains
    rw [Option.or_of_isSome hasked]
    exact hsame
  · intro hshell
    rw [hleft.mpr hshell]

/-- **Each field of the resolved request is that of the body where the body contains it, else that
of the record, exactly when** the body contains the group tags or the record has none, and the
record has no shell command where the body contains an `argv` command. -/
theorem overridesRecord_iff (lib : JsonLibrary) (body : String) (object : List (String × Json))
    (payload : CreateSessionRequestPayload) (hostIdentity : Option HostIdentity)
    (record : LaunchRecord) (hobject : (lib.parse body).bind asObject = some object)
    (hparse : parseCreateSessionRequest lib body = some payload)
    (hnamed : namedRecord payload hostIdentity = .ok (some record)) :
    ∃ request, resolveCreateSessionRequest payload hostIdentity = .ok request ∧
      (OverridesRecord object record hostIdentity request ↔ Overridable object record) := by
  have hread := readFrom_of_parse hobject hparse
  have hone := (wellFormed_of_parseCreateSessionRequest hparse).oneCommand
  refine ⟨_, resolve_of_namedRecord hnamed, ?_⟩
  generalize hmerged : CreateSessionRequest.mk _ _ _ _ _ _ _ _ _ _ = merged
  have hkept := fields_applyConfiguredProviderOverride merged hostIdentity
  have hcommand := commandOf_applyConfiguredProviderOverride merged hostIdentity
  generalize applyConfiguredProviderOverride merged hostIdentity = request at hkept hcommand ⊢
  subst hmerged
  have hprovider := congrArg CreateSessionRequest.provider hkept
  dsimp only at hprovider hcommand
  have hlaw := command_iff hread hone record (configuredCommand request.provider hostIdentity)
  rw [hprovider, ← hcommand] at hlaw
  constructor
  · intro hoverrides
    refine ⟨(takes_groupTags_iff hread record).mp ?_, hlaw.mp ?_⟩
    · have htags := hoverrides.groupTags
      rwa [congrArg CreateSessionRequest.groupTags hkept] at htags
    · rw [← hprovider]
      exact hoverrides.command
  · intro h
    refine
      { provider := ?_
        workspaceRoot := ?_
        title := ?_
        conversationId := ?_
        groupTags := ?_
        command := ?_
        envMode := ?_
        environmentOverrides := ?_
        envFilePath := ?_ }
    · rw [hprovider]
      exact takes_of_orNone hread.provider record.provider
    · rw [congrArg CreateSessionRequest.workspaceRoot hkept]
      exact takes_of_orNone hread.workspaceRoot record.workspaceRoot
    · rw [congrArg CreateSessionRequest.title hkept]
      exact takes_of_orNone hread.title record.title
    · rw [congrArg CreateSessionRequest.conversationId hkept]
      exact takes_payloadOr hread.conversationId record (·.conversationId)
    · rw [congrArg CreateSessionRequest.groupTags hkept]
      exact (takes_groupTags_iff hread record).mpr h.groupTags
    · rw [hprovider]
      exact hlaw.mpr h.command
    · rw [congrArg CreateSessionRequest.envMode hkept]
      exact takes_optional hread.envMode
    · rw [congrArg CreateSessionRequest.environmentOverrides hkept]
      exact takes_of_orDefault hread.environmentOverrides
    · rw [congrArg CreateSessionRequest.envFilePath hkept]
      exact takes_of_orDefault hread.envFilePath

/-- The record that is launched again is named, and its tags and its command are those of the
request. -/
theorem overridesRecord_tagged :
    let body := JsonText.compactJson.serialize
      (.object [("recordId", .string "rec_1"), ("groupTags", .array [.string "ci"])])
    let payload : CreateSessionRequestPayload :=
      { recordId := some "rec_1", groupTags := some ["ci"] }
    let record : LaunchRecord :=
      { recordId := "rec_1", workspaceRoot := "/work", title := "build"
        commandShell := some "make" }
    (JsonText.compactJson.parse body).bind asObject =
        some [("recordId", .string "rec_1"), ("groupTags", .array [.string "ci"])] ∧
      parseCreateSessionRequest JsonText.compactJson body = some payload ∧
      namedRecord payload (some shellLaunched) = .ok (some record) ∧
      ∃ request, resolveCreateSessionRequest payload (some shellLaunched) = .ok request ∧
        OverridesRecord
          [("recordId", .string "rec_1"), ("groupTags", .array [.string "ci"])] record
          (some shellLaunched) request := by
  intro body payload record
  have hobject : (JsonText.compactJson.parse body).bind asObject =
      some [("recordId", .string "rec_1"), ("groupTags", .array [.string "ci"])] := by
    rw [JsonText.compactJson.parse_serialize]
    rfl
  have hparse : parseCreateSessionRequest JsonText.compactJson body = some payload := by
    unfold parseCreateSessionRequest
    rw [JsonText.compactJson.parse_serialize]
    decide
  have hnamed : namedRecord payload (some shellLaunched) = .ok (some record) := by decide
  obtain ⟨request, hresolved, hlaw⟩ := overridesRecord_iff JsonText.compactJson body _ payload
    (some shellLaunched) record hobject hparse hnamed
  refine ⟨hobject, hparse, hnamed, request, hresolved, hlaw.mpr ⟨?_, ?_⟩⟩
  · exact Or.inl (Option.some_ne_none _)
  · rintro (hargv | hcommand)
    · exact absurd rfl hargv
    · exact absurd rfl hcommand

/-- The record of a shell command is launched again with a command of its own, and it is the shell
command that is run. -/
theorem record_not_overridden :
    ¬∀ (lib : JsonLibrary) (body : String) (object : List (String × Json))
        (payload : CreateSessionRequestPayload) (hostIdentity : Option HostIdentity)
        (record : LaunchRecord), (lib.parse body).bind asObject = some object →
        parseCreateSessionRequest lib body = some payload →
        namedRecord payload hostIdentity = .ok (some record) →
        ∃ request, resolveCreateSessionRequest payload hostIdentity = .ok request ∧
          OverridesRecord object record hostIdentity request := by
  intro h
  have hparse : parseCreateSessionRequest JsonText.compactJson
      (JsonText.compactJson.serialize relaunchBody) =
        some { recordId := some "rec_1", commandArgv := some ["top"], groupTags := some [] } := by
    unfold parseCreateSessionRequest
    rw [JsonText.compactJson.parse_serialize]
    decide
  obtain ⟨request, hresolved, hlaw⟩ := h JsonText.compactJson
    (JsonText.compactJson.serialize relaunchBody)
    [("recordId", .string "rec_1"), ("commandArgv", .array [.string "top"])] _
    (some shellLaunched)
    { recordId := "rec_1", workspaceRoot := "/work", title := "build"
      commandShell := some "make" }
    (by rw [JsonText.compactJson.parse_serialize]; rfl) hparse (by decide)
  have hrequest : resolveCreateSessionRequest
      { recordId := some "rec_1", commandArgv := some ["top"], groupTags := some [] }
      (some shellLaunched) = .ok
        { workspaceRoot := "/work", title := "build", commandArgv := some ["top"]
          commandShell := some "make" } := by
    rfl
  rw [hrequest] at hresolved
  cases hresolved
  exact absurd hlaw.command (by decide)

end Sentrits.Net
