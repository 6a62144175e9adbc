import Sentrits.Service.LaunchCommand
import Sentrits.Store.HostIdentity

/-!
# Request bodies

What the handlers read out of the bodies of a create request and of a host configuration request,
and what they have checked by then.

* `CreateSessionRequestPayload.WellFormed`, `wellFormed_of_parseCreateSessionRequest`.
* `HostConfigPayload.WellFormed`, `wellFormed_of_parseHostConfigRequest`.

Source: `src/net/request_parsing.cpp`.
-/

namespace Sentrits.Net

open Found Found.Json Session Store

/-- Source: `request_parsing.h` `CreateSessionRequestPayload`. -/
structure CreateSessionRequestPayload where
  provider : Option ProviderType := none
  workspaceRoot : Option String := none
  title : Option String := none
  conversationId : Option String := none
  commandArgv : Option (List String) := none
  commandShell : Option String := none
  groupTags : Option (List String) := none
  recordId : Option String := none
  envMode : Option EnvMode := none
  environmentOverrides : List (String × String) := []
  envFilePath : Option String := none
  deriving DecidableEq

/-- Source: `request_parsing.h` `HostConfigPayload`. -/
structure HostConfigPayload where
  displayName : String
  adminHost : String
  adminPort : UInt16
  remoteHost : String
  remotePort : UInt16
  codexCommand : Option (List String) := none
  claudeCommand : Option (List String) := none
  deriving DecidableEq

/-! ### Fields -/

/-- Source: `env_config.cpp` `ParseEnvMode`. -/
def parseEnvMode (s : String) : Option EnvMode :=
  if s = "clean" then some .clean
  else if s = "shell" ∨ s = "login_shell" ∨ s = "login-shell" then some .shell
  else if s = "bootstrap_from_shell" ∨ s = "bootstrap" ∨ s = "bootstrap-from-shell" then
    some .bootstrapFromShell
  else none

/-- A tag that is not empty once it is normalized. -/
def asGroupTag (value : Json) : Option String := do
  let tag ← value.asString
  let normalized := normalizeGroupTag tag
  if normalized = "" then none else some normalized

/-- Source: `request_parsing.cpp` `ParseNormalizedTagsArray`. -/
def parseNormalizedTagsArray (value : Json) : Option (List String) := do
  let tags ← (← value.asArray).mapM asGroupTag
  some (normalizeGroupTags tags)

/-- Source: `request_parsing.cpp` `ParseProviderValue`. -/
def parseProviderValue (value : Json) : Option ProviderType := value.asString.bind parseProviderType

/-- Tokens of which there is at least one and none is empty.
Source: `request_parsing.cpp` `ParseCommandArgvValue` and the lambda `parse_command`. -/
def parseCommandArgvValue (value : Json) : Option (List String) := do
  let tokens ← (← value.asArray).mapM asNonEmptyString
  if tokens = [] then none else some tokens

/-- The variables of an object whose values are all strings. -/
def parseOverrides (value : Json) : Option (List (String × String)) := do
  (← value.asObject).mapM fun field => field.2.asString.map fun text => (field.1, text)

/-! ### Bodies -/

/-- Source: `request_parsing.cpp` `ParseCreateSessionRequest`. -/
def parseCreateSessionRequest (lib : JsonLibrary) (body : String) :
    Option CreateSessionRequestPayload := do
  let object ← (← lib.parse body).asObject
  let provider ← orNone parseProviderValue (ifContains object "provider")
  let workspaceRoot ← orNone asNonEmptyString (ifContains object "workspaceRoot")
  let title ← orNone asNonEmptyString (ifContains object "title")
  let conversationId ← orNone asNonEmptyString (ifContains object "conversationId")
  let recordId ← orNone asNonEmptyString (ifContains object "recordId")
  let command ← orNone parseCommandArgvValue (ifContains object "command")
  let commandArgv ← orNone parseCommandArgvValue (ifContains object "commandArgv")
  let commandShell ← orNone asNonEmptyString (ifContains object "commandShell")
  if command.isSome ∧ commandArgv.isSome then none
  else if (command.isSome ∨ commandArgv.isSome) ∧ commandShell.isSome then none
  else
    let groupTags ← orDefault [] parseNormalizedTagsArray (ifContains object "groupTags")
    let envMode ← orNone (fun mode => mode.asString.bind parseEnvMode) (ifContains object "envMode")
    let environmentOverrides ← orDefault [] parseOverrides (ifContains object "environmentOverrides")
    let envFilePath ← orDefault none asPossiblyEmptyString (ifContains object "envFilePath")
    some
      { provider, workspaceRoot, title, conversationId
        commandArgv := if commandArgv.isSome then commandArgv else command
        commandShell
        groupTags := some groupTags
        recordId, envMode, environmentOverrides, envFilePath }

/-- Source: `request_parsing.cpp` `ParseHostConfigRequest`. -/
def parseHostConfigRequest (lib : JsonLibrary) (body : String) : Option HostConfigPayload := do
  let object ← (← lib.parse body).asObject
  let displayName ← required asString (ifContains object "displayName")
  let adminHost ← required asNonEmptyString (ifContains object "adminHost")
  let adminPort ← required asPort (ifContains object "adminPort")
  let remoteHost ← required asNonEmptyString (ifContains object "remoteHost")
  let remotePort ← required asPort (ifContains object "remotePort")
  let commands ← orDefault [] asObject (ifContains object "providerCommands")
  let codexCommand ← orNone parseCommandArgvValue (ifContains commands "codex")
  let claudeCommand ← orNone parseCommandArgvValue (ifContains commands "claude")
  some { displayName, adminHost, adminPort, remoteHost, remotePort, codexCommand, claudeCommand }

/-! ### What has been checked -/

/-- Tokens of a command: there are some, and none is empty. -/
def CommandTokens (tokens : List String) : Prop := tokens ≠ [] ∧ "" ∉ tokens

/-- What a parsed create request is known to be. -/
structure CreateSessionRequestPayload.WellFormed (payload : CreateSessionRequestPayload) :
    Prop where
  workspaceRoot : payload.workspaceRoot ≠ some ""
  title : payload.title ≠ some ""
  commandArgv : ∀ tokens ∈ payload.commandArgv, CommandTokens tokens
  commandShell : payload.commandShell ≠ some ""
  oneCommand : ¬ (payload.commandArgv.isSome ∧ payload.commandShell.isSome)
  groupTags : ∃ tags, payload.groupTags = some (normalizeGroupTags tags)

/-- What a parsed host configuration request is known to be. -/
structure HostConfigPayload.WellFormed (payload : HostConfigPayload) : Prop where
  adminHost : payload.adminHost ≠ ""
  adminPort : payload.adminPort ≠ 0
  remoteHost : payload.remoteHost ≠ ""
  remotePort : payload.remotePort ≠ 0
  codexCommand : ∀ tokens ∈ payload.codexCommand, CommandTokens tokens
  claudeCommand : ∀ tokens ∈ payload.claudeCommand, CommandTokens tokens

/-- A command that is read has tokens. -/
theorem commandTokens_of_parse {value : Json} {tokens : List String}
    (h : parseCommandArgvValue value = some tokens) : CommandTokens tokens := by
  unfold parseCommandArgvValue at h
  obtain ⟨items, -, h⟩ := exists_of_bind h
  obtain ⟨parsed, hparsed, h⟩ := exists_of_bind h
  split_ifs at h with hnil
  cases h
  refine ⟨hnil, fun hempty => ?_⟩
  rcases exists_of_mem_mapM hparsed hempty with ⟨item, -, hitem⟩
  exact (asNonEmptyString_eq_some.mp hitem).2 rfl

/-- No empty text is read. -/
theorem ne_empty_of_orNone {field : Option Json} {text : Option String}
    (h : orNone asNonEmptyString field = some text) : text ≠ some "" := by
  rintro rfl
  rcases exists_of_orNone h with ⟨value, hvalue⟩
  exact (asNonEmptyString_eq_some.mp hvalue).2 rfl

/-- A command has tokens if it is there. -/
theorem commandTokens_of_orNone {field : Option Json} {tokens : Option (List String)}
    (h : orNone parseCommandArgvValue field = some tokens) :
    ∀ parsed ∈ tokens, CommandTokens parsed := by
  rintro parsed rfl
  rcases exists_of_orNone h with ⟨value, hvalue⟩
  exact commandTokens_of_parse hvalue

/-- **What is read of a create request is well formed.** -/
theorem wellFormed_of_parseCreateSessionRequest {lib : JsonLibrary} {body : String}
    {payload : CreateSessionRequestPayload}
    (h : parseCreateSessionRequest lib body = some payload) : payload.WellFormed := by
  unfold parseCreateSessionRequest at h
  obtain ⟨value, -, h⟩ := exists_of_bind h
  obtain ⟨object, -, h⟩ := exists_of_bind h
  obtain ⟨provider, -, h⟩ := exists_of_bind h
  obtain ⟨workspaceRoot, hworkspaceRoot, h⟩ := exists_of_bind h
  obtain ⟨title, htitle, h⟩ := exists_of_bind h
  obtain ⟨conversationId, -, h⟩ := exists_of_bind h
  obtain ⟨recordId, -, h⟩ := exists_of_bind h
  obtain ⟨command, hcommand, h⟩ := exists_of_bind h
  obtain ⟨commandArgv, hcommandArgv, h⟩ := exists_of_bind h
  obtain ⟨commandShell, hcommandShell, h⟩ := exists_of_bind h
  by_cases hboth : command.isSome ∧ commandArgv.isSome
  · rw [if_pos hboth] at h
    cases h
  by_cases hmixed : (command.isSome ∨ commandArgv.isSome) ∧ commandShell.isSome
  · rw [if_neg hboth, if_pos hmixed] at h
    cases h
  rw [if_neg hboth, if_neg hmixed] at h
  obtain ⟨groupTags, hgroupTags, h⟩ := exists_of_bind h
  obtain ⟨envMode, -, h⟩ := exists_of_bind h
  obtain ⟨environmentOverrides, -, h⟩ := exists_of_bind h
  obtain ⟨envFilePath, -, h⟩ := exists_of_bind h
  cases h
  refine ⟨ne_empty_of_orNone hworkspaceRoot, ne_empty_of_orNone htitle, ?_,
    ne_empty_of_orNone hcommandShell, ?_, ?_⟩
  · dsimp only
    split_ifs
    · exact commandTokens_of_orNone hcommandArgv
    · exact commandTokens_of_orNone hcommand
  · rintro ⟨hargv, hshell⟩
    refine hmixed ⟨?_, hshell⟩
    dsimp only at hargv
    split_ifs at hargv with hsome
    · exact Or.inr hsome
    · exact Or.inl hargv
  · rcases hfield : ifContains object "groupTags" with _ | tags
    · rw [hfield] at hgroupTags
      cases hgroupTags
      exact ⟨[], rfl⟩
    · rw [hfield] at hgroupTags
      unfold orDefault parseNormalizedTagsArray at hgroupTags
      obtain ⟨items, -, hgroupTags⟩ := exists_of_bind hgroupTags
      obtain ⟨parsed, -, heq⟩ := exists_of_bind hgroupTags
      cases heq
      exact ⟨parsed, rfl⟩

/-- **What is read of new settings is well formed.** -/
theorem wellFormed_of_parseHostConfigRequest {lib : JsonLibrary} {body : String}
    {payload : HostConfigPayload} (h : parseHostConfigRequest lib body = some payload) :
    payload.WellFormed := by
  unfold parseHostConfigRequest at h
  obtain ⟨value, -, h⟩ := exists_of_bind h
  obtain ⟨object, -, h⟩ := exists_of_bind h
  obtain ⟨displayName, -, h⟩ := exists_of_bind h
  obtain ⟨adminHost, hadminHost, h⟩ := exists_of_bind h
  obtain ⟨adminPort, hadminPort, h⟩ := exists_of_bind h
  obtain ⟨remoteHost, hremoteHost, h⟩ := exists_of_bind h
  obtain ⟨remotePort, hremotePort, h⟩ := exists_of_bind h
  obtain ⟨commands, -, h⟩ := exists_of_bind h
  obtain ⟨codexCommand, hcodexCommand, h⟩ := exists_of_bind h
  obtain ⟨claudeCommand, hclaudeCommand, h⟩ := exists_of_bind h
  cases h
  have hname : ∀ {field : Option Json} {text : String},
      required asNonEmptyString field = some text → text ≠ "" := by
    intro field text hread
    rcases Option.bind_eq_some_iff.mp hread with ⟨value, -, hvalue⟩
    exact (asNonEmptyString_eq_some.mp hvalue).2
  have hport : ∀ {field : Option Json} {port : UInt16},
      required asPort field = some port → port ≠ 0 := by
    intro field port hread
    rcases Option.bind_eq_some_iff.mp hread with ⟨value, -, hvalue⟩
    exact asPort_ne_zero hvalue
  exact ⟨hname hadminHost, hport hadminPort, hname hremoteHost, hport hremotePort,
    commandTokens_of_orNone hcodexCommand, commandTokens_of_orNone hclaudeCommand⟩

end Sentrits.Net
