import Sentrits.Found.Json
import Sentrits.Session.Types

/-!
# The stored host identity

What the daemon keeps of itself in `host_identity.json`: its name and addresses, the provider
commands, and the recent launches. The file is read as a whole, so one launch record that cannot be
read back takes everything else with it.

* `LaunchRecord.Storable`, `HostIdentity.Storable`: what the decoder asks for.
* `parseLaunchRecord_toJsonValue`, `hostIdentityFromJson_of_storable`: what is storable is read back;
  `loadHostIdentity_identityText`: **an identity is read back exactly when** it is storable.
* `storable_of_hostIdentityFromJson`: whatever the decoder reads is storable.

Sources: `include/vibe/store/host_config_store.h`, `src/store/file_stores.cpp`.
-/

namespace Sentrits.Store

open Found Found.Json Session

/-- Source: `host_config_store.h` `ProviderCommandOverride`. -/
structure ProviderCommandOverride where
  executable : String := ""
  args : List String := []
  deriving DecidableEq

/-- Source: `host_config_store.h` `LaunchRecord`. -/
structure LaunchRecord where
  recordId : String
  provider : ProviderType := .codex
  workspaceRoot : String
  title : String
  launchedAtUnixMs : Int64 := 0
  conversationId : Option String := none
  groupTags : List String := []
  commandArgv : Option (List String) := none
  commandShell : Option String := none
  deriving DecidableEq

/-- The defaults are those of `MakeDefaultHostIdentity`.
Source: `host_config_store.h` `HostIdentity`. -/
structure HostIdentity where
  hostId : String := ""
  displayName : String := "Sentrits Host"
  certificatePemPath : String := ""
  privateKeyPemPath : String := ""
  adminHost : String := "127.0.0.1"
  adminPort : UInt16 := 18085
  remoteHost : String := "0.0.0.0"
  remotePort : UInt16 := 18086
  codexCommand : ProviderCommandOverride := {}
  claudeCommand : ProviderCommandOverride := {}
  launchRecords : List LaunchRecord := []
  maxLaunchRecords : ℕ := 50
  bootstrapShellPath : Option String := none
  importServiceManagerEnvironment : Bool := false
  serviceManagerEnvironmentAllowlist : List String := []
  hubUrl : Option String := none
  hubToken : Option String := none
  deriving DecidableEq

/-- Source: `host_config_store.h` `MakeDefaultHostIdentity`. -/
def makeDefaultHostIdentity : HostIdentity := {}

/-! ### Reading -/

/-- Source: `file_stores.cpp` `ParseProviderType`. -/
def parseProviderType (value : String) : Option ProviderType :=
  if value = "codex" then some .codex
  else if value = "claude" then some .claude
  else none

/-- A string; the empty one counts as none. -/
def asPossiblyEmptyString (value : Json) : Option (Option String) := do
  let text ← value.asString
  some (if text = "" then none else some text)

/-- Source: `file_stores.cpp` `ParseProviderCommandOverride`. -/
def parseProviderCommandOverride (value : Json) : Option ProviderCommandOverride := do
  match ← value.asArray with
  | [] => some {}
  | first :: rest =>
      let executable ← asNonEmptyString first
      let args ← asStrings rest
      some { executable, args }

/-- The tokens of a command; none when there is no executable. -/
def ProviderCommandOverride.tokens? (command : ProviderCommandOverride) : Option (List String) :=
  if command.executable = "" then none else some (command.executable :: command.args)

/-- Source: `file_stores.cpp` `ParseLaunchRecord`. -/
def parseLaunchRecord (value : Json) : Option LaunchRecord := do
  let object ← value.asObject
  let recordId ← required asString (ifContains object "recordId")
  let providerName ← required asString (ifContains object "provider")
  let workspaceRoot ← required asString (ifContains object "workspaceRoot")
  let title ← required asString (ifContains object "title")
  let conversationId ← orNone asString (ifContains object "conversationId")
  let provider ← parseProviderType providerName
  let launchedAtUnixMs ← orDefault 0 asInt64 (ifContains object "launchedAtUnixMs")
  if recordId = "" ∨ workspaceRoot = "" ∨ title = "" then none
  else
    let groupTags ← orDefault [] (fun tags => tags.asArray.bind asStrings)
      (ifContains object "groupTags")
    let command ← orDefault {} parseProviderCommandOverride (ifContains object "commandArgv")
    let commandShell ← orNone asNonEmptyString (ifContains object "commandShell")
    if command.tokens?.isSome ∧ commandShell.isSome then none
    else
      some
        { recordId, provider, workspaceRoot, title, launchedAtUnixMs, conversationId
          groupTags := normalizeGroupTags groupTags
          commandArgv := command.tokens?
          commandShell }

/-- A port that is not zero. -/
def asPort (value : Json) : Option UInt16 := do
  let port ← value.asInt64
  if port ≤ 0 ∨ 65535 < port then none else some (UInt16.ofNat port.toNatClampNeg)

/-- A limit of at least one. -/
def asLimit (value : Json) : Option ℕ := do
  let limit ← value.asInt64
  if limit < 1 then none else some limit.toNatClampNeg

/-- Source: `file_stores.cpp` `HostIdentityFromJson`, `HostIdentityFromJsonWithDefaults`. -/
def hostIdentityFromJson (value : Json) : Option HostIdentity := do
  let object ← value.asObject
  let hostId ← required asString (ifContains object "hostId")
  let displayName ← required asString (ifContains object "displayName")
  let certificatePemPath ← required asString (ifContains object "certificatePemPath")
  let privateKeyPemPath ← required asString (ifContains object "privateKeyPemPath")
  let defaults := makeDefaultHostIdentity
  let adminHost ← orDefault defaults.adminHost asNonEmptyString (ifContains object "adminHost")
  let adminPort ← orDefault defaults.adminPort asPort (ifContains object "adminPort")
  let remoteHost ← orDefault defaults.remoteHost asNonEmptyString (ifContains object "remoteHost")
  let remotePort ← orDefault defaults.remotePort asPort (ifContains object "remotePort")
  let commands ← orDefault [] asObject (ifContains object "providerCommands")
  let codexCommand ← orDefault {} parseProviderCommandOverride (ifContains commands "codex")
  let claudeCommand ← orDefault {} parseProviderCommandOverride (ifContains commands "claude")
  let launchRecords ← orDefault [] (fun records => records.asArray.bind (·.mapM parseLaunchRecord))
    (ifContains object "launchRecords")
  let maxLaunchRecords ← orDefault defaults.maxLaunchRecords asLimit
    (ifContains object "maxLaunchRecords")
  let bootstrapShellPath ← orDefault none asPossiblyEmptyString
    (ifContains object "bootstrapShellPath")
  let importServiceManagerEnvironment ← orDefault false asBool
    (ifContains object "importServiceManagerEnvironment")
  let allowlist ← orDefault [] (fun keys => keys.asArray.bind asStrings)
    (ifContains object "serviceManagerEnvironmentAllowlist")
  let hubUrl ← orDefault none asPossiblyEmptyString (ifContains object "hubUrl")
  let hubToken ← orDefault none asPossiblyEmptyString (ifContains object "hubToken")
  some
    { hostId, displayName, certificatePemPath, privateKeyPemPath, adminHost, adminPort, remoteHost
      remotePort, codexCommand, claudeCommand, launchRecords, maxLaunchRecords, bootstrapShellPath
      importServiceManagerEnvironment
      serviceManagerEnvironmentAllowlist := allowlist.filter (· ≠ "")
      hubUrl, hubToken }

/-! ### Writing -/

/-- The fields of a launch record.
Source: `file_stores.cpp` `ToJsonValue(LaunchRecord)`. -/
def LaunchRecord.fields (record : LaunchRecord) : List (String × Option Json) :=
  [("recordId", some (.string record.recordId)),
    ("provider", some (.string record.provider.toString)),
    ("workspaceRoot", some (.string record.workspaceRoot)),
    ("title", some (.string record.title)),
    ("launchedAtUnixMs", some (.int64 record.launchedAtUnixMs)),
    ("conversationId", record.conversationId.map .string),
    ("groupTags", some (.array (record.groupTags.map .string))),
    ("commandArgv", record.commandArgv.map fun argv => .array (argv.map .string)),
    ("commandShell", record.commandShell.map .string)]

/-- Source: `file_stores.cpp` `ToJsonValue(LaunchRecord)`. -/
def LaunchRecord.toJsonValue (record : LaunchRecord) : Json := .object (ofFields record.fields)

/-- The lambda of `ToJsonValue(HostIdentity)`. -/
def ProviderCommandOverride.toJsonValue (command : ProviderCommandOverride) : Json :=
  .array (if command.executable = "" then [] else (command.executable :: command.args).map .string)

/-- The fields of an identity. A port is an unsigned number where it is written and a signed one
where it is read; the text is the same.
Source: `file_stores.cpp` `ToJsonValue(HostIdentity)`. -/
def HostIdentity.fields (identity : HostIdentity) : List (String × Option Json) :=
  [("hostId", some (.string identity.hostId)),
    ("displayName", some (.string identity.displayName)),
    ("certificatePemPath", some (.string identity.certificatePemPath)),
    ("privateKeyPemPath", some (.string identity.privateKeyPemPath)),
    ("adminHost", some (.string identity.adminHost)),
    ("adminPort", some (.int64 (Int64.ofNat identity.adminPort.toNat))),
    ("remoteHost", some (.string identity.remoteHost)),
    ("remotePort", some (.int64 (Int64.ofNat identity.remotePort.toNat))),
    ("providerCommands", some (.object [("codex", identity.codexCommand.toJsonValue),
      ("claude", identity.claudeCommand.toJsonValue)])),
    ("launchRecords", some (.array (identity.launchRecords.map (·.toJsonValue)))),
    ("maxLaunchRecords", some (.int64 (Int64.ofNat identity.maxLaunchRecords))),
    ("bootstrapShellPath", identity.bootstrapShellPath.map .string),
    ("importServiceManagerEnvironment", some (.bool identity.importServiceManagerEnvironment)),
    ("serviceManagerEnvironmentAllowlist",
      some (.array (identity.serviceManagerEnvironmentAllowlist.map .string))),
    ("hubUrl", identity.hubUrl.map .string),
    ("hubToken", identity.hubToken.map .string)]

/-- Source: `file_stores.cpp` `ToJsonValue(HostIdentity)`. -/
def HostIdentity.toJsonValue (identity : HostIdentity) : Json := .object (ofFields identity.fields)

/-! ### The file -/

/-- Source: `file_stores.cpp` `LoadHostIdentity`, `LoadOptionalFromJsonFile`. -/
def loadHostIdentity (lib : JsonLibrary) (file : Option String) : Option HostIdentity := do
  let value ← lib.parse (← file)
  hostIdentityFromJson value

/-- The text `SaveHostIdentity` writes.
Source: `file_stores.cpp` `FileHostConfigStore::SaveHostIdentity`. -/
def identityText (lib : JsonLibrary) (identity : HostIdentity) : String :=
  lib.serialize identity.toJsonValue

/-! ### What can be stored -/

/-- What the decoder asks of a launch record. -/
structure LaunchRecord.Storable (record : LaunchRecord) : Prop where
  recordId : record.recordId ≠ ""
  workspaceRoot : record.workspaceRoot ≠ ""
  title : record.title ≠ ""
  groupTags : normalizeGroupTags record.groupTags = record.groupTags
  commandArgv : ∀ argv ∈ record.commandArgv, ∃ executable args,
    executable ≠ "" ∧ argv = executable :: args
  commandShell : record.commandShell ≠ some ""
  oneCommand : ¬ (record.commandArgv.isSome ∧ record.commandShell.isSome)

/-- What the decoder asks of an identity. -/
structure HostIdentity.Storable (identity : HostIdentity) : Prop where
  adminHost : identity.adminHost ≠ ""
  adminPort : identity.adminPort ≠ 0
  remoteHost : identity.remoteHost ≠ ""
  remotePort : identity.remotePort ≠ 0
  codexCommand : identity.codexCommand.executable = "" → identity.codexCommand.args = []
  claudeCommand : identity.claudeCommand.executable = "" → identity.claudeCommand.args = []
  launchRecords : ∀ record ∈ identity.launchRecords, record.Storable
  maxLaunchRecords : 1 ≤ identity.maxLaunchRecords ∧ identity.maxLaunchRecords < 2 ^ 63
  bootstrapShellPath : identity.bootstrapShellPath ≠ some ""
  allowlist : "" ∉ identity.serviceManagerEnvironmentAllowlist
  hubUrl : identity.hubUrl ≠ some ""
  hubToken : identity.hubToken ≠ some ""

/-! ### Reading back the parts -/

/-- A provider is read back. -/
@[simp]
theorem parseProviderType_toString (provider : ProviderType) :
    parseProviderType provider.toString = some provider := by
  cases provider <;> decide

/-- No empty text is read. -/
theorem asPossiblyEmptyString_ne {value : Json} {text : Option String}
    (h : asPossiblyEmptyString value = some text) : text ≠ some "" := by
  unfold asPossiblyEmptyString at h
  rw [Option.bind_eq_bind, Option.bind_eq_some_iff] at h
  rcases h with ⟨other, -, h⟩
  cases h
  split_ifs with hempty
  · exact fun heq => by cases heq
  · exact fun heq => hempty (Option.some.inj heq)

/-- A text that is not empty is read back, or none. -/
theorem orDefault_asPossiblyEmptyString {text : Option String} (h : text ≠ some "") :
    orDefault none asPossiblyEmptyString (text.map .string) = some text := by
  rcases text with _ | text
  · rfl
  · have hne : text ≠ "" := fun heq => h (congrArg some heq)
    show some (if text = "" then none else some text) = some (some text)
    rw [if_neg hne]

/-- What a provider command is read as has no arguments without an executable. -/
theorem parseProviderCommandOverride_args {value : Json} {command : ProviderCommandOverride}
    (h : parseProviderCommandOverride value = some command) :
    command.executable = "" → command.args = [] := by
  unfold parseProviderCommandOverride at h
  simp only [Option.bind_eq_bind] at h
  rw [Option.bind_eq_some_iff] at h
  rcases h with ⟨_ | ⟨first, rest⟩, -, h⟩
  · cases h
    exact fun _ => rfl
  · simp only [Option.bind_eq_some_iff] at h
    rcases h with ⟨executable, hexecutable, args, -, hcommand⟩
    cases hcommand
    exact fun hempty => absurd hempty (asNonEmptyString_eq_some.mp hexecutable).2

/-- A command with an executable is read back. -/
theorem parseProviderCommandOverride_cons {executable : String} (h : executable ≠ "")
    (args : List String) :
    parseProviderCommandOverride (.array ((executable :: args).map .string)) =
      some { executable, args } := by
  unfold parseProviderCommandOverride
  rw [List.map_cons, asArray_array]
  simp only [Option.bind_eq_bind, Option.bind_some, asNonEmptyString_string h,
    asStrings_map_string]

/-- A provider command is read back when it has no arguments without an executable. -/
theorem parseProviderCommandOverride_toJsonValue {command : ProviderCommandOverride}
    (h : command.executable = "" → command.args = []) :
    parseProviderCommandOverride command.toJsonValue = some command := by
  rcases command with ⟨executable, args⟩
  unfold ProviderCommandOverride.toJsonValue
  by_cases hempty : executable = ""
  · rw [if_pos hempty]
    have hargs : args = [] := h hempty
    rw [hempty, hargs]
    rfl
  · rw [if_neg hempty]
    exact parseProviderCommandOverride_cons hempty args

/-- No port is zero. -/
theorem asPort_ne_zero {value : Json} {port : UInt16} (h : asPort value = some port) :
    port ≠ 0 := by
  unfold asPort at h
  rw [Option.bind_eq_bind, Option.bind_eq_some_iff] at h
  rcases h with ⟨n, -, h⟩
  split_ifs at h with hrange
  cases h
  have hzero : (0 : Int64).toInt = 0 := rfl
  have hmax : (65535 : Int64).toInt = 65535 := rfl
  rw [not_or, Int64.not_le, Int64.not_lt, Int64.lt_iff_toInt_lt, Int64.le_iff_toInt_le, hzero,
    hmax] at hrange
  have hvalue : n.toNatClampNeg = n.toInt.toNat := (Int64.toNat_toInt n).symm
  have hsize : n.toNatClampNeg < UInt16.size := by
    have : UInt16.size = 65536 := rfl
    omega
  intro hnone
  have hnat : (UInt16.ofNat n.toNatClampNeg).toNat = 0 := congrArg UInt16.toNat hnone
  rw [UInt16.toNat_ofNat_of_lt' hsize] at hnat
  omega

/-- Any other port is read back. -/
theorem asPort_toNat {port : UInt16} (h : port ≠ 0) :
    asPort (.int64 (Int64.ofNat port.toNat)) = some port := by
  have hlt := port.toNat_lt
  have hpos : 0 < port.toNat := by
    rcases Nat.eq_zero_or_pos port.toNat with hzero | hpos
    · exact absurd (UInt16.toNat_inj.mp hzero) h
    · exact hpos
  have hvalue : (Int64.ofNat port.toNat).toInt = port.toNat := Int64.toInt_ofNat_of_lt (by omega)
  have hzero : (0 : Int64).toInt = 0 := rfl
  have hmax : (65535 : Int64).toInt = 65535 := rfl
  have hrange : ¬ (Int64.ofNat port.toNat ≤ 0 ∨ 65535 < Int64.ofNat port.toNat) := by
    rw [Int64.le_iff_toInt_le, Int64.lt_iff_toInt_lt, hvalue, hzero, hmax]
    omega
  unfold asPort
  rw [asInt64_int64, Option.bind_eq_bind, Option.bind_some, if_neg hrange,
    Int64.toNatClampNeg_ofNat_of_lt (by omega), UInt16.ofNat_toNat]

/-- A limit is at least one, and fits. -/
theorem asLimit_range {value : Json} {limit : ℕ} (h : asLimit value = some limit) :
    1 ≤ limit ∧ limit < 2 ^ 63 := by
  unfold asLimit at h
  rw [Option.bind_eq_bind, Option.bind_eq_some_iff] at h
  rcases h with ⟨n, -, h⟩
  split_ifs at h with hrange
  cases h
  have hone : (1 : Int64).toInt = 1 := rfl
  rw [Int64.not_lt, Int64.le_iff_toInt_le, hone] at hrange
  have hvalue : n.toNatClampNeg = n.toInt.toNat := (Int64.toNat_toInt n).symm
  exact ⟨by omega, n.toNatClampNeg_lt⟩

/-- Such a limit is read back. -/
theorem asLimit_ofNat {limit : ℕ} (h : 1 ≤ limit ∧ limit < 2 ^ 63) :
    asLimit (.int64 (Int64.ofNat limit)) = some limit := by
  have hvalue := Int64.toInt_ofNat_of_lt h.2
  have hone : (1 : Int64).toInt = 1 := rfl
  have hrange : ¬ Int64.ofNat limit < 1 := by
    rw [Int64.lt_iff_toInt_lt, hvalue, hone]
    omega
  unfold asLimit
  rw [asInt64_int64, Option.bind_eq_bind, Option.bind_some, if_neg hrange,
    Int64.toNatClampNeg_ofNat_of_lt h.2]

/-! ### Launch records are read back -/

namespace LaunchRecord

/-- A field of a record is found under its name. -/
theorem ifContains_fields (record : LaunchRecord) (key : String) {value : Option Json}
    (h : record.fields.lookup key = some value) :
    ifContains (ofFields record.fields) key = value := by
  refine ifContains_of_lookup ?_ h
  show ["recordId", "provider", "workspaceRoot", "title", "launchedAtUnixMs", "conversationId",
    "groupTags", "commandArgv", "commandShell"].Nodup
  decide

end LaunchRecord

/-- A command that has an executable is read back, or none. -/
theorem parse_argv {argv : Option (List String)}
    (h : ∀ tokens ∈ argv, ∃ executable args, executable ≠ "" ∧ tokens = executable :: args) :
    ∃ command, orDefault {} parseProviderCommandOverride
        (argv.map fun tokens => .array (tokens.map .string)) = some command ∧
      command.tokens? = argv := by
  rcases argv with _ | tokens
  · exact ⟨{}, rfl, rfl⟩
  · rcases h tokens rfl with ⟨executable, args, hne, rfl⟩
    exact ⟨{ executable, args }, parseProviderCommandOverride_cons hne args, if_neg hne⟩

/-- **A launch record is read back** when it is storable. -/
theorem parseLaunchRecord_toJsonValue {record : LaunchRecord} (h : record.Storable) :
    parseLaunchRecord record.toJsonValue = some record := by
  rcases parse_argv h.commandArgv with ⟨command, hcommand, htokens⟩
  have hshell : orNone asNonEmptyString (record.commandShell.map .string) =
      some record.commandShell := by
    rcases hshell : record.commandShell with _ | shell
    · rfl
    · have hne : shell ≠ "" := fun heq => h.commandShell (hshell.trans (congrArg some heq))
      show (asNonEmptyString (.string shell)).map some = _
      rw [asNonEmptyString_string hne]
      rfl
  have hnames : ¬ (record.recordId = "" ∨ record.workspaceRoot = "" ∨ record.title = "") := by
    rintro (heq | heq | heq)
    · exact h.recordId heq
    · exact h.workspaceRoot heq
    · exact h.title heq
  unfold parseLaunchRecord LaunchRecord.toJsonValue
  refine bind_of_eq_some (asObject_object _) ?_
  refine bind_required (record.ifContains_fields "recordId" rfl) rfl ?_
  refine bind_required (record.ifContains_fields "provider" rfl) rfl ?_
  refine bind_required (record.ifContains_fields "workspaceRoot" rfl) rfl ?_
  refine bind_required (record.ifContains_fields "title" rfl) rfl ?_
  refine bind_orNone (record.ifContains_fields "conversationId" rfl) (orNone_map asString_string _) ?_
  refine bind_of_eq_some (parseProviderType_toString _) ?_
  refine bind_orDefault (record.ifContains_fields "launchedAtUnixMs" rfl) rfl ?_
  rw [if_neg hnames]
  refine bind_orDefault (record.ifContains_fields "groupTags" rfl) (asStrings_map_string _) ?_
  refine bind_orDefault (record.ifContains_fields "commandArgv" rfl) hcommand ?_
  refine bind_orNone (record.ifContains_fields "commandShell" rfl) hshell ?_
  rw [htokens, if_neg h.oneCommand, h.groupTags]

/-- Whatever is read as a launch record is storable. -/
theorem storable_of_parseLaunchRecord {value : Json} {record : LaunchRecord}
    (h : parseLaunchRecord value = some record) : record.Storable := by
  unfold parseLaunchRecord at h
  obtain ⟨object, -, h⟩ := exists_of_bind h
  obtain ⟨recordId, -, h⟩ := exists_of_bind h
  obtain ⟨providerName, -, h⟩ := exists_of_bind h
  obtain ⟨workspaceRoot, -, h⟩ := exists_of_bind h
  obtain ⟨title, -, h⟩ := exists_of_bind h
  obtain ⟨conversationId, -, h⟩ := exists_of_bind h
  obtain ⟨provider, -, h⟩ := exists_of_bind h
  obtain ⟨launchedAtUnixMs, -, h⟩ := exists_of_bind h
  split_ifs at h with hnames
  obtain ⟨groupTags, -, h⟩ := exists_of_bind h
  obtain ⟨command, -, h⟩ := exists_of_bind h
  obtain ⟨commandShell, hshell, h⟩ := exists_of_bind h
  split_ifs at h with hcommands
  cases h
  rw [not_or, not_or] at hnames
  refine ⟨hnames.1, hnames.2.1, hnames.2.2, normalizeGroupTags_idem groupTags, ?_, ?_, hcommands⟩
  · intro argv hargv
    unfold ProviderCommandOverride.tokens? at hargv
    split_ifs at hargv with hempty
    · cases hargv
    · cases hargv
      exact ⟨command.executable, command.args, hempty, rfl⟩
  · intro hempty
    dsimp only at hempty
    rw [hempty] at hshell
    rcases exists_of_orNone hshell with ⟨source, hsource⟩
    exact (asNonEmptyString_eq_some.mp hsource).2 rfl

/-! ### Identities are read back -/

/-- A field of the identity is found under its name. -/
theorem HostIdentity.ifContains_fields (identity : HostIdentity) (key : String)
    {value : Option Json} (h : identity.fields.lookup key = some value) :
    ifContains (ofFields identity.fields) key = value := by
  refine ifContains_of_lookup ?_ h
  show ["hostId", "displayName", "certificatePemPath", "privateKeyPemPath", "adminHost", "adminPort",
    "remoteHost", "remotePort", "providerCommands", "launchRecords", "maxLaunchRecords",
    "bootstrapShellPath", "importServiceManagerEnvironment", "serviceManagerEnvironmentAllowlist",
    "hubUrl", "hubToken"].Nodup
  decide

/-- Records that can be stored are read back. -/
theorem mapM_parseLaunchRecord {records : List LaunchRecord}
    (h : ∀ record ∈ records, record.Storable) :
    (records.map (·.toJsonValue)).mapM parseLaunchRecord = some records := by
  induction records with
  | nil => rfl
  | cons record records ih =>
      rw [List.map_cons, List.mapM_cons,
        parseLaunchRecord_toJsonValue (h record List.mem_cons_self),
        ih fun other hother => h other (List.mem_cons_of_mem record hother)]
      rfl

/-- What a field with a default is read as has every property that the default has and that the
decoder checks. -/
theorem of_orDefault {α : Type} {P : α → Prop} {fallback a : α} {decode : Json → Option α}
    {field : Option Json} (hfallback : P fallback)
    (hdecode : ∀ value a, decode value = some a → P a)
    (h : orDefault fallback decode field = some a) : P a := by
  rcases field with _ | value
  · cases h
    exact hfallback
  · exact hdecode value a h

/-- **Whatever is read as an identity is storable.** -/
theorem storable_of_hostIdentityFromJson {value : Json} {identity : HostIdentity}
    (h : hostIdentityFromJson value = some identity) : identity.Storable := by
  unfold hostIdentityFromJson at h
  obtain ⟨object, -, h⟩ := exists_of_bind h
  obtain ⟨hostId, -, h⟩ := exists_of_bind h
  obtain ⟨displayName, -, h⟩ := exists_of_bind h
  obtain ⟨certificatePemPath, -, h⟩ := exists_of_bind h
  obtain ⟨privateKeyPemPath, -, h⟩ := exists_of_bind h
  obtain ⟨adminHost, hadminHost, h⟩ := exists_of_bind h
  obtain ⟨adminPort, hadminPort, h⟩ := exists_of_bind h
  obtain ⟨remoteHost, hremoteHost, h⟩ := exists_of_bind h
  obtain ⟨remotePort, hremotePort, h⟩ := exists_of_bind h
  obtain ⟨commands, -, h⟩ := exists_of_bind h
  obtain ⟨codexCommand, hcodexCommand, h⟩ := exists_of_bind h
  obtain ⟨claudeCommand, hclaudeCommand, h⟩ := exists_of_bind h
  obtain ⟨launchRecords, hlaunchRecords, h⟩ := exists_of_bind h
  obtain ⟨maxLaunchRecords, hmaxLaunchRecords, h⟩ := exists_of_bind h
  obtain ⟨bootstrapShellPath, hbootstrapShellPath, h⟩ := exists_of_bind h
  obtain ⟨importServiceManagerEnvironment, -, h⟩ := exists_of_bind h
  obtain ⟨allowlist, -, h⟩ := exists_of_bind h
  obtain ⟨hubUrl, hhubUrl, h⟩ := exists_of_bind h
  obtain ⟨hubToken, hhubToken, h⟩ := exists_of_bind h
  cases h
  have hname : ∀ value text, asNonEmptyString value = some text → text ≠ "" :=
    fun value text htext => (asNonEmptyString_eq_some.mp htext).2
  have htext : ∀ value text, asPossiblyEmptyString value = some text → text ≠ some "" :=
    fun value text htext => asPossiblyEmptyString_ne htext
  have hadmin : adminHost ≠ "" :=
    of_orDefault (P := fun text => text ≠ "") (by decide) hname hadminHost
  have hremote : remoteHost ≠ "" :=
    of_orDefault (P := fun text => text ≠ "") (by decide) hname hremoteHost
  have hadmin' : adminPort ≠ 0 :=
    of_orDefault (P := fun port => port ≠ 0) (by decide) (fun _ _ => asPort_ne_zero) hadminPort
  have hremote' : remotePort ≠ 0 :=
    of_orDefault (P := fun port => port ≠ 0) (by decide) (fun _ _ => asPort_ne_zero) hremotePort
  have hlimit : 1 ≤ maxLaunchRecords ∧ maxLaunchRecords < 2 ^ 63 :=
    of_orDefault (P := fun limit => 1 ≤ limit ∧ limit < 2 ^ 63) (by decide)
      (fun _ _ => asLimit_range) hmaxLaunchRecords
  have hshell : bootstrapShellPath ≠ some "" :=
    of_orDefault (P := fun text => text ≠ some "") (by decide) htext hbootstrapShellPath
  have hurl : hubUrl ≠ some "" :=
    of_orDefault (P := fun text => text ≠ some "") (by decide) htext hhubUrl
  have htoken : hubToken ≠ some "" :=
    of_orDefault (P := fun text => text ≠ some "") (by decide) htext hhubToken
  have hrecords : ∀ record ∈ launchRecords, record.Storable := by
    refine of_orDefault (P := fun records => ∀ record ∈ records, record.Storable)
      (fun _ hnil => absurd hnil List.not_mem_nil) ?_ hlaunchRecords
    intro value records hread
    rcases Option.bind_eq_some_iff.mp hread with ⟨values, -, hread⟩
    intro record hrecord
    rcases exists_of_mem_mapM hread hrecord with ⟨source, -, hsource⟩
    exact storable_of_parseLaunchRecord hsource
  have hkeys : "" ∉ allowlist.filter (· ≠ "") := by
    intro hempty
    exact absurd (List.mem_filter.mp hempty).2 (by decide)
  have hargs : ∀ {field : Option Json} {command : ProviderCommandOverride},
      orDefault {} parseProviderCommandOverride field = some command →
      (command.executable = "" → command.args = []) :=
    fun hread => of_orDefault (P := fun command => command.executable = "" → command.args = [])
      (fun _ => rfl) (fun _ _ => parseProviderCommandOverride_args) hread
  exact ⟨hadmin, hadmin', hremote, hremote', hargs hcodexCommand, hargs hclaudeCommand, hrecords,
    hlimit, hshell, hkeys, hurl, htoken⟩

/-- **An identity is read back** when it is storable. -/
theorem hostIdentityFromJson_of_storable {identity : HostIdentity} (h : identity.Storable) :
    hostIdentityFromJson identity.toJsonValue = some identity := by
  have hallowlist : identity.serviceManagerEnvironmentAllowlist.filter (· ≠ "") =
      identity.serviceManagerEnvironmentAllowlist := by
    rw [List.filter_eq_self]
    intro key hkey
    exact decide_eq_true fun heq => h.allowlist (heq ▸ hkey)
  have hfield := @identity.ifContains_fields
  unfold hostIdentityFromJson HostIdentity.toJsonValue
  refine bind_of_eq_some (asObject_object _) ?_
  refine bind_required (hfield "hostId" rfl) rfl ?_
  refine bind_required (hfield "displayName" rfl) rfl ?_
  refine bind_required (hfield "certificatePemPath" rfl) rfl ?_
  refine bind_required (hfield "privateKeyPemPath" rfl) rfl ?_
  refine bind_orDefault (hfield "adminHost" rfl) (asNonEmptyString_string h.adminHost) ?_
  refine bind_orDefault (hfield "adminPort" rfl) (asPort_toNat h.adminPort) ?_
  refine bind_orDefault (hfield "remoteHost" rfl) (asNonEmptyString_string h.remoteHost) ?_
  refine bind_orDefault (hfield "remotePort" rfl) (asPort_toNat h.remotePort) ?_
  refine bind_orDefault (hfield "providerCommands" rfl) rfl ?_
  refine bind_of_eq_some (parseProviderCommandOverride_toJsonValue h.codexCommand) ?_
  refine bind_of_eq_some (parseProviderCommandOverride_toJsonValue h.claudeCommand) ?_
  refine bind_orDefault (hfield "launchRecords" rfl) (mapM_parseLaunchRecord h.launchRecords) ?_
  refine bind_orDefault (hfield "maxLaunchRecords" rfl) (asLimit_ofNat h.maxLaunchRecords) ?_
  refine bind_orDefault (hfield "bootstrapShellPath" rfl)
    (orDefault_asPossiblyEmptyString h.bootstrapShellPath) ?_
  refine bind_orDefault (hfield "importServiceManagerEnvironment" rfl) rfl ?_
  refine bind_orDefault (hfield "serviceManagerEnvironmentAllowlist" rfl) (asStrings_map_string _) ?_
  refine bind_orDefault (hfield "hubUrl" rfl) (orDefault_asPossiblyEmptyString h.hubUrl) ?_
  refine bind_orDefault (hfield "hubToken" rfl) (orDefault_asPossiblyEmptyString h.hubToken) ?_
  rw [hallowlist]

/-- **What is saved is loaded exactly when** it is storable. -/
theorem loadHostIdentity_identityText (lib : JsonLibrary) (identity : HostIdentity) :
    loadHostIdentity lib (some (identityText lib identity)) = some identity ↔
      identity.Storable := by
  have hload : loadHostIdentity lib (some (identityText lib identity)) =
      hostIdentityFromJson identity.toJsonValue := by
    unfold loadHostIdentity
    exact bind_of_eq_some rfl (bind_of_eq_some (lib.parse_serialize _) rfl)
  rw [hload]
  exact ⟨storable_of_hostIdentityFromJson, hostIdentityFromJson_of_storable⟩

/-- Whatever is loaded is storable. -/
theorem storable_of_loadHostIdentity {lib : JsonLibrary} {file : Option String}
    {identity : HostIdentity} (h : loadHostIdentity lib file = some identity) :
    identity.Storable := by
  unfold loadHostIdentity at h
  obtain ⟨text, -, h⟩ := exists_of_bind h
  obtain ⟨value, -, h⟩ := exists_of_bind h
  exact storable_of_hostIdentityFromJson h

end Sentrits.Store
