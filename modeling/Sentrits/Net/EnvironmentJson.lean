import Sentrits.Net.EvidenceJson
import Sentrits.Session.EnvResolver

/-!
# Secrets in the environment of a session

Whoever may observe a session is told its environment, but not the values of variables that look
like secrets.

* `shouldRedactEnvKey`, `makeEnvironmentJson`: the code.
* `hide`: the environment without these values; `makeEnvironmentJson_hide`: what is told is told of
  that.
* `DifferInSecrets`: two hosts that differ in such values only.
* `secrets_not_told`: **what is told does not depend on the secrets**, whichever layer of the
  environment they come from.

Sources: `src/net/json.cpp`, `src/session/env_config.cpp`.
-/

namespace Sentrits.Session

/-- Source: `env_config.cpp` `ToString(EnvSource)`. -/
def EnvSource.toString : EnvSource → String
  | .daemonInherited => "daemon_inherited"
  | .serviceManager => "service_manager"
  | .bootstrapShell => "bootstrap_shell"
  | .envFile => "env_file"
  | .providerConfig => "provider_config"
  | .sessionOverride => "session_override"

end Sentrits.Session

namespace Sentrits.Net.Http

open Found Found.Bytes Found.PosixEnv Session

/-! ### What is told -/

/-- `std::toupper` of the C locale. -/
def toUpper (ch : UInt8) : UInt8 := if 0x61 ≤ ch ∧ ch ≤ 0x7A then ch - 0x20 else ch

/-- Source: `json.cpp` `ShouldRedactEnvKey`. -/
def shouldRedactEnvKey (key : Bytes) : Bool :=
  let upperKey := key.map toUpper
  let endsWithCi (ending : String) : Bool := (utf8 ending).isSuffixOf upperKey
  let startsWithCi (beginning : String) : Bool := (utf8 beginning).isPrefixOf upperKey
  if endsWithCi "_KEY" || endsWithCi "_TOKEN" || endsWithCi "_SECRET" ||
      endsWithCi "_PASSWORD" then true
  else if key == utf8 "DATABASE_URL" then true
  else startsWithCi "AUTH_" || startsWithCi "AWS_"

/-- One variable. -/
def makeEnvEntryJson (redact : Bool) (entry : EnvEntry) : ByteJson :=
  let shouldRedact := redact && shouldRedactEnvKey entry.key
  .object <|
    [("key", .string entry.key),
      ("value", if shouldRedact then jsonText "<redacted>" else .string entry.value),
      ("source", jsonText entry.source.toString)] ++
    if shouldRedact then [("redacted", jsonBool true)] else []

/-- A field that is left out when there is nothing to tell. -/
def optionalField (name : String) : Option Bytes → List (String × ByteJson)
  | none => []
  | some value => [(name, .string value)]

/-- Source: `json.cpp` `ToJson(EffectiveEnvironment)`. -/
def makeEnvironmentJson (env : EffectiveEnvironment) (redact : Bool) : ByteJson :=
  .object <|
    [("mode", jsonText env.mode.toString)] ++
    optionalField "bootstrapShellPath" env.bootstrapShellPath ++
    optionalField "envFilePath" env.envFilePath ++
    optionalField "bootstrapWarning" env.bootstrapWarning ++
    [("entries", .array (env.entries.map (makeEnvEntryJson redact)))]

/-! ### Hiding -/

/-- The value, unless it is a secret. -/
def hideValue (key value : Bytes) : Bytes := if shouldRedactEnvKey key then [] else value

/-- A variable, without the value if that is a secret. -/
def hidePair (pair : Bytes × Bytes) : Bytes × Bytes := (pair.1, hideValue pair.1 pair.2)

/-- The same for an entry of an environment. -/
def hideEntry (entry : EnvEntry) : EnvEntry :=
  { entry with value := hideValue entry.key entry.value }

/-- The same for an environment. -/
def hide (env : EffectiveEnvironment) : EffectiveEnvironment :=
  { env with entries := env.entries.map hideEntry }

/-- A string of a process, without the value if that is a secret. -/
def hideString (entry : Bytes) : Bytes :=
  match entry.dropWhile (· != equals) with
  | [] => entry
  | _ :: value =>
      let name := entry.takeWhile (· != equals)
      environString name (hideValue name value)

/-- One variable is told of as if its secret were hidden. -/
theorem makeEnvEntryJson_hideEntry (entry : EnvEntry) :
    makeEnvEntryJson true (hideEntry entry) = makeEnvEntryJson true entry := by
  unfold makeEnvEntryJson hideEntry hideValue
  by_cases hredact : shouldRedactEnvKey entry.key = true
  · simp [hredact]
  · simp [hredact]

/-- **What is told is told of what is not hidden.** -/
theorem makeEnvironmentJson_hide (env : EffectiveEnvironment) :
    makeEnvironmentJson (hide env) true = makeEnvironmentJson env true := by
  have hentries : (env.entries.map hideEntry).map (makeEnvEntryJson true) =
      env.entries.map (makeEnvEntryJson true) := by
    rw [List.map_map]
    exact List.map_congr_left fun entry _ => makeEnvEntryJson_hideEntry entry
  unfold makeEnvironmentJson hide
  rw [hentries]

/-! ### Layers -/

/-- Setting a variable sets the hidden one. -/
theorem map_hideEntry_setEntry (source : EnvSource) (entries : List EnvEntry)
    (pair : Bytes × Bytes) :
    (setEntry source entries pair).map hideEntry =
      setEntry source (entries.map hideEntry) (hidePair pair) := by
  induction entries with
  | nil => rfl
  | cons entry entries ih =>
      rw [List.map_cons, setEntry, setEntry]
      by_cases hkey : entry.key = pair.1
      · rw [if_pos hkey, if_pos (show (hideEntry entry).key = (hidePair pair).1 from hkey),
          List.map_cons]
        unfold hideEntry hidePair
        rw [hkey]
      · rw [if_neg hkey, if_neg (show ¬(hideEntry entry).key = (hidePair pair).1 from hkey),
          List.map_cons, ih]

/-- Setting variables sets the hidden ones. -/
theorem map_hideEntry_foldl (source : EnvSource) (pairs : List (Bytes × Bytes))
    (entries : List EnvEntry) :
    (pairs.foldl (setEntry source) entries).map hideEntry =
      (pairs.map hidePair).foldl (setEntry source) (entries.map hideEntry) := by
  induction pairs generalizing entries with
  | nil => rfl
  | cons pair pairs ih =>
      rw [List.foldl_cons, ih, map_hideEntry_setEntry, List.map_cons, List.foldl_cons]

/-- A layer on top of entries that differ in secrets. -/
theorem hideAlike_foldl {source : EnvSource} {pairs pairs' : List (Bytes × Bytes)}
    {entries entries' : List EnvEntry} (hpairs : pairs.map hidePair = pairs'.map hidePair)
    (hentries : entries.map hideEntry = entries'.map hideEntry) :
    (pairs.foldl (setEntry source) entries).map hideEntry =
      (pairs'.foldl (setEntry source) entries').map hideEntry := by
  rw [map_hideEntry_foldl, map_hideEntry_foldl, hpairs, hentries]

/-- What a variable is looked up as, without secrets. -/
def hideLookup (env : Environment) (name : Bytes) : Option Bytes := (env name).map (hideValue name)

/-- Looking up what is hidden. -/
theorem hideLookup_entriesToMap (entries : List EnvEntry) (name : Bytes) :
    hideLookup (entriesToMap entries) name = entriesToMap (entries.map hideEntry) name := by
  have hkeys : ((fun entry : EnvEntry => decide (entry.key = name)) ∘ hideEntry) =
      fun entry => decide (entry.key = name) := rfl
  unfold hideLookup entriesToMap
  rw [← List.map_reverse, List.find?_map, hkeys]
  rcases hfound : entries.reverse.find? fun entry => decide (entry.key = name) with _ | entry
  · rw [hfound]
    rfl
  · obtain rfl : entry.key = name := by simpa using List.find?_some hfound
    rw [hfound]
    rfl

/-! ### The strings of the daemon -/

/-- The name stands before the equals sign. -/
theorem takeWhile_environString {name : Bytes} (hname : equals ∉ name) (value : Bytes) :
    (environString name value).takeWhile (· != equals) = name := by
  have hall : ∀ ch ∈ name, (ch != equals) = true := by
    intro ch hch
    simpa using fun heq : ch = equals => hname (heq ▸ hch)
  rw [environString, List.takeWhile_append_of_pos hall]
  simp

/-- A string is hidden by hiding its value. -/
theorem hideString_environString {name : Bytes} (hname : equals ∉ name) (value : Bytes) :
    hideString (environString name value) = environString name (hideValue name value) := by
  have hsplit := (environString name value).takeWhile_append_dropWhile (p := (· != equals))
  rw [takeWhile_environString hname] at hsplit
  have hdrop : (environString name value).dropWhile (· != equals) = equals :: value :=
    List.append_cancel_left hsplit
  unfold hideString
  rw [hdrop, takeWhile_environString hname]

/-- A string without an equals sign, or the string of a variable. -/
theorem environString_or (entry : Bytes) :
    hideString entry = entry ∨
      ∃ name value, equals ∉ name ∧ entry = environString name value := by
  rcases hdrop : entry.dropWhile (· != equals) with _ | ⟨sign, value⟩
  · left
    unfold hideString
    rw [hdrop]
  · right
    obtain rfl : sign = equals := by
      have hhead := List.head?_dropWhile_not (· != equals) entry
      rw [hdrop] at hhead
      simpa using hhead
    refine ⟨entry.takeWhile (· != equals), value, ?_, ?_⟩
    · intro hin
      simpa using List.mem_takeWhile_imp hin
    · rw [environString, ← hdrop, List.takeWhile_append_dropWhile]

/-- A string that begins with a name still does, and no other does. -/
theorem begins_hideString {name : Bytes} (hname : equals ∉ name) (entry : Bytes) :
    name ++ [equals] <+: hideString entry ↔ name ++ [equals] <+: entry := by
  constructor
  · intro hbegins
    rcases environString_or entry with hsame | ⟨name', value, hname', rfl⟩
    · rwa [hsame] at hbegins
    · have hstring := eq_environString_of_begins hbegins
      rw [hideString_environString hname'] at hstring
      have hnames := congrArg (List.takeWhile (· != equals)) hstring
      rw [takeWhile_environString hname', takeWhile_environString hname] at hnames
      rw [hnames]
      exact prefix_environString name value
  · intro hbegins
    rw [eq_environString_of_begins hbegins, hideString_environString hname]
    exact prefix_environString _ _

/-- A variable of the daemon that may be a secret. -/
theorem getenv_map_hideString (environ : List Bytes) {name : Bytes} (hname : equals ∉ name) :
    getenv (environ.map hideString) name = (getenv environ name).map (hideValue name) := by
  have hbegins : ((fun entry => decide (name ++ [equals] <+: entry)) ∘ hideString) =
      fun entry => decide (name ++ [equals] <+: entry) := by
    funext entry
    exact decide_eq_decide.mpr (begins_hideString hname entry)
  unfold getenv
  rw [List.find?_map, hbegins]
  rcases hfound : environ.find? fun entry => decide (name ++ [equals] <+: entry) with _ | entry
  · rfl
  · have hentry : name ++ [equals] <+: entry := by simpa using List.find?_some hfound
    rw [Option.map_some, Option.map_some, Option.map_some, Option.map_some,
      eq_environString_of_begins hentry, hideString_environString hname, drop_environString,
      drop_environString]

/-! ### Hosts that differ in secrets -/

/-- Two hosts on which all but the values of secrets is the same: the strings of the daemon, what a
login shell exports, and what the environment files define, if what they refer to is. -/
structure DifferInSecrets (host host' : EnvHost) : Prop where
  environ : host.environ.map hideString = host'.environ.map hideString
  fileExists : host.fileExists = host'.fileExists
  identity : host.identity = host'.identity
  /-- The names of the variables that are let in are names. -/
  allowlist : ∀ key ∈ host.identity.serviceManagerEnvironmentAllowlist,
    equals ∉ utf8 key ∧ nul ∉ utf8 key
  bootstrap : ∀ shell,
    (host.bootstrap shell).map (fun read => (read.1.pairs.map hidePair, read.2)) =
      (host'.bootstrap shell).map fun read => (read.1.pairs.map hidePair, read.2)
  files : ∀ path env env', hideLookup env = hideLookup env' →
    (loadEnvFile host path env).map hidePair = (loadEnvFile host' path env').map hidePair

namespace DifferInSecrets

variable {host host' : EnvHost}

/-- A variable of the daemon is the same but for secrets. -/
theorem getenv (h : DifferInSecrets host host') {name : Bytes} (hname : equals ∉ name) :
    (getenv host.environ name).map (hideValue name) =
      (getenv host'.environ name).map (hideValue name) := by
  rw [← getenv_map_hideString _ hname, ← getenv_map_hideString _ hname, h.environ]

/-- What is no secret is the same. -/
theorem getenvOrEmpty (h : DifferInSecrets host host') {name : String}
    (hname : equals ∉ utf8 name) (hshown : shouldRedactEnvKey (utf8 name) = false) :
    getenvOrEmpty host name = getenvOrEmpty host' name := by
  have hid : hideValue (utf8 name) = id := by
    funext value
    unfold hideValue
    rw [hshown]
    rfl
  have hsame := h.getenv hname
  rw [hid, Option.map_id] at hsame
  exact congrArg (·.getD []) hsame

/-- The shell that is started is the same. -/
theorem resolveBootstrapShell (h : DifferInSecrets host host') :
    resolveBootstrapShell host = resolveBootstrapShell host' := by
  unfold Session.resolveBootstrapShell
  rw [h.identity, h.getenvOrEmpty (by decide) (by decide)]

/-- The base of `Clean` is the same. -/
theorem cleanBase (h : DifferInSecrets host host') : cleanBase host = cleanBase host' := by
  have hsame : ∀ name ∈ ["HOME", "USER", "TMPDIR"],
      Session.getenvOrEmpty host name = Session.getenvOrEmpty host' name := by
    intro name hmem
    apply h.getenvOrEmpty
    · revert name
      decide
    · revert name
      decide
  have hset : ["HOME", "USER", "TMPDIR"].filter (fun name =>
        Session.getenvOrEmpty host name ≠ []) =
      ["HOME", "USER", "TMPDIR"].filter fun name => Session.getenvOrEmpty host' name ≠ [] := by
    apply List.filter_congr
    intro name hmem
    rw [hsame name hmem]
  unfold Session.cleanBase
  rw [hset]
  congr 1
  apply List.map_congr_left
  intro name hmem
  rw [hsame name (List.mem_of_mem_filter hmem)]

/-- What is let in of the service manager is the same but for secrets. -/
theorem serviceManagerPairs (h : DifferInSecrets host host') :
    (serviceManagerPairs host).map hidePair = (serviceManagerPairs host').map hidePair := by
  unfold Session.serviceManagerPairs
  rw [← h.identity]
  split_ifs
  · rw [List.map_filterMap, List.map_filterMap]
    apply List.filterMap_congr
    intro key hmem
    obtain ⟨hequals, hnul⟩ := h.allowlist key hmem
    rw [cString_of_nul_notMem hnul, Option.map_map, Option.map_map]
    have hsame := congrArg (Option.map fun value => (utf8 key, value)) (h.getenv hequals)
    rwa [Option.map_map, Option.map_map] at hsame
  · rfl

/-- The files define the same but for secrets. -/
theorem applyEnvFiles (h : DifferInSecrets host host') (paths : List Bytes)
    {entries entries' : List EnvEntry}
    (hentries : entries.map hideEntry = entries'.map hideEntry) :
    (applyEnvFiles host paths entries).map hideEntry =
      (applyEnvFiles host' paths entries').map hideEntry := by
  unfold Session.applyEnvFiles
  induction paths generalizing entries entries' with
  | nil => exact hentries
  | cons path paths ih =>
      apply ih
      apply hideAlike_foldl _ hentries
      apply h.files
      funext name
      rw [hideLookup_entriesToMap, hideLookup_entriesToMap, hentries]

/-- The base of `BootstrapFromShell` is the same but for secrets. -/
theorem bootstrapBase (h : DifferInSecrets host host') {captured captured' : EnvMap}
    (hcaptured : captured.pairs.map hidePair = captured'.pairs.map hidePair) :
    (bootstrapBase host captured).map hideEntry =
      (bootstrapBase host' captured').map hideEntry := by
  have hentries : ∀ map : EnvMap, (map.pairs.map fun pair =>
        ({ key := pair.1, value := pair.2, source := .bootstrapShell } : EnvEntry)).map hideEntry =
      (map.pairs.map hidePair).map fun pair =>
        { key := pair.1, value := pair.2, source := .bootstrapShell } := by
    intro map
    rw [List.map_map, List.map_map]
    rfl
  apply hideAlike_foldl h.serviceManagerPairs
  rw [hentries, hentries, hcaptured]

/-- **All layers together are the same but for secrets.** -/
theorem applyLayers (h : DifferInSecrets host host') {config config' : EnvConfig}
    {providerOverrides providerOverrides' : List (Bytes × Bytes)}
    (hprovider : providerOverrides.map hidePair = providerOverrides'.map hidePair)
    (hoverrides : config.overrides.map hidePair = config'.overrides.map hidePair)
    (paths : List Bytes) {base base' : List EnvEntry}
    (hbase : base.map hideEntry = base'.map hideEntry) :
    (applyLayers host config paths providerOverrides base).map hideEntry =
      (applyLayers host' config' paths providerOverrides' base').map hideEntry := by
  apply hideAlike_foldl hoverrides
  apply hideAlike_foldl hprovider
  exact h.applyEnvFiles paths hbase

end DifferInSecrets

/-- **Secrets are not told.** Whatever the mode: on two hosts that differ in the values of secrets
only, with overrides that do, an environment is resolved on both or on neither, with the same
error; and what is told of it to whoever may observe the session is the same, byte for byte. -/
theorem secrets_not_told {host host' : EnvHost} (h : DifferInSecrets host host')
    {config config' : EnvConfig} (hmode : config.mode = config'.mode)
    (hpath : config.envFilePath = config'.envFilePath)
    (hoverrides : config.overrides.map hidePair = config'.overrides.map hidePair)
    (workspaceRoot : Bytes) {providerOverrides providerOverrides' : List (Bytes × Bytes)}
    (hprovider : providerOverrides.map hidePair = providerOverrides'.map hidePair) :
    (resolveEnvironment host config workspaceRoot providerOverrides).map
        (makeEnvironmentJson · true) =
      (resolveEnvironment host' config' workspaceRoot providerOverrides').map
        (makeEnvironmentJson · true) := by
  have hpaths : resolveEnvFilePaths host config.envFilePath workspaceRoot =
      resolveEnvFilePaths host' config'.envFilePath workspaceRoot := by
    unfold resolveEnvFilePaths
    rw [hpath, h.fileExists]
  have hlayers : ∀ {base base' : List EnvEntry}, base.map hideEntry = base'.map hideEntry → _ :=
    h.applyLayers hprovider hoverrides
      (resolveEnvFilePaths host' config'.envFilePath workspaceRoot)
  -- it is told of what is hidden on both hosts
  have htold : ∀ resolved : Except String EffectiveEnvironment,
      resolved.map (makeEnvironmentJson · true) =
        (resolved.map hide).map (makeEnvironmentJson · true) := by
    intro resolved
    cases resolved with
    | error message => rfl
    | ok env => exact congrArg Except.ok (makeEnvironmentJson_hide env).symm
  rw [htold (resolveEnvironment host config workspaceRoot providerOverrides),
    htold (resolveEnvironment host' config' workspaceRoot providerOverrides')]
  congr 1
  unfold resolveEnvironment
  dsimp only
  rw [hpaths, ← hmode, ← h.resolveBootstrapShell]
  cases config.mode with
  | shell =>
      dsimp only [Except.map, hide]
      rw [hlayers rfl]
  | clean =>
      dsimp only [Except.map, hide]
      rw [hlayers (congrArg (List.map hideEntry) h.cleanBase)]
  | bootstrapFromShell =>
      have hread := h.bootstrap (Session.resolveBootstrapShell host)
      rcases hbootstrap : host.bootstrap (Session.resolveBootstrapShell host) with
        message | ⟨captured, warning⟩
      all_goals
        rcases hbootstrap' : host'.bootstrap (Session.resolveBootstrapShell host) with
          message' | ⟨captured', warning'⟩
        all_goals
          rw [hbootstrap, hbootstrap'] at hread
          dsimp only [Except.map] at hread ⊢
      · rw [Except.error.inj hread]
      · cases hread
      · cases hread
      · obtain ⟨hcaptured, rfl⟩ := Prod.mk.inj (Except.ok.inj hread)
        dsimp only [hide]
        rw [hlayers (h.bootstrapBase hcaptured)]

/-- A host with a secret of its own, another that its login shell exports, and one in a file. -/
def secretHost (secret : Bytes) : EnvHost where
  environ := [environString (utf8 "AWS_X") secret]
  readFile := fun _ => some (utf8 "DB_PASSWORD='" ++ secret ++ utf8 "'")
  fileExists := fun _ => true
  identity :=
    { importServiceManagerEnvironment := true
      serviceManagerEnvironmentAllowlist := ["AWS_X"] }
  bootstrap := fun _ =>
    .ok ({ pairs := [(utf8 "API_KEY", secret)], nodup := List.nodup_singleton _ }, none)

/-- What the file of such a host defines, whatever has been defined before. -/
theorem loadEnvFile_secretHost (path : Bytes) (env : Environment) :
    loadEnvFile (secretHost [49]) path env = [(utf8 "DB_PASSWORD", [49])] ∧
      loadEnvFile (secretHost [50]) path env = [(utf8 "DB_PASSWORD", [50])] :=
  ⟨rfl, rfl⟩

/-- Three secrets, others on each host. -/
theorem secrets_not_told_bootstrap :
    (resolveEnvironment (secretHost [49]) { mode := .bootstrapFromShell } [47] []).map
        (makeEnvironmentJson · true) =
      (resolveEnvironment (secretHost [50]) { mode := .bootstrapFromShell } [47] []).map
        (makeEnvironmentJson · true) := by
  have hhosts : DifferInSecrets (secretHost [49]) (secretHost [50]) :=
    { environ := by decide
      fileExists := rfl
      identity := rfl
      allowlist := by decide
      bootstrap := fun _ => congrArg Except.ok (Prod.ext (by decide) rfl)
      files := by
        intro path env env' _
        rw [(loadEnvFile_secretHost path env).1, (loadEnvFile_secretHost path env').2]
        decide }
  exact secrets_not_told hhosts rfl rfl rfl [47] rfl

end Sentrits.Net.Http
