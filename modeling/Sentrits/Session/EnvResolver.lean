import Sentrits.Found.LexicalPath
import Sentrits.Session.EnvFile
import Sentrits.Session.LaunchSpec
import Sentrits.Store.HostIdentity

/-!
# Resolving an environment

The layers of a session's environment: the base of its mode, the environment files, the provider's
overrides and the session's own. Each layer replaces the value of a variable that is there already
and appends one that is not.

* `distinctKeys_setEntry`, `distinctKeys_resolveEnvironment`: **every variable is recorded once.**

Source: `src/session/env_resolver.cpp`.
-/

namespace Sentrits.Session

open Found Found.Bytes Found.PosixEnv Store

/-- Source: `env_config.h` `EnvConfig`. -/
structure EnvConfig where
  mode : EnvMode := .shell
  overrides : List (Bytes × Bytes) := []
  envFilePath : Option Bytes := none

/-- The variables of a map, in the order it is iterated. -/
structure EnvMap where
  pairs : List (Bytes × Bytes)
  nodup : (pairs.map Prod.fst).Nodup

/-- What resolving an environment reads of the host; `bootstrap` is what `BootstrappedEnvCache::Get`
returns for a shell, with the warning it leaves. -/
structure EnvHost where
  environ : List Bytes
  readFile : Bytes → Option Bytes
  fileExists : Bytes → Bool
  identity : HostIdentity
  bootstrap : Bytes → Except String (EnvMap × Option Bytes)

/-! ### The host -/

/-- A variable of the daemon, empty when it is not set.
Source: `env_resolver.cpp` `Getenv`. -/
def getenvOrEmpty (host : EnvHost) (name : String) : Bytes :=
  (getenv host.environ (utf8 name)).getD []

/-- Source: `env_resolver.cpp` `ResolveBootstrapShell`, off Apple systems. -/
def resolveBootstrapShell (host : EnvHost) : Bytes :=
  let configured := (host.identity.bootstrapShellPath.map utf8).getD []
  if configured ≠ [] then configured
  else
    let shell := getenvOrEmpty host "SHELL"
    if shell ≠ [] then shell else utf8 "/bin/bash"

/-- Source: `env_resolver.cpp` `ResolveEnvFilePaths`. -/
def resolveEnvFilePaths (host : EnvHost) (explicitPath : Option Bytes) (workspaceRoot : Bytes) :
    List Bytes :=
  match explicitPath with
  | some path =>
      if LexicalPath.isAbsolute path then [path] else [LexicalPath.join workspaceRoot path]
  | none =>
      [LexicalPath.join workspaceRoot (utf8 ".env.in"),
        LexicalPath.join workspaceRoot (utf8 ".env")].filter host.fileExists

/-- Source: `env_resolver.cpp` `LoadEnvFile`. -/
def loadEnvFile (host : EnvHost) (path : Bytes) (currentEnv : Environment) : List (Bytes × Bytes) :=
  match host.readFile path with
  | none => []
  | some content => parseEnvFile content currentEnv

/-! ### Layers -/

/-- The value of a variable is replaced, or the variable appended. -/
def setEntry (source : EnvSource) (entries : List EnvEntry) (pair : Bytes × Bytes) :
    List EnvEntry :=
  match entries with
  | [] => [{ key := pair.1, value := pair.2, source := source }]
  | entry :: entries =>
      if entry.key = pair.1 then { entry with value := pair.2, source := source } :: entries
      else entry :: setEntry source entries pair

/-- The index that `ApplyOverrides` builds has the last place of a key, which is its only one.
Source: `env_resolver.cpp` `ApplyOverrides`. -/
def applyOverrides (entries : List EnvEntry) (overrides : List (Bytes × Bytes))
    (source : EnvSource) : List EnvEntry :=
  overrides.foldl (setEntry source) entries

/-- Source: `env_resolver.cpp` `EntriesToMap`. -/
def entriesToMap (entries : List EnvEntry) : Environment :=
  fun name => (entries.reverse.find? (·.key = name)).map (·.value)

/-- Source: the loops of `env_resolver.cpp` `ResolveEnvironment` over the environment files. -/
def applyEnvFiles (host : EnvHost) (paths : List Bytes) (entries : List EnvEntry) : List EnvEntry :=
  paths.foldl (fun entries path =>
    (loadEnvFile host path (entriesToMap entries)).foldl (setEntry .envFile) entries) entries

/-- The files and the overrides, on top of the base of a mode. -/
def applyLayers (host : EnvHost) (config : EnvConfig) (paths : List Bytes)
    (providerOverrides : List (Bytes × Bytes)) (base : List EnvEntry) : List EnvEntry :=
  applyOverrides
    (applyOverrides (applyEnvFiles host paths base) providerOverrides .providerConfig)
    config.overrides .sessionOverride

/-- The base of `Clean`: a minimal search path and, if set, three variables of the daemon. -/
def cleanBase (host : EnvHost) : List EnvEntry :=
  { key := utf8 "PATH", value := utf8 "/usr/bin:/bin:/usr/sbin:/sbin", source := .daemonInherited } ::
    (["HOME", "USER", "TMPDIR"].filter fun name => getenvOrEmpty host name ≠ []).map fun name =>
      { key := utf8 name, value := getenvOrEmpty host name, source := .daemonInherited }

/-- The variables of the service manager that the host configuration lets in. -/
def serviceManagerPairs (host : EnvHost) : List (Bytes × Bytes) :=
  if host.identity.importServiceManagerEnvironment then
    host.identity.serviceManagerEnvironmentAllowlist.filterMap fun key =>
      (getenv host.environ (cString (utf8 key))).map fun value => (utf8 key, value)
  else []

/-- The base of `BootstrapFromShell`: what the shell exports, then the service manager's. -/
def bootstrapBase (host : EnvHost) (captured : EnvMap) : List EnvEntry :=
  (serviceManagerPairs host).foldl (setEntry .serviceManager)
    (captured.pairs.map fun pair => { key := pair.1, value := pair.2, source := .bootstrapShell })

/-- Source: `env_resolver.cpp` `ResolveEnvironment`. -/
def resolveEnvironment (host : EnvHost) (config : EnvConfig) (workspaceRoot : Bytes)
    (providerOverrides : List (Bytes × Bytes)) : Except String EffectiveEnvironment :=
  let paths := resolveEnvFilePaths host config.envFilePath workspaceRoot
  match config.mode with
  | .shell =>
      .ok
        { entries := applyLayers host config paths providerOverrides []
          mode := .shell
          bootstrapShellPath := some (resolveBootstrapShell host)
          envFilePath := paths.getLast? }
  | .clean =>
      .ok
        { entries := applyLayers host config paths providerOverrides (cleanBase host)
          mode := .clean
          envFilePath := paths.getLast? }
  | .bootstrapFromShell =>
      match host.bootstrap (resolveBootstrapShell host) with
      | .error message => .error message
      | .ok (captured, warning) =>
          .ok
            { entries := applyLayers host config paths providerOverrides (bootstrapBase host captured)
              mode := .bootstrapFromShell
              bootstrapShellPath := some (resolveBootstrapShell host)
              envFilePath := paths.getLast?
              bootstrapWarning := warning }

/-! ### Every variable is recorded once -/

/-- No two entries are about the same variable. -/
def DistinctKeys (entries : List EnvEntry) : Prop := (entries.map (·.key)).Nodup

/-- The keys after a variable has been set. -/
theorem keys_setEntry (source : EnvSource) (entries : List EnvEntry) (pair : Bytes × Bytes) :
    (setEntry source entries pair).map (·.key) =
      if pair.1 ∈ entries.map (·.key) then entries.map (·.key)
      else entries.map (·.key) ++ [pair.1] := by
  induction entries with
  | nil => rfl
  | cons entry entries ih =>
      unfold setEntry
      split_ifs with hkey hin hin
      · rw [List.map_cons, List.map_cons]
      · exact absurd (hkey ▸ List.mem_cons_self) hin
      · have hrest : pair.1 ∈ entries.map (·.key) := by
          rw [List.map_cons] at hin
          exact (List.mem_cons.mp hin).resolve_left fun heq => hkey heq.symm
        rw [List.map_cons, ih, if_pos hrest, List.map_cons]
      · have hrest : pair.1 ∉ entries.map (·.key) := by
          rw [List.map_cons] at hin
          exact fun hmem => hin (List.mem_cons_of_mem _ hmem)
        rw [List.map_cons, ih, if_neg hrest, List.map_cons, List.cons_append]

/-- No key comes twice by setting a variable. -/
theorem distinctKeys_setEntry {source : EnvSource} {entries : List EnvEntry}
    (h : DistinctKeys entries) (pair : Bytes × Bytes) :
    DistinctKeys (setEntry source entries pair) := by
  unfold DistinctKeys at h ⊢
  rw [keys_setEntry]
  split_ifs with hin
  · exact h
  · rw [List.nodup_append]
    refine ⟨h, List.nodup_singleton _, fun key hkey other hother => ?_⟩
    rw [List.mem_singleton.mp hother]
    rintro rfl
    exact hin hkey

/-- No key comes twice by setting several variables. -/
theorem distinctKeys_foldl {source : EnvSource} (pairs : List (Bytes × Bytes))
    {entries : List EnvEntry} (h : DistinctKeys entries) :
    DistinctKeys (pairs.foldl (setEntry source) entries) := by
  induction pairs generalizing entries with
  | nil => exact h
  | cons pair pairs ih => exact ih (distinctKeys_setEntry h pair)

/-- No key comes twice by the files. -/
theorem distinctKeys_applyEnvFiles (host : EnvHost) (paths : List Bytes) {entries : List EnvEntry}
    (h : DistinctKeys entries) : DistinctKeys (applyEnvFiles host paths entries) := by
  unfold applyEnvFiles
  induction paths generalizing entries with
  | nil => exact h
  | cons path paths ih => exact ih (distinctKeys_foldl _ h)

/-- No key comes twice by the overrides. -/
theorem distinctKeys_applyLayers (host : EnvHost) (config : EnvConfig) (paths : List Bytes)
    (providerOverrides : List (Bytes × Bytes)) {base : List EnvEntry} (h : DistinctKeys base) :
    DistinctKeys (applyLayers host config paths providerOverrides base) := by
  exact distinctKeys_foldl _ (distinctKeys_foldl _ (distinctKeys_applyEnvFiles host paths h))

/-- The base of `Clean` has each key once. -/
theorem distinctKeys_cleanBase (host : EnvHost) : DistinctKeys (cleanBase host) := by
  have hall : (("PATH" :: ["HOME", "USER", "TMPDIR"]).map utf8).Nodup := by decide
  have hsub : ((cleanBase host).map (·.key)).Sublist
      (("PATH" :: ["HOME", "USER", "TMPDIR"]).map utf8) := by
    unfold cleanBase
    rw [List.map_cons, List.map_cons, List.map_map]
    exact List.Sublist.cons_cons _ (List.Sublist.map utf8 List.filter_sublist)
  exact hall.sublist hsub

/-- The base of `BootstrapFromShell` has each key once. -/
theorem distinctKeys_bootstrapBase (host : EnvHost) (captured : EnvMap) :
    DistinctKeys (bootstrapBase host captured) := by
  refine distinctKeys_foldl _ ?_
  unfold DistinctKeys
  rw [List.map_map]
  exact captured.nodup

/-- **Every variable is recorded once**, in every mode. -/
theorem distinctKeys_resolveEnvironment {host : EnvHost} {config : EnvConfig}
    {workspaceRoot : Bytes} {providerOverrides : List (Bytes × Bytes)}
    {environment : EffectiveEnvironment}
    (h : resolveEnvironment host config workspaceRoot providerOverrides = .ok environment) :
    DistinctKeys environment.entries := by
  unfold resolveEnvironment at h
  dsimp only at h
  split at h
  · cases h
    exact distinctKeys_applyLayers _ _ _ _ List.nodup_nil
  · cases h
    exact distinctKeys_applyLayers _ _ _ _ (distinctKeys_cleanBase host)
  · split at h
    · cases h
    · cases h
      exact distinctKeys_applyLayers _ _ _ _ (distinctKeys_bootstrapBase _ _)

/-- The environment that is resolved is of the mode asked for. -/
theorem mode_of_resolveEnvironment {host : EnvHost} {config : EnvConfig} {workspaceRoot : Bytes}
    {providerOverrides : List (Bytes × Bytes)} {environment : EffectiveEnvironment}
    (h : resolveEnvironment host config workspaceRoot providerOverrides = .ok environment) :
    environment.mode = config.mode := by
  unfold resolveEnvironment at h
  dsimp only at h
  split at h
  next hmode => cases h; exact hmode.symm
  next hmode => cases h; exact hmode.symm
  next hmode =>
    split at h
    · cases h
    · cases h
      exact hmode.symm

end Sentrits.Session
