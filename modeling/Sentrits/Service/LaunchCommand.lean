import Sentrits.Session.LaunchSpec
import Sentrits.Service.LogBuffer

/-!
# Create requests and the command they launch

The two create requests, the quoting of shell words, the script a terminal session runs in `Shell`
mode, and the `envp` a process is given in the other modes.

Sources: `src/service/session_manager.cpp`, `src/service/managed_log_process.cpp`,
`src/session/posix_pty_process.cpp`.
-/

namespace Sentrits.Service

open Found Found.Bytes Session

/-- Source: `session_manager.h` `CreateSessionRequest`. -/
structure CreateSessionRequest where
  provider : ProviderType := .codex
  workspaceRoot : String := ""
  title : String := ""
  conversationId : Option String := none
  commandArgv : Option (List String) := none
  commandShell : Option String := none
  groupTags : List String := []
  envMode : Option EnvMode := none
  environmentOverrides : List (String × String) := []
  envFilePath : Option String := none
  deriving DecidableEq

/-- Source: `session_manager.h` `LogSessionCreateRequest`. -/
structure LogSessionCreateRequest where
  workspaceRoot : String := ""
  title : String := ""
  commandArgv : Option (List String) := none
  commandShell : Option String := none
  groupTags : List String := []
  envMode : Option EnvMode := none
  environmentOverrides : List (String × String) := []
  envFilePath : Option String := none
  limits : LogBufferLimits := {}
  deriving DecidableEq

/-! ### Shell words -/

/-- The single quote. -/
def quote : UInt8 := 39

/-- How `ShellQuote` writes one byte. -/
def shellQuoteByte (ch : UInt8) : Bytes :=
  -- a quote is written by closing the word, quoting it in double quotes and opening the word again
  if ch = quote then [quote, 34, quote, 34, quote] else [ch]

/-- Source: `session_manager.cpp` `ShellQuote`. -/
def shellQuote (value : Bytes) : Bytes :=
  quote :: value.flatMap shellQuoteByte ++ [quote]

/-- Source: `session_manager.cpp` `BuildShellExecCommand`. -/
def buildShellExecCommand (executable : Bytes) (arguments : List Bytes) : Bytes :=
  utf8 "exec " ++ shellQuote executable ++
    arguments.flatMap fun argument => utf8 " " ++ shellQuote argument

/-- The line that exports one entry. -/
def exportLine (entry : EnvEntry) : Bytes :=
  utf8 "export " ++ entry.key ++ utf8 "=" ++ shellQuote entry.value ++ [lf]

/-- Source: `session_manager.cpp` `BuildShellModeCommand`. -/
def buildShellModeCommand (effectiveEnv : EffectiveEnvironment) (rawShellCommand : Option Bytes)
    (executable : Bytes) (arguments : List Bytes) : Bytes :=
  effectiveEnv.entries.flatMap exportLine ++
    match rawShellCommand with
    | some command => command
    | none => buildShellExecCommand executable arguments

/-! ### The environment of a process -/

/-- The `envp` of a launch: nothing in `Shell` mode, where `execvp` passes the daemon's own
environment on; else one string for each entry.
Source: `posix_pty_process.cpp` and `managed_log_process.cpp` `BuildEnvp`. -/
def buildEnvp (launchSpec : LaunchSpec) : Option (List Bytes) :=
  match launchSpec.effectiveEnvironment.mode with
  | .shell => none
  | .clean | .bootstrapFromShell =>
      some (launchSpec.effectiveEnvironment.entries.map fun entry =>
        entry.key ++ utf8 "=" ++ entry.value)

/-! ### What a terminal session launches -/

/-- The executable and the arguments a request names, before the environment mode is looked at.
Source: `session_manager.cpp` `SessionManager::CreateSession`. -/
def requestedCommand (request : CreateSessionRequest) : Except String ProviderConfig :=
  let providerConfig := defaultProviderConfig request.provider
  match request.commandShell, request.commandArgv with
  | some shell, _ =>
      if shell.isEmpty then .error "shell command must not be empty"
      else .ok { providerConfig with
        executable := utf8 "/bin/sh"
        defaultArgs := [utf8 "-lc", utf8 shell] }
  | none, some argv =>
      match argv with
      | [] => .error "command argv must not be empty"
      | first :: rest =>
          if first.isEmpty then .error "command argv must not be empty"
          else .ok { providerConfig with
            executable := utf8 first
            defaultArgs := rest.map utf8 }
  | none, none => .ok providerConfig

/-- What a terminal session launches with its resolved environment: in `Shell` mode the login shell
with the generated script.
Source: `session_manager.cpp` `SessionManager::CreateSession`. -/
def terminalLaunch (request : CreateSessionRequest) (mode : EnvMode)
    (effectiveEnv : EffectiveEnvironment) (bootstrapShell : Bytes)
    (launchProviderConfig : ProviderConfig) : ProviderConfig × EffectiveEnvironment :=
  match mode with
  | .shell =>
      let shellPath := effectiveEnv.bootstrapShellPath.getD bootstrapShell
      let shellCommand := buildShellModeCommand effectiveEnv (request.commandShell.map utf8)
        launchProviderConfig.executable launchProviderConfig.defaultArgs
      ({ launchProviderConfig with
          executable := shellPath
          defaultArgs := [utf8 "-il", utf8 "-c", shellCommand] },
        { effectiveEnv with bootstrapShellPath := some shellPath })
  | .clean | .bootstrapFromShell => (launchProviderConfig, effectiveEnv)

/-- The command a log session launches, if its request has one.
Source: `session_manager.cpp` `SessionManager::CreateLogSession`. -/
def requestedLogCommand (request : LogSessionCreateRequest) :
    Except String (Option (Bytes × List Bytes)) :=
  match request.commandShell, request.commandArgv with
  | none, none => .ok none
  | some shell, argv =>
      if shell.isEmpty then .error "shell command must not be empty"
      else if argv.any fun tokens => (tokens.head?.getD "").isEmpty then
        .error "command argv must not be empty"
      else .ok (some (utf8 "/bin/sh", [utf8 "-c", utf8 shell]))
  | none, some argv =>
      match argv with
      | [] => .error "command argv must not be empty"
      | first :: rest =>
          if first.isEmpty then .error "command argv must not be empty"
          else .ok (some (utf8 first, rest.map utf8))

/-- The launch specification of a log session: the command as it is, in every mode.
Source: `session_manager.cpp` `SessionManager::CreateLogSession`. -/
def logLaunchSpec (request : LogSessionCreateRequest) (effectiveEnvironment : EffectiveEnvironment)
    (command : Bytes × List Bytes) : LaunchSpec where
  provider := .codex
  executable := command.1
  arguments := command.2
  effectiveEnvironment := effectiveEnvironment
  workingDirectory := utf8 request.workspaceRoot
  terminalSize := {}

end Sentrits.Service
