import Sentrits.Found.Bytes
import Sentrits.Session.Types

/-!
# What is launched, and with which environment

The launch specification handed to a process, and the resolved environment recorded with it.
Everything that goes through `exec` is bytes: an environment value may come from a file or from
the daemon's own environment.

* `EffectiveEnvironment`: the entries the daemon resolved and reports.
* `buildLaunchSpec`: the specification of a terminal session.

Sources: `include/vibe/session/env_config.h`, `include/vibe/session/launch_spec.h`,
`include/vibe/session/provider_config.h`, `src/session/env_config.cpp`,
`src/session/launch_spec.cpp`, `src/session/provider_config.cpp`.
-/

namespace Sentrits.Session

open Found Found.Bytes

/-- Source: `env_config.h` `EnvMode`. -/
inductive EnvMode
  /-- Only base variables, overrides and the `.env` file. -/
  | clean
  /-- Launch the command through the configured login shell. -/
  | shell
  /-- Capture the environment of a login shell once and apply it. -/
  | bootstrapFromShell
  deriving DecidableEq

/-- Source: `env_config.cpp` `ToString(EnvMode)`. -/
def EnvMode.toString : EnvMode → String
  | .clean => "clean"
  | .shell => "shell"
  | .bootstrapFromShell => "bootstrap_from_shell"

/-- Source: `env_config.h` `EnvSource`. -/
inductive EnvSource
  | daemonInherited
  | serviceManager
  | bootstrapShell
  | envFile
  | providerConfig
  | sessionOverride
  deriving DecidableEq

/-- Source: `env_config.h` `EnvEntry`. -/
structure EnvEntry where
  key : Bytes
  value : Bytes
  source : EnvSource
  deriving DecidableEq

/-- The resolved environment of a session, in order.
Source: `env_config.h` `EffectiveEnvironment`. -/
structure EffectiveEnvironment where
  entries : List EnvEntry := []
  mode : EnvMode := .shell
  bootstrapShellPath : Option Bytes := none
  envFilePath : Option Bytes := none
  bootstrapWarning : Option Bytes := none
  deriving DecidableEq

/-- Source: `provider_config.h` `ProviderConfig`. -/
structure ProviderConfig where
  type : ProviderType
  executable : Bytes
  defaultArgs : List Bytes := []
  environmentOverrides : List (Bytes × Bytes) := []
  deriving DecidableEq

/-- Source: `provider_config.cpp` `DefaultProviderConfig`. -/
def defaultProviderConfig (provider : ProviderType) : ProviderConfig :=
  match provider with
  | .codex => { type := .codex, executable := utf8 "codex" }
  | .claude => { type := .claude, executable := utf8 "claude" }

/-- Source: `launch_spec.h` `LaunchSpec`. -/
structure LaunchSpec where
  provider : ProviderType
  executable : Bytes
  arguments : List Bytes
  effectiveEnvironment : EffectiveEnvironment
  workingDirectory : Bytes
  terminalSize : TerminalSize
  deriving DecidableEq

/-- Source: `launch_spec.cpp` `BuildLaunchSpec`. -/
def buildLaunchSpec (metadata : SessionMetadata) (providerConfig : ProviderConfig)
    (extraArguments : List Bytes := []) (terminalSize : TerminalSize := {})
    (effectiveEnvironment : EffectiveEnvironment := {}) : LaunchSpec where
  provider := metadata.provider
  executable := providerConfig.executable
  arguments := providerConfig.defaultArgs ++ extraArguments
  effectiveEnvironment := effectiveEnvironment
  workingDirectory := utf8 metadata.workspaceRoot
  terminalSize := terminalSize

end Sentrits.Session
