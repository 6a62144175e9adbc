import Sentrits.Found.Runs
import Sentrits.Found.Bytes
import Sentrits.Found.Chunking
import Sentrits.Service.LogBuffer
import Sentrits.Found.Json
import Sentrits.Found.JsonText
import Sentrits.Found.LexicalPath
import Sentrits.Found.PosixEnv
import Sentrits.Net.ExitNotice
import Sentrits.Net.HostIdentityRequests
import Sentrits.Net.StaticAssets
import Sentrits.Net.TerminalStream
import Sentrits.Service.Control
import Sentrits.Service.LaunchEnvironment
import Sentrits.Service.LogLines
import Sentrits.Session.PtyPoll
import Sentrits.Auth.Authorizer
import Sentrits.Auth.PairingRuns
import Sentrits.Found.Effects
import Sentrits.Found.Numbered
import Sentrits.Net.ClientMessages
import Sentrits.Net.ControlLeaks
import Sentrits.Net.HttpAccess
import Sentrits.Net.HttpInput
import Sentrits.Net.RelayTokens
import Sentrits.Net.Server
import Sentrits.Service.LogWindow
import Sentrits.Service.Recorded
import Sentrits.Service.Recovery
import Sentrits.Store.Base64
import Sentrits.Store.PairingFile
import Sentrits.Store.StoreFiles
import Sentrits.Auth.FailedApproval
import Sentrits.Net.EvidencePersistence
import Sentrits.Net.EvidenceTarget
import Sentrits.Net.LocalFrames
import Sentrits.Service.EntryIds
import Sentrits.Service.LogTimes
import Sentrits.Service.TerminalSizes
import Sentrits.Auth.FailedRejection
import Sentrits.Net.RecordOverrides
import Sentrits.Cli.ReclaimComplete
import Sentrits.Found.FileTree
import Sentrits.Found.PosixShell
import Sentrits.Net.WorkspaceFiles
import Sentrits.Service.ColorReports
import Sentrits.Service.FailedCreation
import Sentrits.Service.InputDelivery
import Sentrits.Service.LaunchScript
import Sentrits.Session.SemanticChange
import Sentrits.Session.TerminalMultiplexer
import Sentrits.Store.AtomicWrite
import Sentrits.Found.Latin1
import Sentrits.Found.Layers
import Sentrits.Found.Utf8Cuts
import Sentrits.Service.TailText
import Sentrits.Session.AltScreen
import Sentrits.Session.CellText
import Sentrits.Session.EnvFileText
import Sentrits.Session.EnvLayers
import Sentrits.Session.OutputReader
import Sentrits.Session.ScrollbackPop
import Sentrits.Session.StyledRows
import Sentrits.Session.ViewportRows
import Sentrits.Found.PrefixCode
import Sentrits.Found.OrderedSet
import Sentrits.Found.StreamLines
import Sentrits.Found.CQuoted
import Sentrits.Found.ShellTokens
import Sentrits.Cli.Base64Output
import Sentrits.Cli.HttpResponse
import Sentrits.Service.ReplayToken
import Sentrits.Service.GroupTags
import Sentrits.Service.GitInspector
import Sentrits.Service.CommandLines
import Sentrits.Net.QueryNumbers
import Sentrits.Service.ObservationRuns
import Sentrits.Service.WorkspaceFileWatcher
import Sentrits.Cli.CreateRequest
import Sentrits.Net.TrustedDevices
import Sentrits.Service.LogProcessRuns
import Sentrits.Net.RelayBridge
import Sentrits.Session.BootstrappedEnv
import Sentrits.Net.EnvironmentJson
import Sentrits.Service.CosmeticOutput
