import Mathlib.Data.List.Find
import Sentrits.Service.ManagerRuns
import Sentrits.Session.EnvResolver

/-!
# The environment a session is launched with

What a create request records as the session's environment, and what the program it launches finds
there. There are two kinds of session and three modes: in `Clean` and `BootstrapFromShell` the
process is given one string for each entry; in `Shell` a terminal session is run by the login shell,
behind a script that exports the entries, and a managed-log session is run as it is, with the
daemon's own variables.

* `createSession_launch`, `createLogSession_launch`: the session reports what the launch records.
* `launchOf_script`, `readExports_exportLines`: the script that the login shell is started with has,
  before the command, lines that read as the entries.
* `envp_iff`, `script_iff`: what is applied on each path.
* `recordedApplied_iff`: **what is recorded is applied exactly when** it is not lost on the way.

Sources: `src/service/session_manager.cpp`, `src/service/managed_log_process.cpp`,
`src/session/posix_pty_process.cpp`.
-/

namespace Sentrits.Service

open Found Found.Bytes Found.PosixEnv Session

/-! ### Launches -/

/-- A create request that launches something; the session's id is drawn. -/
inductive LaunchRequest
  | terminal (sessionId : String) (request : CreateSessionRequest)
  | managedLog (request : LogSessionCreateRequest)

/-- What is recorded for the session, and what its process is started with. -/
structure Launch where
  recorded : EffectiveEnvironment
  spec : LaunchSpec

/-- The overrides of a request, as bytes. -/
def overridePairs (overrides : List (String × String)) : List (Bytes × Bytes) :=
  overrides.map fun pair => (utf8 pair.1, utf8 pair.2)

/-- Source: `session_manager.cpp` `SessionManager::CreateSession`. -/
def terminalEnvironment (host : EnvHost) (request : CreateSessionRequest) :
    Except String EffectiveEnvironment :=
  resolveEnvironment host
    { mode := request.envMode.getD .shell
      overrides := overridePairs request.environmentOverrides
      envFilePath := request.envFilePath.map utf8 }
    (utf8 request.workspaceRoot) (defaultProviderConfig request.provider).environmentOverrides

/-- Source: `session_manager.cpp` `SessionManager::CreateLogSession`. -/
def logEnvironment (host : EnvHost) (request : LogSessionCreateRequest) :
    Except String EffectiveEnvironment :=
  resolveEnvironment host
    { mode := request.envMode.getD .shell
      overrides := overridePairs request.environmentOverrides
      envFilePath := request.envFilePath.map utf8 }
    (utf8 request.workspaceRoot) (defaultProviderConfig .codex).environmentOverrides

/-- What a create request records and starts, when it gets that far.
Source: `session_manager.cpp` `CreateSession`, `CreateLogSession`. -/
def launchOf (host : EnvHost) : LaunchRequest → Option Launch
  | .terminal sessionId request =>
      match requestedCommand request, terminalEnvironment host request with
      | .ok providerConfig, .ok environment =>
          let launch := terminalLaunch request (request.envMode.getD .shell) environment
            (resolveBootstrapShell host) providerConfig
          some
            { recorded := launch.2
              spec := buildLaunchSpec (SessionManager.requestedMetadata sessionId request)
                launch.1 [] {} launch.2 }
      | _, _ => none
  | .managedLog request =>
      match requestedLogCommand request, logEnvironment host request with
      | .ok (some command), .ok environment =>
          some { recorded := environment, spec := logLaunchSpec request environment command }
      | _, _ => none

/-! ### What the program finds -/

/-- The strings a process is started with: the daemon's, or C strings of its own.
Source: `posix_pty_process.cpp` `PosixPtyProcess::Start`, `managed_log_process.cpp`
`ManagedLogProcess::Start`. -/
def executedEnviron (host : EnvHost) (spec : LaunchSpec) : List Bytes :=
  match buildEnvp spec with
  | none => host.environ
  | some strings => strings.map cString

/-- The lines that export the entries. -/
def exportLines (entries : List EnvEntry) : Bytes := entries.flatMap exportLine

/-- The command that the script of a terminal session ends with.
Source: `session_manager.cpp` `BuildShellModeCommand`. -/
def scriptCommand (request : CreateSessionRequest) : Bytes :=
  match request.commandShell, requestedCommand request with
  | some command, _ => utf8 command
  | none, .ok providerConfig =>
      buildShellExecCommand providerConfig.executable providerConfig.defaultArgs
  | none, .error _ => []

/-- What stands before the command in the script that the login shell is started with. -/
def linesBefore (command : Bytes) (arguments : List Bytes) : Bytes :=
  let script := arguments.getLast?.getD []
  script.take (script.length - command.length)

/-- What the launched program finds: in `Shell` mode a terminal session's command runs in the login
shell, behind the lines that its script has before it; every other process is the program itself. -/
def programEnvironment (shell : LoginShell) (host : EnvHost) (request : LaunchRequest)
    (launch : Launch) : Environment :=
  match request, launch.recorded.mode with
  | .terminal _ request, .shell =>
      shell.run (shell.start (executedEnviron host launch.spec))
        (cString (linesBefore (scriptCommand request) launch.spec.arguments))
  | _, _ => getenv (executedEnviron host launch.spec)

/-- An entry whose key is the name of a variable and whose value fits a C string. -/
def Settable (entry : EnvEntry) : Prop := IsName entry.key ∧ nul ∉ entry.value

instance (entry : EnvEntry) : Decidable (Settable entry) := by
  unfold Settable
  infer_instance

/-- The program finds every settable entry that is recorded. -/
def RecordedApplied (shell : LoginShell) (host : EnvHost) (request : LaunchRequest) : Prop :=
  ∀ launch, launchOf host request = some launch → ∀ entry ∈ launch.recorded.entries,
    Settable entry → programEnvironment shell host request launch entry.key = some entry.value

/-- No settable entry has a recorded key before it that begins with its name and an equals sign,
unless the two spell the same string. -/
def Unshadowed (entries : List EnvEntry) : Prop :=
  ∀ before entry after, entries = before ++ entry :: after → Settable entry →
    ∀ other, before.find? (fun other => entry.key ++ [equals] <+: other.key) = some other →
      cString (environString other.key other.value) = environString entry.key entry.value

/-- There is no settable entry, or the export lines read as assignments that the shell makes and of
which the last to each settable entry's variable is the entry's. -/
def Exported (reserved : Bytes → Bool) (entries : List EnvEntry) : Prop :=
  (∀ entry ∈ entries, ¬ Settable entry) ∨
    ∃ assignments, readExports (cString (exportLines entries)) = some assignments ∧
      (∀ assignment ∈ assignments, reserved assignment.1 = false) ∧
      ∀ entry ∈ entries, Settable entry →
        assign (fun _ => none) assignments entry.key = some entry.value

/-- What is recorded is not lost on the way to the program. -/
def RecordedReaches (reserved : Bytes → Bool) (host : EnvHost) (request : LaunchRequest) : Prop :=
  ∀ launch, launchOf host request = some launch →
    match request, launch.recorded.mode with
    | .terminal _ _, .shell => Exported reserved launch.recorded.entries
    | .managedLog _, .shell => ∀ entry ∈ launch.recorded.entries, Settable entry →
        getenv host.environ entry.key = some entry.value
    | _, _ => Unshadowed launch.recorded.entries

/-! ### Launches and sessions -/

/-- What is launched for a terminal session. -/
theorem launchOf_terminal {host : EnvHost} (sessionId : String) {request : CreateSessionRequest}
    {config : ProviderConfig} {environment : EffectiveEnvironment}
    (hcommand : requestedCommand request = .ok config)
    (henvironment : terminalEnvironment host request = .ok environment) :
    launchOf host (.terminal sessionId request) =
      let launch := terminalLaunch request (request.envMode.getD .shell) environment
        (resolveBootstrapShell host) config
      some
        { recorded := launch.2
          spec := buildLaunchSpec (SessionManager.requestedMetadata sessionId request)
            launch.1 [] {} launch.2 } := by
  simp only [launchOf, hcommand, henvironment]

/-- What is launched for a log session. -/
theorem launchOf_managedLog {host : EnvHost} {request : LogSessionCreateRequest}
    {command : Bytes × List Bytes} {environment : EffectiveEnvironment}
    (hcommand : requestedLogCommand request = .ok (some command))
    (henvironment : logEnvironment host request = .ok environment) :
    launchOf host (.managedLog request) =
      some { recorded := environment, spec := logLaunchSpec request environment command } := by
  simp only [launchOf, hcommand, henvironment]

/-- A launch records an environment in which every variable stands once, and is made with it. -/
theorem launchOf_spec {host : EnvHost} {request : LaunchRequest} {launch : Launch}
    (h : launchOf host request = some launch) :
    launch.spec.effectiveEnvironment = launch.recorded ∧ DistinctKeys launch.recorded.entries := by
  cases request with
  | terminal sessionId request =>
      simp only [launchOf] at h
      split at h
      next config environment _ henvironment =>
        cases h
        refine ⟨rfl, ?_⟩
        have hdistinct := distinctKeys_resolveEnvironment henvironment
        cases hmode : request.envMode.getD .shell <;> exact hdistinct
      next => cases h
  | managedLog request =>
      simp only [launchOf] at h
      split at h
      next command environment _ henvironment =>
        cases h
        exact ⟨rfl, distinctKeys_resolveEnvironment henvironment⟩
      next => cases h

/-- **In `Shell` mode** a terminal session's process is a shell, and its script is the export lines
with the command behind them. -/
theorem launchOf_script {host : EnvHost} {sessionId : String} {request : CreateSessionRequest}
    {launch : Launch} (h : launchOf host (.terminal sessionId request) = some launch)
    (hmode : launch.recorded.mode = .shell) :
    launch.recorded.bootstrapShellPath = some launch.spec.executable ∧
      launch.spec.arguments =
        [utf8 "-il", utf8 "-c", exportLines launch.recorded.entries ++ scriptCommand request] := by
  simp only [launchOf] at h
  split at h
  next config environment hcommand henvironment =>
    have henvmode := mode_of_resolveEnvironment henvironment
    cases h
    rcases hasked : request.envMode.getD .shell
    · rw [hasked] at hmode henvmode
      exact nomatch henvmode.symm.trans hmode
    · refine ⟨rfl, ?_⟩
      show [_, _, buildShellModeCommand environment (request.commandShell.map utf8)
        config.executable config.defaultArgs] = _
      unfold buildShellModeCommand scriptCommand
      rw [hcommand]
      rcases request.commandShell with _ | command
      · rfl
      · rfl
    · rw [hasked] at hmode henvmode
      exact nomatch henvmode.symm.trans hmode
  next => cases h

/-- Before the command there are the export lines. -/
theorem linesBefore_launchOf {host : EnvHost} {sessionId : String} {request : CreateSessionRequest}
    {launch : Launch} (h : launchOf host (.terminal sessionId request) = some launch)
    (hmode : launch.recorded.mode = .shell) :
    linesBefore (scriptCommand request) launch.spec.arguments =
      exportLines launch.recorded.entries := by
  obtain ⟨-, harguments⟩ := launchOf_script h hmode
  rw [harguments]
  show List.take _ (exportLines launch.recorded.entries ++ scriptCommand request) = _
  rw [List.getLast?_cons_cons, List.getLast?_cons_cons, List.getLast?_singleton, Option.getD_some,
    List.length_append, Nat.add_sub_cancel]
  exact List.take_left

/-- Starting a session keeps what it was started with. -/
theorem start_launchSpec (r : SessionRuntime) (result : StartResult) :
    (r.start result).1.launchSpec = r.launchSpec := by
  unfold SessionRuntime.start
  split
  · rfl
  · dsimp only
    split_ifs <;> rfl

/-- Source: `session_manager.cpp` `SessionManager::GetSessionEnv`. -/
def getSessionEnv (m : SessionManager) (sessionId : String) : Option EffectiveEnvironment :=
  (m.findEntry sessionId).bind (·.effectiveEnvironment)

/-- What is told of a session is what its entry has recorded. -/
theorem getSessionEnv_of_findEntry {m : SessionManager} {sessionId : String} {e : SessionEntry}
    (h : m.findEntry sessionId = some e) : getSessionEnv m sessionId = e.effectiveEnvironment := by
  rw [getSessionEnv, h, Option.bind_some]

/-- A session put behind the others under a new id is the one that is found. -/
theorem findEntry_of_append {m : SessionManager} {entries : List SessionEntry} {e : SessionEntry}
    {id : String} (hid : e.id = id) (hnew : id ∉ entries.map (·.id))
    (h : m.sessions = entries ++ [e]) : m.findEntry id = some e := by
  have hnone : entries.find? (·.id = id) = none := by
    rw [List.find?_eq_none]
    intro e' he' hid'
    exact hnew (List.mem_map.mpr ⟨e', he', of_decide_eq_true hid'⟩)
  rw [SessionManager.findEntry, h, List.find?_append, hnone, Option.none_or]
  exact List.find?_cons_of_pos (decide_eq_true hid)

/-- **A terminal session** reports what its launch records, and is started as its launch says. -/
theorem createSession_launch {host : EnvHost} {m m' : SessionManager} {storeOk : String → Bool}
    {request : CreateSessionRequest} {answers : CreateAnswers} {sessionId : String}
    (hresolved : answers.resolved = terminalEnvironment host request)
    (hshell : answers.bootstrapShell = resolveBootstrapShell host)
    (h : m.createSession storeOk request answers = (m', some sessionId)) :
    ∃ launch e runtime, launchOf host (.terminal sessionId request) = some launch ∧
      getSessionEnv m' sessionId = some launch.recorded ∧
      m'.findEntry sessionId = some e ∧ e.runtime = some runtime ∧
      runtime.launchSpec = launch.spec := by
  unfold SessionManager.createSession at h
  dsimp only at h
  split at h
  next => cases h
  next id hid =>
    obtain ⟨hnew, -⟩ := SessionManager.makeSessionId_spec hid
    split at h
    next => cases h
    next config hcommand =>
      split at h
      next => cases h
      next environment henvironment =>
        by_cases havailable : answers.processAvailable = true
        · rw [if_pos havailable] at h
          split_ifs at h with hstarted
          · obtain ⟨hm, hsessionId⟩ := Prod.mk.inj h
            obtain rfl := Option.some.inj hsessionId
            have hsessions := (congrArg SessionManager.sessions hm).symm.trans
              (SessionManager.sessions_persistEntry _ storeOk _)
            have hfound := findEntry_of_append rfl hnew hsessions
            have hlaunch := launchOf_terminal id hcommand (hresolved ▸ henvironment)
            rw [← hshell] at hlaunch
            exact ⟨_, _, _, hlaunch, getSessionEnv_of_findEntry hfound, hfound, rfl,
              start_launchSpec _ _⟩
          · cases h
        · rw [if_neg havailable] at h
          cases h

/-- **A managed-log session** reports what its launch records. -/
theorem createLogSession_launch {host : EnvHost} {m m' : SessionManager}
    {request : LogSessionCreateRequest} {answers : LogCreateAnswers} {sessionId : String}
    {command : Bytes × List Bytes}
    (hresolved : answers.resolved = logEnvironment host request)
    (hcommand : requestedLogCommand request = .ok (some command))
    (h : m.createLogSession request answers = (m', some sessionId)) :
    ∃ launch, launchOf host (.managedLog request) = some launch ∧
      getSessionEnv m' sessionId = some launch.recorded := by
  unfold SessionManager.createLogSession at h
  dsimp only at h
  split at h
  next => cases h
  next id hid =>
    obtain ⟨hnew, -⟩ := SessionManager.makeSessionId_spec hid
    rw [hcommand] at h
    dsimp only at h
    split at h
    next => cases h
    next environment henvironment =>
      by_cases hstarted : answers.start.started = true
      · rw [if_pos hstarted] at h
        obtain ⟨hm, hsessionId⟩ := Prod.mk.inj h
        obtain rfl := Option.some.inj hsessionId
        have hsessions := congrArg SessionManager.sessions hm.symm
        have hfound := findEntry_of_append rfl hnew hsessions
        exact ⟨_, launchOf_managedLog hcommand (hresolved ▸ henvironment),
          getSessionEnv_of_findEntry hfound⟩
      · rw [if_neg hstarted] at h
        cases h

/-! ### The script of a terminal session -/

/-- The assignments that the export lines are meant to make. -/
def assignmentsOf (entries : List EnvEntry) : List (Bytes × Bytes) :=
  entries.map fun entry => (entry.key, entry.value)

/-- Inside single quotes, a quoted value is read up to the closing quote. -/
theorem readWord_single (value rest : Bytes) :
    readWord .single (value.flatMap shellQuoteByte ++ quote :: rest) =
      (readWord .outside rest).map fun read => (value ++ read.1, read.2) := by
  induction value with
  | nil =>
      rw [List.flatMap_nil, List.nil_append, readWord, if_pos (by rfl)]
      exact Option.map_id'.symm
  | cons ch value ih =>
      rw [List.flatMap_cons, List.append_assoc]
      by_cases hquote : ch = quote
      · subst hquote
        -- out of the single quotes, a quote in double quotes, and in again
        have hback : readWord .single
            (shellQuoteByte quote ++ (value.flatMap shellQuoteByte ++ quote :: rest)) =
            (readWord .single (value.flatMap shellQuoteByte ++ quote :: rest)).map
              fun read => (quote :: read.1, read.2) := by
          simp only [shellQuoteByte, quote, if_true, List.cons_append, List.nil_append, readWord]
          rfl
        rw [hback, ih, Option.map_map]
        rfl
      · have hplain : shellQuoteByte ch = [ch] := if_neg hquote
        have hne : ¬ ch = 39 := hquote
        rw [hplain, List.singleton_append, readWord, if_neg hne, ih, Option.map_map]
        rfl

/-- **A quoted value** is read as the value. -/
theorem readWord_shellQuote (value rest : Bytes) :
    readWord .outside (shellQuote value ++ lf :: rest) = some (value, rest) := by
  rw [shellQuote, List.cons_append, List.cons_append, List.append_assoc, List.singleton_append,
    readWord, if_neg (by decide), if_pos (by rfl), readWord_single, readWord, if_pos rfl,
    Option.map_some, List.append_nil]

/-- How a line is written. -/
theorem exportLine_eq (entry : EnvEntry) :
    exportLine entry = exportWord ++ (entry.key ++ equals :: (shellQuote entry.value ++ [lf])) := by
  have hequals : utf8 "=" = [equals] := by decide
  rw [exportLine, hequals, exportWord]
  simp only [List.append_assoc, List.cons_append, List.nil_append]

/-- **The export lines** of variables are read as the entries. -/
theorem readExports_exportLines {entries : List EnvEntry}
    (h : ∀ entry ∈ entries, IsName entry.key) :
    readExports (exportLines entries) = some (assignmentsOf entries) := by
  induction entries with
  | nil => exact readExports_nil
  | cons entry entries ih =>
      have hword := readWord_shellQuote entry.value (exportLines entries)
      have hline := readExport_line (h entry List.mem_cons_self) hword
      have hcons : exportLines (entry :: entries) =
          exportWord ++
            (entry.key ++ equals :: (shellQuote entry.value ++ lf :: exportLines entries)) := by
        show exportLine entry ++ exportLines entries = _
        rw [exportLine_eq]
        simp only [List.append_assoc, List.cons_append, List.nil_append]
      rw [hcons, readExports_of_readExport hline,
        ih fun entry hin => h entry (List.mem_cons_of_mem _ hin)]
      rfl

/-- Quoting writes no NUL. -/
theorem nul_notMem_shellQuote {value : Bytes} (h : nul ∉ value) : nul ∉ shellQuote value := by
  intro hin
  rw [shellQuote] at hin
  rcases List.mem_append.mp hin with hin | hin
  · rcases List.mem_cons.mp hin with hin | hin
    · exact absurd hin (by decide)
    · obtain ⟨ch, hch, hnul⟩ := List.mem_flatMap.mp hin
      unfold shellQuoteByte at hnul
      split_ifs at hnul
      · exact absurd hnul (by decide)
      · exact h (List.mem_singleton.mp hnul ▸ hch)
  · exact absurd hin (by decide)

/-- The lines of settable entries have no NUL. -/
theorem nul_notMem_exportLines {entries : List EnvEntry} (h : ∀ entry ∈ entries, Settable entry) :
    nul ∉ exportLines entries := by
  intro hin
  obtain ⟨entry, hentry, hnul⟩ := List.mem_flatMap.mp hin
  rw [exportLine_eq] at hnul
  rcases List.mem_append.mp hnul with hnul | hnul
  · exact absurd hnul (by decide)
  rcases List.mem_append.mp hnul with hnul | hnul
  · exact nul_notMem_of_isName (h entry hentry).1 hnul
  rcases List.mem_cons.mp hnul with hnul | hnul
  · exact absurd hnul (by decide)
  rcases List.mem_append.mp hnul with hnul | hnul
  · exact nul_notMem_shellQuote (h entry hentry).2 hnul
  · exact absurd hnul (by decide)

/-- **Entries that can all be set** are exported, when the shell keeps none of them to itself. -/
theorem exported_of_settable {reserved : Bytes → Bool} {entries : List EnvEntry}
    (hdistinct : DistinctKeys entries) (hsettable : ∀ entry ∈ entries, Settable entry)
    (hfree : ∀ entry ∈ entries, reserved entry.key = false) : Exported reserved entries := by
  have hkeys : ((assignmentsOf entries).map Prod.fst).Nodup := by
    rw [assignmentsOf, List.map_map]
    exact hdistinct
  refine Or.inr ⟨assignmentsOf entries, ?_, ?_, ?_⟩
  · rw [cString_of_nul_notMem (nul_notMem_exportLines hsettable)]
    exact readExports_exportLines fun entry hin => (hsettable entry hin).1
  · intro assignment hin
    obtain ⟨entry, hentry, rfl⟩ := List.mem_map.mp hin
    exact hfree entry hentry
  · intro entry hentry _
    exact assign_of_mem hkeys (List.mem_map_of_mem hentry) _

/-- **In `Shell` mode** the export lines set what is recorded, in every shell that does what is
documented, exactly when they are read as the entries. -/
theorem script_iff (reserved : Bytes → Bool) (environ : List Bytes) (entries : List EnvEntry) :
    (∀ shell : LoginShell, shell.Conforms reserved → ∀ entry ∈ entries, Settable entry →
        shell.run (shell.start environ) (cString (exportLines entries)) entry.key =
          some entry.value) ↔
      Exported reserved entries := by
  constructor
  · intro happlied
    by_cases hnone : ∀ entry ∈ entries, ¬ Settable entry
    · exact Or.inl hnone
    obtain ⟨witness, hwitness, hsettable⟩ : ∃ entry ∈ entries, Settable entry := by
      by_contra hall
      exact hnone fun entry hentry hset => hall ⟨entry, hentry, hset⟩
    -- the shell that gives up on anything else
    have hquoted := happlied (quotedShell reserved) (quotedShell_conforms reserved)
    obtain ⟨assignments, hread, hfree, -⟩ :=
      readExports_of_runQuoted (hquoted witness hwitness hsettable)
    refine Or.inr ⟨assignments, hread, hfree, fun entry hentry hset => ?_⟩
    obtain ⟨assignments', hread', -, hvalue⟩ :=
      readExports_of_runQuoted (hquoted entry hentry hset)
    obtain rfl := Option.some.inj (hread.symm.trans hread')
    exact hvalue
  · rintro (hnone | ⟨assignments, hread, hfree, hvalues⟩) shell hshell entry hentry hset
    · exact absurd hset (hnone entry hentry)
    · rw [run_of_readExports hshell hread hfree, assign_eq_or, hvalues entry hentry hset,
        Option.some_or]

/-! ### The strings of the other processes -/

/-- The C string a process is given for an entry. -/
def entryString (entry : EnvEntry) : Bytes := cString (environString entry.key entry.value)

/-- A settable entry is passed on as it is. -/
theorem entryString_of_settable {entry : EnvEntry} (h : Settable entry) :
    entryString entry = environString entry.key entry.value := by
  refine cString_of_nul_notMem fun hin => ?_
  rcases List.mem_append.mp hin with hin | hin
  · exact nul_notMem_of_isName h.1 hin
  · rcases List.mem_cons.mp hin with hin | hin
    · exact absurd hin (by decide)
    · exact h.2 hin

/-- Outside `Shell` mode, a process is given one string for each entry. -/
theorem executedEnviron_of_ne {host : EnvHost} {spec : LaunchSpec}
    (hmode : spec.effectiveEnvironment.mode ≠ .shell) :
    executedEnviron host spec = spec.effectiveEnvironment.entries.map entryString := by
  have hequals : utf8 "=" = [equals] := by decide
  unfold executedEnviron buildEnvp
  cases hspec : spec.effectiveEnvironment.mode with
  | shell => exact absurd hspec hmode
  | clean | bootstrapFromShell =>
      dsimp only
      rw [List.map_map]
      refine List.map_congr_left fun entry _ => ?_
      rw [Function.comp_apply, hequals, List.append_assoc, List.singleton_append]
      rfl

/-- In `Shell` mode, a process is given the strings of the daemon. -/
theorem executedEnviron_of_shell {host : EnvHost} {spec : LaunchSpec}
    (hmode : spec.effectiveEnvironment.mode = .shell) :
    executedEnviron host spec = host.environ := by
  unfold executedEnviron buildEnvp
  rw [hmode]

/-- Where the entries stand once each, a settable one is found among the strings exactly when none
before it begins with its name and an equals sign, and is another. -/
theorem getenv_entryStrings {before after : List EnvEntry} {entry : EnvEntry}
    (hdistinct : DistinctKeys (before ++ entry :: after)) (hset : Settable entry) :
    getenv ((before ++ entry :: after).map entryString) entry.key = some entry.value ↔
      ∀ other, before.find? (fun other => entry.key ++ [equals] <+: other.key) = some other →
        entryString other = environString entry.key entry.value := by
  have hne : ∀ other ∈ before, other.key ≠ entry.key := by
    unfold DistinctKeys at hdistinct
    rw [List.map_append, List.map_cons, List.nodup_append] at hdistinct
    intro other hother
    exact hdistinct.2.2 _ (List.mem_map_of_mem hother) _ List.mem_cons_self
  have hfind : (before.map entryString).find? (fun text => entry.key ++ [equals] <+: text) =
      (before.find? fun other => entry.key ++ [equals] <+: other.key).map entryString := by
    rw [List.find?_map]
    refine congrArg (Option.map entryString) (List.find?_congr fun other hother => ?_)
    exact decide_eq_decide.mpr ((prefix_cString hset.1 _).trans
      (prefix_environString_of_ne hset.1 (hne other hother) _))
  rw [List.map_append, List.map_cons, entryString_of_settable hset, getenv_append_cons, hfind]
  constructor
  · intro hsame other hother
    exact hsame _ (by rw [hother, Option.map_some])
  · intro hsame text htext
    obtain ⟨other, hother, rfl⟩ := Option.map_eq_some_iff.mp htext
    exact hsame other hother

/-- **Outside `Shell` mode** the strings set what is recorded exactly when no entry is shadowed. -/
theorem envp_iff {entries : List EnvEntry} (hdistinct : DistinctKeys entries) :
    (∀ entry ∈ entries, Settable entry →
        getenv (entries.map entryString) entry.key = some entry.value) ↔ Unshadowed entries := by
  constructor
  · rintro happlied before entry after rfl hset
    exact (getenv_entryStrings hdistinct hset).mp
      (happlied entry (List.mem_append_right _ List.mem_cons_self) hset)
  · intro hunshadowed entry hentry hset
    obtain ⟨before, after, rfl⟩ := List.append_of_mem hentry
    exact (getenv_entryStrings hdistinct hset).mpr (hunshadowed before entry after rfl hset)

/-- **Variables** are not shadowed. -/
theorem unshadowed_of_isName {entries : List EnvEntry} (h : ∀ entry ∈ entries, IsName entry.key) :
    Unshadowed entries := by
  rintro before entry after rfl _ other hother
  have hpre : entry.key ++ [equals] <+: other.key := by simpa using List.find?_some hother
  have hin : equals ∈ other.key :=
    hpre.subset (List.mem_append_right _ (List.mem_singleton.mpr rfl))
  have hname := h other (List.mem_append_left _ (List.mem_of_find?_eq_some hother))
  exact absurd hin (equals_notMem_of_isName hname)

/-! ### What is recorded and what is applied -/

/-- There is a shell that does what is documented. -/
theorem forall_conforms_iff (reserved : Bytes → Bool) (P : Prop) :
    (∀ shell : LoginShell, shell.Conforms reserved → P) ↔ P := by
  exact ⟨fun h => h _ (quotedShell_conforms reserved), fun h _ _ => h⟩

/-- **What is recorded is applied**, whatever the shell does that is not documented, exactly when it
is not lost on the way: in the other modes when no entry is shadowed; in `Shell` mode, for a
terminal session, when the export lines are read as the entries, and for a managed-log session,
whose command gets no export lines, when the daemon itself has the variables already. -/
theorem recordedApplied_iff (reserved : Bytes → Bool) (host : EnvHost) (request : LaunchRequest) :
    (∀ shell : LoginShell, shell.Conforms reserved → RecordedApplied shell host request) ↔
      RecordedReaches reserved host request := by
  unfold RecordedApplied RecordedReaches
  rcases hlaunch : launchOf host request with _ | launch
  · exact ⟨fun _ _ h => (Option.some_ne_none _ h.symm).elim,
      fun _ _ _ _ h => (Option.some_ne_none _ h.symm).elim⟩
  obtain ⟨hspec, hdistinct⟩ := launchOf_spec hlaunch
  simp only [Option.some.injEq, forall_eq']
  have henvp : launch.recorded.mode ≠ .shell →
      ((∀ shell : LoginShell, shell.Conforms reserved → ∀ entry ∈ launch.recorded.entries,
          Settable entry → getenv (executedEnviron host launch.spec) entry.key = some entry.value) ↔
        Unshadowed launch.recorded.entries) := by
    intro hmode
    rw [executedEnviron_of_ne (hspec ▸ hmode), hspec, forall_conforms_iff]
    exact envp_iff hdistinct
  cases hmode : launch.recorded.mode with
  | shell =>
      have hdaemon : executedEnviron host launch.spec = host.environ :=
        executedEnviron_of_shell (hspec ▸ hmode)
      cases request with
      | terminal sessionId request =>
          simp only [programEnvironment, hmode, hdaemon, linesBefore_launchOf hlaunch hmode]
          exact script_iff reserved host.environ launch.recorded.entries
      | managedLog request =>
          simp only [programEnvironment, hdaemon]
          exact forall_conforms_iff reserved _
  | clean | bootstrapFromShell =>
      cases request <;> simpa only [programEnvironment, hmode] using henvp (by rw [hmode]; decide)

/-- **A managed-log session loses its overrides**: it is created, `FOO` is reported, and the
command is run with the daemon's own variables. -/
theorem managedLog_loses_override :
    let host : EnvHost :=
      { environ := [utf8 "PATH=/usr/bin"]
        readFile := fun _ => none
        fileExists := fun _ => false
        identity := {}
        bootstrap := fun _ => .error "" }
    let request : LogSessionCreateRequest :=
      { workspaceRoot := "/work"
        commandArgv := some ["env"]
        environmentOverrides := [("FOO", "bar")] }
    let created := SessionManager.createLogSession {} request
      { candidates := ["log"]
        resolved := logEnvironment host request
        start := { started := true } }
    created.2 = some "log" ∧
      (getSessionEnv created.1 "log").map (·.entries) =
        some [{ key := utf8 "FOO", value := utf8 "bar", source := .sessionOverride }] ∧
      (quotedShell fun _ => false).Conforms (fun _ => false) ∧
      ¬ RecordedApplied (quotedShell fun _ => false) host (.managedLog request) := by
  intro host request created
  refine ⟨by decide, by decide, quotedShell_conforms _, fun happlied => ?_⟩
  have hlaunch : launchOf host (.managedLog request) = some _ := launchOf_managedLog rfl rfl
  have hvalue := happlied _ hlaunch
    { key := utf8 "FOO", value := utf8 "bar", source := .sessionOverride } (by decide) (by decide)
  have hdaemon : getenv [utf8 "PATH=/usr/bin"] (utf8 "FOO") = none := by decide
  exact absurd (hdaemon.symm.trans hvalue) (by decide)

end Sentrits.Service
