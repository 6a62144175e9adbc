import Sentrits.Found.PosixShell
import Sentrits.Service.LaunchEnvironment

/-!
# What the script of a terminal session does

In `Shell` mode the command of a session is run by a script: a line that exports each variable of
the environment, and the `exec` of the command. The values are quoted; the keys are not.

* `readArguments_shellQuote`: quoted words are read as the words.
* `run_buildShellModeCommand`: what a shell does with a script whose keys are names.
* `scriptExact_iff`: **the script exports every variable once, executes the command and does nothing
  else exactly when** the keys are names, and no text has a NUL.

Source: `src/service/session_manager.cpp`.
-/

namespace Sentrits.Service

open Found Found.Bytes Found.PosixEnv Found.PosixShell Session

/-! ### Quoted words -/

/-- Inside single quotes, the quoted word is read up to the closing quote. -/
theorem readArguments_single (word value rest : Bytes) :
    readArguments (some word) .single (value.flatMap shellQuoteByte ++ quote :: rest) =
      readArguments (some (word ++ value)) .outside rest := by
  induction value generalizing word with
  | nil => rw [List.flatMap_nil, List.nil_append, readArguments, if_pos (by rfl), List.append_nil]
  | cons ch value ih =>
      rw [List.flatMap_cons, List.append_assoc]
      by_cases hquote : ch = quote
      · subst hquote
        -- out of the single quotes, a quote in double quotes, and in again
        have hback : readArguments (some word) .single
            (shellQuoteByte quote ++ (value.flatMap shellQuoteByte ++ quote :: rest)) =
            readArguments (some (word ++ [quote])) .single
              (value.flatMap shellQuoteByte ++ quote :: rest) := by
          simp [shellQuoteByte, quote, readArguments, blank]
        rw [hback, ih, List.append_assoc, List.singleton_append]
      · have hplain : shellQuoteByte ch = [ch] := if_neg hquote
        have hne : ¬ ch = 39 := hquote
        rw [hplain, List.singleton_append, readArguments, if_neg hne, Option.map_some, ih,
          List.append_assoc, List.singleton_append]

/-- **A quoted word** is read as the word. -/
theorem readArguments_shellQuote (value rest : Bytes) :
    readArguments none .outside (shellQuote value ++ rest) =
      readArguments (some value) .outside rest := by
  rw [shellQuote, List.cons_append, List.cons_append, List.append_assoc, List.singleton_append,
    readArguments, if_neg (by decide), if_pos (by rfl), Option.getD_none, readArguments_single,
    List.nil_append]

/-- The words behind the first are read as they were quoted. -/
theorem readArguments_quoted (value : Bytes) (arguments : List Bytes) :
    readArguments (some value) .outside
        (arguments.flatMap fun argument => utf8 " " ++ shellQuote argument) =
      some (value :: arguments) := by
  have hblank : utf8 " " = [blank] := by decide
  induction arguments generalizing value with
  | nil => rfl
  | cons argument arguments ih =>
      rw [List.flatMap_cons, hblank, List.append_assoc, List.singleton_append, readArguments,
        if_pos rfl, readArguments_shellQuote, ← hblank, ih]
      rfl

/-- **The words of a command** are read as they were quoted. -/
theorem readArguments_command (executable : Bytes) (arguments : List Bytes) :
    readArguments none .outside (shellQuote executable ++
        arguments.flatMap fun argument => utf8 " " ++ shellQuote argument) =
      some (executable :: arguments) := by
  rw [readArguments_shellQuote, readArguments_quoted]

/-- No NUL is written into the command. -/
theorem nul_notMem_buildShellExecCommand {executable : Bytes} {arguments : List Bytes}
    (h : ∀ word ∈ executable :: arguments, nul ∉ word) :
    nul ∉ buildShellExecCommand executable arguments := by
  rw [List.forall_mem_cons] at h
  have hword : nul ∉ utf8 "exec " := by decide
  have hblank : nul ∉ utf8 " " := by decide
  unfold buildShellExecCommand
  simp only [List.mem_append, List.mem_flatMap, not_or, not_exists, not_and]
  exact ⟨⟨hword, nul_notMem_shellQuote h.1⟩, fun argument hargument =>
    ⟨hblank, nul_notMem_shellQuote (h.2 argument hargument)⟩⟩

/-! ### What the script does -/

/-- What is meant to be done: every variable is exported, and the command executed. -/
def meantActions (entries : List EnvEntry) (words : List Bytes) : List Action :=
  entries.map (fun entry => .exported entry.key entry.value) ++ [.executed words]

/-- The script of a command, as the shell gets it. -/
def scriptOf (environment : EffectiveEnvironment) (executable : Bytes) (arguments : List Bytes) :
    Bytes :=
  cString (buildShellModeCommand environment none executable arguments)

/-- **A shell does what is meant:** it exports the variables, each once, executes the command, and
does nothing else. -/
structure ScriptExact (shell : Shell) (start : Environment) (environment : EffectiveEnvironment)
    (executable : Bytes) (arguments : List Bytes) : Prop where
  actions : shell.run start (scriptOf environment executable arguments) =
    meantActions environment.entries (executable :: arguments)
  once : ∀ entry ∈ environment.entries,
    (shell.run start (scriptOf environment executable arguments)).count
      (.exported entry.key entry.value) = 1

/-- The keys are names of variables that are not the shell's own, no value and no word has a NUL,
and the command does not look like an option. -/
structure Plain (reserved : Bytes → Bool) (entries : List EnvEntry) (executable : Bytes)
    (arguments : List Bytes) : Prop where
  settable : ∀ entry ∈ entries, Settable entry
  free : ∀ entry ∈ entries, reserved entry.key = false
  words : ∀ word ∈ executable :: arguments, nul ∉ word
  command : executable.head? ≠ some hyphen

/-- A script with no NUL in it is given to the shell as it is. -/
theorem scriptOf_eq {reserved : Bytes → Bool} {environment : EffectiveEnvironment}
    {executable : Bytes} {arguments : List Bytes}
    (h : Plain reserved environment.entries executable arguments) :
    scriptOf environment executable arguments =
      exportLines environment.entries ++ buildShellExecCommand executable arguments := by
  unfold scriptOf buildShellModeCommand
  dsimp only
  refine cString_of_nul_notMem fun hin => ?_
  rcases List.mem_append.mp hin with hin | hin
  · exact nul_notMem_exportLines h.settable hin
  · exact nul_notMem_buildShellExecCommand h.words hin

/-- **What a shell does with the lines:** it exports the variables, and goes on. -/
theorem run_exportLines {reserved : Bytes → Bool} {shell : Shell} (hshell : shell.Conforms reserved)
    {entries : List EnvEntry} (hsettable : ∀ entry ∈ entries, Settable entry)
    (hfree : ∀ entry ∈ entries, reserved entry.key = false) (rest : Bytes) (start : Environment) :
    ∃ env, shell.run start (exportLines entries ++ rest) =
      entries.map (fun entry => .exported entry.key entry.value) ++ shell.run env rest := by
  induction entries generalizing start with
  | nil => exact ⟨start, rfl⟩
  | cons entry entries ih =>
      rw [List.forall_mem_cons] at hsettable hfree
      have hword := readWord_shellQuote entry.value (exportLines entries ++ rest)
      have hline := readExport_line hsettable.1.1 hword
      have hcons : exportLines (entry :: entries) ++ rest =
          exportWord ++ (entry.key ++
            equals :: (shellQuote entry.value ++ lf :: (exportLines entries ++ rest))) := by
        show (exportLine entry ++ exportLines entries) ++ rest = _
        rw [exportLine_eq]
        simp only [List.append_assoc, List.cons_append, List.nil_append]
      obtain ⟨env, hrest⟩ := ih hsettable.2 hfree.2
        (Function.update start entry.key (some entry.value))
      refine ⟨env, ?_⟩
      rw [hcons, hshell.run_export start hline hfree.1, hrest]
      rfl

/-- **What a shell does with the script** when nothing in it is out of the ordinary. -/
theorem run_buildShellModeCommand {reserved : Bytes → Bool} {shell : Shell}
    (hshell : shell.Conforms reserved) {environment : EffectiveEnvironment} {executable : Bytes}
    {arguments : List Bytes} (h : Plain reserved environment.entries executable arguments)
    (start : Environment) :
    shell.run start (scriptOf environment executable arguments) =
      meantActions environment.entries (executable :: arguments) := by
  obtain ⟨env, hlines⟩ := run_exportLines hshell h.settable h.free
    (buildShellExecCommand executable arguments) start
  have hcommand : buildShellExecCommand executable arguments = execWord ++
      (shellQuote executable ++
        arguments.flatMap fun argument => utf8 " " ++ shellQuote argument) := by
    rw [buildShellExecCommand, execWord, List.append_assoc]
  rw [scriptOf_eq h, hlines, hcommand,
    hshell.run_exec env (readArguments_command executable arguments) h.command]
  rfl

/-- Whatever shell does what is meant, the keys are names, and no text has a NUL. -/
theorem settable_of_actions {reserved : Bytes → Bool} {shell : Shell}
    (hshell : shell.Conforms reserved) {start : Environment} {environment : EffectiveEnvironment}
    {executable : Bytes} {arguments : List Bytes}
    (h : shell.run start (scriptOf environment executable arguments) =
      meantActions environment.entries (executable :: arguments)) :
    (∀ entry ∈ environment.entries, Settable entry) ∧
      ∀ word ∈ executable :: arguments, nul ∉ word := by
  have hnul : nul ∉ scriptOf environment executable arguments := nul_notMem_cString _
  constructor
  · intro entry hentry
    apply hshell.exported start hnul
    rw [h]
    exact List.mem_append_left _ (List.mem_map_of_mem hentry)
  · apply hshell.executed start hnul
    rw [h]
    exact List.mem_append_right _ (List.mem_singleton.mpr rfl)

/-- Variables that are recorded once are exported once. -/
theorem count_meantActions {entries : List EnvEntry} (hdistinct : DistinctKeys entries)
    (words : List Bytes) {entry : EnvEntry} (h : entry ∈ entries) :
    (meantActions entries words).count (.exported entry.key entry.value) = 1 := by
  have hkeys : (entries.map fun entry => Action.exported entry.key entry.value).Nodup := by
    refine List.Nodup.of_map (fun action => match action with
      | .exported name _ => name
      | _ => []) ?_
    rw [List.map_map]
    exact hdistinct
  unfold meantActions
  rw [List.count_append, List.count_eq_one_of_mem hkeys (List.mem_map_of_mem h),
    List.count_eq_zero_of_not_mem (by simp)]

/-- **The script of a resolved environment does what is meant, in every shell that does what is
documented, exactly when** every key is a name, no text has a NUL, no variable is the shell's own
and the command does not look like an option. -/
theorem scriptExact_iff (reserved : Bytes → Bool) (host : EnvHost) (config : EnvConfig)
    (workspaceRoot : Bytes) (providerOverrides : List (Bytes × Bytes))
    (environment : EffectiveEnvironment) (executable : Bytes) (arguments : List Bytes)
    (h : resolveEnvironment host config workspaceRoot providerOverrides = .ok environment) :
    (∀ shell : Shell, shell.Conforms reserved → ∀ start,
        ScriptExact shell start environment executable arguments) ↔
      Plain reserved environment.entries executable arguments := by
  constructor
  · intro hexact
    -- the shell that gives up on anything else
    have hactions := (hexact (wordShell reserved) (wordShell_conforms reserved) fun _ => none).actions
    have hnul : nul ∉ scriptOf environment executable arguments := nul_notMem_cString _
    obtain ⟨hsettable, hwords⟩ := settable_of_actions (wordShell_conforms reserved) hactions
    have hin : ∀ action ∈ meantActions environment.entries (executable :: arguments),
        action ∈ runWords reserved (scriptOf environment executable arguments) := by
      intro action haction
      rw [← hactions] at haction
      exact haction
    refine ⟨hsettable, fun entry hentry => ?_, hwords, ?_⟩
    · exact (exported_of_runWords hnul
        (hin _ (List.mem_append_left _ (List.mem_map_of_mem hentry)))).2.2
    · exact (executed_of_runWords hnul
        (hin _ (List.mem_append_right _ (List.mem_singleton.mpr rfl)))).2 executable rfl
  · intro hplain shell hshell start
    have hactions := run_buildShellModeCommand hshell hplain start
    refine ⟨hactions, fun entry hentry => ?_⟩
    rw [hactions]
    exact count_meantActions (distinctKeys_resolveEnvironment h) _ hentry

/-- A host with nothing to add. -/
def bareHost : EnvHost where
  environ := []
  readFile := fun _ => none
  fileExists := fun _ => false
  identity := {}
  bootstrap := fun _ => .error ""

/-- What one override is resolved to. -/
def overridden (key value : Bytes) : EffectiveEnvironment where
  entries := [{ key, value, source := .sessionOverride }]
  mode := .shell
  bootstrapShellPath := some (utf8 "/bin/bash")

/-- A value with a quote in it is exported by every shell. -/
theorem scriptExact_quote :
    resolveEnvironment bareHost { overrides := [(utf8 "FOO", [105, 116, quote, 115])] }
        (utf8 "/work") [] = .ok (overridden (utf8 "FOO") [105, 116, quote, 115]) ∧
      ∀ shell : Shell, shell.Conforms (fun _ => false) → ∀ start,
        ScriptExact shell start (overridden (utf8 "FOO") [105, 116, quote, 115]) (utf8 "make")
          [utf8 "all"] := by
  have hresolved : resolveEnvironment bareHost
      { overrides := [(utf8 "FOO", [105, 116, quote, 115])] } (utf8 "/work") [] =
        .ok (overridden (utf8 "FOO") [105, 116, quote, 115]) := by rfl
  refine ⟨hresolved, (scriptExact_iff (fun _ => false) bareHost _ (utf8 "/work") [] _
    (utf8 "make") [utf8 "all"] hresolved).mpr ?_⟩
  exact { settable := by decide, free := fun _ _ => rfl, words := by decide, command := by decide }

/-- A key with a semicolon in it ends the command it is put into: there is no shell that exports the
variable. -/
theorem script_not_exact :
    ¬∀ (host : EnvHost) (config : EnvConfig) (workspaceRoot : Bytes)
        (providerOverrides : List (Bytes × Bytes)) (environment : EffectiveEnvironment)
        (executable : Bytes) (arguments : List Bytes),
        resolveEnvironment host config workspaceRoot providerOverrides = .ok environment →
        ∃ shell : Shell, shell.Conforms (fun _ => false) ∧ ∃ start,
          ScriptExact shell start environment executable arguments := by
  intro h
  obtain ⟨shell, hshell, start, hexact⟩ := h bareHost
    { overrides := [(utf8 "A;B", utf8 "1")] } (utf8 "/work") []
    (overridden (utf8 "A;B") (utf8 "1")) (utf8 "make") [] (by rfl)
  obtain ⟨hsettable, -⟩ := settable_of_actions hshell hexact.actions
  exact absurd (hsettable _ List.mem_cons_self).1 (by decide)

end Sentrits.Service
