import Sentrits.Found.ShellTokens
import Sentrits.Found.Utf8
import Sentrits.Service.GitInspector
import Sentrits.Service.LaunchScript

/-!
# What a shell reads in the generated command lines

Two command lines are put together from texts of others: the `exec` of a command with its arguments,
and the `git` command of the inspector with the path of the workspace. The two quote in different
ways.

* `escapes_shellQuoteByte`, `escapes_shellEscapeByte`: a shell reads each byte of a value as itself.
* `simpleCommand_buildShellExecCommand`, `simpleCommand_gitCommandLine`: the command lines are
  simple commands with the words meant.
* `quoting_is_injection_free`: **whatever the texts are**, unless they have a NUL.

Sources: `src/service/session_manager.cpp`, `src/service/git_inspector.cpp`.
-/

namespace Sentrits.Service

open Found Found.Bytes Found.ShellTokens

/-! ### The two ways of quoting -/

/-- A quote in double quotes, between two single-quoted parts, is read as a quote. -/
theorem escapes_shellQuoteByte : Escapes shellQuoteByte := by
  intro word ch text
  by_cases hquote : ch = quote
  · subst hquote
    have hescape : shellQuoteByte quote =
        [singleQuote, doubleQuote, quote, doubleQuote, singleQuote] := by decide
    rw [hescape]
    simp [tokens_cons, step, plainStep, Begun.beforeWord, Begun.continued, quote, singleQuote,
      doubleQuote, backslash, dollar, backquote]
  · rw [shellQuoteByte, if_neg hquote]
    exact tokens_single_of_ne hquote word text

/-- An escaped quote between two single-quoted parts is read as a quote. -/
theorem escapes_shellEscapeByte : Escapes shellEscapeByte := by
  intro word ch text
  by_cases hquote : ch = quote
  · subst hquote
    have hescape : shellEscapeByte quote = [singleQuote, backslash, quote, singleQuote] := by
      decide
    rw [hescape]
    simp [tokens_cons, step, plainStep, Begun.beforeWord, Begun.continued, quote, singleQuote,
      backslash, lf]
  · rw [shellEscapeByte, if_neg hquote]
    exact tokens_single_of_ne hquote word text

/-- A quoted value begins a word of its own. -/
theorem tokens_shellQuote (value text : Bytes) :
    tokens .nothing .outside (shellQuote value ++ text) =
      tokens (.word (quotedWord value)) .outside text := by
  rw [← tokens_quoted escapes_shellQuoteByte, shellQuote, List.append_assoc]
  rfl

/-- An escaped value begins a word of its own. -/
theorem tokens_shellEscapeSingleQuoted (input text : Bytes) :
    tokens .nothing .outside (shellEscapeSingleQuoted input ++ text) =
      tokens (.word (quotedWord input)) .outside text := by
  rw [← tokens_quoted escapes_shellEscapeByte, shellEscapeSingleQuoted, List.append_assoc]
  rfl

/-! ### The command of a session -/

/-- Arguments behind a word, each behind a blank. -/
theorem tokens_arguments (word : Word) (arguments : List Bytes) :
    tokens (.word word) .outside
        (arguments.flatMap fun argument => utf8 " " ++ shellQuote argument) =
      some (.word word :: arguments.map fun argument => .word (quotedWord argument)) := by
  induction arguments generalizing word with
  | nil => exact tokens_end word
  | cons argument arguments ih =>
      have hblank : utf8 " " = [32] := by decide
      rw [List.flatMap_cons, hblank, List.append_assoc, List.singleton_append, tokens_blank,
        tokens_shellQuote, ← hblank, ih]
      rfl

/-- **A command is read as its words.** -/
theorem tokens_buildShellExecCommand (executable : Bytes) (arguments : List Bytes) :
    tokens .nothing .outside (buildShellExecCommand executable arguments) =
      some (.word (plainWord (utf8 "exec")) :: .word (quotedWord executable) ::
        arguments.map fun argument => .word (quotedWord argument)) := by
  have hexec : utf8 "exec " = utf8 "exec" ++ [32] := by
    rw [utf8_ofList, utf8_ofList]
    decide
  have hordinary : (utf8 "exec").all isOrdinary = true := by decide
  rw [buildShellExecCommand, hexec, List.append_assoc, List.append_assoc, List.singleton_append,
    tokens_plainWord (by decide) hordinary, tokens_shellQuote, tokens_arguments]
  rfl

/-- **The `exec` command** is one simple command of the words meant. -/
theorem simpleCommand_buildShellExecCommand (executable : Bytes) (arguments : List Bytes) :
    simpleCommand (buildShellExecCommand executable arguments) =
      some { words := utf8 "exec" :: executable :: arguments } := by
  have hexec : isSpecial (plainWord (utf8 "exec")) = false ∧
      removeQuotes (plainWord (utf8 "exec")) = some (utf8 "exec") := by decide
  rw [simpleCommand, tokens_buildShellExecCommand, Option.bind_some, command, hexec.1, hexec.2]
  have hwords := command_quotedWords (executable :: arguments)
  rw [List.map_cons] at hwords
  simp [hwords]

/-! ### The command of the inspector -/

/-- The errors of `git` are thrown away. -/
def errorsDiscarded : Redirection where
  number := utf8 "2"
  operator := utf8 ">"
  target := utf8 "/dev/null"

/-- Two plain words, and the redirection. -/
theorem command_plainWords {first second : Bytes} (hfirst : first ≠ [])
    (hfirst' : first.all isOrdinary = true) (hsecond : second ≠ [])
    (hsecond' : second.all isOrdinary = true) (hread : removeQuotes (plainWord first) = some first)
    (hread' : removeQuotes (plainWord second) = some second) :
    (tokens .nothing .outside (first ++ 32 :: (second ++ 32 :: utf8 "2>/dev/null"))).bind
        (command false) =
      some { words := [first, second], redirections := [errorsDiscarded] } := by
  have hbehind : tokens .nothing .outside (utf8 "2>/dev/null") =
      some [.ioNumber (utf8 "2"), .operator (utf8 ">"), .word (plainWord (utf8 "/dev/null"))] := by
    decide +kernel
  have hdiscarded : command false
      [.ioNumber (utf8 "2"), .operator (utf8 ">"), .word (plainWord (utf8 "/dev/null"))] =
        some { redirections := [errorsDiscarded] } := by
    decide +kernel
  rw [tokens_plainWord hfirst hfirst', tokens_plainWord hsecond hsecond', hbehind, Option.map_some,
    Option.map_some, Option.bind_some, command_word hread, command_word hread', hdiscarded]
  rfl

/-- What is behind the path in the two command lines. -/
theorem command_behind_path :
    (tokens .nothing .outside (branchCommand ++ utf8 " 2>/dev/null")).bind (command false) =
        some
          { words := [utf8 "branch", utf8 "--show-current"]
            redirections := [errorsDiscarded] } ∧
      (tokens .nothing .outside (statusCommand ++ utf8 " 2>/dev/null")).bind (command false) =
        some
          { words := [utf8 "status", utf8 "--porcelain"]
            redirections := [errorsDiscarded] } := by
  have hbranch : branchCommand = utf8 "branch" ++ 32 :: utf8 "--show-current" := by
    rw [branchCommand, utf8_ofList, utf8_ofList, utf8_ofList]
    decide +kernel
  have hstatus : statusCommand = utf8 "status" ++ 32 :: utf8 "--porcelain" := by
    rw [statusCommand, utf8_ofList, utf8_ofList, utf8_ofList]
    decide +kernel
  have hrest : utf8 " 2>/dev/null" = 32 :: utf8 "2>/dev/null" := by
    rw [utf8_ofList, utf8_ofList]
    decide +kernel
  rw [hbranch, hstatus, hrest, List.append_assoc, List.append_assoc, List.cons_append,
    List.cons_append]
  constructor
  · apply command_plainWords <;> decide +kernel
  · apply command_plainWords <;> decide +kernel

/-- **The `git` command** is one simple command, in which the path is one word, whatever it is. -/
theorem simpleCommand_gitCommandLine (workspaceRoot : Bytes) {arguments : Bytes}
    {behind : SimpleCommand}
    (h : (tokens .nothing .outside (arguments ++ utf8 " 2>/dev/null")).bind (command false) =
      some behind) :
    simpleCommand (gitCommandLine workspaceRoot arguments) =
      some { behind with words := utf8 "git" :: utf8 "-C" :: workspaceRoot :: behind.words } := by
  obtain ⟨later, hlater, hcommand⟩ := Option.bind_eq_some_iff.mp h
  have hgit : utf8 "git -C " = utf8 "git" ++ 32 :: (utf8 "-C" ++ [32]) := by
    rw [utf8_ofList, utf8_ofList, utf8_ofList]
    decide
  have hblank : utf8 " " = [32] := by decide
  have hordinary : (utf8 "git").all isOrdinary = true ∧ (utf8 "-C").all isOrdinary = true := by
    decide
  have htokens : tokens .nothing .outside (gitCommandLine workspaceRoot arguments) =
      some (.word (plainWord (utf8 "git")) :: .word (plainWord (utf8 "-C")) ::
        .word (quotedWord workspaceRoot) :: later) := by
    rw [gitCommandLine, hgit, hblank]
    simp only [List.append_assoc, List.cons_append, List.nil_append]
    rw [tokens_plainWord (by decide) hordinary.1, tokens_plainWord (by decide) hordinary.2,
      tokens_shellEscapeSingleQuoted, tokens_blank, hlater]
    rfl
  have hwords : isSpecial (plainWord (utf8 "git")) = false ∧
      removeQuotes (plainWord (utf8 "git")) = some (utf8 "git") ∧
      removeQuotes (plainWord (utf8 "-C")) = some (utf8 "-C") := by decide
  rw [simpleCommand, htokens, Option.bind_some, command, hwords.1, hwords.2.1,
    command_word hwords.2.2, command_word (removeQuotes_quotedWord workspaceRoot), hcommand]
  rfl

/-- No NUL is written into a command line. -/
theorem nul_notMem_gitCommandLine {workspaceRoot arguments : Bytes} (hroot : nul ∉ workspaceRoot)
    (harguments : nul ∉ arguments) : nul ∉ gitCommandLine workspaceRoot arguments := by
  have hescaped : nul ∉ shellEscapeSingleQuoted workspaceRoot := by
    intro hin
    rw [shellEscapeSingleQuoted, List.mem_append, List.mem_cons, List.mem_singleton] at hin
    rcases hin with (hin | hin) | hin
    · exact absurd hin (by decide)
    · obtain ⟨ch, hch, hnul⟩ := List.mem_flatMap.mp hin
      unfold shellEscapeByte at hnul
      split_ifs at hnul
      · exact absurd hnul (by decide)
      · exact hroot (List.mem_singleton.mp hnul ▸ hch)
    · exact absurd hin (by decide)
  have hfixed : nul ∉ utf8 "git -C " ∧ nul ∉ utf8 " " ∧ nul ∉ utf8 " 2>/dev/null" := by decide
  unfold gitCommandLine
  simp only [List.mem_append, not_or]
  exact ⟨⟨⟨⟨hfixed.1, hescaped⟩, hfixed.2.1⟩, harguments⟩, hfixed.2.2⟩

/-! ### Nothing else is read -/

/-- **Quoting is free of injections.** Of texts without a NUL, a shell reads the `exec` command as
the words meant, and the path of the workspace as one word of the two `git` commands; nothing is
expanded, and there is no other operator than that of the redirection that is always there. -/
theorem quoting_is_injection_free {executable workspaceRoot : Bytes} {arguments : List Bytes}
    (hexecutable : nul ∉ executable) (harguments : ∀ argument ∈ arguments, nul ∉ argument)
    (hroot : nul ∉ workspaceRoot) :
    simpleCommand (cString (buildShellExecCommand executable arguments)) =
        some { words := utf8 "exec" :: executable :: arguments } ∧
      simpleCommand (cString (gitCommandLine workspaceRoot branchCommand)) =
        some
          { words :=
              [utf8 "git", utf8 "-C", workspaceRoot, utf8 "branch", utf8 "--show-current"]
            redirections := [errorsDiscarded] } ∧
      simpleCommand (cString (gitCommandLine workspaceRoot statusCommand)) =
        some
          { words := [utf8 "git", utf8 "-C", workspaceRoot, utf8 "status", utf8 "--porcelain"]
            redirections := [errorsDiscarded] } := by
  have hbranch : nul ∉ branchCommand := by decide
  have hstatus : nul ∉ statusCommand := by decide
  rw [cString_of_nul_notMem (nul_notMem_buildShellExecCommand
      (List.forall_mem_cons.mpr ⟨hexecutable, harguments⟩)),
    cString_of_nul_notMem (nul_notMem_gitCommandLine hroot hbranch),
    cString_of_nul_notMem (nul_notMem_gitCommandLine hroot hstatus)]
  exact ⟨simpleCommand_buildShellExecCommand executable arguments,
    simpleCommand_gitCommandLine workspaceRoot command_behind_path.1,
    simpleCommand_gitCommandLine workspaceRoot command_behind_path.2⟩

/-- Words with quotes, none, and with commands in them. -/
theorem quoting_is_injection_free_quotes :
    simpleCommand (cString (buildShellExecCommand (utf8 "it's") [[], utf8 "$(rm);\n'"])) =
        some { words := [utf8 "exec", utf8 "it's", [], utf8 "$(rm);\n'"] } ∧
      simpleCommand (cString (gitCommandLine (utf8 "/it's") branchCommand)) =
        some
          { words := [utf8 "git", utf8 "-C", utf8 "/it's", utf8 "branch", utf8 "--show-current"]
            redirections := [errorsDiscarded] } ∧
      simpleCommand (cString (gitCommandLine (utf8 "/it's") statusCommand)) =
        some
          { words := [utf8 "git", utf8 "-C", utf8 "/it's", utf8 "status", utf8 "--porcelain"]
            redirections := [errorsDiscarded] } :=
  quoting_is_injection_free (by decide) (by decide) (by decide)

end Sentrits.Service
