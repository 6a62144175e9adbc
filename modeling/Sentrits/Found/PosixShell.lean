import Sentrits.Found.PosixEnv

/-!
# What a shell does with a script

The commands a shell carries out when it is given a script of `export` lines with an `exec` behind
them, as far as that is documented.

* `readArguments`: the words of a command, when each of them is put together from quoted strings.
* `Shell`, `Shell.Conforms`: a shell, and what is documented of it.
* `runWords`, `wordShell`: a shell that gives up on anything else, and `wordShell_conforms`.
* `exported_of_runWords`, `executed_of_runWords`: what that shell can have carried out.
-/

namespace Found.PosixShell

open Bytes PosixEnv

/-! ### The words of a command -/

/-- The blank between two words. -/
def blank : UInt8 := 32

/-- Reads the words up to the end of the script; `word` is the one begun. -/
def readArguments : Option Bytes → Quoting → Bytes → Option (List Bytes)
  | word, .outside, [] => some word.toList
  | _, _, [] => none
  | word, .outside, ch :: text =>
      if ch = blank then (readArguments none .outside text).map (word.toList ++ ·)
      else if ch = 39 then readArguments (some (word.getD [])) .single text
      else if ch = 34 then readArguments (some (word.getD [])) .double text
      else none
  | word, .single, ch :: text =>
      if ch = 39 then readArguments word .outside text
      else readArguments (word.map (· ++ [ch])) .single text
  | word, .double, ch :: text =>
      if ch = 34 then readArguments word .outside text
      -- a dollar sign, a backquote or a backslash keeps its meaning
      else if ch = 36 ∨ ch = 96 ∨ ch = 92 then none
      else readArguments (word.map (· ++ [ch])) .double text

/-- The words are made of what was read. -/
theorem mem_of_readArguments {word : Option Bytes} {quoting : Quoting} {text : Bytes}
    {words : List Bytes} (h : readArguments word quoting text = some words) {argument : Bytes}
    (hargument : argument ∈ words) {ch : UInt8} (hch : ch ∈ argument) :
    ch ∈ word.getD [] ∨ ch ∈ text := by
  induction text generalizing word quoting words with
  | nil =>
      cases quoting with
      | outside =>
          rw [readArguments] at h
          rw [← Option.some.inj h, Option.mem_toList] at hargument
          exact Or.inl (hargument ▸ hch)
      | single => cases h
      | double => cases h
  | cons first text ih =>
      have hgrown : ∀ {quoting' : Quoting},
          readArguments (word.map (· ++ [first])) quoting' text = some words →
          ch ∈ word.getD [] ∨ ch ∈ first :: text := by
        intro quoting' hread
        rcases ih hread hargument with hin | hin
        · rcases word with _ | word
          · exact absurd hin List.not_mem_nil
          · rcases List.mem_append.mp hin with hin | hin
            · exact Or.inl hin
            · exact Or.inr (List.mem_singleton.mp hin ▸ List.mem_cons_self)
        · exact Or.inr (List.mem_cons_of_mem first hin)
      have hkept : ∀ {word' : Option Bytes} {quoting' : Quoting},
          word'.getD [] = word.getD [] → readArguments word' quoting' text = some words →
          ch ∈ word.getD [] ∨ ch ∈ first :: text := by
        intro word' quoting' hword hread
        rcases ih hread hargument with hin | hin
        · exact Or.inl (hword ▸ hin)
        · exact Or.inr (List.mem_cons_of_mem first hin)
      cases quoting with
      | outside =>
          rw [readArguments] at h
          split_ifs at h
          · obtain ⟨later, hlater, rfl⟩ := Option.map_eq_some_iff.mp h
            rcases List.mem_append.mp hargument with hin | hin
            · rw [Option.mem_toList] at hin
              exact Or.inl (hin ▸ hch)
            · rcases ih hlater hin with hnil | hin
              · exact absurd hnil List.not_mem_nil
              · exact Or.inr (List.mem_cons_of_mem first hin)
          · exact hkept (by rfl) h
          · exact hkept (by rfl) h
      | single =>
          rw [readArguments] at h
          split_ifs at h
          · exact hkept rfl h
          · exact hgrown h
      | double =>
          rw [readArguments] at h
          split_ifs at h
          · exact hkept rfl h
          · exact hgrown h

/-! ### Shells -/

/-- A command that is carried out. -/
inductive Action
  | exported (name value : Bytes)
  | executed (words : List Bytes)
  | other
  deriving DecidableEq

/-- The beginning of an `exec` command. -/
def execWord : Bytes := utf8 "exec "

/-- A hyphen. -/
def hyphen : UInt8 := 45

/-- The commands a shell carries out, in their order, when it has some variables and is given a
script. -/
structure Shell where
  run : Environment → Bytes → List Action

/-- What is documented of a shell: an `export` line exports the variable, unless the shell keeps it
to itself, and `exec` puts the command in its place, unless that could be an option; and a variable
has a name, and a string no NUL. -/
structure Shell.Conforms (reserved : Bytes → Bool) (shell : Shell) : Prop where
  run_export : ∀ env {script name value rest}, readExport script = some (name, value, rest) →
    reserved name = false →
    shell.run env script =
      .exported name value :: shell.run (Function.update env name (some value)) rest
  run_exec : ∀ env {text command arguments},
    readArguments none .outside text = some (command :: arguments) →
    command.head? ≠ some hyphen →
    shell.run env (execWord ++ text) = [.executed (command :: arguments)]
  exported : ∀ env {script name value}, nul ∉ script →
    .exported name value ∈ shell.run env script → IsName name ∧ nul ∉ value
  executed : ∀ env {script words}, nul ∉ script → .executed words ∈ shell.run env script →
    ∀ word ∈ words, nul ∉ word

/-! ### The shell that gives up -/

/-- The last command, when it is an `exec` of quoted words. -/
def runExec (script : Bytes) : List Action :=
  if execWord <+: script then
    match readArguments none .outside (script.drop execWord.length) with
    | some (command :: arguments) =>
        if command.head? = some hyphen then [.other] else [.executed (command :: arguments)]
    | _ => [.other]
  else if script = [] then []
  else [.other]

/-- What a shell carries out that gives up on all but `export` lines of variables that are not its
own and an `exec` of quoted words. -/
def runWords (reserved : Bytes → Bool) (script : Bytes) : List Action :=
  match h : readExport script with
  | some (name, value, rest) =>
      have := readExport_length h
      if reserved name then [.other] else .exported name value :: runWords reserved rest
  | none => runExec script
termination_by script.length

/-- The shell that gives up on all else. -/
def wordShell (reserved : Bytes → Bool) : Shell where
  run _ := runWords reserved

/-- The first line is carried out, unless the shell keeps the name for itself. -/
theorem runWords_of_readExport {reserved : Bytes → Bool} {script name value rest : Bytes}
    (h : readExport script = some (name, value, rest)) :
    runWords reserved script =
      if reserved name then [.other] else .exported name value :: runWords reserved rest := by
  rw [runWords]
  split
  next name' value' rest' h' =>
    cases h.symm.trans h'
    rfl
  next h' => cases h.symm.trans h'

/-- An `exec` is no `export` line. -/
theorem readExport_execWord (text : Bytes) : readExport (execWord ++ text) = none := by
  have hexport : exportWord = [101, 120, 112, 111, 114, 116, 32] := by decide
  have hexec : execWord = [101, 120, 101, 99, 32] := by decide
  unfold readExport
  rw [if_neg]
  rw [hexport, hexec]
  simp [List.cons_prefix_cons]

/-- What begins with `exec` is executed. -/
theorem runWords_execWord (reserved : Bytes → Bool) (text : Bytes) :
    runWords reserved (execWord ++ text) = runExec (execWord ++ text) := by
  rw [runWords]
  split
  next h => cases (readExport_execWord text).symm.trans h
  next => rfl

/-- The value and what comes behind the line are made of what was read. -/
theorem mem_of_readWord {quoting : Quoting} {text value rest : Bytes}
    (h : readWord quoting text = some (value, rest)) {ch : UInt8} (hch : ch ∈ value ∨ ch ∈ rest) :
    ch ∈ text := by
  induction text generalizing quoting value with
  | nil => cases quoting <;> cases h
  | cons first text ih =>
      have hskip : ∀ {quoting' : Quoting}, readWord quoting' text = some (value, rest) →
          ch ∈ first :: text :=
        fun hread => List.mem_cons_of_mem first (ih hread hch)
      have hmap : ∀ {quoting' : Quoting}, ((readWord quoting' text).map
          fun read => (first :: read.1, read.2)) = some (value, rest) → ch ∈ first :: text := by
        intro quoting' hread
        obtain ⟨⟨value', rest'⟩, hinner, heq⟩ := Option.map_eq_some_iff.mp hread
        obtain ⟨rfl, rfl⟩ := Prod.mk.inj heq
        rcases hch with hch | hch
        · rcases List.mem_cons.mp hch with rfl | hch
          · exact List.mem_cons_self
          · exact List.mem_cons_of_mem first (ih hinner (Or.inl hch))
        · exact List.mem_cons_of_mem first (ih hinner (Or.inr hch))
      unfold readWord at h
      cases quoting with
      | outside =>
          dsimp only at h
          split_ifs at h
          · obtain ⟨rfl, rfl⟩ := Prod.mk.inj (Option.some.inj h)
            exact List.mem_cons_of_mem first (hch.resolve_left List.not_mem_nil)
          · exact hskip h
          · exact hskip h
      | single =>
          dsimp only at h
          split_ifs at h
          · exact hskip h
          · exact hmap h
      | double =>
          dsimp only at h
          split_ifs at h
          · exact hskip h
          · exact hmap h

/-- An `export` line is about a variable, and it is made of what was read. -/
theorem readExport_spec {script name value rest : Bytes}
    (h : readExport script = some (name, value, rest)) :
    IsName name ∧ (∀ ch ∈ value, ch ∈ script) ∧ ∀ ch ∈ rest, ch ∈ script := by
  unfold readExport at h
  dsimp only at h
  split_ifs at h with hword hname
  obtain ⟨⟨value', rest'⟩, hread, heq⟩ := Option.map_eq_some_iff.mp h
  cases heq
  have hmem : ∀ ch, ch ∈ value' ∨ ch ∈ rest' → ch ∈ script := fun ch hch =>
    List.mem_of_mem_drop (List.mem_of_mem_drop (mem_of_readWord hread hch))
  exact ⟨hname.1, fun ch hch => hmem ch (Or.inl hch), fun ch hch => hmem ch (Or.inr hch)⟩

/-- Nothing is exported by that. -/
theorem exported_notMem_runExec (script name value : Bytes) :
    .exported name value ∉ runExec script := by
  unfold runExec
  split_ifs
  · rcases readArguments none .outside (script.drop execWord.length) with _ | _ | _
    · simp
    · simp
    · dsimp only
      split_ifs
      · simp
      · simp
  · simp
  · simp

/-- **What this shell exports** has a name, no NUL in its value, and is not its own. -/
theorem exported_of_runWords {reserved : Bytes → Bool} {script name value : Bytes}
    (hnul : nul ∉ script) (h : .exported name value ∈ runWords reserved script) :
    IsName name ∧ nul ∉ value ∧ reserved name = false := by
  fun_induction runWords reserved script with
  | case1 => simp at h
  | case2 script name' value' rest hexport _ hfree ih =>
      obtain ⟨hname, hvalue, hrest⟩ := readExport_spec hexport
      rcases List.mem_cons.mp h with heq | hin
      · obtain ⟨rfl, rfl⟩ := Action.exported.inj heq
        exact ⟨hname, fun hin => hnul (hvalue nul hin), Bool.not_eq_true _ ▸ hfree⟩
      · exact ih (fun hin => hnul (hrest nul hin)) hin
  | case3 script => exact absurd h (exported_notMem_runExec script name value)

/-- **What this shell puts in its place** has no NUL in its words and does not begin with a
hyphen. -/
theorem executed_of_runWords {reserved : Bytes → Bool} {script : Bytes} {words : List Bytes}
    (hnul : nul ∉ script) (h : .executed words ∈ runWords reserved script) :
    (∀ word ∈ words, nul ∉ word) ∧ ∀ command ∈ words.head?, command.head? ≠ some hyphen := by
  fun_induction runWords reserved script with
  | case1 => simp at h
  | case2 script name' value' rest hexport _ hfree ih =>
      obtain ⟨-, -, hrest⟩ := readExport_spec hexport
      rcases List.mem_cons.mp h with heq | hin
      · exact absurd heq (by simp)
      · exact ih (fun hin => hnul (hrest nul hin)) hin
  | case3 script =>
      unfold runExec at h
      split_ifs at h
      · rcases hread : readArguments none .outside (script.drop execWord.length) with
          _ | _ | ⟨command, arguments⟩
        all_goals simp only [hread] at h
        · simp at h
        · simp at h
        · split_ifs at h with hoption
          · simp at h
          · obtain rfl := Action.executed.inj (List.mem_singleton.mp h)
            refine ⟨fun word hword hin => ?_, fun first hfirst => ?_⟩
            · rcases mem_of_readArguments hread hword hin with hnil | hin
              · exact absurd hnil List.not_mem_nil
              · exact hnul (List.mem_of_mem_drop hin)
            · rw [← Option.some.inj hfirst]
              exact hoption
      · simp at h
      · simp at h

/-- **There is such a shell.** -/
theorem wordShell_conforms (reserved : Bytes → Bool) : (wordShell reserved).Conforms reserved where
  run_export _ {script name value rest} hexport hfree := by
    show runWords reserved script = _
    rw [runWords_of_readExport hexport, hfree, if_neg Bool.false_ne_true]
    rfl
  run_exec _ {text command arguments} hread hoption := by
    show runWords reserved (execWord ++ text) = _
    rw [runWords_execWord]
    unfold runExec
    rw [if_pos (List.prefix_append _ _), List.drop_left, hread]
    exact if_neg hoption
  exported _ {script name value} hnul h :=
    ⟨(exported_of_runWords hnul h).1, (exported_of_runWords hnul h).2.1⟩
  executed _ {script words} hnul h := (executed_of_runWords hnul h).1

end Found.PosixShell
