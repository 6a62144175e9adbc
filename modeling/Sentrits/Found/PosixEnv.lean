import Mathlib.Logic.Function.Basic
import Sentrits.Found.Bytes

/-!
# Environment variables

How a process finds a variable in the strings it was started with, and what may be expected of a
shell that is given a script of `export` lines: a line whose value is put together from quoted
strings assigns that value, unless the shell keeps the variable to itself.

* `getenv_append_cons`: the first string that begins with the name decides.
* `LoginShell`, `LoginShell.Conforms`: a shell, and what is documented of it.
* `run_of_readExports`: **a script of `export` lines** makes the assignments it reads as.
* `quotedShell`: a shell that gives up on anything else.
-/

namespace Found.PosixEnv

open Bytes

/-- The equals sign. -/
def equals : UInt8 := 61

/-! ### Names -/

/-- A letter or an underscore. -/
def isNameStart (ch : UInt8) : Bool :=
  (65 ≤ ch && ch ≤ 90) || (97 ≤ ch && ch ≤ 122) || ch == 95

/-- A letter, a digit or an underscore. -/
def isNameChar (ch : UInt8) : Bool := isNameStart ch || (48 ≤ ch && ch ≤ 57)

/-- The name of a variable. -/
def IsName (name : Bytes) : Prop := name.head?.any isNameStart = true ∧ name.all isNameChar = true

instance (name : Bytes) : Decidable (IsName name) := by
  unfold IsName
  infer_instance

/-- A name is made of the bytes of names. -/
theorem isNameChar_of_mem {name : Bytes} (h : IsName name) {ch : UInt8} (hch : ch ∈ name) :
    isNameChar ch = true := by
  exact List.all_eq_true.mp h.2 ch hch

/-- A name has no equals sign. -/
theorem equals_notMem_of_isName {name : Bytes} (h : IsName name) : equals ∉ name := by
  exact fun hin => absurd (isNameChar_of_mem h hin) (by decide)

/-- A name has no NUL. -/
theorem nul_notMem_of_isName {name : Bytes} (h : IsName name) : nul ∉ name := by
  exact fun hin => absurd (isNameChar_of_mem h hin) (by decide)

/-! ### The strings of a process -/

/-- The string that gives a variable its value. -/
def environString (name value : Bytes) : Bytes := name ++ equals :: value

/-- The value of a variable: the rest of the first string that begins with its name. -/
def getenv (environ : List Bytes) (name : Bytes) : Option Bytes :=
  (environ.find? fun entry => name ++ [equals] <+: entry).map (·.drop (name.length + 1))

/-- A string of an environment begins with the name. -/
theorem prefix_environString (name value : Bytes) :
    name ++ [equals] <+: environString name value := by
  exact ⟨value, by rw [environString, List.append_assoc, List.singleton_append]⟩

/-- Behind the equals sign stands the value. -/
theorem drop_environString (name value : Bytes) :
    (environString name value).drop (name.length + 1) = value := by
  have hlength : name.length + 1 = (name ++ [equals]).length := by
    rw [List.length_append, List.length_singleton]
  have happend : environString name value = (name ++ [equals]) ++ value := by
    rw [environString, List.append_assoc, List.singleton_append]
  rw [happend, hlength, List.drop_left]

/-- A string that begins with the name is the string of the rest. -/
theorem eq_environString_of_begins {name entry : Bytes} (h : name ++ [equals] <+: entry) :
    entry = environString name (entry.drop (name.length + 1)) := by
  rcases h with ⟨value, rfl⟩
  have happend : (name ++ [equals]) ++ value = environString name value := by
    rw [environString, List.append_assoc, List.singleton_append]
  rw [happend, drop_environString]

/-- A string about another variable begins with a name only when that variable's name does. -/
theorem prefix_environString_of_ne {name key : Bytes} (hname : IsName name) (hne : key ≠ name)
    (value : Bytes) : name ++ [equals] <+: environString key value ↔ name ++ [equals] <+: key := by
  constructor
  · rintro ⟨rest, hrest⟩
    rw [environString, List.append_assoc, List.append_eq_append_iff] at hrest
    rcases hrest with ⟨more, hkey, hmore⟩ | ⟨more, hname', hmore⟩
    · cases more with
      | nil => exact absurd (hkey.trans (List.append_nil _)) hne
      | cons ch more =>
          obtain ⟨rfl, -⟩ := List.cons.inj hmore
          exact ⟨more, by rw [hkey, List.append_assoc, List.singleton_append]⟩
    · cases more with
      | nil => exact absurd (hname'.trans (List.append_nil _)).symm hne
      | cons ch more =>
          obtain ⟨rfl, -⟩ := List.cons.inj hmore
          have hin : equals ∈ name := by
            rw [hname']
            exact List.mem_append_right _ List.mem_cons_self
          exact absurd hin (equals_notMem_of_isName hname)
  · intro hpre
    exact hpre.trans (List.prefix_append _ _)

/-- What is before the first NUL begins with a name when the whole does. -/
theorem prefix_cString {name : Bytes} (hname : IsName name) (text : Bytes) :
    name ++ [equals] <+: cString text ↔ name ++ [equals] <+: text := by
  constructor
  · intro hpre
    exact hpre.trans (List.takeWhile_prefix _)
  · rintro ⟨rest, rfl⟩
    have hall : ∀ ch ∈ name ++ [equals], decide (ch ≠ nul) = true := by
      intro ch hch
      rcases List.mem_append.mp hch with hch | hch
      · exact decide_eq_true fun heq => nul_notMem_of_isName hname (heq ▸ hch)
      · rw [List.mem_singleton.mp hch]
        decide
    rw [cString, List.takeWhile_append_of_pos hall]
    exact List.prefix_append _ _

/-- **The first string that begins with the name decides** what a variable's value is. -/
theorem getenv_append_cons (before : List Bytes) (name value : Bytes) (after : List Bytes) :
    getenv (before ++ environString name value :: after) name = some value ↔
      ∀ entry, before.find? (fun entry => name ++ [equals] <+: entry) = some entry →
        entry = environString name value := by
  unfold getenv
  rw [List.find?_append]
  rcases hfind : before.find? fun entry => name ++ [equals] <+: entry with _ | found
  · rw [Option.none_or, List.find?_cons_of_pos (by simp [prefix_environString])]
    exact ⟨nofun, fun _ => congrArg some (drop_environString name value)⟩
  · have hpre : name ++ [equals] <+: found := by simpa using List.find?_some hfind
    rw [Option.some_or, Option.map_some, Option.some.injEq]
    constructor
    · rintro hvalue entry heq
      cases heq
      rw [eq_environString_of_begins hpre, hvalue]
    · intro hsame
      rw [hsame found rfl, drop_environString]

/-! ### Words -/

/-- Whether a character is read outside quotes or inside. -/
inductive Quoting
  | outside
  | single
  | double

/-- Reads a word of quoted strings and the end of its line. -/
def readWord : Quoting → Bytes → Option (Bytes × Bytes)
  | _, [] => none
  | .outside, ch :: text =>
      if ch = lf then some ([], text)
      else if ch = 39 then readWord .single text
      else if ch = 34 then readWord .double text
      else none
  | .single, ch :: text =>
      if ch = 39 then readWord .outside text
      else (readWord .single text).map fun read => (ch :: read.1, read.2)
  | .double, ch :: text =>
      if ch = 34 then readWord .outside text
      -- a dollar sign, a backquote or a backslash keeps its meaning
      else if ch = 36 ∨ ch = 96 ∨ ch = 92 then none
      else (readWord .double text).map fun read => (ch :: read.1, read.2)

/-- Reading a word leaves less to read. -/
theorem readWord_length {quoting : Quoting} {text value rest : Bytes}
    (h : readWord quoting text = some (value, rest)) : rest.length < text.length := by
  induction text generalizing quoting value with
  | nil => cases quoting <;> cases h
  | cons ch text ih =>
      have hskip : ∀ {quoting' : Quoting} {value' : Bytes},
          readWord quoting' text = some (value', rest) → rest.length < (ch :: text).length :=
        fun hread => Nat.lt_succ_of_lt (ih hread)
      have hmap : ∀ {quoting' : Quoting}, ((readWord quoting' text).map
          fun read => (ch :: read.1, read.2)) = some (value, rest) →
          rest.length < (ch :: text).length := by
        intro quoting' hread
        rcases Option.map_eq_some_iff.mp hread with ⟨⟨value', rest'⟩, hinner, heq⟩
        cases heq
        exact hskip hinner
      unfold readWord at h
      cases quoting with
      | outside =>
          dsimp only at h
          split_ifs at h
          · cases h
            exact Nat.lt_succ_self _
          · exact hskip h
          · exact hskip h
      | single =>
          dsimp only at h
          split_ifs at h
          · exact hskip h
          · exact hmap h
      | double =>
          dsimp only at h
          split_ifs at h
          · exact hskip h
          · exact hmap h

/-! ### Export lines -/

/-- The beginning of an `export` line. -/
def exportWord : Bytes := utf8 "export "

/-- Reads an `export` line: the name, the value and what comes behind the line. -/
def readExport (script : Bytes) : Option (Bytes × Bytes × Bytes) :=
  if exportWord <+: script then
    let line := script.drop exportWord.length
    let name := line.takeWhile (· ≠ equals)
    if IsName name ∧ line ≠ name then
      (readWord .outside (line.drop (name.length + 1))).map fun read => (name, read.1, read.2)
    else none
  else none

/-- Reading a line leaves less to read. -/
theorem readExport_length {script name value rest : Bytes}
    (h : readExport script = some (name, value, rest)) : rest.length < script.length := by
  unfold readExport at h
  dsimp only at h
  split_ifs at h
  rcases Option.map_eq_some_iff.mp h with ⟨⟨value', rest'⟩, hread, heq⟩
  cases heq
  have hlength := readWord_length hread
  rw [List.length_drop, List.length_drop] at hlength
  dsimp only at hlength ⊢
  omega

/-- An `export` line is read. -/
theorem readExport_line {name : Bytes} (hname : IsName name) {word value rest : Bytes}
    (hword : readWord .outside word = some (value, rest)) :
    readExport (exportWord ++ (name ++ equals :: word)) = some (name, value, rest) := by
  have htake : (name ++ equals :: word).takeWhile (· ≠ equals) = name := by
    rw [List.takeWhile_append_of_pos, List.takeWhile_cons_of_neg, List.append_nil]
    · simp
    · intro ch hch
      exact decide_eq_true fun heq => equals_notMem_of_isName hname (heq ▸ hch)
  have hdrop : (name ++ equals :: word).drop (name.length + 1) = word := drop_environString name word
  have hne : name ++ equals :: word ≠ name := by
    intro heq
    have hlength := congrArg List.length heq
    rw [List.length_append, List.length_cons] at hlength
    omega
  unfold readExport
  rw [if_pos (List.prefix_append _ _), List.drop_left]
  dsimp only
  rw [htake, if_pos ⟨hname, hne⟩, hdrop, hword]
  rfl

/-- Reads a script that consists of `export` lines. -/
def readExports (script : Bytes) : Option (List (Bytes × Bytes)) :=
  match h : readExport script with
  | some (name, value, rest) =>
      have := readExport_length h
      (readExports rest).map ((name, value) :: ·)
  | none => if script = [] then some [] else none
termination_by script.length

/-- There is nothing to read in an empty script. -/
theorem readExports_nil : readExports [] = some [] := by
  unfold readExports
  rfl

/-- The first line, and those behind it. -/
theorem readExports_of_readExport {script name value rest : Bytes}
    (h : readExport script = some (name, value, rest)) :
    readExports script = (readExports rest).map ((name, value) :: ·) := by
  rw [readExports]
  split
  next name' value' rest' h' =>
    cases h.symm.trans h'
    rfl
  next h' => cases h.symm.trans h'

/-! ### Shells -/

/-- The variables a shell exports. -/
abbrev Environment := Bytes → Option Bytes

/-- The variables after some assignments. -/
def assign (env : Environment) (assignments : List (Bytes × Bytes)) : Environment :=
  assignments.foldl (fun env assignment => Function.update env assignment.1 (some assignment.2)) env

/-- An assignment that is made counts, whatever was there before. -/
theorem assign_eq_or (env : Environment) (assignments : List (Bytes × Bytes)) (name : Bytes) :
    assign env assignments name = (assign (fun _ => none) assignments name).or (env name) := by
  induction assignments generalizing env with
  | nil => rfl
  | cons first assignments ih =>
      have hcons : ∀ env, assign env (first :: assignments) =
          assign (Function.update env first.1 (some first.2)) assignments := fun _ => rfl
      rw [hcons, hcons, ih, ih (Function.update _ _ _), Option.or_assoc]
      by_cases hname : name = first.1
      · subst hname
        rw [Function.update_self, Function.update_self, Option.some_or]
      · rw [Function.update_of_ne hname, Function.update_of_ne hname, Option.none_or]

/-- What is not assigned stays. -/
theorem assign_of_notMem {assignments : List (Bytes × Bytes)} {name : Bytes}
    (h : name ∉ assignments.map Prod.fst) (env : Environment) :
    assign env assignments name = env name := by
  induction assignments generalizing env with
  | nil => rfl
  | cons first assignments ih =>
      rw [List.map_cons, List.mem_cons, not_or] at h
      show assign (Function.update env first.1 (some first.2)) assignments name = env name
      rw [ih h.2, Function.update_of_ne h.1]

/-- Variables that are assigned once keep the value. -/
theorem assign_of_mem {assignments : List (Bytes × Bytes)}
    (hnodup : (assignments.map Prod.fst).Nodup) {assignment : Bytes × Bytes}
    (h : assignment ∈ assignments) (env : Environment) :
    assign env assignments assignment.1 = some assignment.2 := by
  induction assignments generalizing env with
  | nil => exact absurd h List.not_mem_nil
  | cons first assignments ih =>
      rw [List.map_cons, List.nodup_cons] at hnodup
      rcases List.mem_cons.mp h with rfl | h
      · show assign (Function.update env assignment.1 (some assignment.2)) assignments _ = _
        rw [assign_of_notMem hnodup.1, Function.update_self]
      · exact ih hnodup.2 h _

/-- A login shell: what it exports when its start-up files have been read, and what it exports when
it has run some lines of a script. -/
structure LoginShell where
  start : List Bytes → Environment
  run : Environment → Bytes → Environment

/-- What is documented of a shell: an `export` line assigns the value it quotes, unless the variable
is one that the shell keeps to itself. -/
structure LoginShell.Conforms (reserved : Bytes → Bool) (shell : LoginShell) : Prop where
  run_nil : ∀ env, shell.run env [] = env
  run_export : ∀ env {script name value rest}, readExport script = some (name, value, rest) →
    reserved name = false →
    shell.run env script = shell.run (Function.update env name (some value)) rest

/-- **A script of `export` lines** makes the assignments it reads as. -/
theorem run_of_readExports {reserved : Bytes → Bool} {shell : LoginShell}
    (hshell : shell.Conforms reserved) {script : Bytes} {assignments : List (Bytes × Bytes)}
    (h : readExports script = some assignments)
    (hfree : ∀ assignment ∈ assignments, reserved assignment.1 = false) (env : Environment) :
    shell.run env script = assign env assignments := by
  induction assignments generalizing script env with
  | nil =>
      rw [readExports] at h
      split at h
      · rcases Option.map_eq_some_iff.mp h with ⟨rest, -, heq⟩
        cases heq
      · split_ifs at h with hnil
        rw [hnil, hshell.run_nil]
        rfl
  | cons first assignments ih =>
      rw [readExports] at h
      split at h
      next name value rest hexport =>
        rcases Option.map_eq_some_iff.mp h with ⟨later, hlater, heq⟩
        cases heq
        rw [hshell.run_export env hexport (hfree _ List.mem_cons_self),
          ih hlater fun assignment hin => hfree assignment (List.mem_cons_of_mem _ hin)]
        rfl
      · split_ifs at h
        cases h

/-- What a shell exports that gives up, with nothing, on all but `export` lines of variables that
are not its own. -/
def runQuoted (reserved : Bytes → Bool) (env : Environment) (script : Bytes) : Environment :=
  match h : readExport script with
  | some (name, value, rest) =>
      have := readExport_length h
      if reserved name then fun _ => none
      else runQuoted reserved (Function.update env name (some value)) rest
  | none => if script = [] then env else fun _ => none
termination_by script.length

/-- The shell that gives up on all but `export` lines; its start-up leaves nothing. -/
def quotedShell (reserved : Bytes → Bool) : LoginShell where
  start _ _ := none
  run := runQuoted reserved

/-- The first line is carried out, unless the shell keeps the name for itself. -/
theorem runQuoted_of_readExport {reserved : Bytes → Bool} (env : Environment)
    {script name value rest : Bytes} (h : readExport script = some (name, value, rest)) :
    runQuoted reserved env script =
      if reserved name then fun _ => none
      else runQuoted reserved (Function.update env name (some value)) rest := by
  rw [runQuoted]
  split
  next name' value' rest' h' =>
    cases h.symm.trans h'
    rfl
  next h' => cases h.symm.trans h'

/-- **The shell that reads quoted lines does what is documented.** -/
theorem quotedShell_conforms (reserved : Bytes → Bool) :
    (quotedShell reserved).Conforms reserved := by
  refine ⟨fun env => ?_, fun env {script name value rest} hexport hfree => ?_⟩
  · show runQuoted reserved env [] = env
    unfold runQuoted
    rfl
  · show runQuoted reserved env script = _
    rw [runQuoted_of_readExport env hexport, hfree, if_neg Bool.false_ne_true]
    rfl

/-- What the shell that gives up exports, it exports because the script reads as assignments. -/
theorem readExports_of_runQuoted {reserved : Bytes → Bool} {env : Environment} {script : Bytes}
    {name value : Bytes} (h : runQuoted reserved env script name = some value) :
    ∃ assignments, readExports script = some assignments ∧
      (∀ assignment ∈ assignments, reserved assignment.1 = false) ∧
      assign env assignments name = some value := by
  fun_induction runQuoted reserved env script with
  | case1 => cases h
  | case2 env script name' value' rest hexport _ hfree ih =>
      rcases ih h with ⟨assignments, hread, hall, hvalue⟩
      refine ⟨(name', value') :: assignments, ?_, ?_, hvalue⟩
      · rw [readExports_of_readExport hexport, hread]
        rfl
      · intro assignment hin
        rcases List.mem_cons.mp hin with rfl | hin
        · exact Bool.not_eq_true _ ▸ hfree
        · exact hall assignment hin
  | case3 env => exact ⟨[], readExports_nil, fun _ hin => absurd hin List.not_mem_nil, h⟩
  | case4 => cases h

end Found.PosixEnv
