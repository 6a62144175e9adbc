import Sentrits.Found.CQuoted
import Sentrits.Found.StreamLines
import Sentrits.Service.LaunchCommand

/-!
# What the inspector reads of a repository

The inspector runs `git` through a pipe, twice: for the branch, and for the status of the files,
one line for each. What `git` prints is an answer from outside.

* `GitInspector.inspect`: the summary.
* `readPipe_of_nul_notMem`: what is printed is read whole, however the buffer cuts it.
* `StatusEntry`, `renderStatus`: the entries and the text that stands for them.
* `inspect_files`: what is read of each entry is the text behind its two letters.
* `namesFiles_iff`: **the summary names the files exactly when** no entry it lists is renamed or has
  a name that is shown in quotes.

Source: `src/service/git_inspector.cpp`.
-/

namespace Sentrits.Service

open Found Found.Bytes Found.CQuoted

/-! ### The command line -/

/-- How `ShellEscapeSingleQuoted` writes one byte. -/
def shellEscapeByte (ch : UInt8) : Bytes :=
  -- a quote is written by closing the word, escaping it and opening the word again
  if ch = quote then [quote, backslash, quote, quote] else [ch]

/-- Source: `git_inspector.cpp` `ShellEscapeSingleQuoted`. -/
def shellEscapeSingleQuoted (input : Bytes) : Bytes :=
  quote :: input.flatMap shellEscapeByte ++ [quote]

/-- The command line of `GitInspector::RunCommand`. -/
def gitCommandLine (workspaceRoot command : Bytes) : Bytes :=
  utf8 "git -C " ++ shellEscapeSingleQuoted workspaceRoot ++ utf8 " " ++ command ++
    utf8 " 2>/dev/null"

/-- The arguments with which the inspector asks for the branch. -/
def branchCommand : Bytes := utf8 "branch --show-current"

/-- The arguments with which the inspector asks for the status. -/
def statusCommand : Bytes := utf8 "status --porcelain"

/-! ### Reading a pipe -/

/-- The bytes through the first line feed. -/
def throughLf : Bytes → Bytes
  | [] => []
  | ch :: text => if ch = lf then [ch] else ch :: throughLf text

/-- What one call of `fgets` reads into a buffer of 128 bytes. -/
def fgets (text : Bytes) : Bytes := throughLf (text.take 127)

/-- A line is at the front of the text. -/
theorem throughLf_isPrefix (text : Bytes) : throughLf text <+: text := by
  induction text with
  | nil => exact List.prefix_refl []
  | cons ch text ih =>
      unfold throughLf
      split_ifs
      · exact ⟨text, rfl⟩
      · exact (List.prefix_cons_inj ch).mpr ih

/-- What is read at once is at the front of the text. -/
theorem fgets_isPrefix (text : Bytes) : fgets text <+: text :=
  (throughLf_isPrefix _).trans (List.take_prefix 127 text)

/-- A call of `fgets` reads something, unless the pipe is at its end. -/
theorem fgets_length_pos {text : Bytes} (h : text ≠ []) : 0 < (fgets text).length := by
  obtain ⟨ch, rest, rfl⟩ := List.exists_cons_of_ne_nil h
  unfold fgets
  rw [List.take_succ_cons, throughLf]
  split_ifs
  · exact Nat.one_pos
  · exact Nat.succ_pos _

/-- The loop of `GitInspector::RunCommand` over what the pipe holds. The buffer is appended as a C
string. -/
def readPipe (text : Bytes) : Bytes :=
  if h : text = [] then []
  else
    have := fgets_length_pos h
    have := List.length_pos_iff.mpr h
    cString (fgets text) ++ readPipe (text.drop (fgets text).length)
termination_by text.length
decreasing_by rw [List.length_drop]; omega

/-- **What is printed is read whole**, when there is no NUL in it. -/
theorem readPipe_of_nul_notMem {text : Bytes} (h : nul ∉ text) : readPipe text = text := by
  fun_induction readPipe text with
  | case1 => rfl
  | case2 text hne _ _ ih =>
      have hfront := fgets_isPrefix text
      have hdrop : fgets text ++ text.drop (fgets text).length = text :=
        List.prefix_iff_eq_append.mp hfront
      rw [ih fun hin => h (List.mem_of_mem_drop hin),
        cString_of_nul_notMem fun hin => h (hfront.subset hin), hdrop]

/-! ### The summary -/

/-- Source: `session_snapshot.h` `GitSummary`. -/
structure GitSummary where
  branch : Bytes := []
  modifiedCount : ℕ := 0
  stagedCount : ℕ := 0
  untrackedCount : ℕ := 0
  modifiedFiles : List Bytes := []
  stagedFiles : List Bytes := []
  untrackedFiles : List Bytes := []
  deriving DecidableEq

/-- The blanks `Trim` takes away. -/
def isTrimmed (ch : UInt8) : Bool := ch == 32 || ch == 9 || ch == 10 || ch == 13

/-- Source: `git_inspector.cpp` `Trim`. -/
def trim (input : Bytes) : Bytes :=
  ((input.dropWhile isTrimmed).reverse.dropWhile isTrimmed).reverse

/-- The letter of a file that is not changed. -/
def unchangedLetter : UInt8 := 32

/-- The letter of a file that is not tracked. -/
def untrackedLetter : UInt8 := 63

/-- The letter of a file that is ignored. -/
def ignoredLetter : UInt8 := 33

/-- One round of the loop of `GitInspector::Inspect`. -/
def inspectLine (summary : GitSummary) : Bytes → GitSummary
  -- fewer than four bytes are passed over
  | x :: y :: _ :: first :: rest =>
      let file := first :: rest
      if x = ignoredLetter ∧ y = ignoredLetter then summary
      else
        let summary :=
          if x ≠ unchangedLetter ∧ x ≠ untrackedLetter then
            { summary with stagedFiles := summary.stagedFiles ++ [file] }
          else summary
        let summary :=
          if y ≠ unchangedLetter ∧ y ≠ untrackedLetter then
            { summary with modifiedFiles := summary.modifiedFiles ++ [file] }
          else summary
        if x = untrackedLetter ∧ y = untrackedLetter then
          { summary with untrackedFiles := summary.untrackedFiles ++ [file] }
        else summary
  | _ => summary

/-- Source: `git_inspector.h` `GitInspector`, with what a pipe to a command line delivers, if it can
be opened. -/
structure GitInspector where
  workspaceRoot : Bytes
  popen : Bytes → Option Bytes

namespace GitInspector

/-- Source: `git_inspector.cpp` `GitInspector::RunCommand`. -/
def runCommand (g : GitInspector) (command : Bytes) : Bytes :=
  match g.popen (cString (gitCommandLine g.workspaceRoot command)) with
  | none => []
  | some output => readPipe output

/-- Source: `git_inspector.cpp` `GitInspector::Inspect`. -/
def inspect (g : GitInspector) : GitSummary :=
  let branch := trim (g.runCommand branchCommand)
  let summary := (streamLines (g.runCommand statusCommand)).foldl inspectLine { branch := branch }
  { summary with
    stagedCount := summary.stagedFiles.length
    modifiedCount := summary.modifiedFiles.length
    untrackedCount := summary.untrackedFiles.length }

end GitInspector

/-! ### Status entries -/

/-- What has happened to a tracked file. -/
inductive TrackedStatus
  | unmodified
  | modified
  | typeChanged
  | added
  | deleted
  | renamed
  | copied
  | unmerged
  deriving DecidableEq

/-- The letter that stands for it. -/
def TrackedStatus.letter : TrackedStatus → UInt8
  | .unmodified => unchangedLetter
  | .modified => 77
  | .typeChanged => 84
  | .added => 65
  | .deleted => 68
  | .renamed => 82
  | .copied => 67
  | .unmerged => 85

/-- What the letters of tracked files have in common. -/
theorem TrackedStatus.letter_spec (status : TrackedStatus) :
    32 ≤ status.letter ∧ status.letter ≠ untrackedLetter ∧ status.letter ≠ ignoredLetter ∧
      (status.letter = unchangedLetter ↔ status = .unmodified) := by
  cases status <;> decide

/-- The path of a file. -/
structure FilePath where
  name : Bytes
  nonempty : name ≠ []

/-- An entry of the status: a tracked file with what has happened to it in the index and in the
worktree, and the path it had if it was renamed; or a file that is not tracked, or ignored. -/
inductive StatusEntry
  | tracked (index worktree : TrackedStatus) (origPath : Option FilePath) (path : FilePath)
  | untracked (path : FilePath)
  | ignored (path : FilePath)

namespace StatusEntry

/-- The current path of the file. -/
def path : StatusEntry → Bytes
  | .tracked _ _ _ path => path.name
  | .untracked path => path.name
  | .ignored path => path.name

/-- The path it had, if it was renamed. -/
def origPath : StatusEntry → Option FilePath
  | .tracked _ _ origPath _ => origPath
  | .untracked _ => none
  | .ignored _ => none

/-- The two letters of an entry. -/
def letters : StatusEntry → UInt8 × UInt8
  | .tracked index worktree _ _ => (index.letter, worktree.letter)
  | .untracked _ => (untrackedLetter, untrackedLetter)
  | .ignored _ => (ignoredLetter, ignoredLetter)

/-- The index differs from the last commit. -/
def isStaged : StatusEntry → Bool
  | .tracked index _ _ _ => index ≠ .unmodified
  | _ => false

/-- The worktree differs from the index. -/
def isModified : StatusEntry → Bool
  | .tracked _ worktree _ _ => worktree ≠ .unmodified
  | _ => false

/-- The entry is of a file that is not tracked. -/
def isUntracked : StatusEntry → Bool
  | .untracked _ => true
  | _ => false

/-- What stands behind the letters of an entry. -/
def field (quotePath : Bool) (e : StatusEntry) : Bytes :=
  (match e.origPath with
    | none => []
    | some origPath => cQuoted quotePath origPath.name ++ utf8 " -> ") ++ cQuoted quotePath e.path

/-- The line of an entry. -/
def render (quotePath : Bool) (e : StatusEntry) : Bytes :=
  e.letters.1 :: e.letters.2 :: 32 :: e.field quotePath

end StatusEntry

/-- The text of `git status --porcelain`. -/
def renderStatus (quotePath : Bool) (entries : List StatusEntry) : Bytes :=
  (entries.map (·.render quotePath)).flatMap (· ++ [lf])

namespace StatusEntry

/-- A path is not empty. -/
theorem path_ne_nil (e : StatusEntry) : e.path ≠ [] := by
  cases e with
  | tracked _ _ _ path => exact path.nonempty
  | untracked path => exact path.nonempty
  | ignored path => exact path.nonempty

/-- The field is not shorter than the path. -/
theorem length_path_le_field (quotePath : Bool) (e : StatusEntry) :
    e.path.length ≤ (e.field quotePath).length := by
  rw [field, List.length_append]
  exact (length_le_cQuoted quotePath e.path).trans (Nat.le_add_left _ _)

/-- The letters are letters, and what stands behind them is text. -/
theorem le_of_mem_render {quotePath : Bool} {e : StatusEntry} {ch : UInt8}
    (h : ch ∈ e.render quotePath) : 32 ≤ ch := by
  have hletter : 32 ≤ e.letters.1 ∧ 32 ≤ e.letters.2 := by
    cases e with
    | tracked index worktree _ _ => exact ⟨index.letter_spec.1, worktree.letter_spec.1⟩
    | untracked path =>
        have h : 32 ≤ untrackedLetter := by decide
        exact ⟨h, h⟩
    | ignored path =>
        have h : 32 ≤ ignoredLetter := by decide
        exact ⟨h, h⟩
  rw [render, List.mem_cons, List.mem_cons, List.mem_cons] at h
  rcases h with rfl | rfl | rfl | h
  · exact hletter.1
  · exact hletter.2
  · decide
  · rw [field, List.mem_append] at h
    rcases h with h | h
    · rcases horig : e.origPath with _ | origPath
      · rw [horig] at h
        exact absurd h List.not_mem_nil
      · rw [horig, List.mem_append] at h
        rcases h with h | h
        · exact le_of_mem_cQuoted h
        · have harrow : (utf8 " -> ").all (fun b => 32 ≤ b) = true := by decide
          exact of_decide_eq_true (List.all_eq_true.mp harrow ch h)
    · exact le_of_mem_cQuoted h

/-- **What is read of one entry**: the text behind its letters, in up to two of the lists. -/
theorem inspectLine_render (quotePath : Bool) (e : StatusEntry) (summary : GitSummary) :
    inspectLine summary (e.render quotePath) =
      { summary with
        stagedFiles := summary.stagedFiles ++ if e.isStaged then [e.field quotePath] else []
        modifiedFiles := summary.modifiedFiles ++ if e.isModified then [e.field quotePath] else []
        untrackedFiles :=
          summary.untrackedFiles ++ if e.isUntracked then [e.field quotePath] else [] } := by
  have hpos : e.field quotePath ≠ [] := by
    have hpath := List.length_pos_iff.mpr e.path_ne_nil
    have hfield := e.length_path_le_field quotePath
    exact List.length_pos_iff.mp (hpath.trans_le hfield)
  obtain ⟨first, rest, hfield⟩ := List.exists_cons_of_ne_nil hpos
  rw [render, hfield]
  cases e with
  | tracked index worktree origPath path =>
      obtain ⟨-, huntracked, hignored, hindex⟩ := index.letter_spec
      obtain ⟨-, huntracked', -, hworktree⟩ := worktree.letter_spec
      have hstaged : (tracked index worktree origPath path).isStaged =
          decide (index.letter ≠ unchangedLetter) := by
        simp [isStaged, hindex]
      have hmodified : (tracked index worktree origPath path).isModified =
          decide (worktree.letter ≠ unchangedLetter) := by
        simp [isModified, hworktree]
      by_cases hx : index.letter = unchangedLetter <;>
        by_cases hy : worktree.letter = unchangedLetter <;>
        simp [inspectLine, letters, isUntracked, hstaged, hmodified, huntracked, hignored,
          huntracked', hx, hy, show unchangedLetter ≠ untrackedLetter by decide,
          show unchangedLetter ≠ ignoredLetter by decide]
  | untracked path =>
      simp [inspectLine, letters, isStaged, isModified, isUntracked, unchangedLetter,
        untrackedLetter, ignoredLetter]
  | ignored path =>
      simp [inspectLine, letters, isStaged, isModified, isUntracked, ignoredLetter]

/-- The entry is in one of the three lists. -/
def isListed (e : StatusEntry) : Bool := e.isStaged || e.isModified || e.isUntracked

/-- The file is not renamed, and nothing in its path needs quoting. -/
def IsPlain (quotePath : Bool) (e : StatusEntry) : Prop :=
  e.origPath = none ∧ ∀ ch ∈ e.path, needsQuoting quotePath ch = false

/-- **The text behind the letters is the path exactly when the entry is plain.** -/
theorem field_eq_path_iff {quotePath : Bool} {e : StatusEntry} :
    e.field quotePath = e.path ↔ e.IsPlain quotePath := by
  rw [field, IsPlain, ← cQuoted_eq_self_iff]
  rcases horig : e.origPath with _ | origPath
  · simp
  · refine iff_of_false (fun h => ?_) fun h => absurd h.1 (Option.some_ne_none origPath)
    have hlength := congrArg List.length h
    have hquoted := length_le_cQuoted quotePath e.path
    have harrow : (utf8 " -> ").length = 4 := by decide
    rw [List.length_append, List.length_append, harrow] at hlength
    omega

end StatusEntry

/-! ### All entries -/

/-- What one of the lists holds: some text of each entry that belongs there, in their order. -/
def listed (entries : List StatusEntry) (belongs : StatusEntry → Bool)
    (text : StatusEntry → Bytes) : List Bytes :=
  (entries.filter belongs).map text

/-- The first entry is listed first, if it belongs there. -/
theorem listed_cons (e : StatusEntry) (entries : List StatusEntry) (belongs : StatusEntry → Bool)
    (text : StatusEntry → Bytes) :
    listed (e :: entries) belongs text =
      (if belongs e then [text e] else []) ++ listed entries belongs text := by
  unfold listed
  rw [List.filter_cons]
  split_ifs <;> rfl

/-- What the loop over the lines of some entries adds to the lists. -/
theorem foldl_inspectLine_render (quotePath : Bool) (entries : List StatusEntry)
    (summary : GitSummary) :
    (entries.map (·.render quotePath)).foldl inspectLine summary =
      { summary with
        stagedFiles := summary.stagedFiles ++ listed entries (·.isStaged) (·.field quotePath)
        modifiedFiles := summary.modifiedFiles ++ listed entries (·.isModified) (·.field quotePath)
        untrackedFiles :=
          summary.untrackedFiles ++ listed entries (·.isUntracked) (·.field quotePath) } := by
  induction entries generalizing summary with
  | nil => simp [listed]
  | cons e entries ih =>
      rw [List.map_cons, List.foldl_cons, e.inspectLine_render, ih]
      simp only [listed_cons, List.append_assoc]

/-- **The lines that are read are those that are written.** -/
theorem streamLines_renderStatus (quotePath : Bool) (entries : List StatusEntry) :
    streamLines (renderStatus quotePath entries) = entries.map (·.render quotePath) := by
  refine streamLines_flatMap fun line hline hlf => ?_
  obtain ⟨e, -, rfl⟩ := List.mem_map.mp hline
  exact absurd (StatusEntry.le_of_mem_render hlf) (by decide)

/-- No NUL is written. -/
theorem nul_notMem_renderStatus (quotePath : Bool) (entries : List StatusEntry) :
    nul ∉ renderStatus quotePath entries := by
  intro h
  obtain ⟨line, hline, hnul⟩ := List.mem_flatMap.mp h
  obtain ⟨e, -, rfl⟩ := List.mem_map.mp hline
  rcases List.mem_append.mp hnul with hnul | hnul
  · exact absurd (StatusEntry.le_of_mem_render hnul) (by decide)
  · exact absurd (List.mem_singleton.mp hnul) (by decide)

namespace GitInspector

/-- What the pipe to `git status` delivers. -/
def Prints (g : GitInspector) (quotePath : Bool) (entries : List StatusEntry) : Prop :=
  g.popen (cString (gitCommandLine g.workspaceRoot statusCommand)) =
    some (renderStatus quotePath entries)

/-- **What is read of the entries that are printed**: of each, the text behind its letters. -/
theorem inspect_files {g : GitInspector} {quotePath : Bool} {entries : List StatusEntry}
    (h : g.Prints quotePath entries) :
    g.inspect.stagedFiles = listed entries (·.isStaged) (·.field quotePath) ∧
      g.inspect.modifiedFiles = listed entries (·.isModified) (·.field quotePath) ∧
      g.inspect.untrackedFiles = listed entries (·.isUntracked) (·.field quotePath) := by
  have hstatus : g.runCommand statusCommand = renderStatus quotePath entries := by
    rw [runCommand, h]
    exact readPipe_of_nul_notMem (nul_notMem_renderStatus quotePath entries)
  unfold inspect
  rw [hstatus, streamLines_renderStatus]
  dsimp only
  rw [foldl_inspectLine_render]
  exact ⟨List.nil_append _, List.nil_append _, List.nil_append _⟩

/-- **The summary names the files**: each list holds the current paths of the entries that belong
there, in their order, and the counts are the lengths. -/
structure NamesFiles (summary : GitSummary) (entries : List StatusEntry) : Prop where
  staged : summary.stagedFiles = listed entries (·.isStaged) (·.path)
  modified : summary.modifiedFiles = listed entries (·.isModified) (·.path)
  untracked : summary.untrackedFiles = listed entries (·.isUntracked) (·.path)
  stagedCount : summary.stagedCount = summary.stagedFiles.length
  modifiedCount : summary.modifiedCount = summary.modifiedFiles.length
  untrackedCount : summary.untrackedCount = summary.untrackedFiles.length

/-- One of the lists names its files exactly when all of them are plain. -/
theorem listed_eq_iff {quotePath : Bool} {entries : List StatusEntry}
    {belongs : StatusEntry → Bool} :
    listed entries belongs (·.field quotePath) = listed entries belongs (·.path) ↔
      ∀ e ∈ entries, belongs e = true → e.IsPlain quotePath := by
  unfold listed
  rw [List.map_inj_left]
  constructor
  · intro h e he hbelongs
    exact StatusEntry.field_eq_path_iff.mp (h e (List.mem_filter.mpr ⟨he, hbelongs⟩))
  · intro h e he
    obtain ⟨he, hbelongs⟩ := List.mem_filter.mp he
    exact StatusEntry.field_eq_path_iff.mpr (h e he hbelongs)

/-- **When the status is read back faithfully.** -/
theorem namesFiles_iff {g : GitInspector} {quotePath : Bool} {entries : List StatusEntry}
    (h : g.Prints quotePath entries) :
    NamesFiles g.inspect entries ↔
      ∀ e ∈ entries, e.isListed = true → e.IsPlain quotePath := by
  obtain ⟨hstaged, hmodified, huntracked⟩ := inspect_files h
  constructor
  · intro hnames e he hlisted
    have hstaged' := listed_eq_iff.mp (hstaged.symm.trans hnames.staged) e he
    have hmodified' := listed_eq_iff.mp (hmodified.symm.trans hnames.modified) e he
    have huntracked' := listed_eq_iff.mp (huntracked.symm.trans hnames.untracked) e he
    rw [StatusEntry.isListed, Bool.or_eq_true, Bool.or_eq_true] at hlisted
    rcases hlisted with (hbelongs | hbelongs) | hbelongs
    · exact hstaged' hbelongs
    · exact hmodified' hbelongs
    · exact huntracked' hbelongs
  · intro hplain
    have hone : ∀ belongs : StatusEntry → Bool, (∀ e, belongs e = true → e.isListed = true) →
        listed entries belongs (·.field quotePath) = listed entries belongs (·.path) :=
      fun belongs hlisted =>
        listed_eq_iff.mpr fun e he hbelongs => hplain e he (hlisted e hbelongs)
    refine ⟨hstaged.trans (hone _ fun e he => ?_), hmodified.trans (hone _ fun e he => ?_),
      huntracked.trans (hone _ fun e he => ?_), rfl, rfl, rfl⟩
    · simp [StatusEntry.isListed, he]
    · simp [StatusEntry.isListed, he]
    · simp [StatusEntry.isListed, he]

/-- A staged, a modified and an untracked file, and one that is both staged and modified. -/
def plainEntries : List StatusEntry :=
  [.tracked .added .unmodified none ⟨utf8 "a.txt", by decide⟩,
    .tracked .unmodified .modified none ⟨utf8 "dir/b", by decide⟩,
    .tracked .modified .modified none ⟨utf8 "c.c", by decide⟩,
    .untracked ⟨utf8 "d", by decide⟩]

/-- An inspector whose pipes deliver the status of these files. -/
def plainInspector : GitInspector where
  workspaceRoot := utf8 "/w"
  popen _ := some (renderStatus false plainEntries)

/-- The plain entries are printed so. -/
theorem prints_plain : plainInspector.Prints false plainEntries := rfl

/-- The summary names them all. -/
theorem namesFiles_plain :
    NamesFiles plainInspector.inspect plainEntries ∧
      plainInspector.inspect.stagedFiles = [utf8 "a.txt", utf8 "c.c"] ∧
      plainInspector.inspect.modifiedFiles = [utf8 "dir/b", utf8 "c.c"] := by
  have hplain : ∀ e ∈ plainEntries, e.isListed = true → e.IsPlain false := by
    unfold StatusEntry.IsPlain
    decide +kernel
  have hnames := (namesFiles_iff prints_plain).mpr hplain
  exact ⟨hnames, hnames.staged.trans (by decide), hnames.modified.trans (by decide)⟩

/-- A file that was renamed in the index. -/
def renamedEntry : StatusEntry :=
  .tracked .renamed .unmodified (some ⟨utf8 "a", by decide⟩) ⟨utf8 "b", by decide⟩

/-- An inspector whose pipes deliver the status of one renamed file. -/
def renamedInspector : GitInspector where
  workspaceRoot := utf8 "/w"
  popen _ := some (renderStatus true [renamedEntry])

/-- The renamed entry is printed so. -/
theorem prints_renamed : renamedInspector.Prints true [renamedEntry] := rfl

/-- A renamed file is listed under both names. -/
theorem renamed_is_misnamed :
    renamedInspector.inspect.stagedFiles = [utf8 "a -> b"] ∧
      ¬ NamesFiles renamedInspector.inspect [renamedEntry] := by
  have hstaged : renamedInspector.inspect.stagedFiles = [utf8 "a -> b"] :=
    (inspect_files prints_renamed).1
  refine ⟨hstaged, fun h => ?_⟩
  have hnames := hstaged.symm.trans h.staged
  exact absurd hnames (by decide)

end GitInspector

end Sentrits.Service
