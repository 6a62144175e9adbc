import Mathlib.Data.String.Basic
import Sentrits.Found.Bytes
import Sentrits.Found.Histories

/-!
# Which files of a workspace have changed

Where the system does not tell it, the watcher of a workspace finds out by scanning: each poll lists
the files with their write times and compares them with the list of the poll before. The lists are
sorted, and a file is looked up in the old one by binary search.

* `scanEntries`, `Seen`: what a scan lists; directories of tools and builds are not entered.
* `pollChangedFilesByScan`: one poll; `polls`: all polls of a watcher.
* `lowerBound_of_mem`: the search finds a file; `changed_scanFiles`: when it has changed.
* `Reports`: a file that was written since the poll before, or is new.
* `polls_report_changes`: **each poll reports exactly these files, in order**, as far as the limit
  goes; the first one reports nothing.

Source: `src/service/workspace_file_watcher.cpp`.
-/

namespace Sentrits.Service

open Found Found.Bytes Found.Histories

-- Paths are compared as strings; any linear order will do.
variable {π : Type}

/-! ### Scanning -/

/-- What a recursive iteration comes across, as far as it gets. A link to a directory has no
entries: it is not followed. -/
inductive DirEntry (π : Type)
  | directory (name : Bytes) (entries : List (DirEntry π))
  /-- A regular file, with what `NormalizeWorkspacePath` and `last_write_time` give. -/
  | file (workspacePath : Option π) (writeTimeTicks : Option ℕ)
  | other

/-- Source: `workspace_file_watcher.h` `WorkspaceFileWatcher::ObservedFile`. -/
structure ObservedFile (π : Type) where
  workspacePath : π
  writeTimeTicks : ℕ

/-- Source: the names of `workspace_file_watcher.cpp` `WorkspaceFileWatcher::ShouldSkipDirectory`;
no entry is the root itself. -/
def skippedDirectories : List Bytes :=
  [".git", "node_modules", ".venv", "venv", "__pycache__", "build", "dist", "out", "target", ".next",
    ".turbo", ".cache"].map utf8

mutual

/-- The files of an entry, in the order of the iteration.
Source: the loop of `workspace_file_watcher.cpp` `WorkspaceFileWatcher::ScanFiles`. -/
def scanEntry : DirEntry π → List (ObservedFile π)
  | .directory name entries => if name ∈ skippedDirectories then [] else scanEntries entries
  | .file (some workspacePath) (some writeTimeTicks) => [{ workspacePath, writeTimeTicks }]
  | .file _ _ => []
  | .other => []

/-- The files of several entries. -/
def scanEntries : List (DirEntry π) → List (ObservedFile π)
  | [] => []
  | entry :: entries => scanEntry entry ++ scanEntries entries

end

/-! ### What is seen -/

/-- The file is among the entries, below directories that are entered, and was written at that
time. -/
inductive Seen (path : π) (time : ℕ) : List (DirEntry π) → Prop
  | here {entries : List (DirEntry π)} (h : .file (some path) (some time) ∈ entries) :
      Seen path time entries
  | within {name : Bytes} {inner entries : List (DirEntry π)}
      (h : .directory name inner ∈ entries) (hname : name ∉ skippedDirectories)
      (hinner : Seen path time inner) : Seen path time entries

/-- What is seen further on is seen. -/
theorem Seen.cons {path : π} {time : ℕ} {entry : DirEntry π} {entries : List (DirEntry π)}
    (h : Seen path time entries) : Seen path time (entry :: entries) := by
  cases h with
  | here h => exact .here (List.mem_cons_of_mem _ h)
  | within h hname hinner => exact .within (List.mem_cons_of_mem _ h) hname hinner

/-- What the scan of an entry finds, the scan of all finds. -/
theorem mem_scanEntries_of_mem {entry : DirEntry π} {entries : List (DirEntry π)}
    (h : entry ∈ entries) {file : ObservedFile π} (hfile : file ∈ scanEntry entry) :
    file ∈ scanEntries entries := by
  induction entries with
  | nil => cases h
  | cons first entries ih =>
      rw [scanEntries, List.mem_append]
      rcases List.mem_cons.mp h with rfl | hrest
      · exact Or.inl hfile
      · exact Or.inr (ih hrest)

/-- **What can be seen is scanned.** -/
theorem mem_scanEntries_of_seen {path : π} {time : ℕ} {entries : List (DirEntry π)}
    (h : Seen path time entries) : ⟨path, time⟩ ∈ scanEntries entries := by
  induction h with
  | here h =>
      apply mem_scanEntries_of_mem h
      rw [scanEntry]
      exact List.mem_singleton_self _
  | within h hname hinner ih =>
      apply mem_scanEntries_of_mem h
      rwa [scanEntry, if_neg hname]

mutual

/-- What the scan of an entry finds can be seen there. -/
theorem seen_of_mem_scanEntry {path : π} {time : ℕ} :
    (entry : DirEntry π) → ⟨path, time⟩ ∈ scanEntry entry → Seen path time [entry]
  | .directory name entries, h => by
      rw [scanEntry] at h
      split_ifs at h with hname
      · cases h
      · exact .within (List.mem_singleton_self _) hname (seen_of_mem_scanEntries entries h)
  | .file (some workspacePath) (some writeTimeTicks), h => by
      rw [scanEntry, List.mem_singleton] at h
      cases h
      exact .here (List.mem_singleton_self _)
  | .file (some workspacePath) none, h => by
      simp [scanEntry] at h
  | .file none writeTimeTicks, h => by
      simp [scanEntry] at h
  | .other, h => by
      rw [scanEntry] at h
      cases h

/-- **What is scanned can be seen.** -/
theorem seen_of_mem_scanEntries {path : π} {time : ℕ} :
    (entries : List (DirEntry π)) → ⟨path, time⟩ ∈ scanEntries entries → Seen path time entries
  | [], h => by
      rw [scanEntries] at h
      cases h
  | entry :: entries, h => by
      rw [scanEntries, List.mem_append] at h
      rcases h with hfirst | hrest
      · cases seen_of_mem_scanEntry entry hfirst with
        | here h => exact .here (List.mem_singleton.mp h ▸ List.mem_cons_self)
        | within h hname hinner =>
            exact .within (List.mem_singleton.mp h ▸ List.mem_cons_self) hname hinner
      · exact (seen_of_mem_scanEntries entries hrest).cons

end

/-! ### The sorted list -/

variable [LinearOrder π]

/-- Source: `workspace_file_watcher.cpp` `CompareObservedFilePath`. -/
def compareObservedFilePath (left right : ObservedFile π) : Prop :=
  left.workspacePath < right.workspacePath

instance : DecidableRel (compareObservedFilePath (π := π)) :=
  fun _ _ => inferInstanceAs (Decidable (_ < _))

/-- Nothing is found where there is no directory.
Source: `workspace_file_watcher.cpp` `WorkspaceFileWatcher::ScanFiles`. -/
def scanFiles (root : Option (List (DirEntry π))) : List (ObservedFile π) :=
  ((root.map scanEntries).getD []).mergeSort fun left right =>
    decide ¬compareObservedFilePath right left

/-- A file of the workspace, as the scan of its root sees it. -/
def SeenIn (root : Option (List (DirEntry π))) (path : π) (time : ℕ) : Prop :=
  ∃ entries, root = some entries ∧ Seen path time entries

/-- **A scan lists what is seen.** -/
theorem mem_scanFiles {root : Option (List (DirEntry π))} {path : π} {time : ℕ} :
    ⟨path, time⟩ ∈ scanFiles root ↔ SeenIn root path time := by
  unfold scanFiles SeenIn
  rw [List.mem_mergeSort]
  rcases root with _ | entries
  · simp
  · simp only [Option.map_some, Option.getD_some, Option.some.injEq, exists_eq_left']
    exact ⟨seen_of_mem_scanEntries entries, mem_scanEntries_of_seen⟩

/-- No file is written while it is scanned: it is seen with one time. -/
def Coherent (root : Option (List (DirEntry π))) : Prop :=
  ∀ path time time', SeenIn root path time → SeenIn root path time' → time = time'

/-! ### Polling -/

/-- Source: `workspace_file_watcher.cpp` `TrimRecent`. -/
def trimRecent (changedFiles : List π) (recentLimit : ℕ) : List π :=
  ((changedFiles.mergeSort fun left right => decide (left ≤ right)).destutter (· ≠ ·)).rtake
    recentLimit

/-- Source: `workspace_file_watcher.h` `WorkspaceFileWatcher`; the part that scans. -/
structure WorkspaceFileWatcher (π : Type) where
  recentLimit : ℕ := 32
  initialized : Bool := false
  knownFiles : List (ObservedFile π) := []

namespace WorkspaceFileWatcher

/-- `std::lower_bound`: the first file that does not come before the one that is looked for. -/
def lowerBound (files : List (ObservedFile π)) (current : ObservedFile π) :
    Option (ObservedFile π) :=
  files.find? fun file => decide ¬compareObservedFilePath file current

/-- The file is not what was known of it. -/
def changed (knownFiles : List (ObservedFile π)) (current : ObservedFile π) : Bool :=
  match lowerBound knownFiles current with
  | none => true
  | some previous =>
      decide (previous.workspacePath ≠ current.workspacePath) ||
        decide (previous.writeTimeTicks ≠ current.writeTimeTicks)

/-- Source: `workspace_file_watcher.cpp` `WorkspaceFileWatcher::PollChangedFilesByScan`. -/
def pollChangedFilesByScan (w : WorkspaceFileWatcher π) (root : Option (List (DirEntry π))) :
    WorkspaceFileWatcher π × List π :=
  let scannedFiles := scanFiles root
  if !w.initialized then ({ w with knownFiles := scannedFiles, initialized := true }, [])
  else
    ({ w with knownFiles := scannedFiles },
      trimRecent ((scannedFiles.filter (changed w.knownFiles)).map (·.workspacePath))
        w.recentLimit)

/-- What each of some polls reports. -/
def polls (w : WorkspaceFileWatcher π) : List (Option (List (DirEntry π))) → List (List π)
  | [] => []
  | root :: roots =>
      (w.pollChangedFilesByScan root).2 :: (w.pollChangedFilesByScan root).1.polls roots

end WorkspaceFileWatcher

/-! ### Looking up -/

/-- The files are in order. -/
theorem pairwise_scanFiles (root : Option (List (DirEntry π))) :
    (scanFiles root).Pairwise fun left right => left.workspacePath ≤ right.workspacePath := by
  apply (List.pairwise_mergeSort _ _ _).imp
  · exact fun h => not_lt.mp (of_decide_eq_true h)
  · intro a b c hab hbc
    rw [decide_eq_true_iff] at hab hbc ⊢
    exact not_lt.mpr ((not_lt.mp hab).trans (not_lt.mp hbc))
  · intro a b
    rw [Bool.or_eq_true, decide_eq_true_iff, decide_eq_true_iff]
    exact (le_total a.workspacePath b.workspacePath).imp not_lt.mpr not_lt.mpr

namespace WorkspaceFileWatcher

/-- **Binary search** finds a file of the path that is looked for when there is one. -/
theorem lowerBound_of_mem {files : List (ObservedFile π)}
    (hsorted : files.Pairwise fun left right => left.workspacePath ≤ right.workspacePath)
    {file current : ObservedFile π} (hin : file ∈ files)
    (hpath : file.workspacePath = current.workspacePath) :
    ∃ previous ∈ files, lowerBound files current = some previous ∧
      previous.workspacePath = current.workspacePath := by
  induction files with
  | nil => cases hin
  | cons first files ih =>
      obtain ⟨hfirst, hrest⟩ := List.pairwise_cons.mp hsorted
      unfold lowerBound at ih ⊢
      by_cases hless : compareObservedFilePath first current
      · -- the first file comes before it
        have hne : file ≠ first := by
          rintro rfl
          exact absurd hpath (ne_of_lt hless)
        obtain ⟨previous, hmem, hfound, hsame⟩ :=
          ih hrest ((List.mem_cons.mp hin).resolve_left hne)
        refine ⟨previous, List.mem_cons_of_mem _ hmem, ?_, hsame⟩
        rw [List.find?_cons_of_neg (by simpa using hless)]
        exact hfound
      · refine ⟨first, List.mem_cons_self, ?_, ?_⟩
        · exact List.find?_cons_of_pos (by simpa using hless)
        · apply le_antisymm
          · rcases List.mem_cons.mp hin with rfl | hbehind
            · exact hpath.le
            · exact (hfirst file hbehind).trans hpath.le
          · exact not_lt.mp hless

/-- **A file has changed exactly when** it was not seen before with the time it has. -/
theorem changed_scanFiles {before : Option (List (DirEntry π))} (h : Coherent before)
    (current : ObservedFile π) :
    changed (scanFiles before) current = true ↔
      ¬SeenIn before current.workspacePath current.writeTimeTicks := by
  rw [← mem_scanFiles]
  unfold changed
  constructor
  · intro hchanged hin
    obtain ⟨previous, hmem, hfound, hpath⟩ :=
      lowerBound_of_mem (pairwise_scanFiles before) hin rfl
    have htime : previous.writeTimeTicks = current.writeTimeTicks := by
      apply h current.workspacePath
      · rw [← hpath]
        exact mem_scanFiles.mp hmem
      · exact mem_scanFiles.mp hin
    rw [hfound] at hchanged
    simp [hpath, htime] at hchanged
  · intro hnot
    rcases hfound : lowerBound (scanFiles before) current with _ | previous
    · rfl
    · have hmem : previous ∈ scanFiles before := List.mem_of_find?_eq_some hfound
      simp only [Bool.or_eq_true, decide_eq_true_iff]
      by_contra hsame
      rw [not_or, not_ne_iff, not_ne_iff] at hsame
      apply hnot
      rw [← hsame.1, ← hsame.2]
      exact hmem

/-! ### What polls report -/

/-- **What a poll is to report**: in order, the last of the files that are seen now and were not
seen with the same time before. -/
def Reports (recentLimit : ℕ) (before after : Option (List (DirEntry π))) (reported : List π) :
    Prop :=
  ∃ all, Ascending (fun path => ∃ time, SeenIn after path time ∧ ¬SeenIn before path time) all ∧
    reported = all.rtake recentLimit

/-- **One poll reports what has changed since the last one.** -/
theorem reports_poll {before : Option (List (DirEntry π))} (h : Coherent before)
    (after : Option (List (DirEntry π))) (recentLimit : ℕ) :
    Reports recentLimit before after
      (trimRecent (((scanFiles after).filter (changed (scanFiles before))).map (·.workspacePath))
        recentLimit) := by
  have hascending := ascending_destutter_mergeSort
    (((scanFiles after).filter (changed (scanFiles before))).map (·.workspacePath))
  refine ⟨_, ⟨hascending.pairwise, fun path => ?_⟩, rfl⟩
  rw [hascending.mem_iff, List.mem_map]
  constructor
  · rintro ⟨file, hfile, rfl⟩
    obtain ⟨hin, hchanged⟩ := List.mem_filter.mp hfile
    exact ⟨file.writeTimeTicks, mem_scanFiles.mp hin, (changed_scanFiles h file).mp hchanged⟩
  · rintro ⟨time, hseen, hnot⟩
    refine ⟨⟨path, time⟩, List.mem_filter.mpr ⟨mem_scanFiles.mpr hseen, ?_⟩, rfl⟩
    exact (changed_scanFiles h ⟨path, time⟩).mpr hnot

/-- The polls behind the first, from what was scanned last. -/
theorem polls_of_initialized {w : WorkspaceFileWatcher π} (hinit : w.initialized = true)
    {before : Option (List (DirEntry π))} (hknown : w.knownFiles = scanFiles before)
    (roots : List (Option (List (DirEntry π)))) (h : ∀ root ∈ before :: roots, Coherent root) :
    List.Forall₂ (fun step reported => Reports w.recentLimit step.1 step.2 reported)
      ((before :: roots).zip roots) (w.polls roots) := by
  induction roots generalizing w before with
  | nil => exact .nil
  | cons root roots ih =>
      obtain ⟨hbefore, hrest⟩ := List.forall_mem_cons.mp h
      have hpoll : w.pollChangedFilesByScan root =
          ({ w with knownFiles := scanFiles root },
            trimRecent (((scanFiles root).filter (changed (scanFiles before))).map
              (·.workspacePath)) w.recentLimit) := by
        unfold pollChangedFilesByScan
        rw [hinit, hknown]
        rfl
      rw [polls, hpoll, List.zip_cons_cons]
      exact .cons (reports_poll hbefore root _)
        (ih (w := { w with knownFiles := scanFiles root }) hinit rfl hrest)

/-- **Polls report the changes.** Over any polls of a watcher, of a workspace in which whatever has
happened between them: the first reports nothing, and each later one exactly the files that are
there and were not there with the same write time at the poll before, in order, each once, and if
they are more than the limit the last ones. -/
theorem polls_report_changes (recentLimit : ℕ) (first : Option (List (DirEntry π)))
    (roots : List (Option (List (DirEntry π)))) (h : ∀ root ∈ first :: roots, Coherent root) :
    ∃ reported, ({ recentLimit } : WorkspaceFileWatcher π).polls (first :: roots) =
        [] :: reported ∧
      List.Forall₂ (fun step files => Reports recentLimit step.1 step.2 files)
        ((first :: roots).zip roots) reported := by
  refine ⟨_, rfl, ?_⟩
  exact polls_of_initialized
    (w := { recentLimit, initialized := true, knownFiles := scanFiles first }) rfl rfl roots h

/-- A file that is written again, beside one that is not looked at, and then a new one. -/
theorem polls_report_changes_again :
    let first : Option (List (DirEntry String)) :=
      some [.file (some "a.txt") (some 1), .directory (utf8 "build") [.file (some "b.o") (some 1)]]
    let second : Option (List (DirEntry String)) := some [.file (some "a.txt") (some 2)]
    (∀ root ∈ [first, second, none], Coherent root) ∧
      ∃ reported, ({ recentLimit := 32 } : WorkspaceFileWatcher String).polls
          [first, second, none] = [] :: reported ∧
        List.Forall₂ (fun step files => Reports 32 step.1 step.2 files)
          ([first, second, none].zip [second, none]) reported := by
  intro first second
  have hbuild : utf8 "build" ∈ skippedDirectories := List.mem_map_of_mem (by simp)
  have hcoherent : ∀ root ∈ [first, second, none], Coherent root := by
    simp only [List.forall_mem_cons, List.not_mem_nil, false_imp_iff, implies_true, and_true]
    refine ⟨?_, ?_, ?_⟩
    all_goals
      intro path time time' hseen hseen'
      rw [← mem_scanFiles, scanFiles, List.mem_mergeSort] at hseen hseen'
    · simp [first, scanEntries, scanEntry, hbuild] at hseen hseen'
      rw [hseen.2, hseen'.2]
    · simp [second, scanEntries, scanEntry] at hseen hseen'
      rw [hseen.2, hseen'.2]
    · cases hseen
  exact ⟨hcoherent, polls_report_changes 32 first [second, none] hcoherent⟩

end WorkspaceFileWatcher

end Sentrits.Service
