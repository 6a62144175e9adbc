import Sentrits.Found.FileTree
import Sentrits.Net.HttpSessionHandlers

/-!
# Reading files of a workspace

`ReadFile` reads a file that a client names by a path below the workspace of a session. The path may
say anything, and there may be links in the workspace; what is read lies in the workspace all the
same.

* `readFile`: the answer, given the files there are.
* `isPathWithinRoot_iff`: the check on the elements of two paths.
* `readFile_inside`: **what is read is a regular file in the workspace,** the one that the path
  leads to, and no more of it than was asked for.
* `handleFile_inside`: and so is what is answered to a request for a file.

Sources: `src/service/session_manager.cpp`, `src/net/http_shared.cpp`.
-/

namespace Sentrits.Net.Http

open Found Found.Bytes Found.LexicalPath Found.FileTree Session Service

/-! ### The checks -/

/-- The loop of `IsPathWithinRoot`. -/
def isWithin : List Bytes → List Bytes → Bool
  | [], _ => true
  | _ :: _, [] => false
  | name :: root, name' :: candidate => if name ≠ name' then false else isWithin root candidate

/-- Source: `session_manager.cpp` `IsPathWithinRoot`. -/
def isPathWithinRoot (root candidate : Path) : Bool := isWithin root.elements candidate.elements

/-- Source: `session_manager.cpp` `ContainsParentTraversal`. -/
def containsParentTraversal (path : Path) : Bool := path.elements.any (· == dotdot)

/-- A place is within another that it begins with. -/
theorem isWithin_iff {root candidate : List Bytes} :
    isWithin root candidate = true ↔ root <+: candidate := by
  induction root generalizing candidate with
  | nil => simp [isWithin]
  | cons name root ih =>
      rcases candidate with _ | ⟨name', candidate⟩
      · simp [isWithin]
      · rw [isWithin, List.cons_prefix_cons]
        split_ifs with hname
        · simp [hname]
        · rw [ih, not_not.mp hname]
          simp

/-- The elements of the root are the first ones of the candidate. -/
theorem isPathWithinRoot_iff {root candidate : Path} :
    isPathWithinRoot root candidate = true ↔ root.elements <+: candidate.elements := by
  exact isWithin_iff

/-- What has been checked does not go up. -/
theorem dotdot_notMem_of_containsParentTraversal {path : Path}
    (h : containsParentTraversal path = false) : dotdot ∉ path.names := by
  intro hin
  have helements : dotdot ∈ path.elements :=
    List.mem_append_left _ (List.mem_append_right _ hin)
  unfold containsParentTraversal at h
  rw [List.any_eq_false] at h
  exact h dotdot helements (beq_self_eq_true dotdot)

/-! ### Reading -/

/-- The files there are, and the working directory (its names from the root), if there is one. -/
structure FileSystem where
  tree : Tree
  currentPath : Option (List Bytes)

/-- An empty path has no absolute form. -/
def FileSystem.absolute (files : FileSystem) (path : Path) : Option Path :=
  if path.isEmpty then none
  else if path.absolute then some path
  else files.currentPath.map fun names => Path.join { absolute := true, names } path

/-- The end of `SessionManager::ReadFile`, once the file is found. -/
def readRegular (file : File) (workspacePath : Bytes) (maxBytes : ℕ) : SessionFileReadResult :=
  match file.size with
  | none => { status := .ioError }
  | some fileSize =>
      if file.opens = false then { status := .ioError }
      else
        let bytesToRead := min fileSize maxBytes
        if 0 < bytesToRead ∧ file.reads = false then { status := .ioError }
        else
          { status := .ok
            workspacePath
            content := file.content.take bytesToRead
            sizeBytes := fileSize
            truncated := decide (maxBytes < fileSize) }

/-- The part of `SessionManager::ReadFile` behind the workspace: there is no answer when an
exception is thrown. -/
def readBelow (files : FileSystem) (workspaceRoot : Path) (workspacePath : Bytes) (maxBytes : ℕ) :
    Option SessionFileReadResult :=
  match files.tree.weaklyCanonical (workspaceRoot.join (Path.ofBytes workspacePath)) with
  | none => some { status := .notFound }
  | some resolvedPath =>
      if isPathWithinRoot workspaceRoot resolvedPath = false then some { status := .invalidPath }
      else
        match files.tree.status resolvedPath with
        | .failed => none
        | .missing => some { status := .notFound }
        | .found place =>
            match files.tree.entryAt place with
            | .regular file => some (readRegular file workspacePath maxBytes)
            | _ => some { status := .notRegularFile }

/-- Source: `session_manager.cpp` `SessionManager::ReadFile`; there is no answer when an exception
is thrown. -/
def readFile (files : FileSystem) (m : SessionManager) (sessionId : String) (workspacePath : Bytes)
    (maxBytes : ℕ) : Option SessionFileReadResult :=
  match m.findEntry sessionId with
  | none => some { status := .sessionNotFound }
  | some entry =>
      if workspacePath.isEmpty then some { status := .invalidPath }
      else do
        let metadata ← entry.metadata?
        let requestedPath := Path.ofBytes workspacePath
        if requestedPath.isEmpty || requestedPath.absolute ||
            containsParentTraversal requestedPath then
          some { status := .invalidPath }
        else
          let absolute ← files.absolute (Path.ofBytes (utf8 metadata.workspaceRoot))
          match files.tree.weaklyCanonical absolute with
          | none => some { status := .workspaceUnavailable }
          | some workspaceRoot =>
              if workspaceRoot.isEmpty then some { status := .workspaceUnavailable }
              else
                match files.tree.status workspaceRoot with
                | .failed => none
                | .missing => some { status := .workspaceUnavailable }
                | .found place =>
                    if files.tree.entryAt place ≠ .directory then
                      some { status := .workspaceUnavailable }
                    else readBelow files workspaceRoot workspacePath maxBytes

/-- The canonical path of the workspace of a session. -/
def workspaceOf (files : FileSystem) (m : SessionManager) (sessionId : String) : Option Path := do
  let entry ← m.findEntry sessionId
  let metadata ← entry.metadata?
  let absolute ← files.absolute (Path.ofBytes (utf8 metadata.workspaceRoot))
  files.tree.weaklyCanonical absolute

/-! ### What is read -/

/-- **The answer is that of a regular file in the workspace:** the path leads to it, its canonical
path begins with the elements of that of the workspace, which is the path of a directory above it,
and the answer has as many of its bytes as were asked for. -/
structure ReadInside (files : FileSystem) (workspaceRoot : Path) (workspacePath : Bytes)
    (maxBytes : ℕ) (result : SessionFileReadResult) (place : List Bytes) (file : File)
    (fileSize : ℕ) : Prop where
  leads : files.tree.status (workspaceRoot.join (Path.ofBytes workspacePath)) = .found place
  canonical : files.tree.Canonical place
  regular : files.tree.entryAt place = .regular file
  within : workspaceRoot.elements <+: (Tree.pathOf place).elements
  above : ∃ above, workspaceRoot = Tree.pathOf above ∧ above <:+ place ∧
    files.tree.Canonical above
  size : file.size = some fileSize
  content : result.content = file.content.take (min maxBytes fileSize)
  truncated : result.truncated = true ↔ maxBytes < fileSize

/-- What is read of a file, and whether that is all. -/
theorem readRegular_ok {file : File} {workspacePath : Bytes} {maxBytes : ℕ}
    (h : (readRegular file workspacePath maxBytes).status = .ok) :
    ∃ fileSize, file.size = some fileSize ∧
      (readRegular file workspacePath maxBytes).content =
        file.content.take (min maxBytes fileSize) ∧
      ((readRegular file workspacePath maxBytes).truncated = true ↔ maxBytes < fileSize) := by
  unfold readRegular at h ⊢
  rcases hsize : file.size with _ | fileSize
  · simp [hsize] at h
  · simp only [hsize] at h ⊢
    split_ifs at h ⊢
    refine ⟨fileSize, rfl, ?_, decide_eq_true_iff⟩
    rw [min_comm]

/-- A root that begins at the root of all and climbs nowhere is not left by what is asked for. -/
theorem readBelow_inside {files : FileSystem} {workspaceRoot : Path} {workspacePath : Bytes}
    {maxBytes : ℕ} {result : SessionFileReadResult} (habsolute : workspaceRoot.absolute = true)
    (hroot : dotdot ∉ workspaceRoot.names)
    (hrequested : dotdot ∉ (Path.ofBytes workspacePath).names)
    (hrelative : (Path.ofBytes workspacePath).absolute = false)
    (h : readBelow files workspaceRoot workspacePath maxBytes = some result)
    (hok : result.status = .ok) :
    ∃ place file fileSize,
      ReadInside files workspaceRoot workspacePath maxBytes result place file fileSize := by
  unfold readBelow at h
  have hjoined : dotdot ∉ (workspaceRoot.join (Path.ofBytes workspacePath)).names := by
    unfold Path.join
    rw [hrelative, if_neg Bool.false_ne_true]
    split_ifs
    · exact hroot
    · intro hin
      rcases List.mem_append.mp hin with hin | hin
      · exact hroot hin
      · exact hrequested hin
  rcases hresolved : files.tree.weaklyCanonical
      (workspaceRoot.join (Path.ofBytes workspacePath)) with _ | resolvedPath
  · simp only [hresolved, Option.some.injEq] at h
    rw [← h] at hok
    exact absurd hok (by decide)
  simp only [hresolved] at h
  split_ifs at h with hwithin
  · rw [← Option.some.inj h] at hok
    exact absurd hok (by decide)
  rcases hstatus : files.tree.status resolvedPath with place | _ | _
  all_goals simp only [hstatus, reduceCtorEq, Option.some.injEq] at h
  · obtain ⟨rfl, hcanonical, hleads⟩ :=
      Tree.place_of_weaklyCanonical hjoined hresolved hstatus
    rw [Bool.not_eq_false, isPathWithinRoot_iff] at hwithin
    obtain ⟨above, habove, hsuffix⟩ :=
      Tree.pathOf_of_elements_prefix habsolute hcanonical hwithin
    rcases hentry : files.tree.entryAt place with _ | _ | _ | file | _ | _
    all_goals
      simp only [hentry] at h
      rw [← Option.some.inj h] at hok
    all_goals first
      | exact absurd hok (by decide)
      | skip
    obtain ⟨fileSize, hsize, hcontent, htruncated⟩ := readRegular_ok hok
    rw [Option.some.inj h] at hcontent htruncated
    exact ⟨place, file, fileSize, hleads, hcanonical, hentry, hwithin,
      ⟨above, habove, hsuffix, hcanonical.of_suffix hsuffix⟩, hsize, hcontent, htruncated⟩
  · rw [← h] at hok
    exact absurd hok (by decide)

/-- **What is read lies in the workspace,** whatever the path says and wherever links lead. -/
theorem readFile_inside {files : FileSystem} {m : SessionManager} {sessionId : String}
    {workspacePath : Bytes} {maxBytes : ℕ} {result : SessionFileReadResult}
    (h : readFile files m sessionId workspacePath maxBytes = some result)
    (hok : result.status = .ok) :
    ∃ workspaceRoot place file fileSize,
      workspaceOf files m sessionId = some workspaceRoot ∧
        ReadInside files workspaceRoot workspacePath maxBytes result place file fileSize := by
  have hrefused : ∀ status, status ≠ FileReadStatus.ok →
      some ({ status := status } : SessionFileReadResult) ≠ some result := by
    intro status hstatus heq
    exact hstatus ((congrArg SessionFileReadResult.status (Option.some.inj heq)).trans hok)
  unfold readFile at h
  unfold workspaceOf
  rcases hfind : m.findEntry sessionId with _ | entry
  · rw [hfind] at h
    exact absurd h (hrefused .sessionNotFound (by decide))
  simp only [hfind, Option.bind_eq_bind, Option.bind_some] at h ⊢
  by_cases hempty : workspacePath.isEmpty = true
  · rw [if_pos hempty] at h
    exact absurd h (hrefused .invalidPath (by decide))
  rw [if_neg hempty] at h
  rcases hmetadata : entry.metadata? with _ | metadata
  · simp [hmetadata] at h
  simp only [hmetadata, Option.bind_some] at h ⊢
  split_ifs at h with hpath
  · exact absurd h (hrefused .invalidPath (by decide))
  rw [Bool.or_eq_true, Bool.or_eq_true, not_or, not_or, Bool.not_eq_true, Bool.not_eq_true,
    Bool.not_eq_true] at hpath
  obtain ⟨⟨-, hrelative⟩, htraversal⟩ := hpath
  rcases habsolute : files.absolute (Path.ofBytes (utf8 metadata.workspaceRoot)) with _ | absolute
  · simp [habsolute] at h
  simp only [habsolute, Option.bind_some] at h ⊢
  rcases hroot : files.tree.weaklyCanonical absolute with _ | workspaceRoot
  · simp only [hroot] at h
    exact absurd h (hrefused .workspaceUnavailable (by decide))
  simp only [hroot] at h
  split_ifs at h
  · exact absurd h (hrefused .workspaceUnavailable (by decide))
  rcases hstatus : files.tree.status workspaceRoot with above | _ | _
  all_goals simp only [hstatus, reduceCtorEq] at h
  · split_ifs at h
    · exact absurd h (hrefused .workspaceUnavailable (by decide))
    obtain ⟨hfromRoot, hdotdot⟩ := Tree.absolute_of_weaklyCanonical hroot
    obtain ⟨place, file, fileSize, hread⟩ := readBelow_inside hfromRoot hdotdot
      (dotdot_notMem_of_containsParentTraversal htraversal) hrelative h hok
    exact ⟨workspaceRoot, place, file, fileSize, rfl, hread⟩
  · exact absurd h (hrefused .workspaceUnavailable (by decide))

/-- A workspace with a file in it, a link to that one, and one that leads out. -/
def workFiles : FileSystem where
  tree :=
    { entry := fun place =>
        if place = [[0x77]] then .directory
        else if place = [[0x61], [0x77]] then .regular { size := some 3, content := [1, 2, 3] }
        else if place = [[0x62], [0x77]] then .symlink [0x61]
        else if place = [[0x63], [0x77]] then .symlink [0x2e, 0x2e, 0x2f, 0x65]
        else if place = [[0x65]] then .regular { size := some 1, content := [9] }
        else .absent
      unnamed := by
        intro place
        simp }
  currentPath := none

/-- A session in that workspace. -/
def workSession : SessionManager :=
  (SessionManager.createSession {} (fun _ => true)
    { workspaceRoot := "/w", title := "sh", commandArgv := some ["sh"], envMode := some .clean }
    { candidates := ["s_1"]
      resolved := .ok { mode := .clean }
      bootstrapShell := []
      start := { started := true, pid := 7 } }).1

/-- Two bytes are read through the link in the workspace. -/
theorem readFile_inside_link :
    let result : SessionFileReadResult :=
      { status := .ok
        workspacePath := [0x62]
        content := [1, 2]
        sizeBytes := 3
        truncated := true }
    readFile workFiles workSession "s_1" [0x62] 2 = some result ∧
      ∃ workspaceRoot place file fileSize,
        workspaceOf workFiles workSession "s_1" = some workspaceRoot ∧
          ReadInside workFiles workspaceRoot [0x62] 2 result place file fileSize := by
  intro result
  have hread : readFile workFiles workSession "s_1" [0x62] 2 = some result := by decide
  exact ⟨hread, readFile_inside hread rfl⟩

/-- The link that leads out is not read. -/
example : readFile workFiles workSession "s_1" [0x63] 2 = some { status := .invalidPath } := by
  decide

/-! ### Requests for a file -/

/-- **What is answered to a request for a file lies in the workspace** of the session that the
request names, if that is where the manager reads. -/
theorem handleFile_inside {files : FileSystem} {x : Exchange} {sessionId : Bytes} {t : Turn Daemon}
    {file : SessionFileReadResult}
    (hreads : ∀ id path maxBytes, readFile files t.manager id path maxBytes =
      some (x.answers.readFile t.manager id path maxBytes))
    (h : (x.handleFile sessionId t).2.body = .readFile file) :
    ∃ id workspacePath maxBytes workspaceRoot place f fileSize,
      textOf sessionId = some id ∧ workspaceOf files t.manager id = some workspaceRoot ∧
        ReadInside files workspaceRoot workspacePath maxBytes file place f fileSize := by
  unfold Exchange.handleFile guarded at h
  rcases hrequire : x.require t .observeSessions with _ | response
  · rw [hrequire] at h
    dsimp only at h
    by_cases hpath : (parseQueryValue x.request.target "path").isEmpty = true
    · rw [if_pos hpath] at h
      simp [errorResponse] at h
    rw [if_neg hpath] at h
    rcases hdecoded : urlDecode (parseQueryValue x.request.target "path") with _ | workspacePath
    · simp [hdecoded, errorResponse] at h
    rcases hbytes : parseFileBytes x.request.target with _ | maxBytes
    · simp [hdecoded, hbytes, errorResponse] at h
    rcases hid : textOf sessionId with _ | id
    · simp [hdecoded, hbytes, hid, Exchange.makeFileReadErrorResponse, errorResponse] at h
    simp only [hdecoded, hbytes, hid] at h
    split_ifs at h with hstatus
    · rcases hrefused : (x.answers.readFile t.manager id workspacePath maxBytes).status
      all_goals simp [hrefused, Exchange.makeFileReadErrorResponse, errorResponse] at h
    · rw [not_not] at hstatus
      obtain ⟨workspaceRoot, place, f, fileSize, hroot, hinside⟩ :=
        readFile_inside (hreads id workspacePath maxBytes) hstatus
      rw [ResponseBody.readFile.inj h] at hinside
      exact ⟨id, workspacePath, maxBytes, workspaceRoot, place, f, fileSize, rfl, hroot, hinside⟩
  · rw [hrequire] at h
    unfold Exchange.require requireAuthorization at hrequire
    dsimp only at hrequire
    split_ifs at hrequire
    all_goals
      rw [← Option.some.inj hrequire] at h
      simp [errorResponse] at h

end Sentrits.Net.Http
