import Sentrits.Found.LexicalPath

/-!
# Serving static assets

Two branches of the request handler read a file that the request target names: the remote listener's
`/assets/`, which asks for no authorization, and the local listener's page assets. The target loses
its prefix, what is left is joined to each asset root in turn, and the first file that can be read
is the answer.

* `mem_buildAssetCandidates`: a candidate is an asset root joined with the path.
* `asset_of_loadAsset`, `loadAsset_only`: what a lookup reads, and what it finds when there is one
  file only.
* `Strays`: the target leaves a path that is absolute or climbs.
* `servesOnlyAssets_iff`: **what is served lies in an asset root exactly when** the target does not
  stray.

Source: `src/net/http_shared.cpp`.
-/

namespace Sentrits.Net.StaticAssets

open Found Found.Bytes Found.LexicalPath

/-! ### Asset roots -/

/-- What the lookup reads of the process.
Source: `http_shared.cpp` `SENTRITS_DEFAULT_PACKAGED_WEB_ROOT` for `compiledRoot`. -/
structure AssetEnvironment where
  getenv : String → Option Bytes
  compiledRoot : Bytes
  currentPath : Bytes

/-- An unset variable and an empty one are the same.
Source: `http_shared.cpp` `EnvPath`. -/
def envPath (env : AssetEnvironment) (name : String) : Option Bytes :=
  match env.getenv name with
  | none => none
  | some value => if value = [] then none else some value

/-- Source: `http_shared.cpp` `ResolvePackagedWebRoot`. -/
def resolvePackagedWebRoot (env : AssetEnvironment) : Option Bytes :=
  match envPath env "SENTRITS_WEB_ROOT" with
  | some webRoot => some webRoot
  | none => if env.compiledRoot = [] then none else some env.compiledRoot

/-- The roots a lookup passes to `BuildAssetCandidates`. -/
structure AssetRoots where
  explicitRoot : Option Bytes
  packagedSubdir : Option Bytes
  developmentRoots : List Bytes

/-- All of them, in the order of the lookup. -/
def AssetRoots.all (roots : AssetRoots) : List Bytes :=
  roots.explicitRoot.toList ++ roots.packagedSubdir.toList ++ roots.developmentRoots

/-- The directory some names below another. -/
def below (directory : Bytes) (names : List String) : Bytes :=
  names.foldl (fun path name => join path (utf8 name)) directory

/-- The roots of one kind of asset: its variable, its directory in the package, and its directories
in a checkout, each looked for in the working directory and the two above. -/
def assetRoots (env : AssetEnvironment) (envName packaged : String)
    (development : List (List String)) : AssetRoots :=
  let cwd := env.currentPath
  { explicitRoot := envPath env envName
    packagedSubdir := (resolvePackagedWebRoot env).map fun webRoot => join webRoot (utf8 packaged)
    developmentRoots := development.flatMap fun names =>
      [below cwd names, below (parentPath cwd) names, below (parentPath (parentPath cwd)) names] }

/-- Source: `http_shared.cpp` `LoadHostUiAsset`. -/
def hostUiRoots (env : AssetEnvironment) : AssetRoots :=
  assetRoots env "SENTRITS_HOST_UI_ROOT" "host-admin"
    [["frontend", "dist", "host-admin", "browser"], ["deprecated", "web", "host_ui"],
      ["web", "host_ui"]]

/-- Source: `http_shared.cpp` `LoadRemoteUiAsset`. -/
def remoteUiRoots (env : AssetEnvironment) : AssetRoots :=
  assetRoots env "SENTRITS_REMOTE_UI_ROOT" "remote-client" [["web", "remote_client"]]

/-- Source: `http_shared.cpp` `LoadVendorAsset`. -/
def vendorRoots (env : AssetEnvironment) : AssetRoots :=
  assetRoots env "SENTRITS_VENDOR_ROOT" "vendor" [["web", "vendor"]]

/-! ### Candidates -/

/-- The candidates collected, with the normal forms already seen. -/
structure Candidates where
  candidates : List Bytes := []
  seenPaths : List Bytes := []

/-- Source: `http_shared.cpp` `AppendCandidatePath`. -/
def appendCandidatePath (collected : Candidates) (candidate : Bytes) : Candidates :=
  if candidate = [] then collected
  else
    let key := lexicallyNormal candidate
    if key ∈ collected.seenPaths then collected
    else
      { candidates := collected.candidates ++ [candidate]
        seenPaths := collected.seenPaths ++ [key] }

/-- Source: `http_shared.cpp` `BuildAssetCandidates`. -/
def buildAssetCandidates (roots : AssetRoots) (relativePath : Bytes) : List Bytes :=
  (roots.all.foldl (fun collected root => appendCandidatePath collected (join root relativePath))
    {}).candidates

/-- A file that was read, and where. -/
structure Asset where
  path : Bytes
  content : Bytes
  deriving DecidableEq

/-- The first candidate that can be read.
Source: the loops of `http_shared.cpp` `LoadHostUiAsset`, `LoadRemoteUiAsset`, `LoadVendorAsset`. -/
def loadAsset (readFile : Bytes → Option Bytes) (roots : AssetRoots) (relativePath : Bytes) :
    Option Asset :=
  (buildAssetCandidates roots relativePath).findSome? fun path => (readFile path).map (Asset.mk path)

/-! ### Requests -/

/-- Who listens. -/
inductive ListenerRole
  | adminLocal
  | remoteClient
  deriving DecidableEq

/-- The verbs the routes ask for, and the rest. -/
inductive HttpVerb
  | options
  | get
  | other
  deriving DecidableEq

/-- What the routes read of a request; the HTTP parser lets no control character into a target. -/
structure HttpRequest where
  method : HttpVerb
  target : Bytes
  deriving DecidableEq

/-- What the routes read of the context; `hostAdmin` is the answer of `RequireLocalHostAdmin`. -/
structure HttpRouteContext where
  listenerRole : ListenerRole
  hostAdmin : Bool
  deriving DecidableEq

/-- Source: `http_shared.cpp` `StripQueryString`. -/
def stripQueryString (target : Bytes) : Bytes := target.takeWhile (· != 63)

/-- The last piece has a dot in it.
Source: `http_shared.cpp` `IsUiStaticAssetPath`. -/
def isUiStaticAssetPath (path : Bytes) : Bool := (path.rtakeWhile (· != slash)).contains 46

/-- The extension of a path's last piece, with its dot. -/
def extension (path : Bytes) : Bytes :=
  let filename := path.rtakeWhile (· != slash)
  let ending := filename.rtakeWhile (· != 46)
  if filename = dot ∨ filename = dotdot ∨ ending = filename ∨ 46 :: ending = filename then []
  else 46 :: ending

/-- Source: `http_shared.cpp` `GuessContentType`. -/
def guessContentType (path : Bytes) : String :=
  let extension := extension path
  if extension = utf8 ".css" then "text/css; charset=utf-8"
  else if extension = utf8 ".js" ∨ extension = utf8 ".mjs" then
    "application/javascript; charset=utf-8"
  else if extension = utf8 ".html" then "text/html; charset=utf-8"
  else if extension = utf8 ".json" then "application/json; charset=utf-8"
  else if extension = utf8 ".png" then "image/png"
  else if extension = utf8 ".ico" then "image/x-icon"
  else if extension = utf8 ".svg" then "image/svg+xml"
  else if extension = utf8 ".map" then "application/json; charset=utf-8"
  else "application/octet-stream"

/-- The paths that have a route of their own before the asset branches.
Source: `http_shared.cpp` `HandleRequest`. -/
def pagePaths : List String :=
  ["/", "/ui", "/client", "/remote", "/remote/app.js", "/remote/app.css", "/assets/xterm/xterm.css",
    "/assets/xterm/xterm.js", "/assets/xterm/addon-fit.js"]

/-- Where a request is answered: by one of the two asset branches, or before or behind them. -/
inductive Route
  | before
  | remoteAssets
  | uiAssets
  | behind
  deriving DecidableEq

/-- Source: `http_shared.cpp` `HandleRequest`, down to the asset branches. -/
def route (context : HttpRouteContext) (request : HttpRequest) : Route :=
  let targetPath := stripQueryString request.target
  if request.method = .options then .before
  else if request.method = .get ∧ request.target = utf8 "/health" then .before
  else if targetPath = utf8 "/templates" ∨ utf8 "/templates/" <+: request.target then .before
  else if request.method = .get ∧ targetPath ∈ pagePaths.map utf8 then .before
  else if request.method = .get ∧ context.listenerRole = .remoteClient ∧
      utf8 "/assets/" <+: targetPath then .remoteAssets
  else if request.method = .get ∧ context.listenerRole = .adminLocal ∧ targetPath ≠ utf8 "/" ∧
      targetPath ≠ utf8 "/ui" ∧ isUiStaticAssetPath targetPath then .uiAssets
  else .behind

/-- What the remote branch looks for among the remote client's assets. -/
def remoteRelativePath (request : HttpRequest) : Bytes :=
  (stripQueryString request.target).drop 1

/-- What it looks for next, among the vendor's. -/
def vendorRelativePath (request : HttpRequest) : Bytes :=
  (stripQueryString request.target).drop (utf8 "/assets/").length

/-- What the local branch looks for. -/
def uiRelativePath (request : HttpRequest) : Bytes :=
  let targetPath := stripQueryString request.target
  if utf8 "/ui/" <+: targetPath then targetPath.drop 4 else targetPath.drop 1

/-- The answer of an asset branch; `uiAssetMissing` is the 503 of `MakeStaticAssetResponse`. -/
inductive AssetResponse
  | unauthorized
  | uiAssetMissing
  | ok (contentType : String) (asset : Asset)
  deriving DecidableEq

/-- Source: `http_shared.cpp` `MakeStaticAssetResponse`. -/
def makeStaticAssetResponse (assetPath : Bytes) : Option Asset → AssetResponse
  | none => .uiAssetMissing
  | some asset => .ok (guessContentType assetPath) asset

/-- The asset branches; `none` when the request is answered elsewhere.
Source: `http_shared.cpp` `HandleRequest`. -/
def handleRequest (env : AssetEnvironment) (readFile : Bytes → Option Bytes)
    (context : HttpRouteContext) (request : HttpRequest) : Option AssetResponse :=
  match route context request with
  | .before => none
  | .remoteAssets =>
      let relativePath := remoteRelativePath request
      match loadAsset readFile (remoteUiRoots env) relativePath with
      | some asset => some (makeStaticAssetResponse relativePath (some asset))
      | none =>
          some (makeStaticAssetResponse relativePath
            (loadAsset readFile (vendorRoots env) (vendorRelativePath request)))
  | .uiAssets =>
      if context.hostAdmin then
        let assetRelativePath := uiRelativePath request
        some (makeStaticAssetResponse assetRelativePath
          (loadAsset readFile (hostUiRoots env) assetRelativePath))
      else some .unauthorized
  | .behind => none

/-- The roots a request's branch passes to `BuildAssetCandidates`. -/
def rootsPassed (env : AssetEnvironment) (context : HttpRouteContext) (request : HttpRequest) :
    List Bytes :=
  match route context request with
  | .remoteAssets => (remoteUiRoots env).all ++ (vendorRoots env).all
  | .uiAssets => (hostUiRoots env).all
  | _ => []

/-- In every environment and whatever the files, what is served lies in one of the roots passed. -/
def ServesOnlyAssets (context : HttpRouteContext) (request : HttpRequest) : Prop :=
  ∀ env readFile contentType asset,
    handleRequest env readFile context request = some (.ok contentType asset) →
      ∃ root ∈ rootsPassed env context request, Inside root asset.path

/-- What an asset branch is left with, once it has taken its prefix off the target, is absolute or
climbs above where it starts. -/
def Strays (context : HttpRouteContext) (request : HttpRequest) : Prop :=
  match route context request with
  | .remoteAssets => ¬ Contained (vendorRelativePath request)
  | .uiAssets => context.hostAdmin = true ∧ ¬ Contained (uiRelativePath request)
  | _ => False

instance (context : HttpRouteContext) (request : HttpRequest) :
    Decidable (Strays context request) := by
  unfold Strays
  split <;> infer_instance

/-! ### Lookups -/

/-- What has been collected stays. -/
theorem prefix_appendCandidatePath (collected : Candidates) (candidate : Bytes) :
    collected.candidates <+: (appendCandidatePath collected candidate).candidates := by
  unfold appendCandidatePath
  dsimp only
  split_ifs
  · exact List.prefix_rfl
  · exact List.prefix_rfl
  · exact List.prefix_append _ _

/-- Appending loses no candidate and adds no other. -/
theorem mem_appendCandidatePath {collected : Candidates} {candidate path : Bytes}
    (h : path ∈ (appendCandidatePath collected candidate).candidates) :
    path ∈ collected.candidates ∨ path = candidate := by
  unfold appendCandidatePath at h
  dsimp only at h
  split_ifs at h
  · exact Or.inl h
  · exact Or.inl h
  · rcases List.mem_append.mp h with hold | hnew
    · exact Or.inl hold
    · exact Or.inr (List.mem_singleton.mp hnew)

/-- A candidate is an asset root joined with the path. -/
theorem mem_buildAssetCandidates {roots : AssetRoots} {relativePath path : Bytes}
    (h : path ∈ buildAssetCandidates roots relativePath) :
    ∃ root ∈ roots.all, path = join root relativePath := by
  have hfold : ∀ (rest : List Bytes) (collected : Candidates),
      path ∈ (rest.foldl (fun collected root => appendCandidatePath collected (join root relativePath))
        collected).candidates →
      path ∈ collected.candidates ∨ ∃ root ∈ rest, path = join root relativePath := by
    intro rest
    induction rest with
    | nil => exact fun collected hin => Or.inl hin
    | cons root rest ih =>
        intro collected hin
        rcases ih _ hin with hin | ⟨other, hother, heq⟩
        · rcases mem_appendCandidatePath hin with hold | heq
          · exact Or.inl hold
          · exact Or.inr ⟨root, List.mem_cons_self, heq⟩
        · exact Or.inr ⟨other, List.mem_cons_of_mem root hother, heq⟩
  exact (hfold roots.all {} h).resolve_left List.not_mem_nil

/-- The explicit root comes first. -/
theorem explicit_mem_buildAssetCandidates {roots : AssetRoots} {root relativePath : Bytes}
    (hroot : roots.explicitRoot = some root) (hne : join root relativePath ≠ []) :
    join root relativePath ∈ buildAssetCandidates roots relativePath := by
  have hfold : ∀ (rest : List Bytes) (collected : Candidates),
      collected.candidates <+: (rest.foldl
        (fun collected root => appendCandidatePath collected (join root relativePath))
        collected).candidates := by
    intro rest
    induction rest with
    | nil => exact fun collected => List.prefix_rfl
    | cons other rest ih =>
        exact fun collected => (prefix_appendCandidatePath collected _).trans (ih _)
  have hfirst : (appendCandidatePath {} (join root relativePath)).candidates =
      [join root relativePath] := by
    unfold appendCandidatePath
    rw [if_neg hne]
    exact congrArg Candidates.candidates (if_neg List.not_mem_nil)
  unfold buildAssetCandidates AssetRoots.all
  rw [hroot, Option.toList_some, List.append_assoc, List.singleton_append, List.foldl_cons]
  refine (hfold _ _).subset ?_
  rw [hfirst]
  exact List.mem_singleton_self _

/-- What a lookup reads is a candidate. -/
theorem asset_of_loadAsset {readFile : Bytes → Option Bytes} {roots : AssetRoots}
    {relativePath : Bytes} {asset : Asset} (h : loadAsset readFile roots relativePath = some asset) :
    asset.path ∈ buildAssetCandidates roots relativePath ∧
      readFile asset.path = some asset.content := by
  rcases List.exists_of_findSome?_eq_some h with ⟨path, hpath, hread⟩
  rw [Option.map_eq_some_iff] at hread
  rcases hread with ⟨content, hcontent, rfl⟩
  exact ⟨hpath, hcontent⟩

/-- The file system with one file. -/
def onlyFile (path content : Bytes) : Bytes → Option Bytes :=
  fun other => if other = path then some content else none

/-- Where there is one file, it is what is loaded. -/
theorem asset_of_loadAsset_only {path content : Bytes} {roots : AssetRoots} {relativePath : Bytes}
    {asset : Asset} (h : loadAsset (onlyFile path content) roots relativePath = some asset) :
    asset.path = path := by
  have hread := (asset_of_loadAsset h).2
  unfold onlyFile at hread
  split_ifs at hread with heq
  exact heq

/-- A lookup finds the only file when it is a candidate. -/
theorem loadAsset_only {path content : Bytes} {roots : AssetRoots} {relativePath : Bytes}
    (h : path ∈ buildAssetCandidates roots relativePath) :
    ∃ asset, loadAsset (onlyFile path content) roots relativePath = some asset := by
  rw [← Option.isSome_iff_exists]
  unfold loadAsset
  rw [List.findSome?_isSome_iff]
  refine ⟨path, h, ?_⟩
  unfold onlyFile
  rw [if_pos rfl, Option.isSome_map, Option.isSome_some]

/-- A lookup of a contained path stays inside the roots. -/
theorem inside_of_loadAsset {readFile : Bytes → Option Bytes} {roots : AssetRoots}
    {relativePath : Bytes} {asset : Asset} (hcontained : Contained relativePath)
    (h : loadAsset readFile roots relativePath = some asset) :
    ∃ root ∈ roots.all, Inside root asset.path := by
  rcases mem_buildAssetCandidates (asset_of_loadAsset h).1 with ⟨root, hroot, heq⟩
  exact ⟨root, hroot, heq ▸ inside_join root hcontained⟩

/-! ### The prefix of the remote branch -/

/-- A contained path stays contained behind a directory of its own. -/
theorem contained_join {directory relativePath : Bytes} (hdirectory : Contained directory)
    (h : Contained relativePath) : Contained (join directory relativePath) := by
  refine ⟨(isAbsolute_join directory h.1).trans hdirectory.1, ?_⟩
  rw [normalComponents_join directory h, List.mem_append]
  exact fun hin => hin.elim hdirectory.2 h.2

/-- The first lookup of the remote branch strays only when the second does. -/
theorem contained_remoteRelativePath {context : HttpRouteContext} {request : HttpRequest}
    (hroute : route context request = .remoteAssets)
    (h : Contained (vendorRelativePath request)) : Contained (remoteRelativePath request) := by
  have hpre : utf8 "/assets/" <+: stripQueryString request.target := by
    unfold route at hroute
    dsimp only at hroute
    split_ifs at hroute with _ _ _ _ hremote
    exact hremote.2.2
  rcases hpre with ⟨rest, heq⟩
  unfold vendorRelativePath at h
  rw [← heq, List.drop_left] at h
  unfold remoteRelativePath
  rw [← heq]
  have hjoin : (utf8 "/assets/" ++ rest).drop 1 = join (utf8 "assets") rest := by
    unfold join
    rw [h.1, if_neg Bool.false_ne_true, if_pos (by decide)]
    rfl
  rw [hjoin]
  exact contained_join (by decide) h

/-! ### Straying -/

/-- An environment whose every root is below one directory at the root. -/
def under (name : Bytes) : AssetEnvironment where
  getenv _ := some (slash :: name)
  compiledRoot := []
  currentPath := slash :: name ++ slash :: name ++ slash :: name

/-- What is below a directory has that directory's names. -/
theorem mem_normalComponents_below {name directory : Bytes} {names : List String}
    (hnames : ∀ other ∈ names, Contained (utf8 other)) (h : name ∈ normalComponents directory) :
    name ∈ normalComponents (below directory names) := by
  induction names generalizing directory with
  | nil => exact h
  | cons first names ih =>
      refine ih (fun other hother => hnames other (List.mem_cons_of_mem first hother)) ?_
      exact mem_of_inside (inside_join directory (hnames first List.mem_cons_self)) h

/-- Every variable names the same root. -/
theorem envPath_under {name : Bytes} (envName : String) :
    envPath (under name) envName = some (slash :: name) := by
  show (if slash :: name = [] then none else some (slash :: name)) = some (slash :: name)
  rw [if_neg (List.cons_ne_nil slash name)]

/-- Every root in that environment has the directory's name. -/
theorem mem_of_mem_assetRoots {name root : Bytes} (hname : PlainName name)
    {envName packaged : String}
    {development : List (List String)} (hpackaged : Contained (utf8 packaged))
    (hdevelopment : ∀ names ∈ development, ∀ other ∈ names, Contained (utf8 other))
    (h : root ∈ (assetRoots (under name) envName packaged development).all) :
    name ∈ normalComponents root := by
  have htop : name ∈ normalComponents (slash :: name) := by
    rw [hname.normalComponents_cons]
    exact List.mem_singleton_self name
  have hsecond : name ∈ normalComponents (slash :: name ++ slash :: name) := by
    rw [← join_of_hasFilename hname.hasFilename_cons hname.isAbsolute_eq]
    exact mem_of_inside (inside_join _ hname.contained) htop
  have hthird : name ∈ normalComponents (slash :: name ++ slash :: name ++ slash :: name) := by
    rw [← join_of_hasFilename (hname.hasFilename_append _) hname.isAbsolute_eq]
    exact mem_of_inside (inside_join _ hname.contained) hsecond
  have hparent : parentPath (under name).currentPath = slash :: name ++ slash :: name :=
    parentPath_append (hname.hasFilename_append _) hname
  have hgrand : parentPath (slash :: name ++ slash :: name) = slash :: name :=
    parentPath_append hname.hasFilename_cons hname
  have hroot : resolvePackagedWebRoot (under name) = some (slash :: name) := by
    unfold resolvePackagedWebRoot
    rw [envPath_under]
  unfold AssetRoots.all assetRoots at h
  dsimp only at h
  rw [envPath_under, hroot, hparent, hgrand] at h
  rcases List.mem_append.mp h with hin | hin
  · rcases List.mem_append.mp hin with hin | hin
    · rw [Option.mem_toList.mp hin |> Option.some.inj |>.symm]
      exact htop
    · rw [Option.mem_toList.mp hin |> Option.some.inj |>.symm]
      exact mem_of_inside (inside_join _ hpackaged) htop
  · rcases List.mem_flatMap.mp hin with ⟨names, hnames, hin⟩
    have hcontained := hdevelopment names hnames
    simp only [List.mem_cons, List.not_mem_nil, or_false] at hin
    rcases hin with rfl | rfl | rfl
    · exact mem_normalComponents_below hcontained hthird
    · exact mem_normalComponents_below hcontained hsecond
    · exact mem_normalComponents_below hcontained htop

/-- All roots of the host's pages are under it. -/
theorem mem_of_mem_hostUiRoots {name root : Bytes} (hname : PlainName name)
    (h : root ∈ (hostUiRoots (under name)).all) : name ∈ normalComponents root := by
  exact mem_of_mem_assetRoots hname (by decide) (by decide) h

/-- All roots of the remote pages are under it. -/
theorem mem_of_mem_remoteUiRoots {name root : Bytes} (hname : PlainName name)
    (h : root ∈ (remoteUiRoots (under name)).all) : name ∈ normalComponents root := by
  exact mem_of_mem_assetRoots hname (by decide) (by decide) h

/-- All roots of vendored files are under it. -/
theorem mem_of_mem_vendorRoots {name root : Bytes} (hname : PlainName name)
    (h : root ∈ (vendorRoots (under name)).all) : name ∈ normalComponents root := by
  exact mem_of_mem_assetRoots hname (by decide) (by decide) h

/-- In that environment a lookup reads the directory's name joined with the path, wherever it is. -/
theorem loadAsset_under (name relativePath : Bytes) (envName packaged : String)
    (development : List (List String)) (content : Bytes) :
    ∃ asset, loadAsset (onlyFile (join (slash :: name) relativePath) content)
      (assetRoots (under name) envName packaged development) relativePath = some asset := by
  exact loadAsset_only (explicit_mem_buildAssetCandidates (envPath_under envName)
    (join_ne_nil (List.cons_ne_nil slash name) relativePath))

/-- A request that strays is served a file from outside, in some environment. -/
theorem strays_served {context : HttpRouteContext} {request : HttpRequest}
    (h : Strays context request) :
    ∃ name path contentType asset, name ∉ normalComponents path ∧ asset.path = path ∧
      handleRequest (under name) (onlyFile path []) context request = some (.ok contentType asset) ∧
      ∀ root ∈ rootsPassed (under name) context request, name ∈ normalComponents root := by
  unfold Strays at h
  split at h
  next hroute =>
    -- the vendor lookup comes second, but the only file is the only one the first could find
    rcases exists_plainName (vendorRelativePath request) with ⟨name, hname, hfresh⟩
    have hroots : ∀ root ∈ rootsPassed (under name) context request,
        name ∈ normalComponents root := by
      intro root hroot
      unfold rootsPassed at hroot
      rw [hroute] at hroot
      rcases List.mem_append.mp hroot with hroot | hroot
      · exact mem_of_mem_remoteUiRoots hname hroot
      · exact mem_of_mem_vendorRoots hname hroot
    have hout := hname.not_mem_join hfresh h
    unfold handleRequest
    rw [hroute]
    dsimp only
    rcases hremote : loadAsset (onlyFile (join (slash :: name) (vendorRelativePath request)) [])
      (remoteUiRoots (under name)) (remoteRelativePath request) with _ | asset
    · rcases loadAsset_under name (vendorRelativePath request)
        "SENTRITS_VENDOR_ROOT" "vendor" [["web", "vendor"]] [] with ⟨asset, hasset⟩
      refine ⟨name, _, guessContentType (remoteRelativePath request), asset, hout,
        asset_of_loadAsset_only hasset, ?_, hroots⟩
      rw [hremote]
      dsimp only
      unfold vendorRoots
      rw [hasset]
      rfl
    · refine ⟨name, _, guessContentType (remoteRelativePath request), asset, hout,
        asset_of_loadAsset_only hremote, ?_, hroots⟩
      rw [hremote]
      rfl
  next hroute =>
    rcases exists_plainName (uiRelativePath request) with ⟨name, hname, hfresh⟩
    rcases loadAsset_under name (uiRelativePath request)
      "SENTRITS_HOST_UI_ROOT" "host-admin" [["frontend", "dist", "host-admin", "browser"],
        ["deprecated", "web", "host_ui"], ["web", "host_ui"]] [] with ⟨asset, hasset⟩
    refine ⟨name, _, guessContentType (uiRelativePath request), asset,
      hname.not_mem_join hfresh h.2, asset_of_loadAsset_only hasset, ?_, ?_⟩
    · unfold handleRequest hostUiRoots
      rw [hroute]
      dsimp only
      rw [if_pos h.1, hasset]
      rfl
    · intro root hroot
      unfold rootsPassed at hroot
      rw [hroute] at hroot
      exact mem_of_mem_hostUiRoots hname hroot
  next => exact h.elim

/-- A request that does not stray is served from an asset root. -/
theorem servesOnlyAssets_of_not_strays {context : HttpRouteContext} {request : HttpRequest}
    (h : ¬ Strays context request) : ServesOnlyAssets context request := by
  intro env readFile contentType asset hserved
  have hfound : ∀ {assetPath : Bytes} {found : Option Asset},
      makeStaticAssetResponse assetPath found = .ok contentType asset → found = some asset := by
    intro assetPath found heq
    rcases found with _ | other
    · cases heq
    · cases heq
      rfl
  unfold handleRequest at hserved
  unfold rootsPassed
  unfold Strays at h
  split at hserved
  · cases hserved
  next hroute =>
    rw [hroute] at h ⊢
    have hvendor : Contained (vendorRelativePath request) := not_not.mp h
    dsimp only at hserved ⊢
    split at hserved
    next other hremote =>
      have heq : some other = some asset := hfound (Option.some.inj hserved)
      rcases inside_of_loadAsset (contained_remoteRelativePath hroute hvendor) (hremote.trans heq)
        with ⟨root, hroot, hin⟩
      exact ⟨root, List.mem_append_left _ hroot, hin⟩
    next =>
      rcases inside_of_loadAsset hvendor (hfound (Option.some.inj hserved)) with ⟨root, hroot, hin⟩
      exact ⟨root, List.mem_append_right _ hroot, hin⟩
  next hroute =>
    rw [hroute] at h ⊢
    dsimp only at hserved ⊢
    by_cases hadmin : context.hostAdmin = true
    · have hui : Contained (uiRelativePath request) := not_not.mp fun hnot => h ⟨hadmin, hnot⟩
      rw [if_pos hadmin] at hserved
      exact inside_of_loadAsset hui (hfound (Option.some.inj hserved))
    · rw [if_neg hadmin] at hserved
      cases hserved
  · cases hserved

/-- **Static assets come from the asset roots exactly when** the target does not stray: behind the
prefix that the branch takes off, it is relative and never climbs above where it starts. -/
theorem servesOnlyAssets_iff (context : HttpRouteContext) (request : HttpRequest) :
    ServesOnlyAssets context request ↔ ¬ Strays context request := by
  refine ⟨fun hserves hstrays => ?_, servesOnlyAssets_of_not_strays⟩
  rcases strays_served hstrays with ⟨name, path, contentType, asset, hout, rfl, hserved, hroots⟩
  rcases hserves _ _ _ _ hserved with ⟨root, hroot, hin⟩
  exact hout (mem_of_inside hin (hroots root hroot))

/-- A second slash behind `/assets/` makes the rest an absolute path, which replaces the root it is
joined to; nobody asked the client who it is. -/
theorem servesOnlyAssets_fails :
    let env : AssetEnvironment :=
      { getenv := fun _ => none
        compiledRoot := utf8 "/usr/share/sentrits/www"
        currentPath := utf8 "/var/lib/sentrits" }
    let context : HttpRouteContext := { listenerRole := .remoteClient, hostAdmin := false }
    let request : HttpRequest := { method := .get, target := utf8 "/assets//etc/passwd" }
    handleRequest env (onlyFile (utf8 "/etc/passwd") (utf8 "root:x:0:0")) context request =
        some (.ok "application/octet-stream"
          { path := utf8 "/etc/passwd", content := utf8 "root:x:0:0" }) ∧
      ¬ ServesOnlyAssets context request := by
  intro env context request
  have hserved : handleRequest env (onlyFile (utf8 "/etc/passwd") (utf8 "root:x:0:0")) context
      request = some (.ok "application/octet-stream"
        { path := utf8 "/etc/passwd", content := utf8 "root:x:0:0" }) := by
    decide +kernel
  refine ⟨hserved, fun hserves => ?_⟩
  rcases hserves _ _ _ _ hserved with ⟨root, hroot, hin⟩
  have hnone : ∀ root ∈ rootsPassed env context request, ¬ Inside root (utf8 "/etc/passwd") := by
    decide +kernel
  exact hnone root hroot hin

end Sentrits.Net.StaticAssets
