import Sentrits.Found.Keyed
import Sentrits.Found.Layers
import Sentrits.Found.PosixEnv
import Sentrits.Found.Runs
import Sentrits.Session.EnvResolver

/-!
# The environment of a login shell

To start a session in the environment that a login shell sets up, the daemon lets the shell print
its variables, each ended by a NUL, and reads them back. What it has read it keeps for a while.

* `parseEnvZero`, `parseEnvZero_print`: **what was printed is read back**: a variable has the last
  value it was given, and those a shell keeps for itself are left out.
* `BootstrappedEnvCache`, `get`, `CacheCall`: the cache, and the calls on it.
* `CapturedIn`, `sound_step`: a capture that nothing has dropped or replaced since; the cache holds
  just these, and every call keeps that.
* `environment_is_recent`: **over whole runs** an environment that is returned was read from the
  output of its own shell, less than the time to live ago or in this very call.

Source: `src/session/bootstrapped_env_cache.cpp`.
-/

namespace Sentrits.Session

open Found Found.Bytes Found.Keyed Found.Layers Found.PosixEnv Found.Runs

/-! ### Reading what was printed -/

namespace EnvMap

/-- No variables. -/
def empty : EnvMap where
  pairs := []
  nodup := List.nodup_nil

/-- Gives a variable a value. -/
def insert (map : EnvMap) (key value : Bytes) : EnvMap where
  pairs := upsert Prod.fst (key, value) map.pairs
  nodup := nodup_upsert map.nodup (key, value)

/-- The value of a variable. -/
def get? (map : EnvMap) (key : Bytes) : Option Bytes :=
  (find Prod.fst key map.pairs).map Prod.snd

/-- What is found after a value has been put in. -/
theorem get?_insert (map : EnvMap) (key value key' : Bytes) :
    (map.insert key value).get? key' = if key = key' then some value else map.get? key' := by
  unfold get? insert
  split_ifs with hkey
  · subst hkey
    have hfound := @find_upsert_self _ _ _ Prod.fst (key, value) map.pairs
    exact congrArg (Option.map Prod.snd) hfound
  · have hfound := @find_upsert_of_ne _ _ _ Prod.fst (key, value) key' hkey map.pairs
    exact congrArg (Option.map Prod.snd) hfound

end EnvMap

/-- Source: `bootstrapped_env_cache.cpp` `kStripKeys`. -/
def stripKeys : List Bytes := [utf8 "SHLVL", utf8 "_", utf8 "PWD", utf8 "OLDPWD"]

/-- Source: `bootstrapped_env_cache.cpp` `ShouldStrip`. -/
def shouldStrip (key : Bytes) : Bool := stripKeys.contains key

/-- The variable of a token: what stands before its first equals sign, and behind it. -/
def readToken (token : Bytes) : Option (Bytes × Bytes) :=
  match token.dropWhile (· != equals) with
  | [] => none
  | _ :: value =>
      let key := token.takeWhile (· != equals)
      if key = [] then none else some (key, value)

/-- Puts the variable of a token into the map. -/
def addToken (result : EnvMap) (token : Bytes) : EnvMap :=
  match readToken token with
  | none => result
  | some (key, value) => if shouldStrip key then result else result.insert key value

/-- The loop of `ParseEnvZero`, from one NUL to the next. -/
def parseEnvZeroLoop (result : EnvMap) (output : Bytes) : EnvMap :=
  if output = [] then result
  else
    let result := addToken result (output.takeWhile (· != nul))
    match _hrest : output.dropWhile (· != nul) with
    | [] => result
    | _ :: rest => parseEnvZeroLoop result rest
termination_by output.length
decreasing_by
  have hle := (List.dropWhile_suffix (l := output) (· != nul)).length_le
  rw [_hrest, List.length_cons] at hle
  omega

/-- Source: `bootstrapped_env_cache.cpp` `ParseEnvZero`. -/
def parseEnvZero (output : Bytes) : EnvMap := parseEnvZeroLoop .empty output

/-- What `env -0` prints for the strings of an environment. -/
def printEnvZero (environ : List Bytes) : Bytes := environ.flatMap (· ++ [nul])

/-- One turn of the loop. -/
theorem parseEnvZeroLoop_token (result : EnvMap) {token : Bytes} (h : nul ∉ token) (rest : Bytes) :
    parseEnvZeroLoop result (token ++ nul :: rest) =
      parseEnvZeroLoop (addToken result token) rest := by
  have hall : ∀ ch ∈ token, (ch != nul) = true := by
    intro ch hch
    simpa using fun heq : ch = nul => h (heq ▸ hch)
  have htake : (token ++ nul :: rest).takeWhile (· != nul) = token := by
    rw [List.takeWhile_append_of_pos hall]
    simp
  have hdrop : (token ++ nul :: rest).dropWhile (· != nul) = nul :: rest := by
    rw [List.dropWhile_append_of_pos hall]
    simp
  rw [parseEnvZeroLoop, if_neg (by simp)]
  dsimp only
  rw [htake]
  split
  · rename_i hnil
    rw [hdrop] at hnil
    exact absurd hnil (by simp)
  · rename_i hcons
    rw [hdrop] at hcons
    rw [(List.cons.inj hcons).2]

/-- The value a token gives a variable. -/
theorem get?_addToken (result : EnvMap) (token key : Bytes) (hkey : shouldStrip key = false) :
    (addToken result token).get? key =
      (lastValue (readToken token).toList key).or (result.get? key) := by
  unfold addToken
  rcases readToken token with _ | ⟨name, value⟩
  · rfl
  · rw [Option.toList_some, lastValue_cons, lastValue_nil, Option.none_or]
    dsimp only
    by_cases hname : name = key
    · subst hname
      rw [if_neg (by simp [hkey]), EnvMap.get?_insert, if_pos rfl, if_pos rfl]
      rfl
    · rw [if_neg hname, Option.none_or]
      split_ifs
      · rfl
      · rw [EnvMap.get?_insert, if_neg hname]

/-- **What was printed is read back**, token by token. -/
theorem get?_parseEnvZeroLoop {environ : List Bytes} (h : ∀ token ∈ environ, nul ∉ token)
    (result : EnvMap) {key : Bytes} (hkey : shouldStrip key = false) :
    (parseEnvZeroLoop result (printEnvZero environ)).get? key =
      (lastValue (environ.filterMap readToken) key).or (result.get? key) := by
  induction environ generalizing result with
  | nil =>
      rw [printEnvZero, List.flatMap_nil, parseEnvZeroLoop, if_pos rfl]
      rfl
  | cons token environ ih =>
      have hprint : printEnvZero (token :: environ) = token ++ nul :: printEnvZero environ := by
        rw [printEnvZero, List.flatMap_cons, List.append_assoc]
        rfl
      have hvalue : lastValue ((token :: environ).filterMap readToken) key =
          (lastValue (environ.filterMap readToken) key).or
            (lastValue (readToken token).toList key) := by
        rw [List.filterMap_cons]
        rcases readToken token with _ | definition
        · exact (Option.or_none).symm
        · rw [Option.toList_some, lastValue_cons, lastValue_cons _ [], lastValue_nil,
            Option.none_or]
      rw [hprint, parseEnvZeroLoop_token result (h token List.mem_cons_self),
        ih (fun token' hmem => h token' (List.mem_cons_of_mem token hmem)),
        get?_addToken result token key hkey, hvalue, Option.or_assoc]

/-- What a shell keeps for itself is never read. -/
theorem get?_addToken_of_strip {result : EnvMap} {key : Bytes} (hkey : shouldStrip key = true)
    (hresult : result.get? key = none) (token : Bytes) :
    (addToken result token).get? key = none := by
  unfold addToken
  split
  · exact hresult
  · split_ifs with hstrip
    · exact hresult
    · rw [EnvMap.get?_insert, if_neg, hresult]
      rintro rfl
      exact hstrip hkey

/-- What is left out is never found. -/
theorem get?_parseEnvZeroLoop_of_strip (result : EnvMap) (output : Bytes) {key : Bytes}
    (hkey : shouldStrip key = true) (hresult : result.get? key = none) :
    (parseEnvZeroLoop result output).get? key = none := by
  fun_induction parseEnvZeroLoop result output with
  | case1 result => exact hresult
  | case2 result output hne added hrest => exact get?_addToken_of_strip hkey hresult _
  | case3 result output hne added ch rest hrest ih =>
      exact ih (get?_addToken_of_strip hkey hresult _)

/-- The string of a variable is read as its name and its value. -/
theorem readToken_environString {name value : Bytes} (hname : name ≠ []) (hequals : equals ∉ name) :
    readToken (environString name value) = some (name, value) := by
  have hall : ∀ ch ∈ name, (ch != equals) = true := by
    intro ch hch
    simpa using fun heq : ch = equals => hequals (heq ▸ hch)
  unfold readToken environString
  rw [List.dropWhile_append_of_pos hall, List.takeWhile_append_of_pos hall]
  simp [hname]

/-- **The variables of a login shell are read as they are.** Whatever the variables and in whatever
order, names without an equals sign, and neither names nor values with a NUL: what `env -0` prints
of them is read as the map in which each has the last value it was given, but for those a shell
keeps for itself, which have none. -/
theorem parseEnvZero_print {definitions : List (Bytes × Bytes)}
    (h : ∀ definition ∈ definitions, definition.1 ≠ [] ∧ equals ∉ definition.1 ∧
      nul ∉ definition.1 ∧ nul ∉ definition.2) (key : Bytes) :
    (parseEnvZero (printEnvZero (definitions.map fun definition =>
        environString definition.1 definition.2))).get? key =
      if shouldStrip key then none else lastValue definitions key := by
  by_cases hkey : shouldStrip key = true
  · rw [if_pos hkey]
    exact get?_parseEnvZeroLoop_of_strip .empty _ hkey rfl
  · have hread : (definitions.map fun definition =>
        environString definition.1 definition.2).filterMap readToken = definitions := by
      rw [List.filterMap_map]
      conv_rhs => rw [← List.filterMap_some (l := definitions)]
      apply List.filterMap_congr
      intro definition hmem
      exact readToken_environString (h definition hmem).1 (h definition hmem).2.1
    have hnul : ∀ token ∈ definitions.map fun definition =>
        environString definition.1 definition.2, nul ∉ token := by
      intro token htoken
      obtain ⟨definition, hmem, rfl⟩ := List.mem_map.mp htoken
      obtain ⟨-, -, hname, hvalue⟩ := h definition hmem
      unfold environString
      rw [List.mem_append, List.mem_cons]
      rintro (hin | heq | hin)
      · exact hname hin
      · exact absurd heq (by decide)
      · exact hvalue hin
    rw [if_neg hkey, parseEnvZero, get?_parseEnvZeroLoop hnul .empty (by simpa using hkey), hread]
    exact Option.or_none

/-- A variable is given two values, the second with an equals sign and a line feed in it. -/
theorem parseEnvZero_print_twice :
    (parseEnvZero (printEnvZero ([([65], [49]), ([80, 87, 68], [47]), ([65], [61, 10])].map
        fun definition => environString definition.1 definition.2))).get? [65] =
      some [61, 10] := by
  exact parseEnvZero_print (by decide) [65]

/-! ### The cache -/

/-- Source: `bootstrapped_env_cache.h` `BootstrappedEnvCache::Entry`; times are those of the steady
clock, in nanoseconds. -/
structure BootstrapEntry where
  env : EnvMap
  capturedAt : ℤ

/-- What comes of running a shell. -/
inductive ShellRun
  /-- It could not be run, or did not end in time. -/
  | failed (message : Bytes)
  | exited (output errors : Bytes) (code : ℤ)
  deriving DecidableEq

/-- Source: `bootstrapped_env_cache.h` `BootstrappedEnvCache`. -/
structure BootstrappedEnvCache where
  cache : List (Bytes × BootstrapEntry) := []
  lastWarning : Option Bytes := none

namespace BootstrappedEnvCache

/-- Source: `bootstrapped_env_cache.h` `ttl_`. -/
def ttl : ℤ := 300 * 1000000000

/-- A text that is cut when it is too long. -/
def truncated (limit : ℕ) (data : Bytes) : Bytes :=
  if limit < data.length then data.take limit ++ utf8 "..." else data

/-- What is told of a shell that failed. -/
def exitMessage (shellPath errors : Bytes) (code : ℤ) : Bytes :=
  utf8 "failed to bootstrap login-shell environment via " ++ shellPath ++
    utf8 (": exited with code " ++ toString code) ++
    if errors.isEmpty then [] else utf8 "\nstderr: " ++ truncated 256 errors

/-- Source: `bootstrapped_env_cache.cpp` `BootstrappedEnvCache::RunBootstrap`, given what comes of
the shell. -/
def runBootstrap (c : BootstrappedEnvCache) (shellPath : Bytes) :
    ShellRun → BootstrappedEnvCache × Except Bytes EnvMap
  | .failed message => ({ c with lastWarning := none }, .error message)
  | .exited output errors code =>
      if code ≠ 0 then
        ({ c with lastWarning := none }, .error (exitMessage shellPath errors code))
      else
        ({ c with lastWarning := if errors.isEmpty then none else some (truncated 512 errors) },
          .ok (parseEnvZero output))

/-- The environment the cache has of a shell, when it is young enough. -/
def fresh (c : BootstrappedEnvCache) (shellPath : Bytes) (now : ℤ) : Option EnvMap :=
  match find Prod.fst shellPath c.cache with
  | none => none
  | some (_, entry) => if now - entry.capturedAt < ttl then some entry.env else none

/-- The shell is run when the cache has nothing; `now` is read before that.
Source: `bootstrapped_env_cache.cpp` `BootstrappedEnvCache::Get`. -/
def get (c : BootstrappedEnvCache) (shellPath : Bytes) (now : ℤ) (run : ShellRun) :
    BootstrappedEnvCache × Except Bytes EnvMap :=
  match c.fresh shellPath now with
  | some env => (c, .ok env)
  | none =>
      let evicted := { c with cache := remove Prod.fst shellPath c.cache }
      match evicted.runBootstrap shellPath run with
      | (c, .error message) => (c, .error message)
      | (c, .ok env) =>
          let entry : BootstrapEntry := { env, capturedAt := now }
          ({ c with cache := upsert Prod.fst (shellPath, entry) c.cache }, .ok env)

/-- Source: `bootstrapped_env_cache.cpp` `BootstrappedEnvCache::Invalidate`. -/
def invalidate (c : BootstrappedEnvCache) : BootstrappedEnvCache := { c with cache := [] }

/-- Source: `bootstrapped_env_cache.cpp` `BootstrappedEnvCache::TakeLastWarning`. -/
def takeLastWarning (c : BootstrappedEnvCache) : BootstrappedEnvCache × Option Bytes :=
  ({ c with lastWarning := none }, c.lastWarning)

end BootstrappedEnvCache

/-- A call on the cache; `run` is what comes of the shell if it is run. -/
inductive CacheCall
  | get (shellPath : Bytes) (now : ℤ) (run : ShellRun)
  | invalidate
  | takeLastWarning
  deriving DecidableEq

namespace BootstrappedEnvCache

/-- The cache after a call. -/
def call (c : BootstrappedEnvCache) : CacheCall → BootstrappedEnvCache
  | .get shellPath now run => (c.get shellPath now run).1
  | .invalidate => c.invalidate
  | .takeLastWarning => c.takeLastWarning.1

/-- Every call is possible at any time. -/
def step (c : BootstrappedEnvCache) (x : CacheCall) : Option BootstrappedEnvCache :=
  some (c.call x)

/-! ### Whole runs -/

/-- The steps of a run. -/
abbrev Past := List (BootstrappedEnvCache × CacheCall)

/-- A step that drops or replaces what the cache has of a shell: all is dropped, or the shell is run
again. -/
def Disturbs (shellPath : Bytes) (past : BootstrappedEnvCache × CacheCall) : Prop :=
  past.2 = .invalidate ∨
    ∃ now run, past.2 = .get shellPath now run ∧ past.1.fresh shellPath now = none

/-- The shell was run at a time of the past, its output was read, and nothing dropped or replaced
that since. -/
def CapturedIn (past : Past) (shellPath : Bytes) (at' : ℤ) (output : Bytes) : Prop :=
  ∃ before c errors after,
    past = before ++ (c, .get shellPath at' (.exited output errors 0)) :: after ∧
      c.fresh shellPath at' = none ∧ ∀ later ∈ after, ¬ Disturbs shellPath later

/-- **The cache has what was captured**, and nothing else. -/
def Sound (c : BootstrappedEnvCache) (past : Past) : Prop :=
  ∀ shellPath env at', find Prod.fst shellPath c.cache = some (shellPath, ⟨env, at'⟩) ↔
    ∃ output, env = parseEnvZero output ∧ CapturedIn past shellPath at' output

/-- One more step: what was captured stays unless the step disturbs it, and the step may capture. -/
theorem capturedIn_concat {past : Past} {last : BootstrappedEnvCache × CacheCall}
    {shellPath : Bytes} {at' : ℤ} {output : Bytes} :
    CapturedIn (past ++ [last]) shellPath at' output ↔
      (CapturedIn past shellPath at' output ∧ ¬ Disturbs shellPath last) ∨
        ((∃ errors, last.2 = .get shellPath at' (.exited output errors 0)) ∧
          last.1.fresh shellPath at' = none) := by
  constructor
  · rintro ⟨before, c, errors, after, heq, hfresh, hafter⟩
    rcases List.eq_nil_or_concat after with rfl | ⟨init, later, rfl⟩
    · obtain ⟨-, rfl⟩ := List.append_singleton_inj.mp heq
      exact Or.inr ⟨⟨errors, rfl⟩, hfresh⟩
    · rw [List.concat_eq_append, ← List.cons_append, ← List.append_assoc] at heq
      obtain ⟨rfl, rfl⟩ := List.append_singleton_inj.mp heq
      refine Or.inl ⟨⟨before, c, errors, init, rfl, hfresh, ?_⟩, hafter last (by simp)⟩
      intro earlier hmem
      exact hafter earlier (by simp [hmem])
  · rintro (⟨⟨before, c, errors, after, rfl, hfresh, hafter⟩, hlast⟩ | ⟨⟨errors, hcall⟩, hfresh⟩)
    · refine ⟨before, c, errors, after ++ [last], by simp, hfresh, ?_⟩
      intro later hmem
      rcases List.mem_append.mp hmem with hmem | hmem
      · exact hafter later hmem
      · rwa [List.mem_singleton.mp hmem]
    · refine ⟨past, last.1, errors, [], ?_, hfresh, ?_⟩
      · rw [← hcall]
      · intro later hmem
        exact absurd hmem List.not_mem_nil

/-- A call for one shell leaves what is known of the others. -/
theorem not_disturbs_of_ne {c : BootstrappedEnvCache} {shellPath other : Bytes} {now : ℤ}
    {run : ShellRun} (hne : other ≠ shellPath) :
    ¬ Disturbs shellPath (c, .get other now run) := by
  rintro (hcall | ⟨now', run', hcall, -⟩)
  · cases hcall
  · exact hne (CacheCall.get.inj hcall).1

/-- What a call does to the cache when it runs the shell. -/
theorem cache_get {c : BootstrappedEnvCache} {shellPath : Bytes} {now : ℤ} (run : ShellRun)
    (hfresh : c.fresh shellPath now = none) :
    (∃ output errors, run = .exited output errors 0 ∧
        (c.get shellPath now run).2 = .ok (parseEnvZero output) ∧
        (c.get shellPath now run).1.cache =
          upsert Prod.fst (shellPath, ⟨parseEnvZero output, now⟩)
            (remove Prod.fst shellPath c.cache)) ∨
      ((∀ output errors, run ≠ .exited output errors 0) ∧
        (∀ env, (c.get shellPath now run).2 ≠ .ok env) ∧
        (c.get shellPath now run).1.cache = remove Prod.fst shellPath c.cache) := by
  unfold get
  rw [hfresh]
  dsimp only
  cases run with
  | failed message =>
      refine Or.inr ⟨?_, ?_, rfl⟩
      · simp
      · simp [runBootstrap]
  | exited output errors code =>
      by_cases hcode : code = 0
      · subst hcode
        exact Or.inl ⟨output, errors, rfl, rfl, rfl⟩
      · unfold runBootstrap
        dsimp only
        rw [if_pos hcode]
        refine Or.inr ⟨?_, ?_, rfl⟩
        · simp [hcode]
        · simp

/-- A call that finds something young enough leaves the cache. -/
theorem get_of_fresh {c : BootstrappedEnvCache} {shellPath : Bytes} {now : ℤ} {env : EnvMap}
    (hfresh : c.fresh shellPath now = some env) (run : ShellRun) :
    c.get shellPath now run = (c, .ok env) := by
  unfold get
  rw [hfresh]

/-- **Every call keeps this.** -/
theorem sound_step (c : BootstrappedEnvCache) (x : CacheCall) (c' : BootstrappedEnvCache)
    (past : Past) (h : c.Sound past) (hstep : c.step x = some c') :
    c'.Sound (past ++ [(c, x)]) := by
  obtain rfl := Option.some.inj hstep
  intro shellPath env at'
  simp only [capturedIn_concat]
  cases x with
  | invalidate =>
      have hdisturbs : Disturbs shellPath (c, .invalidate) := Or.inl rfl
      simp [call, invalidate, hdisturbs]
  | takeLastWarning =>
      have hquiet : ¬ Disturbs shellPath (c, .takeLastWarning) := by simp [Disturbs]
      simp [call, takeLastWarning, hquiet, h shellPath env at']
  | get other now run =>
      dsimp only [call]
      rcases hfresh : c.fresh other now with _ | cached
      · by_cases hother : other = shellPath
        · subst hother
          have hdisturbs : Disturbs other (c, .get other now run) := Or.inr ⟨now, run, rfl, hfresh⟩
          rcases cache_get run hfresh with
            ⟨output, errors, rfl, -, hcache⟩ | ⟨hrun, -, hcache⟩
          · have hfound := @find_upsert_self _ _ _ Prod.fst
              (other, (⟨parseEnvZero output, now⟩ : BootstrapEntry))
              (remove Prod.fst other c.cache)
            rw [hcache, hfound]
            simp [hdisturbs]
            constructor
            · rintro ⟨rfl, rfl⟩
              exact ⟨rfl, rfl, hfresh⟩
            · rintro ⟨rfl, rfl, -⟩
              exact ⟨rfl, rfl⟩
          · rw [hcache, find_remove_self]
            simp [hdisturbs, hrun]
        · have hquiet : ¬ Disturbs shellPath (c, .get other now run) := not_disturbs_of_ne hother
          have hcache : find Prod.fst shellPath (c.get other now run).1.cache =
              find Prod.fst shellPath c.cache := by
            rcases cache_get run hfresh with
              ⟨output, errors, -, -, hcache⟩ | ⟨-, -, hcache⟩
            · have hfound := @find_upsert_of_ne _ _ _ Prod.fst
                (other, (⟨parseEnvZero output, now⟩ : BootstrapEntry)) shellPath hother
                (remove Prod.fst other c.cache)
              rw [hcache, hfound, find_remove_of_ne (Ne.symm hother)]
            · rw [hcache, find_remove_of_ne (Ne.symm hother)]
          rw [hcache, h]
          simp [hquiet, hother]
      · have hquiet : ¬ Disturbs shellPath (c, .get other now run) := by
          rintro (hcall | ⟨now', run', hcall, hnone⟩)
          · cases hcall
          · obtain ⟨rfl, rfl, -⟩ := CacheCall.get.inj hcall
            rw [hfresh] at hnone
            cases hnone
        have hkept : ∀ errors output, CacheCall.get other now run =
            .get shellPath at' (.exited output errors 0) → c.fresh shellPath at' ≠ none := by
          intro errors output hcall
          obtain ⟨rfl, rfl, -⟩ := CacheCall.get.inj hcall
          simp [hfresh]
        rw [get_of_fresh hfresh, h]
        refine exists_congr fun output => and_congr_right fun _ => ?_
        constructor
        · exact fun hcaptured => Or.inl ⟨hcaptured, hquiet⟩
        · rintro (⟨hcaptured, -⟩ | ⟨⟨errors, hcall⟩, hnone⟩)
          · exact hcaptured
          · exact absurd hnone (hkept errors output hcall)

/-- What is young enough in the cache is what was captured that lately. -/
theorem fresh_eq_some_iff {c : BootstrappedEnvCache} {past : Past} (h : c.Sound past)
    {shellPath : Bytes} {now : ℤ} {env : EnvMap} :
    c.fresh shellPath now = some env ↔
      ∃ output at', env = parseEnvZero output ∧ CapturedIn past shellPath at' output ∧
        now - at' < ttl := by
  unfold fresh
  constructor
  · intro hfresh
    rcases hfound : find Prod.fst shellPath c.cache with _ | ⟨name, cached, at'⟩
    · rw [hfound] at hfresh
      cases hfresh
    · rw [hfound] at hfresh
      dsimp only at hfresh
      split_ifs at hfresh with hyoung
      obtain rfl := Option.some.inj hfresh
      obtain rfl : name = shellPath := (mem_of_find hfound).2
      obtain ⟨output, henv, hcaptured⟩ := (h name cached at').mp hfound
      exact ⟨output, at', henv, hcaptured, hyoung⟩
  · rintro ⟨output, at', henv, hcaptured, hyoung⟩
    rw [(h shellPath env at').mpr ⟨output, henv, hcaptured⟩]
    dsimp only
    rw [if_pos hyoung]

/-- **The environment of a shell is recent.** Over every run of calls on a new cache, with whatever
comes of the shells and at whatever times: a call for a shell returns an environment exactly when it
is what the output of that shell says, and that output was read by an earlier call, less than the
time to live before this one, with nothing dropped and the shell not run since; or there is none
such, and it is read in this call, from a shell that ended well. -/
theorem environment_is_recent {c : BootstrappedEnvCache} {calls : List CacheCall}
    (hrun : Reaches step {} calls c) (shellPath : Bytes) (now : ℤ) (run : ShellRun)
    (env : EnvMap) :
    (c.get shellPath now run).2 = .ok env ↔
      ∃ output, env = parseEnvZero output ∧
        ((∃ at', CapturedIn (history step {} calls) shellPath at' output ∧ now - at' < ttl) ∨
          ((∀ earlier at', CapturedIn (history step {} calls) shellPath at' earlier →
              ttl ≤ now - at') ∧
            ∃ errors, run = .exited output errors 0)) := by
  have hsound : c.Sound (history step {} calls) := by
    apply hrun.history_invariant Sound sound_step
    intro shellPath env at'
    simp [CapturedIn]
  rcases hfresh : c.fresh shellPath now with _ | cached
  · have hold : ∀ earlier at', CapturedIn (history step {} calls) shellPath at' earlier →
        ttl ≤ now - at' := by
      intro earlier at' hcaptured
      by_contra hyoung
      have hsome := (fresh_eq_some_iff hsound).mpr
        ⟨earlier, at', rfl, hcaptured, Int.not_le.mp hyoung⟩
      rw [hfresh] at hsome
      cases hsome
    rcases cache_get run hfresh with
      ⟨output, errors, rfl, hok, -⟩ | ⟨hfailed, hnone, -⟩
    · rw [hok]
      constructor
      · intro heq
        exact ⟨output, (Except.ok.inj heq).symm, Or.inr ⟨hold, errors, rfl⟩⟩
      · rintro ⟨other, rfl, ⟨at', hcaptured, hyoung⟩ | ⟨-, errors', heq⟩⟩
        · exact absurd hyoung (Int.not_lt.mpr (hold other at' hcaptured))
        · rw [(ShellRun.exited.inj heq).1]
    · refine iff_of_false (hnone env) ?_
      rintro ⟨output, -, ⟨at', hcaptured, hyoung⟩ | ⟨-, errors, heq⟩⟩
      · exact absurd hyoung (Int.not_lt.mpr (hold output at' hcaptured))
      · exact hfailed output errors heq
  · obtain ⟨output, at', henv, hcaptured, hyoung⟩ := (fresh_eq_some_iff hsound).mp hfresh
    rw [get_of_fresh hfresh]
    constructor
    · intro heq
      rw [← Except.ok.inj heq]
      exact ⟨output, henv, Or.inl ⟨at', hcaptured, hyoung⟩⟩
    · rintro ⟨other, rfl, ⟨at'', hcaptured', hyoung'⟩ | ⟨hold, -⟩⟩
      · have hsame := (fresh_eq_some_iff hsound).mpr ⟨other, at'', rfl, hcaptured', hyoung'⟩
        rw [hfresh] at hsame
        rw [Option.some.inj hsame]
      · exact absurd hyoung (Int.not_lt.mpr (hold output at' hcaptured))

/-- The shell was run a nanosecond ago; that it cannot be run now does not matter. -/
theorem environment_is_recent_again :
    ∃ c, Reaches step {} [.get [115] 0 (.exited [65, 61, 49, 0] [] 0)] c ∧
      (c.get [115] 1 (.failed [])).2 = .ok (parseEnvZero [65, 61, 49, 0]) := by
  refine ⟨_, .cons rfl (.refl _), ?_⟩
  apply (environment_is_recent (.cons rfl (.refl _)) [115] 1 (.failed []) _).mpr
  refine ⟨_, rfl, Or.inl ⟨0, ?_, by decide⟩⟩
  exact ⟨[], {}, [], [], rfl, rfl, fun _ hmem => absurd hmem List.not_mem_nil⟩

end BootstrappedEnvCache

end Sentrits.Session
