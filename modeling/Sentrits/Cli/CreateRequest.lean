import Sentrits.Net.RequestParsing

/-!
# Create requests of the command line

The command line writes what a session shall be created with as a JSON object; the daemon reads it
and checks it. The checks are the daemon's alone: the command line writes whatever it was given.

* `buildCreateSessionRequestBody`: what is written.
* `Acceptable`: what the daemon does not refuse.
* `orNone_string`, `orNone_tokens`: one field, written and read.
* `create_request_received`: **the daemon reads what the command line asks for, or refuses it**, and
  it refuses exactly what is not acceptable.

Sources: `src/cli/daemon_client_http.cpp`, `src/net/request_parsing.cpp`.
-/

namespace Sentrits.Cli

open Found Found.Json Session Store Net

/-- What a session shall be created with; a variable has one value.
Source: `daemon_client.h` `CreateSessionRequest`. -/
structure CreateSessionRequest where
  provider : Option ProviderType := none
  workspaceRoot : Option String := none
  title : Option String := none
  recordId : Option String := none
  commandArgv : Option (List String) := none
  commandShell : Option String := none
  envMode : Option EnvMode := none
  environmentOverrides : List (String × String) := []
  envFilePath : Option String := none
  nodup_overrides : (environmentOverrides.map Prod.fst).Nodup

namespace CreateSessionRequest

variable (request : CreateSessionRequest)

/-! ### What is written -/

/-- The variables as an object. -/
def overridesJson : Json :=
  .object (request.environmentOverrides.map fun entry => (entry.1, .string entry.2))

/-- The fields of the body, those without a value included. -/
def fields : List (String × Option Json) :=
  [("provider", request.provider.map fun provider => .string provider.toString),
    ("workspaceRoot", request.workspaceRoot.map .string),
    ("title", request.title.map .string),
    ("recordId", request.recordId.map .string),
    ("commandArgv", request.commandArgv.map fun tokens => .array (tokens.map .string)),
    ("commandShell", request.commandShell.map .string),
    ("envMode", request.envMode.map fun mode => .string mode.toString),
    ("environmentOverrides",
      if request.environmentOverrides.isEmpty then none else some request.overridesJson),
    ("envFilePath", request.envFilePath.map .string)]

/-- Source: `daemon_client_http.cpp` `BuildCreateSessionRequestBody`. -/
def buildCreateSessionRequestBody (lib : JsonLibrary) : String :=
  lib.serialize (.object (ofFields request.fields))

/-! ### What is read -/

/-- What the daemon does not refuse: no text is empty but the path of the environment file, a
command has tokens and no empty one, and there is one command at most. -/
structure Acceptable : Prop where
  workspaceRoot : request.workspaceRoot ≠ some ""
  title : request.title ≠ some ""
  recordId : request.recordId ≠ some ""
  commandArgv : ∀ tokens ∈ request.commandArgv, CommandTokens tokens
  commandShell : request.commandShell ≠ some ""
  oneCommand : ¬(request.commandArgv.isSome ∧ request.commandShell.isSome)

/-- What the daemon makes of it. -/
def payload : CreateSessionRequestPayload where
  provider := request.provider
  workspaceRoot := request.workspaceRoot
  title := request.title
  commandArgv := request.commandArgv
  commandShell := request.commandShell
  groupTags := some []
  recordId := request.recordId
  envMode := request.envMode
  environmentOverrides := request.environmentOverrides
  envFilePath := request.envFilePath.filter (· ≠ "")

/-- A field of the body, as the daemon finds it. -/
theorem ifContains_fields (key : String) {value : Option Json}
    (h : request.fields.lookup key = some value) :
    ifContains (ofFields request.fields) key = value := by
  apply ifContains_of_lookup _ h
  show ["provider", "workspaceRoot", "title", "recordId", "commandArgv", "commandShell",
    "envMode", "environmentOverrides", "envFilePath"].Nodup
  decide

/-- A field that is never written. -/
theorem ifContains_absent {key : String}
    (h : key ∉ ["provider", "workspaceRoot", "title", "recordId", "commandArgv", "commandShell",
      "envMode", "environmentOverrides", "envFilePath"]) :
    ifContains (ofFields request.fields) key = none :=
  ifContains_ofFields_of_notMem h

/-- A field that is not written is read as none. -/
theorem orNone_absent {α : Type} (decode : Json → Option α) : orNone decode none = some none := rfl

/-- Or as its default. -/
theorem orDefault_absent {α : Type} (fallback : α) (decode : Json → Option α) :
    orDefault fallback decode none = some fallback := rfl

/-- **A text**, written and read. -/
theorem orNone_string (text : Option String) :
    orNone asNonEmptyString (text.map .string) = if text = some "" then none else some text := by
  rcases text with _ | text
  · rfl
  · by_cases hempty : text = ""
    · subst hempty
      rfl
    · rw [if_neg (by simpa using hempty), Option.map_some, orNone, asNonEmptyString_string hempty]
      rfl

/-- Tokens are read unless one is empty. -/
theorem mapM_nonEmptyString (tokens : List String) :
    (tokens.map Json.string).mapM asNonEmptyString =
      if "" ∈ tokens then none else some tokens := by
  induction tokens with
  | nil => rfl
  | cons token tokens ih =>
      rw [List.map_cons, List.mapM_cons, ih]
      by_cases hempty : token = ""
      · subst hempty
        rw [if_pos List.mem_cons_self]
        rfl
      · have hmem : "" ∈ token :: tokens ↔ "" ∈ tokens := by
          rw [List.mem_cons, or_iff_right (Ne.symm hempty)]
        rw [asNonEmptyString_string hempty, if_congr hmem rfl rfl]
        split_ifs <;> rfl

open Classical in
/-- **The tokens of a command**, written and read. -/
theorem orNone_tokens (command : Option (List String)) :
    orNone parseCommandArgvValue
        (command.map fun tokens => .array (tokens.map .string)) =
      if ∀ tokens ∈ command, CommandTokens tokens then some command else none := by
  rcases command with _ | tokens
  · simp [orNone]
  · have hread : parseCommandArgvValue (.array (tokens.map .string)) =
        if CommandTokens tokens then some tokens else none := by
      unfold parseCommandArgvValue CommandTokens
      rw [asArray_array, Option.bind_eq_bind, Option.bind_some, mapM_nonEmptyString]
      by_cases hempty : "" ∈ tokens
      · rw [if_pos hempty, if_neg (fun h => h.2 hempty)]
        rfl
      · rw [if_neg hempty]
        by_cases hnil : tokens = []
        · rw [if_neg (fun h => h.1 hnil)]
          exact if_pos hnil
        · rw [if_pos ⟨hnil, hempty⟩]
          exact if_neg hnil
    rw [Option.map_some, orNone, hread]
    simp only [Option.mem_some_iff, forall_eq']
    split_ifs <;> rfl

/-- A choice that is written under its name. -/
theorem orNone_name {α : Type} {parse : String → Option α} {name : α → String}
    (h : ∀ a, parse (name a) = some a) (choice : Option α) :
    orNone (fun value => value.asString.bind parse) (choice.map fun a => .string (name a)) =
      some choice := by
  rcases choice with _ | a
  · rfl
  · rw [Option.map_some, orNone, asString_string, Option.bind_some, h]
    rfl

/-- A mode is read back. -/
theorem parseEnvMode_toString (mode : EnvMode) : parseEnvMode mode.toString = some mode := by
  cases mode <;> decide

/-- The variables, written and read. -/
theorem orDefault_overrides :
    orDefault [] parseOverrides
        (if request.environmentOverrides.isEmpty then none else some request.overridesJson) =
      some request.environmentOverrides := by
  by_cases hempty : request.environmentOverrides.isEmpty = true
  · rw [if_pos hempty, List.isEmpty_iff.mp hempty]
    rfl
  · rw [if_neg hempty, orDefault_some, parseOverrides, overridesJson, asObject_object,
      Option.bind_eq_bind, Option.bind_some]
    generalize request.environmentOverrides = overrides
    induction overrides with
    | nil => rfl
    | cons entry overrides ih =>
        rw [List.map_cons, List.mapM_cons, ih]
        rfl

/-- The path of the environment file; the empty one counts as none. -/
theorem orDefault_envFilePath (path : Option String) :
    orDefault none asPossiblyEmptyString (path.map .string) = some (path.filter (· ≠ "")) := by
  rcases path with _ | path
  · rfl
  · rw [Option.map_some, orDefault_some]
    unfold asPossiblyEmptyString
    rw [asString_string, Option.bind_eq_bind, Option.bind_some, Option.filter_some]
    by_cases hempty : path = "" <;> simp [hempty]

open Classical in
/-- **The daemon reads what the command line asks for, or refuses it.** Whatever the request, the
body that is written for it is read as the request when that is acceptable, and refused when it is
not. -/
theorem create_request_received (lib : JsonLibrary) :
    parseCreateSessionRequest lib (request.buildCreateSessionRequestBody lib) =
      if request.Acceptable then some request.payload else none := by
  have hprovider : orNone parseProviderValue (ifContains (ofFields request.fields) "provider") =
      some request.provider := by
    rw [request.ifContains_fields _ rfl]
    exact orNone_name parseProviderType_toString _
  have hmode : orNone (fun mode => mode.asString.bind parseEnvMode)
      (ifContains (ofFields request.fields) "envMode") = some request.envMode := by
    rw [request.ifContains_fields _ rfl]
    exact orNone_name parseEnvMode_toString _
  have habsent : ∀ key ∈ ["conversationId", "command", "groupTags"],
      ifContains (ofFields request.fields) key = none := by
    intro key hkey
    apply request.ifContains_absent
    revert key
    decide
  have hroot := request.ifContains_fields "workspaceRoot" rfl
  have htitle := request.ifContains_fields "title" rfl
  have hrecord := request.ifContains_fields "recordId" rfl
  have hargv := request.ifContains_fields "commandArgv" rfl
  have hshell := request.ifContains_fields "commandShell" rfl
  have hoverrides := request.ifContains_fields "environmentOverrides" rfl
  have hfile := request.ifContains_fields "envFilePath" rfl
  have hnone : ∀ {α β : Type} (f : α → Option β), (none >>= f) = none := fun f => rfl
  have hsome : ∀ {α β : Type} (a : α) (f : α → Option β), (some a >>= f) = f a := fun a f => rfl
  unfold parseCreateSessionRequest buildCreateSessionRequestBody
  rw [lib.parse_serialize, hsome, asObject_object, hsome, hprovider, hsome]
  -- one check after the other, in the order of the daemon
  rw [hroot, orNone_string]
  by_cases hroot' : request.workspaceRoot = some ""
  · rw [if_pos hroot', hnone, if_neg fun h : request.Acceptable => h.workspaceRoot hroot']
  rw [if_neg hroot', hsome, htitle, orNone_string]
  by_cases htitle' : request.title = some ""
  · rw [if_pos htitle', hnone, if_neg fun h : request.Acceptable => h.title htitle']
  rw [if_neg htitle', hsome, habsent "conversationId" (by decide), orNone_absent, hsome, hrecord,
    orNone_string]
  by_cases hrecord' : request.recordId = some ""
  · rw [if_pos hrecord', hnone, if_neg fun h : request.Acceptable => h.recordId hrecord']
  rw [if_neg hrecord', hsome, habsent "command" (by decide), orNone_absent, hsome, hargv,
    orNone_tokens]
  by_cases hargv' : ∀ tokens ∈ request.commandArgv, CommandTokens tokens
  swap
  · rw [if_neg hargv', hnone, if_neg fun h : request.Acceptable => hargv' h.commandArgv]
  rw [if_pos hargv', hsome, hshell, orNone_string]
  by_cases hshell' : request.commandShell = some ""
  · rw [if_pos hshell', hnone, if_neg fun h : request.Acceptable => h.commandShell hshell']
  rw [if_neg hshell', hsome, if_neg (fun h => absurd h.1 Bool.false_ne_true)]
  by_cases hboth : request.commandArgv.isSome ∧ request.commandShell.isSome
  · rw [if_pos ⟨Or.inr hboth.1, hboth.2⟩, if_neg fun h : request.Acceptable => h.oneCommand hboth]
  rw [if_neg (fun h => hboth ⟨h.1.resolve_left Bool.false_ne_true, h.2⟩),
    habsent "groupTags" (by decide), orDefault_absent, hsome, hmode, hsome, hoverrides,
    orDefault_overrides, hsome, hfile, orDefault_envFilePath, hsome,
    if_pos (⟨hroot', htitle', hrecord', hargv', hshell', hboth⟩ : request.Acceptable)]
  have hargv'' : (if request.commandArgv.isSome = true then request.commandArgv else none) =
      request.commandArgv := by
    rcases request.commandArgv with _ | tokens <;> rfl
  rw [hargv'']
  rfl

end CreateSessionRequest

end Sentrits.Cli
