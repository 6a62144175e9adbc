import Sentrits.Found.JsonText
import Sentrits.Net.RequestParsing
import Sentrits.Service.SessionManager

/-!
# Requests that save the host identity

The four producers of a host identity, and the file they leave behind: the identity is made sure of,
its configuration is updated, a launch record is prepended when a session was created, and one is
deleted. A create request may name a launch record and is then completed from it, field by field.

* `MergesCommands`: a create request gives one kind of command and its record the other.
* `resolved_storable_iff`: the record of the merged request can be stored exactly when it does not.
* `readsBack_step_iff`: **what one accepted request saves** is read back exactly then.
* `readsBack_iff_oneCommand`: **the same along every run.**

Sources: `src/net/http_shared.cpp`, `src/store/host_config_store.cpp`.
-/

namespace Sentrits.Net

open Found Found.Runs Session Store Service

/-! ### Creating sessions -/

/-- Source: `http_shared.cpp` `ApplyConfiguredProviderOverride`. -/
def applyConfiguredProviderOverride (request : CreateSessionRequest)
    (hostIdentity : Option HostIdentity) : CreateSessionRequest :=
  match hostIdentity with
  | none => request
  | some identity =>
      if request.commandArgv.isSome ∨ request.commandShell.isSome then request
      else
        let command := match request.provider with
          | .codex => identity.codexCommand
          | .claude => identity.claudeCommand
        if command.executable = "" then request
        else { request with commandArgv := some (command.executable :: command.args) }

/-- Source: `http_shared.cpp` `FindLaunchRecord`. -/
def findLaunchRecord (identity : HostIdentity) (recordId : String) : Option LaunchRecord :=
  identity.launchRecords.find? (·.recordId = recordId)

/-- The launch record a payload names, if it names one.
Source: `http_shared.cpp` `ResolveCreateSessionRequest`. -/
def namedRecord (payload : CreateSessionRequestPayload) (hostIdentity : Option HostIdentity) :
    Except String (Option LaunchRecord) :=
  match payload.recordId with
  | none => .ok none
  | some recordId =>
      match hostIdentity with
      | none => .error "launch record requires host identity"
      | some identity =>
          match findLaunchRecord identity recordId with
          | none => .error "launch record not found"
          | some record => .ok (some record)

/-- The payload's value of a field, or the record's. -/
def payloadOr {α : Type} (fromPayload : Option α) (record : Option LaunchRecord)
    (fromRecord : LaunchRecord → Option α) : Option α :=
  if fromPayload.isSome then fromPayload else record.bind fromRecord

/-- Source: `http_shared.cpp` `ResolveCreateSessionRequest`. -/
def resolveCreateSessionRequest (payload : CreateSessionRequestPayload)
    (hostIdentity : Option HostIdentity) : Except String CreateSessionRequest :=
  match namedRecord payload hostIdentity with
  | .error message => .error message
  | .ok record =>
      match payloadOr payload.provider record (some ·.provider),
        payloadOr payload.workspaceRoot record (some ·.workspaceRoot),
        payloadOr payload.title record (some ·.title) with
      | none, _, _ => .error "provider is required unless --record is used"
      | some _, none, _ => .error "workspace root is required unless --record is used"
      | some _, some _, none => .error "title is required unless --record is used"
      | some provider, some workspaceRoot, some title =>
          let request : CreateSessionRequest :=
            { provider, workspaceRoot, title
              conversationId := payloadOr payload.conversationId record (·.conversationId)
              commandArgv := payloadOr payload.commandArgv record (·.commandArgv)
              commandShell := payloadOr payload.commandShell record (·.commandShell)
              groupTags := (payloadOr payload.groupTags record (some ·.groupTags)).getD []
              envMode := payload.envMode
              environmentOverrides := payload.environmentOverrides
              envFilePath := payload.envFilePath }
          .ok (applyConfiguredProviderOverride request hostIdentity)

/-- The last records are dropped until there are no more than the limit.
Source: the loop of `http_shared.cpp` `AutoSaveLaunchRecord`. -/
def trimRecords (limit : ℕ) (records : List LaunchRecord) : List LaunchRecord :=
  if limit < records.length then trimRecords limit records.dropLast else records
termination_by records.length
decreasing_by
  rw [List.length_dropLast]
  omega

/-- The launch record of a resolved request; the token is drawn and the time read.
Source: `http_shared.cpp` `AutoSaveLaunchRecord`. -/
def launchRecordOf (request : CreateSessionRequest) (token : String) (nowUnixMs : Int64) :
    LaunchRecord where
  recordId := "rec_" ++ token
  provider := request.provider
  workspaceRoot := request.workspaceRoot
  title := request.title
  launchedAtUnixMs := nowUnixMs
  conversationId := request.conversationId
  groupTags := request.groupTags
  commandArgv := request.commandArgv
  commandShell := request.commandShell

/-- Source: `http_shared.cpp` `AutoSaveLaunchRecord`. -/
def autoSaveLaunchRecord (identity : HostIdentity) (record : LaunchRecord) : HostIdentity :=
  { identity with
    launchRecords := trimRecords identity.maxLaunchRecords (record :: identity.launchRecords) }

/-! ### The other producers -/

/-- The identity that has to be saved, if one has; the token is drawn.
Source: `host_config_store.cpp` `EnsureHostIdentity`, `GenerateHostId`. -/
def ensureHostIdentity (loaded : Option HostIdentity) (token : String) : Option HostIdentity :=
  let identity := loaded.getD makeDefaultHostIdentity
  if identity.hostId ≠ "" then none
  else
    some
      { identity with
        displayName := if identity.displayName = "" then "Sentrits Host" else identity.displayName
        hostId := "h_" ++ token }

/-- The command of a configuration request.
Source: `http_shared.cpp` `HandleHostConfig`. -/
def commandOverride (tokens : Option (List String)) : ProviderCommandOverride :=
  match tokens with
  | none => {}
  | some tokens => { executable := tokens.head?.getD "", args := tokens.tail }

/-- Source: `http_shared.cpp` `HandleHostConfig`. -/
def updateHostConfig (identity : HostIdentity) (payload : HostConfigPayload) : HostIdentity :=
  { identity with
    displayName := payload.displayName
    adminHost := payload.adminHost
    adminPort := payload.adminPort
    remoteHost := payload.remoteHost
    remotePort := payload.remotePort
    codexCommand := commandOverride payload.codexCommand
    claudeCommand := commandOverride payload.claudeCommand }

/-- The identity without the records of that id, if there is one.
Source: `http_shared.cpp` `HandleDeleteHostRecord`, `RemoveBy`. -/
def deleteHostRecord (identity : HostIdentity) (recordId : String) : Option HostIdentity :=
  if recordId = "" then none
  else
    let records := identity.launchRecords.filter (·.recordId ≠ recordId)
    if records.length = identity.launchRecords.length then none
    else some { identity with launchRecords := records }

/-! ### Runs -/

/-- A request, with the tokens drawn while it is answered. A create request meets the manager as it
is by then. -/
inductive IdentityRequest
  | ensureHostIdentity (token : String)
  | hostConfig (body : String)
  | createSession (body : String) (manager : SessionManager) (storeOk : String → Bool)
      (answers : CreateAnswers) (token : String) (nowUnixMs : Int64)
  | deleteHostRecord (recordId : String)

/-- The identity file, and the identity last saved to it. -/
structure IdentityFile where
  text : Option String
  saved : Option HostIdentity := none

/-- The identity that a request saves, when it is accepted.
Source: `http_shared.cpp` `HandleHostConfig`, `HandleCreateSessionRequest`,
`HandleDeleteHostRecord`; `host_config_store.cpp` `EnsureHostIdentity`. -/
def savedIdentity (lib : JsonLibrary) (text : Option String) : IdentityRequest → Option HostIdentity
  | .ensureHostIdentity token => ensureHostIdentity (loadHostIdentity lib text) token
  | .hostConfig body =>
      (parseHostConfigRequest lib body).map fun payload =>
        updateHostConfig ((loadHostIdentity lib text).getD makeDefaultHostIdentity) payload
  | .createSession body manager storeOk answers token nowUnixMs =>
      match parseCreateSessionRequest lib body with
      | none => none
      | some payload =>
          match resolveCreateSessionRequest payload (loadHostIdentity lib text) with
          | .error _ => none
          | .ok request =>
              match (manager.createSession storeOk request answers).2 with
              | none => none
              | some _ =>
                  some (autoSaveLaunchRecord
                    ((loadHostIdentity lib text).getD makeDefaultHostIdentity)
                    (launchRecordOf request token nowUnixMs))
  | .deleteHostRecord recordId =>
      deleteHostRecord ((loadHostIdentity lib text).getD makeDefaultHostIdentity) recordId

/-- An accepted request saves its identity; there is no step for the others. -/
def identityStep (lib : JsonLibrary) (file : IdentityFile) (request : IdentityRequest) :
    Option IdentityFile :=
  (savedIdentity lib file.text request).map fun identity =>
    { text := some (identityText lib identity), saved := some identity }

/-- The identity last saved is the one that is loaded. -/
def ReadsBack (lib : JsonLibrary) (file : IdentityFile) : Prop :=
  ∀ identity, file.saved = some identity → loadHostIdentity lib file.text = some identity

/-- A payload that gives one kind of command and a record that has the other. -/
def mergesCommands (payload : CreateSessionRequestPayload) (record : LaunchRecord) : Prop :=
  (payload.commandArgv.isSome ∧ record.commandShell.isSome) ∨
    (payload.commandShell.isSome ∧ record.commandArgv.isSome)

instance (payload : CreateSessionRequestPayload) (record : LaunchRecord) :
    Decidable (mergesCommands payload record) := by
  unfold mergesCommands
  infer_instance

/-- The request is a create request naming a record of the file with the other kind of command. -/
def MergesCommands (lib : JsonLibrary) (file : IdentityFile) : IdentityRequest → Prop
  | .createSession body _ _ _ _ _ =>
      ∃ payload record, parseCreateSessionRequest lib body = some payload ∧
        namedRecord payload (loadHostIdentity lib file.text) = .ok (some record) ∧
        mergesCommands payload record
  | _ => False

/-! ### What the producers keep -/

/-- The default identity can be stored. -/
theorem storable_makeDefaultHostIdentity : makeDefaultHostIdentity.Storable := by
  refine ⟨?_, ?_, ?_, ?_, fun _ => rfl, fun _ => rfl,
    fun record hrecord => absurd hrecord List.not_mem_nil, ?_, ?_, ?_, ?_, ?_⟩ <;> decide

/-- What is loaded, or the default, is storable whatever the file holds. -/
theorem storable_loaded (lib : JsonLibrary) (text : Option String) :
    ((loadHostIdentity lib text).getD makeDefaultHostIdentity).Storable := by
  rcases hload : loadHostIdentity lib text with _ | identity
  · exact storable_makeDefaultHostIdentity
  · exact storable_of_loadHostIdentity hload

/-- The first records are kept. -/
theorem trimRecords_eq_take (limit : ℕ) (records : List LaunchRecord) :
    trimRecords limit records = records.take limit := by
  fun_induction trimRecords limit records with
  | case1 records hlong ih =>
      rw [ih, List.dropLast_eq_take, List.take_take, Nat.min_eq_left (by omega)]
  | case2 records hshort => exact (List.take_of_length_le (by omega)).symm

/-- The new record is never trimmed, so the identity can be stored exactly when the record can. -/
theorem storable_autoSaveLaunchRecord_iff {identity : HostIdentity} (h : identity.Storable)
    (record : LaunchRecord) : (autoSaveLaunchRecord identity record).Storable ↔ record.Storable := by
  have hrecords : (autoSaveLaunchRecord identity record).launchRecords =
      record :: identity.launchRecords.take (identity.maxLaunchRecords - 1) := by
    show trimRecords identity.maxLaunchRecords (record :: identity.launchRecords) = _
    rw [trimRecords_eq_take]
    exact List.take_cons h.maxLaunchRecords.1
  constructor
  · intro hsaved
    exact hsaved.launchRecords record (hrecords ▸ List.mem_cons_self)
  · intro hrecord
    refine { h with launchRecords := fun other hother => ?_ }
    rw [hrecords] at hother
    rcases List.mem_cons.mp hother with rfl | hother
    · exact hrecord
    · exact h.launchRecords other (List.mem_of_mem_take hother)

/-- What is loaded or made can be stored. -/
theorem storable_ensureHostIdentity {lib : JsonLibrary} {text : Option String} {token : String}
    {identity : HostIdentity}
    (h : ensureHostIdentity (loadHostIdentity lib text) token = some identity) :
    identity.Storable := by
  unfold ensureHostIdentity at h
  dsimp only at h
  split at h
  · cases h
  · cases h
    exact { storable_loaded lib text with }

/-- Without an executable there are no arguments. -/
theorem commandOverride_args {tokens : Option (List String)}
    (h : ∀ parsed ∈ tokens, CommandTokens parsed) :
    (commandOverride tokens).executable = "" → (commandOverride tokens).args = [] := by
  rcases tokens with _ | _ | ⟨first, rest⟩
  · exact fun _ => rfl
  · exact fun _ => rfl
  · intro hempty
    have hfirst : first = "" := hempty
    exact absurd (hfirst ▸ List.mem_cons_self) (h _ rfl).2

/-- **New settings can be stored.** -/
theorem storable_updateHostConfig {identity : HostIdentity} (h : identity.Storable)
    {payload : HostConfigPayload} (hpayload : payload.WellFormed) :
    (updateHostConfig identity payload).Storable := by
  exact
    { h with
      adminHost := hpayload.adminHost
      adminPort := hpayload.adminPort
      remoteHost := hpayload.remoteHost
      remotePort := hpayload.remotePort
      codexCommand := commandOverride_args hpayload.codexCommand
      claudeCommand := commandOverride_args hpayload.claudeCommand }

/-- What is left when a record is deleted can be stored. -/
theorem storable_deleteHostRecord {identity saved : HostIdentity} (h : identity.Storable)
    {recordId : String} (hsaved : deleteHostRecord identity recordId = some saved) :
    saved.Storable := by
  unfold deleteHostRecord at hsaved
  dsimp only at hsaved
  split_ifs at hsaved
  cases hsaved
  exact { h with launchRecords := fun record hrecord =>
    h.launchRecords record (List.mem_filter.mp hrecord).1 }

/-! ### The record of a create request -/

/-- A record that is named could be stored. -/
theorem storable_of_namedRecord {payload : CreateSessionRequestPayload}
    {hostIdentity : Option HostIdentity} {record : LaunchRecord}
    (hidentity : ∀ identity ∈ hostIdentity, identity.Storable)
    (h : namedRecord payload hostIdentity = .ok (some record)) : record.Storable := by
  unfold namedRecord at h
  split at h
  · cases h
  split at h
  · cases h
  next identity =>
    split at h
    · cases h
    next found hfound =>
      cases h
      exact (hidentity identity rfl).launchRecords record (List.mem_of_find?_eq_some hfound)

section Resolved

variable {record : Option LaunchRecord}

/-- A value is of the payload or of the record. -/
theorem payloadOr_eq_some {α : Type} {fromPayload : Option α} {fromRecord : LaunchRecord → Option α}
    {a : α} (h : payloadOr fromPayload record fromRecord = some a) :
    fromPayload = some a ∨ ∃ source ∈ record, fromRecord source = some a := by
  unfold payloadOr at h
  split_ifs at h
  · exact Or.inl h
  · exact Or.inr (Option.bind_eq_some_iff.mp h)

/-- There is one if either has it. -/
theorem isSome_payloadOr {α : Type} (fromPayload : Option α)
    (fromRecord : LaunchRecord → Option α) :
    (payloadOr fromPayload record fromRecord).isSome ↔
      fromPayload.isSome ∨ ∃ source ∈ record, (fromRecord source).isSome := by
  unfold payloadOr
  split_ifs with hpayload
  · exact ⟨fun _ => Or.inl hpayload, fun _ => hpayload⟩
  · rcases record with _ | source
    · refine ⟨fun h => absurd h Bool.false_ne_true, fun h => ?_⟩
      rcases h with h | ⟨_, hin, _⟩
      · exact absurd h hpayload
      · cases hin
    · refine ⟨fun h => Or.inr ⟨source, rfl, h⟩, fun h => ?_⟩
      rcases h with h | ⟨other, hin, h⟩
      · exact absurd h hpayload
      · cases hin
        exact h

end Resolved

/-- A configured provider command is only used when the request has no command. -/
theorem storable_applyConfiguredProviderOverride_iff (request : CreateSessionRequest)
    (hostIdentity : Option HostIdentity) (token : String) (nowUnixMs : Int64) :
    (launchRecordOf (applyConfiguredProviderOverride request hostIdentity) token
        nowUnixMs).Storable ↔ (launchRecordOf request token nowUnixMs).Storable := by
  unfold applyConfiguredProviderOverride
  split
  · rfl
  next identity =>
    dsimp only
    by_cases hcommand : request.commandArgv.isSome ∨ request.commandShell.isSome
    · rw [if_pos hcommand]
    rw [if_neg hcommand]
    split_ifs with hexecutable
    · rfl
    · rw [not_or] at hcommand
      have hargv : request.commandArgv = none := Option.not_isSome_iff_eq_none.mp hcommand.1
      constructor
      · intro h
        refine { h with commandArgv := fun argv hin => ?_, oneCommand := fun hboth => ?_ }
        · rw [show (launchRecordOf request token nowUnixMs).commandArgv = none from hargv] at hin
          cases hin
        · exact hcommand.1 hboth.1
      · intro h
        refine { h with commandArgv := fun argv hin => ?_, oneCommand := fun hboth => ?_ }
        · cases hin
          exact ⟨_, _, hexecutable, rfl⟩
        · exact hcommand.2 hboth.2

/-- **The merged request's record can be stored exactly when** the two do not give different kinds
of command. -/
theorem resolved_storable_iff {payload : CreateSessionRequestPayload}
    {hostIdentity : Option HostIdentity} {request : CreateSessionRequest}
    (hpayload : payload.WellFormed)
    (hidentity : ∀ identity ∈ hostIdentity, identity.Storable)
    (h : resolveCreateSessionRequest payload hostIdentity = .ok request) (token : String)
    (nowUnixMs : Int64) :
    (launchRecordOf request token nowUnixMs).Storable ↔
      ¬ ∃ record, namedRecord payload hostIdentity = .ok (some record) ∧
        mergesCommands payload record := by
  unfold resolveCreateSessionRequest at h
  rcases hnamed : namedRecord payload hostIdentity with message | record
  · rw [hnamed] at h
    cases h
  have hrecord : ∀ source ∈ record, source.Storable := by
    rintro source rfl
    exact storable_of_namedRecord hidentity hnamed
  rw [hnamed] at h
  dsimp only at h
  split at h
  · cases h
  · cases h
  · cases h
  next provider workspaceRoot title _ hworkspaceRoot htitle =>
    cases h
    rw [storable_applyConfiguredProviderOverride_iff]
    have hmerges : (∃ source, (Except.ok record : Except String (Option LaunchRecord)) =
        .ok (some source) ∧ mergesCommands payload source) ↔
        (payloadOr payload.commandArgv record (·.commandArgv)).isSome ∧
          (payloadOr payload.commandShell record (·.commandShell)).isSome := by
      rw [isSome_payloadOr, isSome_payloadOr]
      constructor
      · rintro ⟨source, heq, hmerges⟩
        cases heq
        rcases hmerges with ⟨hargv, hshell⟩ | ⟨hshell, hargv⟩
        · exact ⟨Or.inl hargv, Or.inr ⟨source, rfl, hshell⟩⟩
        · exact ⟨Or.inr ⟨source, rfl, hargv⟩, Or.inl hshell⟩
      · rintro ⟨hargv | ⟨source, hin, hargv⟩, hshell | ⟨source', hin', hshell⟩⟩
        · exact absurd ⟨hargv, hshell⟩ hpayload.oneCommand
        · exact ⟨source', congrArg Except.ok hin', Or.inl ⟨hargv, hshell⟩⟩
        · exact ⟨source, congrArg Except.ok hin, Or.inr ⟨hshell, hargv⟩⟩
        · have hsame : source = source' := Option.some.inj (hin.symm.trans hin')
          exact absurd ⟨hargv, hsame ▸ hshell⟩ (hrecord source hin).oneCommand
    rw [hmerges]
    constructor
    · exact fun hstorable => hstorable.oneCommand
    · intro hone
      refine ⟨?_, ?_, ?_, ?_, ?_, ?_, hone⟩
      · show "rec_" ++ token ≠ ""
        intro hempty
        have hlength := congrArg String.length hempty
        rw [String.length_append] at hlength
        have hrec : "rec_".length = 4 := by decide
        have hnil : "".length = 0 := by decide
        omega
      · show workspaceRoot ≠ ""
        rintro rfl
        rcases payloadOr_eq_some hworkspaceRoot with heq | ⟨source, hin, heq⟩
        · exact hpayload.workspaceRoot heq
        · exact (hrecord source hin).workspaceRoot (Option.some.inj heq)
      · show title ≠ ""
        rintro rfl
        rcases payloadOr_eq_some htitle with heq | ⟨source, hin, heq⟩
        · exact hpayload.title heq
        · exact (hrecord source hin).title (Option.some.inj heq)
      · rcases hpayload.groupTags with ⟨tags, htags⟩
        show normalizeGroupTags ((payloadOr payload.groupTags record (some ·.groupTags)).getD []) =
          (payloadOr payload.groupTags record (some ·.groupTags)).getD []
        rw [htags]
        exact normalizeGroupTags_idem tags
      · intro argv hargv
        rcases payloadOr_eq_some hargv with heq | ⟨source, hin, heq⟩
        · rcases hpayload.commandArgv argv heq with ⟨hne, hempty⟩
          rcases argv with _ | ⟨executable, args⟩
          · exact absurd rfl hne
          · exact ⟨executable, args, fun heq => hempty (heq ▸ List.mem_cons_self), rfl⟩
        · exact (hrecord source hin).commandArgv argv heq
      · intro hshell
        rcases payloadOr_eq_some hshell with heq | ⟨source, hin, heq⟩
        · exact hpayload.commandShell heq
        · exact (hrecord source hin).commandShell heq

/-! ### Steps and runs -/

/-- What a create request saves, once it is parsed and resolved and there is a session. -/
theorem savedIdentity_createSession {lib : JsonLibrary} {text : Option String} {body : String}
    {payload : CreateSessionRequestPayload} {request : CreateSessionRequest}
    {manager : SessionManager} {storeOk : String → Bool} {answers : CreateAnswers} {id : String}
    (hparse : parseCreateSessionRequest lib body = some payload)
    (hresolve : resolveCreateSessionRequest payload (loadHostIdentity lib text) = .ok request)
    (hcreated : (manager.createSession storeOk request answers).2 = some id) (token : String)
    (nowUnixMs : Int64) :
    savedIdentity lib text (.createSession body manager storeOk answers token nowUnixMs) =
      some (autoSaveLaunchRecord ((loadHostIdentity lib text).getD makeDefaultHostIdentity)
        (launchRecordOf request token nowUnixMs)) := by
  unfold savedIdentity
  simp only [hparse, hresolve, hcreated]

/-- What a request saves can be stored exactly when it merges no commands. -/
theorem storable_savedIdentity_iff {lib : JsonLibrary} {file : IdentityFile}
    {request : IdentityRequest} {identity : HostIdentity}
    (h : savedIdentity lib file.text request = some identity) :
    identity.Storable ↔ ¬ MergesCommands lib file request := by
  have hloaded := storable_loaded lib file.text
  cases request with
  | ensureHostIdentity token =>
      exact ⟨fun _ => not_false, fun _ => storable_ensureHostIdentity h⟩
  | hostConfig body =>
      rcases Option.map_eq_some_iff.mp h with ⟨payload, hpayload, rfl⟩
      exact ⟨fun _ => not_false, fun _ =>
        storable_updateHostConfig hloaded (wellFormed_of_parseHostConfigRequest hpayload)⟩
  | deleteHostRecord recordId =>
      exact ⟨fun _ => not_false, fun _ => storable_deleteHostRecord hloaded h⟩
  | createSession body manager storeOk answers token nowUnixMs =>
      unfold savedIdentity at h
      dsimp only at h
      rcases hparse : parseCreateSessionRequest lib body with _ | payload
      · rw [hparse] at h
        cases h
      rw [hparse] at h
      dsimp only at h
      split at h
      · cases h
      next request hrequest =>
        split at h
        · cases h
        cases h
        rw [storable_autoSaveLaunchRecord_iff hloaded,
          resolved_storable_iff (wellFormed_of_parseCreateSessionRequest hparse)
            (fun identity hidentity => storable_of_loadHostIdentity hidentity) hrequest]
        refine not_congr ⟨?_, ?_⟩
        · rintro ⟨record, hnamed, hmerges⟩
          exact ⟨payload, record, hparse, hnamed, hmerges⟩
        · rintro ⟨other, record, hother, hnamed, hmerges⟩
          cases Option.some.inj (hparse.symm.trans hother)
          exact ⟨record, hnamed, hmerges⟩

/-- **What one accepted request saves** is read back exactly when the request does not merge two
kinds of command. -/
theorem readsBack_step_iff {lib : JsonLibrary} {file file' : IdentityFile}
    {request : IdentityRequest} (h : identityStep lib file request = some file') :
    ReadsBack lib file' ↔ ¬ MergesCommands lib file request := by
  rcases Option.map_eq_some_iff.mp h with ⟨identity, hsaved, rfl⟩
  rw [← storable_savedIdentity_iff hsaved, ← loadHostIdentity_identityText lib]
  constructor
  · exact fun hback => hback identity rfl
  · intro hload other heq
    cases heq
    exact hload

/-- **Along every run the identity saved is the one loaded exactly when** no create request gives
one kind of command and names a record that has the other. -/
theorem readsBack_iff_oneCommand (lib : JsonLibrary) (text : Option String)
    (requests : List IdentityRequest) :
    AllStates (identityStep lib) (ReadsBack lib) { text := text } requests ↔
      AllSteps (identityStep lib) (fun file request => ¬ MergesCommands lib file request)
        { text := text } requests := by
  have hstart : ReadsBack lib { text := text } := fun identity hsaved => by cases hsaved
  exact allStates_iff_allSteps (fun _ => True) (fun _ _ _ _ _ _ => trivial)
    (fun _ _ _ _ _ hstep => readsBack_step_iff hstep) trivial hstart requests

/-- An identity whose last launch was a shell command. -/
def shellLaunched : HostIdentity where
  hostId := "h_1"
  launchRecords :=
    [{ recordId := "rec_1", workspaceRoot := "/work", title := "build", commandShell := some "make" }]

/-- The body of a request that launches that record again, with a command of its own. -/
def relaunchBody : Json :=
  .object [("recordId", .string "rec_1"), ("commandArgv", .array [.string "top"])]

/-- What the environment answers while the session is created. -/
def createAnswers : CreateAnswers where
  candidates := ["s_1"]
  resolved := .ok {}
  bootstrapShell := Bytes.utf8 "/bin/sh"
  start := { started := true, pid := 7 }

/-- The request, while the manager has no sessions. -/
def relaunchWithArgv : IdentityRequest :=
  .createSession (JsonText.compactJson.serialize relaunchBody) {} (fun _ => true) createAnswers "2" 0

/-- The identity of the example can be stored. -/
theorem storable_shellLaunched : shellLaunched.Storable := by
  refine ⟨?_, ?_, ?_, ?_, fun _ => rfl, fun _ => rfl, ?_, ?_, ?_, ?_, ?_, ?_⟩
  case refine_5 =>
    intro record hrecord
    rw [List.mem_singleton.mp hrecord]
    exact ⟨by decide, by decide, by decide, by decide, nofun, by decide, by decide⟩
  all_goals decide

/-- The session is created, and the record saved for it has both commands: the file that held a
readable identity holds none. -/
theorem readsBack_fails :
    ¬ AllStates (identityStep JsonText.compactJson) (ReadsBack JsonText.compactJson)
      { text := some (identityText JsonText.compactJson shellLaunched) } [relaunchWithArgv] := by
  have hload := (loadHostIdentity_identityText JsonText.compactJson shellLaunched).mpr
    storable_shellLaunched
  have hparse : parseCreateSessionRequest JsonText.compactJson
      (JsonText.compactJson.serialize relaunchBody) =
        some { recordId := some "rec_1", commandArgv := some ["top"], groupTags := some [] } := by
    unfold parseCreateSessionRequest
    rw [JsonText.compactJson.parse_serialize]
    decide
  intro hall
  have hresolved : resolveCreateSessionRequest
      { recordId := some "rec_1", commandArgv := some ["top"], groupTags := some [] }
      (some shellLaunched) = .ok
        { workspaceRoot := "/work", title := "build", commandArgv := some ["top"]
          commandShell := some "make" } := by
    rfl
  have hcreated : (SessionManager.createSession {} (fun _ => true)
      { workspaceRoot := "/work", title := "build", commandArgv := some ["top"]
        commandShell := some "make" } createAnswers).2 = some "s_1" := by
    decide
  have hsaved := savedIdentity_createSession hparse (hload ▸ hresolved) hcreated "2" 0
  have hstep : identityStep JsonText.compactJson
      { text := some (identityText JsonText.compactJson shellLaunched) } relaunchWithArgv = _ :=
    congrArg (Option.map _) hsaved
  have hback := (allStates_cons.mp hall).2 _ hstep
  refine (readsBack_step_iff hstep).mp (allStates_nil.mp hback) ?_
  refine ⟨_, shellLaunched.launchRecords.head (by decide), hparse, ?_, by decide⟩
  rw [hload]
  decide

end Sentrits.Net
