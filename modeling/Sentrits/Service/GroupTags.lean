import Mathlib.Logic.Function.Basic
import Sentrits.Found.OrderedSet
import Sentrits.Service.Tracking

/-!
# The group tags of a session are an ordered set

Tags are given in any spelling, by whoever creates or retags a session and by the records of a
store. The manager keeps them trimmed, in lower case, non-empty and each once.

* `NormalTag`: a tag as it is shown.
* `tagSet`: the set a list of tags stands for; `elems_tagSet`: **its elements are what
  `NormalizeGroupTags` returns**.
* `SessionGroupTagsUpdateMode.onSet`, `applyGroupTagMutation_eq`: the three updates are union,
  difference and replacement.
* `TagsInv`, `tagsInv_perform`: **every operation leaves the tags of every session normal**.
* `tagSetOf_perform_update`: an update changes the set of its session and of no other.

Sources: `src/session/session_types.cpp`, `src/service/session_manager.cpp`.
-/

namespace Sentrits.Session

open Found

/-! ### Tags in normal form -/

/-- **A tag as it is shown**: non-empty, without blanks around it, in lower case. -/
structure NormalTag (tag : String) : Prop where
  nonempty : tag ≠ ""
  front : ∀ ch ∈ tag.toList.head?, isAsciiWhitespace ch = false
  back : ∀ ch ∈ tag.toList.getLast?, isAsciiWhitespace ch = false
  lowercase : ∀ ch ∈ tag.toList, ¬ ('A' ≤ ch ∧ ch ≤ 'Z')

/-- Nothing that is trimmed begins with a blank. -/
theorem head_trimAscii (tag : List Char) :
    ∀ ch ∈ (trimAscii tag).head?, isAsciiWhitespace ch = false := by
  intro ch hch
  have hbegins : trimAscii tag <+: tag.dropWhile isAsciiWhitespace := List.rdropWhile_prefix _ _
  have hfront : (tag.dropWhile isAsciiWhitespace).head? = some ch := by
    obtain ⟨rest, hrest⟩ := hbegins
    rw [← hrest, List.head?_append, Option.mem_def.mp hch]
    rfl
  have hnot := List.head?_dropWhile_not isAsciiWhitespace tag
  rw [hfront] at hnot
  simpa using hnot

/-- Nothing that is trimmed ends with a blank. -/
theorem getLast_trimAscii (tag : List Char) :
    ∀ ch ∈ (trimAscii tag).getLast?, isAsciiWhitespace ch = false := by
  intro ch hch
  rw [trimAscii, List.getLast?_reverse] at hch
  have hnot := List.head?_dropWhile_not isAsciiWhitespace
    (tag.dropWhile isAsciiWhitespace).reverse
  rw [Option.mem_def.mp hch] at hnot
  simpa using hnot

/-- A capital letter is not its own small one. -/
theorem not_upper_of_toLowerAscii_eq {ch : Char} (h : toLowerAscii ch = ch) :
    ¬ ('A' ≤ ch ∧ ch ≤ 'Z') := by
  intro hupper
  obtain ⟨k, hk, rfl⟩ := exists_of_upper hupper
  have hmoves : ∀ k < 26, toLowerAscii (Char.ofNat (65 + k)) ≠ Char.ofNat (65 + k) := by decide
  exact hmoves k hk h

/-- A tag that normalisation leaves as it is is trimmed and in lower case. -/
theorem normalTag_of_normalizeGroupTag_eq {tag : String} (hnonempty : tag.isEmpty = false)
    (h : normalizeGroupTag tag = tag) : NormalTag tag := by
  have hlist : (trimAscii tag.toList).map toLowerAscii = tag.toList := by
    rw [← String.toList_ofList (l := (trimAscii tag.toList).map toLowerAscii)]
    exact congrArg String.toList h
  have htrim : trimAscii tag.toList = tag.toList := by
    rw [← hlist, trimAscii_map_toLowerAscii, trimAscii_idem]
  have hlower : tag.toList.map toLowerAscii = tag.toList.map id := by
    rw [htrim] at hlist
    rw [hlist, List.map_id]
  refine ⟨?_, ?_, ?_, ?_⟩
  · rintro rfl
    exact absurd hnonempty (by decide)
  · rw [← htrim]
    exact head_trimAscii _
  · rw [← htrim]
    exact getLast_trimAscii _
  · intro ch hch
    exact not_upper_of_toLowerAscii_eq (List.map_inj_left.mp hlower ch hch)

/-- Each of normal tags is normal. -/
theorem NormalTags.normalTag {tags : List String} (h : NormalTags tags) {tag : String}
    (htag : tag ∈ tags) : NormalTag tag :=
  normalTag_of_normalizeGroupTag_eq (h.nonempty tag htag) (h.normal tag htag)

/-! ### The set a list of tags stands for -/

/-- **The set of the tags given**: their normal forms in the order in which they first come,
without those that are all blank. -/
def tagSet (tags : List String) : OrderedSet String :=
  .ofList ((tags.map normalizeGroupTag).filter (· ≠ ""))

/-- **The loop inserts into the set of what it has.** -/
theorem normalizeGroupTagsLoop_eq (s : OrderedSet String) (tags : List String) :
    normalizeGroupTagsLoop s.elems tags =
      (((tags.map normalizeGroupTag).filter (· ≠ "")).foldl .insert s).elems := by
  induction tags generalizing s with
  | nil => rfl
  | cons tag tags ih =>
      unfold normalizeGroupTagsLoop
      rw [List.map_cons]
      dsimp only
      by_cases hempty : normalizeGroupTag tag = ""
      · rw [if_pos (by simp [hempty]), List.filter_cons_of_neg (by simpa using hempty)]
        exact ih s
      · rw [if_neg (by simpa using hempty), List.filter_cons_of_pos (by simpa using hempty),
          List.foldl_cons, ← ih, OrderedSet.elems_insert]
        split_ifs <;> rfl

/-- **`NormalizeGroupTags` lists the set.** -/
theorem elems_tagSet (tags : List String) : (tagSet tags).elems = normalizeGroupTags tags :=
  (normalizeGroupTagsLoop_eq .empty tags).symm

/-- Normal tags are the elements of their set. -/
theorem elems_tagSet_of_normalTags {tags : List String} (h : NormalTags tags) :
    (tagSet tags).elems = tags := by
  rw [elems_tagSet, normalizeGroupTags_of_normalTags h]

end Sentrits.Session

namespace Sentrits.Service

open Found Found.Runs Session Store

/-! ### The three updates -/

/-- What an update makes of the set of a session, given the set of the tags it names. -/
def SessionGroupTagsUpdateMode.onSet (mode : SessionGroupTagsUpdateMode)
    (s given : OrderedSet String) : OrderedSet String :=
  match mode with
  | .add => s.union given
  | .remove => s.diff given
  | .set => given

/-- **`ApplyGroupTagMutation` is union, difference or replacement.** -/
theorem applyGroupTagMutation_eq (existingTags : List String) (mode : SessionGroupTagsUpdateMode)
    (tags : List String) :
    applyGroupTagMutation existingTags mode tags =
      (mode.onSet (tagSet existingTags) (tagSet tags)).elems := by
  unfold applyGroupTagMutation
  rw [← elems_tagSet, ← elems_tagSet]
  cases mode with
  | set => rfl
  | remove => rfl
  | add =>
      show List.foldl _ _ _ = ((tagSet existingTags).union (tagSet tags)).elems
      rw [OrderedSet.foldl_elems, OrderedSet.foldl_insert_elems]

namespace SessionEntry

/-- The group tags that are shown of a session. -/
def groupTags? (e : SessionEntry) : Option (List String) :=
  e.snapshot?.map (·.metadata.groupTags)

/-- What an update makes of the tags that are shown. -/
theorem groupTags?_updateGroupTags (e : SessionEntry) (mode : SessionGroupTagsUpdateMode)
    (tags : List String) :
    (e.updateGroupTags mode tags).entry.groupTags? =
      e.groupTags?.map (applyGroupTagMutation · mode tags) := by
  rcases hr : e.runtime with _ | r
  · have hentry : (e.updateGroupTags mode tags).entry.runtime = none := by
      simp only [updateGroupTags, hr]
    rw [groupTags?, groupTags?, snapshot?_of_none hr, snapshot?_of_none hentry]
    simp only [updateGroupTags, hr, Option.map_map]
    rfl
  · rw [groupTags?, groupTags?, snapshot?_of_runtime hr]
    simp only [updateGroupTags, hr]
    rfl

/-! ### Tags stay normal -/

/-- The tags that are shown of a session are normal. -/
def Tagged (e : SessionEntry) : Prop :=
  ∀ tags, e.groupTags? = some tags → NormalTags tags

/-- An operation that keeps the tags keeps them normal. -/
theorem Tracks.tagged {e : SessionEntry} {result : EntryResult} (htracks : Tracks e result)
    (h : e.Tagged) : result.entry.Tagged := by
  intro tags' htags'
  obtain ⟨snapshot', hs', rfl⟩ := Option.map_eq_some_iff.mp htags'
  obtain ⟨snapshot, hs, hnames⟩ := htracks.names snapshot' hs'
  exact hnames.tags (h _ (Option.map_eq_some_iff.mpr ⟨snapshot, hs, rfl⟩))

/-- A session whose tags have just been normalised. -/
theorem tagged_of_eq {e : SessionEntry} {given : List String}
    (h : e.groupTags? = some (tagSet given).elems) : e.Tagged := by
  intro tags htags
  rw [h, elems_tagSet] at htags
  exact Option.some.inj htags ▸ normalTags_normalizeGroupTags given

/-- **No operation on a session that is there** leaves its tags in another form. -/
theorem Tagged.after {e e' : SessionEntry} (h : e.Tagged) (hinv : e.Inv) {op : Op}
    (hafter : e.after op = some e') : e'.Tagged := by
  have hite : ∀ (c : Prop) [Decidable c] {result : EntryResult}, Tracks e result →
      (if c then result.entry else e).Tagged := by
    intro c _ result htracks
    split_ifs
    · exact htracks.tagged h
    · exact h
  cases op with
  | createSession | createLogSession | loadPersistedSessions =>
      obtain rfl := Option.some.inj hafter
      exact h
  | clearInactiveSessions =>
      simp only [SessionEntry.after] at hafter
      split_ifs at hafter
      obtain rfl := Option.some.inj hafter
      exact h
  | appendLogStdout id data ts | appendLogStderr id data ts =>
      obtain rfl := Option.some.inj hafter
      exact hite _ (e.appendLog_tracks _ data ts)
  | updateSessionGroupTags id mode tags =>
      obtain rfl := Option.some.inj hafter
      exact hite _ (e.updateGroupTags_tracks mode tags)
  | resizeSession id size ptyResized =>
      obtain rfl := Option.some.inj hafter
      exact hite _ (e.resize_tracks size ptyResized)
  | stopSession id terminated =>
      obtain rfl := Option.some.inj hafter
      exact hite _ (stop_tracks hinv terminated)
  | requestControl id clientId kind =>
      obtain rfl := Option.some.inj hafter
      exact hite _ (e.requestControl_tracks clientId kind)
  | releaseControl id clientId =>
      obtain rfl := Option.some.inj hafter
      exact hite _ (e.releaseControl_tracks clientId)
  | shutdown terminated =>
      obtain rfl := Option.some.inj hafter
      exact (shutdown_tracks hinv _).tagged h
  | pollSession id answers =>
      obtain rfl := Option.some.inj hafter
      exact hite _ (poll_tracks hinv answers)
  | pollAll answers =>
      obtain rfl := Option.some.inj hafter
      split_ifs
      · exact h
      · exact (poll_tracks hinv _).tagged h

end SessionEntry

namespace SessionManager

/-! ### New sessions have the tags given for them -/

/-- The tags that are given for the sessions an operation may add. -/
def givenTags (m : SessionManager) : Op → List (List String)
  | .createSession request _ => [request.groupTags]
  | .createLogSession request _ => [request.groupTags]
  | .loadPersistedSessions => (m.sessionStore.getD []).map (·.groupTags)
  | _ => []

/-- A session is one of those that were there, or has the set of tags that were given. -/
def OldOrGiven (m : SessionManager) (given : List (List String)) (e : SessionEntry) : Prop :=
  e ∈ m.sessions ∨ ∃ tags ∈ given, e.groupTags? = some (tagSet tags).elems

/-- The tags of a new session are those it was given. -/
theorem oldOrGiven_append {m : SessionManager} {given : List (List String)} {e new : SessionEntry}
    {tags : List String} (htags : tags ∈ given)
    (hnew : new.groupTags? = some (normalizeGroupTags tags)) (he : e ∈ m.sessions ++ [new]) :
    m.OldOrGiven given e := by
  rcases List.mem_append.mp he with he | he
  · exact Or.inl he
  · refine Or.inr ⟨tags, htags, ?_⟩
    rw [List.mem_singleton.mp he, hnew, elems_tagSet]

/-- **Creating a terminal session** gives it the tags of the request, started or failed. -/
theorem oldOrGiven_createSession {m : SessionManager} {storeOk : String → Bool}
    {request : CreateSessionRequest} {answers : CreateAnswers} {e : SessionEntry}
    (he : e ∈ (m.createSession storeOk request answers).1.sessions) :
    m.OldOrGiven [request.groupTags] e := by
  have hmem : request.groupTags ∈ [request.groupTags] := List.mem_singleton_self _
  have hfailure : ∀ {m' : SessionManager} {id environment message}, m'.sessions = m.sessions →
      e ∈ (m'.recordCreateFailureSession storeOk (requestedMetadata id request) environment
        message).sessions → m.OldOrGiven [request.groupTags] e := by
    intro m' id environment message hsessions he
    rw [sessions_recordCreateFailureSession, hsessions] at he
    exact oldOrGiven_append hmem rfl he
  unfold createSession at he
  dsimp only at he
  split at he
  next => exact Or.inl he
  next id hid =>
    split at he
    next => exact hfailure rfl he
    next =>
      split at he
      next => exact hfailure rfl he
      next =>
        split_ifs at he with havailable hstarted
        · rw [sessions_persistEntry] at he
          refine oldOrGiven_append hmem ?_ he
          obtain ⟨status, hmetadata⟩ := metadata_start (SessionRuntime.new
            { metadata := requestedMetadata id request } _) answers.start
          exact congrArg (fun metadata => some metadata.groupTags) hmetadata
        · exact hfailure rfl he
        · exact hfailure rfl he

/-- **Creating a managed-log session** gives it the tags of the request. -/
theorem oldOrGiven_createLogSession {m : SessionManager} {request : LogSessionCreateRequest}
    {answers : LogCreateAnswers} {e : SessionEntry}
    (he : e ∈ (m.createLogSession request answers).1.sessions) :
    m.OldOrGiven [request.groupTags] e := by
  have hmem : request.groupTags ∈ [request.groupTags] := List.mem_singleton_self _
  unfold createLogSession at he
  dsimp only at he
  split at he
  next => exact Or.inl he
  next id hid =>
    split at he
    next => exact Or.inl he
    next => exact oldOrGiven_append hmem rfl he
    next =>
      split at he
      next => exact Or.inl he
      next environment _ =>
        by_cases hstarted : answers.start.started = true
        · rw [if_pos hstarted] at he
          exact oldOrGiven_append hmem rfl he
        · rw [if_neg hstarted] at he
          exact oldOrGiven_append hmem rfl (List.mem_of_mem_filter he)

/-- **Loading** gives each session the tags of its record. -/
theorem oldOrGiven_loadLoop {m : SessionManager} {given : List (List String)}
    {records : List PersistedSessionRecord} (hgiven : ∀ record ∈ records, record.groupTags ∈ given)
    {sessions : List SessionEntry} (hsessions : ∀ e ∈ sessions, m.OldOrGiven given e)
    {e : SessionEntry} (he : e ∈ loadLoop sessions records) : m.OldOrGiven given e := by
  induction records generalizing sessions with
  | nil => exact hsessions e he
  | cons persisted records ih =>
      have ih := fun sessions => @ih (fun record hmem =>
        hgiven record (List.mem_cons_of_mem persisted hmem)) sessions
      unfold loadLoop at he
      split_ifs at he with hfound
      · exact ih _ hsessions he
      · split at he
        next => exact ih _ hsessions he
        next id hid =>
          refine ih _ ?_ he
          intro e' he'
          rcases List.mem_append.mp he' with he' | he'
          · exact hsessions e' he'
          · refine Or.inr ⟨persisted.groupTags, hgiven persisted List.mem_cons_self, ?_⟩
            rw [List.mem_singleton.mp he', elems_tagSet]
            rfl

/-- **Where the sessions after an operation come from**: through the operation from one that was
there, or new with the tags given. -/
theorem mem_perform_tags {m : SessionManager} (h : m.Inv) {storeOk : String → Bool} {op : Op}
    {e' : SessionEntry} (he' : e' ∈ (m.perform storeOk op).1.sessions) :
    (∃ e ∈ m.sessions, e.after op = some e') ∨
      ∃ tags ∈ m.givenTags op, e'.groupTags? = some (tagSet tags).elems := by
  have hsame : m.OldOrGiven (m.givenTags op) e' → (∀ e : SessionEntry, e.after op = some e) →
      (∃ e ∈ m.sessions, e.after op = some e') ∨
        ∃ tags ∈ m.givenTags op, e'.groupTags? = some (tagSet tags).elems :=
    fun hold hafter => hold.imp (fun he => ⟨e', he, hafter e'⟩) fun hgiven => hgiven
  have hkept : ∀ {f : SessionEntry → SessionEntry}, (∀ e, e.after op = some (f e)) →
      e' ∈ m.sessions.map f → (∃ e ∈ m.sessions, e.after op = some e') ∨
        ∃ tags ∈ m.givenTags op, e'.groupTags? = some (tagSet tags).elems := by
    intro f hafter hmem
    obtain ⟨e, he, rfl⟩ := List.mem_map.mp hmem
    exact Or.inl ⟨e, he, hafter e⟩
  cases op with
  | createSession request answers => exact hsame (oldOrGiven_createSession he') fun _ => rfl
  | createLogSession request answers => exact hsame (oldOrGiven_createLogSession he') fun _ => rfl
  | loadPersistedSessions =>
      refine hsame (oldOrGiven_loadLoop ?_ (fun e he => Or.inl he) he') fun _ => rfl
      exact fun record hmem => List.mem_map.mpr ⟨record, hmem, rfl⟩
  | clearInactiveSessions =>
      obtain ⟨he, hactive⟩ := List.mem_filter.mp he'
      exact Or.inl ⟨e', he, if_pos hactive⟩
  | appendLogStdout | appendLogStderr | updateSessionGroupTags | resizeSession | stopSession
  | requestControl | releaseControl | pollSession =>
      exact hkept (fun _ => rfl) (sessions_applyOne m h.nodup _ _ _ ▸ he')
  | shutdown => exact hkept (fun _ => rfl) (sessions_applyAll m _ _ ▸ he')
  | pollAll answers =>
      rw [perform, sessions_applyAll] at he'
      obtain ⟨e, he, rfl⟩ := List.mem_map.mp he'
      refine Or.inl ⟨e, he, congrArg some ?_⟩
      split_ifs <;> rfl

/-! ### Every state a run leads to -/

/-- The invariant of the manager, with the tags of every session. -/
structure TagsInv (m : SessionManager) : Prop where
  inv : m.Inv
  tagged : ∀ e ∈ m.sessions, e.Tagged

/-- A new manager has no tags. -/
theorem tagsInv_of_init {m : SessionManager} (h : Init m) : m.TagsInv where
  inv := inv_of_init h
  tagged := by
    rw [h]
    exact fun _ he => absurd he List.not_mem_nil

/-- **One operation** leaves the tags of every session normal. -/
theorem tagsInv_perform {m : SessionManager} (h : m.TagsInv) (storeOk : String → Bool) (op : Op) :
    (m.perform storeOk op).1.TagsInv where
  inv := inv_perform h.inv storeOk op
  tagged := by
    intro e' he'
    rcases mem_perform_tags h.inv he' with ⟨e, he, hafter⟩ | ⟨tags, -, htags⟩
    · exact (h.tagged e he).after (h.inv.entries e he) hafter
    · exact SessionEntry.tagged_of_eq htags

/-- Every step keeps the invariant. -/
theorem tagsInv_step (m : SessionManager) (call : Call) (m' : SessionManager) (h : m.TagsInv)
    (hstep : step m call = some m') : m'.TagsInv := by
  obtain rfl := Option.some.inj hstep
  exact tagsInv_perform h _ _

/-- **In every reachable state** the tags of every session are normal. -/
theorem reachable_tagsInv {m : SessionManager} (h : Reachable step Init m) : m.TagsInv :=
  h.invariant (fun _ => tagsInv_of_init) tagsInv_step

/-- The set of tags of a session. -/
def tagSetOf (m : SessionManager) (sessionId : String) : OrderedSet String :=
  tagSet (((m.findEntry sessionId).bind (·.groupTags?)).getD [])

/-- The set of a session is that of its entry. -/
theorem tagSetOf_of_mem {m : SessionManager} (h : (m.sessions.map (·.id)).Nodup) {e : SessionEntry}
    (he : e ∈ m.sessions) : m.tagSetOf e.id = tagSet (e.groupTags?.getD []) := by
  rw [tagSetOf, findEntry_of_mem h he, Option.bind_some]

/-- The set of no session is empty. -/
theorem tagSetOf_of_notMem {m : SessionManager} {sessionId : String}
    (h : sessionId ∉ m.sessions.map (·.id)) : m.tagSetOf sessionId = tagSet [] := by
  have hnone : m.findEntry sessionId = none := by
    rw [findEntry, List.find?_eq_none]
    intro e he hid
    exact h (List.mem_map.mpr ⟨e, he, by simpa using hid⟩)
  rw [tagSetOf, hnone]
  rfl

/-- What is shown of the tags of a session is its set. -/
theorem groupTags?_of_mem {m : SessionManager} (h : m.Inv) {e : SessionEntry}
    (he : e ∈ m.sessions) (htagged : e.Tagged) :
    e.groupTags? = some (m.tagSetOf e.id).elems := by
  obtain ⟨snapshot, hs⟩ := (h.entries e he).exists_snapshot?
  have htags : e.groupTags? = some snapshot.metadata.groupTags := by
    rw [SessionEntry.groupTags?, hs]
    rfl
  rw [tagSetOf_of_mem h.nodup he, htags, Option.getD_some,
    elems_tagSet_of_normalTags (htagged _ htags)]

/-- The set of a session after it is updated. -/
theorem tagSet_updateGroupTags {e : SessionEntry} (hinv : e.Inv)
    (mode : SessionGroupTagsUpdateMode) (tags : List String) :
    tagSet ((e.updateGroupTags mode tags).entry.groupTags?.getD []) =
      mode.onSet (tagSet (e.groupTags?.getD [])) (tagSet tags) := by
  obtain ⟨snapshot, hs⟩ := hinv.exists_snapshot?
  have htags : e.groupTags? = some snapshot.metadata.groupTags := by
    rw [SessionEntry.groupTags?, hs]
    rfl
  rw [SessionEntry.groupTags?_updateGroupTags, htags, Option.map_some, Option.getD_some,
    Option.getD_some]
  refine OrderedSet.ext ?_
  rw [elems_tagSet_of_normalTags (normalTags_applyGroupTagMutation _ mode tags),
    applyGroupTagMutation_eq]

/-- **An update** changes the set of the session it names, and no other. -/
theorem tagSetOf_perform_update {m : SessionManager} (h : m.Inv) (storeOk : String → Bool)
    (mode : SessionGroupTagsUpdateMode) (tags : List String) {e : SessionEntry}
    (he : e ∈ m.sessions) :
    (m.perform storeOk (.updateSessionGroupTags e.id mode tags)).1.tagSetOf =
      Function.update m.tagSetOf e.id (mode.onSet (m.tagSetOf e.id) (tagSet tags)) := by
  have hsessions : (m.perform storeOk (.updateSessionGroupTags e.id mode tags)).1.sessions =
      m.sessions.map fun e₁ =>
        if e₁.id = e.id then (e₁.updateGroupTags mode tags).entry else e₁ :=
    sessions_applyOne m h.nodup storeOk e.id _
  have hinv := inv_perform h storeOk (.updateSessionGroupTags e.id mode tags)
  have hupdated : (e.updateGroupTags mode tags).entry.id = e.id :=
    (e.updateGroupTags_tracks mode tags).id_eq
  funext sessionId
  by_cases hid : sessionId = e.id
  · subst hid
    have hmem : (e.updateGroupTags mode tags).entry ∈
        (m.perform storeOk (.updateSessionGroupTags e.id mode tags)).1.sessions := by
      rw [hsessions]
      exact List.mem_map.mpr ⟨e, he, if_pos rfl⟩
    have hafter := tagSetOf_of_mem hinv.nodup hmem
    rw [hupdated] at hafter
    rw [Function.update_self, hafter, tagSet_updateGroupTags (h.entries e he),
      ← tagSetOf_of_mem h.nodup he]
  · rw [Function.update_of_ne hid]
    by_cases hheld : sessionId ∈ m.sessions.map (·.id)
    · obtain ⟨e₁, he₁, rfl⟩ := List.mem_map.mp hheld
      have hmem : e₁ ∈ (m.perform storeOk (.updateSessionGroupTags e.id mode tags)).1.sessions := by
        rw [hsessions]
        exact List.mem_map.mpr ⟨e₁, he₁, if_neg hid⟩
      rw [tagSetOf_of_mem hinv.nodup hmem, tagSetOf_of_mem h.nodup he₁]
    · rw [tagSetOf_of_notMem hheld, tagSetOf_of_notMem]
      rw [hsessions]
      rintro hmem
      obtain ⟨e', he', rfl⟩ := List.mem_map.mp hmem
      obtain ⟨e₁, he₁, rfl⟩ := List.mem_map.mp he'
      split_ifs at hid hheld with heq
      · exact hid (((e₁.updateGroupTags_tracks mode tags).id_eq).trans heq)
      · exact hheld (List.mem_map.mpr ⟨e₁, he₁, rfl⟩)

/-- **Group tags are an ordered set of normal tags.** In every state a run leads to, the tags of a
session are a set of tags that are trimmed, in lower case and not empty; the sessions an operation
adds have the set of the tags given for them; adding, removing and setting tags are union,
difference and replacement on these sets; and `NormalizeGroupTags`, which lists the set a list of
tags stands for, changes nothing when it runs again. -/
theorem group_tags_are_ordered_sets {m : SessionManager} (hm : Reachable step Init m) :
    (∀ e ∈ m.sessions, e.groupTags? = some (m.tagSetOf e.id).elems ∧
      ∀ tag ∈ (m.tagSetOf e.id).elems, NormalTag tag) ∧
    (∀ storeOk op, ∀ e ∈ (m.perform storeOk op).1.sessions, e.id ∉ m.sessions.map (·.id) →
      ∃ tags ∈ m.givenTags op, e.groupTags? = some (tagSet tags).elems) ∧
    (∀ storeOk mode tags, ∀ e ∈ m.sessions,
      (m.perform storeOk (.updateSessionGroupTags e.id mode tags)).1.tagSetOf =
        Function.update m.tagSetOf e.id (mode.onSet (m.tagSetOf e.id) (tagSet tags))) ∧
    ∀ tags, normalizeGroupTags tags = (tagSet tags).elems ∧
      normalizeGroupTags (normalizeGroupTags tags) = normalizeGroupTags tags := by
  obtain ⟨hinv, htagged⟩ := reachable_tagsInv hm
  refine ⟨fun e he => ?_, fun storeOk op e' he' hnew => ?_, fun storeOk mode tags e he => ?_,
    fun tags => ⟨(elems_tagSet tags).symm, normalizeGroupTags_idem tags⟩⟩
  · have htags := groupTags?_of_mem hinv he (htagged e he)
    exact ⟨htags, fun tag htag => (htagged e he _ htags).normalTag htag⟩
  · refine (mem_perform_tags hinv he').resolve_left ?_
    rintro ⟨e, he, hafter⟩
    have hid := (SessionEntry.keeps_of_after (hinv.entries e he) hafter).id_eq
    exact hnew (List.mem_map.mpr ⟨e, he, hid.symm⟩)
  · exact tagSetOf_perform_update hinv storeOk mode tags he

/-- A session is created, and a tag added to it in two spellings. -/
def retaggedRun : SessionManager :=
  run {} [startCall "s_1", { op := .updateSessionGroupTags "s_1" .add [" Ops ", "OPS"] }]

/-- The two spellings are one tag. -/
theorem group_tags_are_ordered_sets_run :
    retaggedRun.sessions.length = 1 ∧
    ∀ e ∈ retaggedRun.sessions, e.groupTags? = some (retaggedRun.tagSetOf e.id).elems ∧
      ∀ tag ∈ (retaggedRun.tagSetOf e.id).elems, NormalTag tag :=
  ⟨by decide, (group_tags_are_ordered_sets (reachable_run _)).1⟩

example : (retaggedRun.tagSetOf "s_1").elems = ["ops"] := by decide

end SessionManager

end Sentrits.Service
