import Sentrits.Found.Histories
import Sentrits.Service.Observations

/-!
# The audit trail of evidence

Every look that a session takes at a log is added to the store of observations and pushed to the
clients that listen. A second look at an unchanged tail is neither; and the store drops the oldest
events when there are too many.

* `Look`, `observe`: one look, and what is pushed.
* `TellsMore`: an event that is no second look at the same tail.
* `trail`: all looks that tell more than the one before, numbered.
* `Follows`, `follows_observe`: the store holds the end of the trail; each look keeps that.
* `observations_are_the_trail`: **the pushes are the whole trail, the store lists its end**, and no
  id is given twice.

Sources: `src/service/observation_store.cpp`, `src/service/evidence_response_assembler.cpp`,
`src/net/http_shared.cpp`.
-/

namespace Sentrits.Service

open Found.Histories

/-! ### Looks -/

/-- What evidence is assembled from.
Source: `evidence_response_assembler.h` `EvidenceAssemblyRequest`. -/
structure Look where
  result : EvidenceResult
  sourceTitle : String
  actor : Option EvidenceActorContext
  timestampUnixMs : ℤ

/-- The observation of a look, if it is one. -/
def Look.observation (look : Look) : Option ObservationEvent :=
  assemble look.result look.sourceTitle look.actor look.timestampUnixMs

namespace ObservationStore

/-- The store that a daemon starts with. -/
def init (limits : ObservationStoreLimits) : ObservationStore where
  limits := limits
  bounded := Nat.zero_le _

/-- What one look adds to the store, and the event that is pushed.
Source: `http_shared.cpp` `FinalizeEvidenceResponse`. -/
def observe (store : ObservationStore) (look : Look) :
    ObservationStore × Option ObservationEvent :=
  match look.observation with
  | none => (store, none)
  | some event =>
      let added := store.addWithStatus event
      (added.1, if added.2 then added.1.events.getLast? else none)

/-- The store after some looks, and all events that were pushed. -/
def observeAll (limits : ObservationStoreLimits) (looks : List Look) :
    ObservationStore × List ObservationEvent :=
  looks.foldl
    (fun before look =>
      ((before.1.observe look).1, before.2 ++ (before.1.observe look).2.toList))
    (init limits, [])

end ObservationStore

/-! ### The trail -/

/-- The event is no second look at the tail that the first one looked at. -/
def ObservationEvent.TellsMore (previous event : ObservationEvent) : Prop :=
  ¬(event.operation = .tail ∧ previous.operation = .tail ∧
    previous.actorSessionId = event.actorSessionId ∧ previous.source = event.source ∧
    previous.query = event.query ∧ previous.revisionStart = event.revisionStart ∧
    previous.revisionEnd = event.revisionEnd ∧ previous.resultCount = event.resultCount ∧
    previous.truncated = event.truncated)

instance : DecidableRel ObservationEvent.TellsMore :=
  fun _ _ => inferInstanceAs (Decidable (¬_))

/-- An event under a number. -/
def ObservationEvent.numbered (event : ObservationEvent) (number : ℕ) : ObservationEvent :=
  { event with id := s!"obs:{number}" }

/-- **The audit trail**: the looks that tell more than the one before them, numbered from one. -/
def trail (looks : List Look) : List ObservationEvent :=
  (((looks.filterMap Look.observation).destutter ObservationEvent.TellsMore).zipIdx 1).map
    fun event => event.1.numbered event.2

/-- Evicting leaves the end. -/
theorem evictEvents_eq (maxEvents : ℕ) (events : List ObservationEvent) :
    evictEvents maxEvents events = events.rtake maxEvents := by
  induction events with
  | nil => rw [evictEvents, List.rtake_nil]
  | cons event events ih =>
      unfold evictEvents
      split_ifs with hlong
      · have hrest : (event :: events).length - maxEvents =
            (events.length - maxEvents) + 1 := by
          rw [List.length_cons] at hlong ⊢
          omega
        rw [ih, List.rtake, List.rtake, hrest, List.drop_succ_cons]
      · rw [List.rtake, Nat.sub_eq_zero_of_le (Nat.le_of_not_lt hlong), List.drop_zero]

/-! ### The store follows the trail -/

/-- The trail of looks at the log, before it is numbered. -/
def history (looks : List Look) : List ObservationEvent :=
  (looks.filterMap Look.observation).destutter ObservationEvent.TellsMore

/-- The trail is the history with numbers. -/
theorem trail_eq (looks : List Look) :
    trail looks = ((history looks).zipIdx 1).map fun event => event.1.numbered event.2 := rfl

/-- The last event of the trail is that of the history. -/
theorem getLast?_trail (looks : List Look) :
    (trail looks).getLast? =
      (history looks).getLast?.map (·.numbered (history looks).length) := by
  rw [trail_eq, List.getLast?_map]
  rcases List.eq_nil_or_concat (history looks) with hnil | ⟨front, last, heq⟩
  · rw [hnil]
    rfl
  · rw [heq, List.concat_eq_append, List.zipIdx_append, List.getLast?_append]
    simp [Nat.add_comm]

/-- One more event at the end of the history. -/
theorem trail_of_history {looks looks' : List Look} {event : ObservationEvent}
    (h : history looks' = history looks ++ [event]) :
    trail looks' = trail looks ++ [event.numbered ((history looks).length + 1)] := by
  rw [trail_eq, trail_eq, h, List.zipIdx_append, List.map_append, Nat.add_comm]
  rfl

/-- **The store holds the end of the trail, and gives the next number.** -/
structure ObservationStore.Follows (limits : ObservationStoreLimits) (looks : List Look)
    (store : ObservationStore) : Prop where
  limits_eq : store.limits = limits
  events_eq : store.events = (trail looks).rtake limits.maxEvents
  next_eq : store.nextEventSequence = (history looks).length + 1

namespace ObservationStore

variable {limits : ObservationStoreLimits} {looks : List Look} {store : ObservationStore}

/-- A look is a second one exactly when it tells no more than the last event of the history. -/
theorem Follows.isDuplicate_iff (h : Follows limits looks store) (event : ObservationEvent) :
    store.isDuplicateTailObservation event = true ↔
      ∃ kept ∈ (history looks).getLast?, ¬kept.TellsMore event := by
  unfold isDuplicateTailObservation
  rw [h.events_eq, getLast?_rtake limits.positive, getLast?_trail]
  rcases (history looks).getLast? with _ | kept
  · simp
  · simp only [Option.map_some, decide_eq_true_iff, Option.mem_some_iff, exists_eq_left',
      ObservationEvent.TellsMore, not_not]
    rfl

/-- An observation has no id of its own. -/
theorem id_of_observation {look : Look} {event : ObservationEvent}
    (h : look.observation = some event) : event.id.isEmpty = true := by
  unfold Look.observation assemble at h
  split at h
  · cases h
  · split_ifs at h
    rw [← Option.some.inj h]
    rfl

/-- What is no second look is added under the next number. -/
theorem addWithStatus_of_new {event : ObservationEvent} (hid : event.id.isEmpty = true)
    (hnew : store.isDuplicateTailObservation event = false) :
    (store.addWithStatus event).2 = true ∧
      (store.addWithStatus event).1.limits = store.limits ∧
      (store.addWithStatus event).1.events =
        (store.events ++ [event.numbered store.nextEventSequence]).rtake store.limits.maxEvents ∧
      (store.addWithStatus event).1.nextEventSequence = store.nextEventSequence + 1 := by
  unfold addWithStatus
  rw [hnew, if_neg (by decide)]
  refine ⟨rfl, rfl, ?_, ?_⟩
  · dsimp only
    rw [evictEvents_eq, if_pos hid]
    rfl
  · dsimp only
    rw [if_pos hid]

/-- **One more look** keeps the store behind the trail; what is pushed is what it adds. -/
theorem follows_observe (h : Follows limits looks store) (look : Look) :
    Follows limits (looks ++ [look]) (store.observe look).1 ∧
      trail (looks ++ [look]) = trail looks ++ (store.observe look).2.toList := by
  unfold observe
  rcases hlook : look.observation with _ | event
  · have hhistory : history (looks ++ [look]) = history looks := by
      unfold history
      rw [List.filterMap_append, List.filterMap_cons_none hlook, List.filterMap_nil,
        List.append_nil]
    refine ⟨⟨h.limits_eq, ?_, ?_⟩, ?_⟩
    · rw [trail_eq, hhistory]
      exact h.events_eq
    · rw [hhistory]
      exact h.next_eq
    · rw [trail_eq, hhistory, Option.toList_none, List.append_nil]
      rfl
  · have hconcat : history (looks ++ [look]) = history looks ++
        if ∀ kept ∈ (history looks).getLast?, kept.TellsMore event then [event] else [] := by
      unfold history
      rw [List.filterMap_append, List.filterMap_cons_some hlook, List.filterMap_nil]
      exact destutter_concat _ _ _
    dsimp only
    by_cases hduplicate : store.isDuplicateTailObservation event = true
    · -- a second look at the same tail
      have hno : ¬∀ kept ∈ (history looks).getLast?, kept.TellsMore event := by
        obtain ⟨kept, hkept, hless⟩ := (h.isDuplicate_iff event).mp hduplicate
        exact fun hall => hless (hall kept hkept)
      have hsame : store.addWithStatus event = (store, false) := by
        rw [addWithStatus, if_pos hduplicate]
      rw [if_neg hno, List.append_nil] at hconcat
      rw [hsame]
      refine ⟨⟨h.limits_eq, ?_, ?_⟩, ?_⟩
      · rw [trail_eq, hconcat]
        exact h.events_eq
      · rw [hconcat]
        exact h.next_eq
      · rw [trail_eq, hconcat]
        exact (List.append_nil _).symm
    · have hyes : ∀ kept ∈ (history looks).getLast?, kept.TellsMore event := by
        intro kept hkept
        by_contra hless
        exact hduplicate ((h.isDuplicate_iff event).mpr ⟨kept, hkept, hless⟩)
      rw [if_pos hyes] at hconcat
      have htrail := trail_of_history hconcat
      obtain ⟨hinserted, hlimits, hevents, hnumber⟩ := addWithStatus_of_new
        (id_of_observation hlook) (Bool.eq_false_of_not_eq_true hduplicate)
      rw [h.limits_eq, h.events_eq, rtake_rtake_concat, h.next_eq, ← htrail] at hevents
      refine ⟨⟨hlimits.trans h.limits_eq, hevents, ?_⟩, ?_⟩
      · rw [hnumber, h.next_eq, hconcat, List.length_append, List.length_singleton]
      · rw [if_pos hinserted, hevents, getLast?_rtake limits.positive, htrail,
          List.getLast?_append, List.getLast?_singleton]
        rfl

/-- In the beginning there is no trail. -/
theorem follows_init : Follows limits [] (init limits) where
  limits_eq := rfl
  events_eq := (List.rtake_nil _).symm
  next_eq := rfl

/-- Any looks. -/
theorem follows_observeAll (limits : ObservationStoreLimits) (looks : List Look) :
    Follows limits looks (observeAll limits looks).1 ∧
      (observeAll limits looks).2 = trail looks := by
  induction looks using List.reverseRecOn with
  | nil => exact ⟨follows_init, rfl⟩
  | append_singleton looks look ih =>
      obtain ⟨hfollows, hpushed⟩ := ih
      obtain ⟨hnext, htrail⟩ := follows_observe hfollows look
      unfold observeAll at hnext htrail hpushed ⊢
      rw [List.foldl_append, List.foldl_cons, List.foldl_nil]
      exact ⟨hnext, by rw [hpushed, htrail]⟩

/-- The numbers of a trail are all different. -/
theorem nodup_ids_trail (looks : List Look) : ((trail looks).map (·.id)).Nodup := by
  have hids : (trail looks).map (·.id) =
      (List.range' 1 (history looks).length).map fun number => s!"obs:{number}" := by
    rw [trail_eq, List.map_map, ← List.zipIdx_map_snd 1 (history looks), List.map_map]
    rfl
  rw [hids]
  apply List.Nodup.map _ List.nodup_range'
  intro first second h
  have htext : toString first = toString second := (String.append_right_inj _).mp h
  simp only [Nat.toString_eq_ofList_toDigits] at htext
  rw [← Nat.ofDigitChars_ten_toDigits (n := first), String.ofList_injective htext,
    Nat.ofDigitChars_ten_toDigits]

/-- **The audit trail.** Whatever looks are taken, in whatever order, and however few events the
store may hold: what is pushed is the whole trail, each event once and in order; what is listed are
its newest events; all ids are different, and no event repeats the look at a tail before it. -/
theorem observations_are_the_trail (limits : ObservationStoreLimits) (looks : List Look) :
    (observeAll limits looks).2 = trail looks ∧
      (∀ limit, (observeAll limits looks).1.listNewestFirst limit =
        (trail looks).reverse.take (min limit limits.maxEvents)) ∧
      ((trail looks).map (·.id)).Nodup ∧
      (trail looks).IsChain ObservationEvent.TellsMore := by
  obtain ⟨hfollows, hpushed⟩ := follows_observeAll limits looks
  refine ⟨hpushed, ?_, nodup_ids_trail looks, ?_⟩
  · intro limit
    rw [listNewestFirst, hfollows.events_eq, List.rtake_eq_reverse_take_reverse,
      List.reverse_reverse, List.take_take]
  · rw [trail_eq, List.isChain_map]
    have hchain := List.isChain_destutter ObservationEvent.TellsMore
      (looks.filterMap Look.observation)
    rw [show (looks.filterMap Look.observation).destutter ObservationEvent.TellsMore =
      ((history looks).zipIdx 1).map Prod.fst from (List.zipIdx_map_fst 1 _).symm,
      List.isChain_map] at hchain
    exact hchain

end ObservationStore

end Sentrits.Service
