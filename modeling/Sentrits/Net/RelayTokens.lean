import Sentrits.Found.Keyed
import Sentrits.Found.Runs

/-!
# Relay tokens

The relay bridge opens the observer socket of a session with a token that the daemon issued for
that session and that is good once, for thirty seconds.

* `consumeIfValid_spec`: a token that is not there is refused; one that is there is taken out, and
  accepted when it is in time and names its session.
* `Sound`: what a run from the empty store keeps of the tokens it holds and of what it did.
* `singleUse_and_bound`: **with fresh tokens** each is accepted at most once, for its own session
  and in its time, an attempt takes it out, and nothing else takes out a token that is in time.

Sources: `include/vibe/net/hub_control_channel.h`, `src/net/hub_control_channel.cpp`.
-/

namespace Sentrits.Net

open Found Found.Runs Found.Keyed

namespace RelayTokenStore

/-- Source: `hub_control_channel.h` `RelayTokenStore::kTokenTTL`, in the nanoseconds of the steady
clock. -/
def kTokenTTL : ℤ := 30 * 1000000000

/-- Source: `hub_control_channel.h` `RelayTokenStore::Entry`. -/
structure Entry where
  sessionId : String
  expiresAt : ℤ
  deriving DecidableEq

end RelayTokenStore

open RelayTokenStore (Entry kTokenTTL)

/-- Source: `hub_control_channel.h` `RelayTokenStore`. -/
structure RelayTokenStore where
  tokens : List (String × Entry) := []
  deriving DecidableEq

namespace RelayTokenStore

/-! ### The operations -/

/-- `token` is what `GenerateRelayToken` draws and `now` what the clock reads.
Source: `hub_control_channel.cpp` `RelayTokenStore::Issue`. -/
def issue (store : RelayTokenStore) (token sessionId : String) (now : ℤ) : RelayTokenStore :=
  { tokens := upsert Prod.fst (token, { sessionId, expiresAt := now + kTokenTTL }) store.tokens }

/-- Source: `hub_control_channel.cpp` `RelayTokenStore::ConsumeIfValid`. -/
def consumeIfValid (store : RelayTokenStore) (token requestedSessionId : String) (now : ℤ) :
    RelayTokenStore × Bool :=
  match find Prod.fst token store.tokens with
  | none => (store, false)
  | some (_, entry) =>
      let expired := decide (entry.expiresAt < now)
      let sessionMatch := decide (entry.sessionId = requestedSessionId)
      ({ tokens := remove Prod.fst token store.tokens }, !expired && sessionMatch)

/-- Source: `hub_control_channel.cpp` `RelayTokenStore::PruneExpired`. -/
def pruneExpired (store : RelayTokenStore) (now : ℤ) : RelayTokenStore :=
  { tokens := store.tokens.filter fun token => ¬ token.2.expiresAt < now }

/-- A call on the store, with what the generator drew and the clock read in it. -/
inductive Call
  | issue (token sessionId : String) (now : ℤ)
  | consumeIfValid (token requestedSessionId : String) (now : ℤ)
  | pruneExpired (now : ℤ)
  deriving DecidableEq

namespace Call

/-- What the clock reads in the call. -/
def now : Call → ℤ
  | .issue _ _ now | .consumeIfValid _ _ now | .pruneExpired now => now

/-- The token a call issues. -/
def issued : Call → Option String
  | .issue token _ _ => some token
  | _ => none

/-- The token a call tries to consume. -/
def attempted : Call → Option String
  | .consumeIfValid token _ _ => some token
  | _ => none

end Call

/-- The store after a call. -/
def after (store : RelayTokenStore) : Call → RelayTokenStore
  | .issue token sessionId now => store.issue token sessionId now
  | .consumeIfValid token sessionId now => (store.consumeIfValid token sessionId now).1
  | .pruneExpired now => store.pruneExpired now

/-- Every call is possible in every store. -/
def step (store : RelayTokenStore) (call : Call) : Option RelayTokenStore :=
  some (store.after call)

/-- The call consumes the token with success. -/
def Accepts (token : String) (store : RelayTokenStore) : Call → Prop
  | .consumeIfValid attempted sessionId now =>
      attempted = token ∧ (store.consumeIfValid attempted sessionId now).2 = true
  | _ => False

instance (token : String) (store : RelayTokenStore) (call : Call) :
    Decidable (Accepts token store call) :=
  match call with
  | .consumeIfValid _ _ _ => inferInstanceAs (Decidable (_ ∧ _))
  | .issue _ _ _ | .pruneExpired _ => inferInstanceAs (Decidable False)

/-- How often the token was consumed with success. -/
def acceptances (token : String) (past : List (RelayTokenStore × Call)) : ℕ :=
  past.countP fun call => Accepts token call.1 call.2

/-! ### One call -/

/-- **What an attempt does.** -/
theorem consumeIfValid_spec (store : RelayTokenStore) (token sessionId : String) (now : ℤ) :
    (¬ Has Prod.fst token store.tokens ∧
        store.consumeIfValid token sessionId now = (store, false)) ∨
      ∃ entry, (token, entry) ∈ store.tokens ∧
        store.consumeIfValid token sessionId now =
          ({ tokens := remove Prod.fst token store.tokens },
            decide (now ≤ entry.expiresAt ∧ entry.sessionId = sessionId)) := by
  unfold consumeIfValid
  rcases h : find Prod.fst token store.tokens with _ | ⟨found, entry⟩
  · exact Or.inl ⟨find_eq_none_iff.mp h, rfl⟩
  · obtain ⟨hmem, hkey⟩ := mem_of_find h
    simp only at hkey
    subst hkey
    refine Or.inr ⟨entry, hmem, ?_⟩
    simp [Bool.decide_and, ← decide_not]

/-- A token that is accepted was there, is in time and names its session. -/
theorem mem_of_accepts {store : RelayTokenStore} {token sessionId : String} {now : ℤ}
    (h : (store.consumeIfValid token sessionId now).2 = true) :
    ∃ entry, (token, entry) ∈ store.tokens ∧ now ≤ entry.expiresAt ∧
      entry.sessionId = sessionId := by
  rcases consumeIfValid_spec store token sessionId now with ⟨-, heq⟩ | ⟨entry, hmem, heq⟩
  · rw [heq] at h
    cases h
  · rw [heq, decide_eq_true_iff] at h
    exact ⟨entry, hmem, h⟩

/-- After an attempt the token is gone, whatever the result. -/
theorem not_has_after_consumeIfValid (store : RelayTokenStore) (token sessionId : String)
    (now : ℤ) : ¬ Has Prod.fst token (store.consumeIfValid token sessionId now).1.tokens := by
  rcases consumeIfValid_spec store token sessionId now with ⟨hnone, heq⟩ | ⟨entry, -, heq⟩
  · rw [heq]
    exact hnone
  · rw [heq]
    exact not_has_remove token store.tokens

/-- The tokens after a call were there before, or the call issued them. -/
theorem mem_of_mem_after {store : RelayTokenStore} {call : Call} {token : String} {entry : Entry}
    (h : (token, entry) ∈ (store.after call).tokens) :
    (token, entry) ∈ store.tokens ∨
      ∃ sessionId now, call = .issue token sessionId now ∧
        entry = { sessionId, expiresAt := now + kTokenTTL } := by
  cases call with
  | issue issued sessionId now =>
      rcases mem_of_mem_upsert h with heq | hmem
      · obtain ⟨rfl, rfl⟩ := Prod.mk.inj heq
        exact Or.inr ⟨sessionId, now, rfl, rfl⟩
      · exact Or.inl hmem
  | consumeIfValid attempted sessionId now =>
      left
      rcases consumeIfValid_spec store attempted sessionId now with ⟨-, heq⟩ | ⟨_, -, heq⟩
      · simpa only [after, heq] using h
      · simp only [after, heq, mem_remove] at h
        exact h.1
  | pruneExpired now => exact Or.inl (List.mem_filter.mp h).1

/-- **A call keeps what it does not name.** A token that is in time stays, unless the call attempts
it or issues it anew. -/
theorem mem_after {store : RelayTokenStore} {call : Call} {token : String} {entry : Entry}
    (hmem : (token, entry) ∈ store.tokens) (htime : call.now ≤ entry.expiresAt)
    (hattempt : call.attempted ≠ some token) (hissue : call.issued ≠ some token) :
    (token, entry) ∈ (store.after call).tokens := by
  cases call with
  | issue issued sessionId now =>
      have hne : token ≠ issued := fun heq => hissue (congrArg some heq.symm)
      exact mem_upsert_of_ne hmem hne
  | consumeIfValid attempted sessionId now =>
      have hne : token ≠ attempted := fun heq => hattempt (congrArg some heq.symm)
      rcases consumeIfValid_spec store attempted sessionId now with ⟨-, heq⟩ | ⟨_, -, heq⟩
      · simpa only [after, heq] using hmem
      · simp only [after, heq, mem_remove]
        exact ⟨hmem, hne⟩
  | pruneExpired now =>
      apply List.mem_filter.mpr
      exact ⟨hmem, decide_eq_true (Int.not_lt.mpr htime)⟩

/-! ### Runs from the empty store -/

/-- A call that was right about the tokens: what it accepts was issued for the session it names, no
longer ago than the time a token has; the token it attempts is gone; every other token that is in
time is still there. -/
structure Right (calls : List Call) (store : RelayTokenStore) (call : Call) : Prop where
  bound : ∀ token sessionId now, call = .consumeIfValid token sessionId now →
    (store.consumeIfValid token sessionId now).2 = true →
      ∃ issuedAt, Call.issue token sessionId issuedAt ∈ calls ∧ now ≤ issuedAt + kTokenTTL
  gone : ∀ token, call.attempted = some token → ¬ Has Prod.fst token (store.after call).tokens
  kept : ∀ token entry, (token, entry) ∈ store.tokens → call.attempted ≠ some token →
    call.now ≤ entry.expiresAt → (token, entry) ∈ (store.after call).tokens

/-- What a run keeps: the tokens in the store were issued and not consumed yet, no token was
consumed twice or without having been issued, and every call was right. -/
structure Sound (store : RelayTokenStore) (past : List (RelayTokenStore × Call)) : Prop where
  issued : ∀ token entry, (token, entry) ∈ store.tokens →
    ∃ now, Call.issue token entry.sessionId now ∈ past.map Prod.snd ∧
      entry.expiresAt = now + kTokenTTL
  unspent : ∀ token, Has Prod.fst token store.tokens → acceptances token past = 0
  once : ∀ token, acceptances token past ≤ 1
  known : ∀ token, acceptances token past ≠ 0 → token ∈ (past.map Prod.snd).filterMap Call.issued
  right : ∀ call ∈ past, Right (past.map Prod.snd) call.1 call.2

/-- In the beginning no token is out. -/
theorem sound_init : Sound {} [] where
  issued := by simp
  unspent := by simp [acceptances]
  once := by simp [acceptances]
  known := by simp [acceptances]
  right := by simp

/-- What was right stays so when more calls are made. -/
theorem Right.mono {calls more : List Call} {store : RelayTokenStore} {call : Call}
    (h : Right calls store call) (hsub : calls ⊆ more) : Right more store call where
  bound := fun token sessionId now hcall hok => by
    obtain ⟨issuedAt, hmem, htime⟩ := h.bound token sessionId now hcall hok
    exact ⟨issuedAt, hsub hmem, htime⟩
  gone := h.gone
  kept := h.kept

/-- What is accepted is in the store before and gone after. -/
theorem has_and_attempted_of_accepts {token : String} {store : RelayTokenStore} {call : Call}
    (h : Accepts token store call) :
    Has Prod.fst token store.tokens ∧ call.attempted = some token := by
  cases call with
  | issue issued sessionId now => exact h.elim
  | pruneExpired now => exact h.elim
  | consumeIfValid attempted sessionId now =>
      obtain ⟨rfl, hok⟩ := h
      obtain ⟨entry, hmem, -⟩ := mem_of_accepts hok
      exact ⟨⟨_, hmem, rfl⟩, rfl⟩

/-- A token that was tried is gone. -/
theorem not_has_after_attempt {store : RelayTokenStore} {call : Call} {token : String}
    (h : call.attempted = some token) : ¬ Has Prod.fst token (store.after call).tokens := by
  cases call with
  | issue issued sessionId now => cases h
  | pruneExpired now => cases h
  | consumeIfValid attempted sessionId now =>
      cases h
      exact not_has_after_consumeIfValid store token sessionId now

/-- The acceptances of one call more. -/
theorem acceptances_append (token : String) (past : List (RelayTokenStore × Call))
    (store : RelayTokenStore) (call : Call) :
    acceptances token (past ++ [(store, call)]) =
      acceptances token past + if Accepts token store call then 1 else 0 := by
  simp [acceptances, List.countP_append, List.countP_singleton]

/-- In a sound store a fresh token is not there, and was never accepted. -/
theorem Sound.absent_of_fresh {store : RelayTokenStore} {past : List (RelayTokenStore × Call)}
    (h : Sound store past) {token : String}
    (hfresh : token ∉ (past.map Prod.snd).filterMap Call.issued) :
    ¬ Has Prod.fst token store.tokens := by
  rintro ⟨⟨_, entry⟩, hmem, rfl⟩
  obtain ⟨now, hissue, -⟩ := h.issued _ entry hmem
  exact hfresh (List.mem_filterMap.mpr ⟨_, hissue, rfl⟩)

/-- A call on a sound store is right. -/
theorem Sound.right_of_call {store : RelayTokenStore} {past : List (RelayTokenStore × Call)}
    (h : Sound store past) {call : Call}
    (hfresh : ∀ token, call.issued = some token →
      token ∉ (past.map Prod.snd).filterMap Call.issued) :
    Right (past.map Prod.snd) store call where
  bound := fun token sessionId now hcall hok => by
    obtain ⟨entry, hmem, htime, rfl⟩ := mem_of_accepts hok
    obtain ⟨issuedAt, hissue, hexpires⟩ := h.issued token entry hmem
    exact ⟨issuedAt, hissue, hexpires ▸ htime⟩
  gone := fun token => not_has_after_attempt
  kept := fun token entry hmem hattempt htime => by
    refine mem_after hmem htime hattempt fun hissue => ?_
    exact h.absent_of_fresh (hfresh token hissue) ⟨_, hmem, rfl⟩

/-- **The step lemma.** A call that issues no token a second time keeps the store sound. -/
theorem Sound.after {store : RelayTokenStore} {past : List (RelayTokenStore × Call)}
    (h : Sound store past) {call : Call}
    (hfresh : ∀ token, call.issued = some token →
      token ∉ (past.map Prod.snd).filterMap Call.issued) :
    Sound (store.after call) (past ++ [(store, call)]) where
  issued := fun token entry hmem => by
    rcases mem_of_mem_after hmem with hmem | ⟨sessionId, now, rfl, rfl⟩
    · obtain ⟨now, hissue, hexpires⟩ := h.issued token entry hmem
      exact ⟨now, by simp [hissue], hexpires⟩
    · exact ⟨now, by simp, rfl⟩
  unspent := fun token hhas => by
    have hno : ¬ Accepts token store call := fun hacc =>
      not_has_after_attempt (has_and_attempted_of_accepts hacc).2 hhas
    rw [acceptances_append, if_neg hno]
    obtain ⟨⟨_, entry⟩, hmem, rfl⟩ := hhas
    rcases mem_of_mem_after hmem with hmem | ⟨sessionId, now, rfl, -⟩
    · exact h.unspent _ ⟨_, hmem, rfl⟩
    · by_contra hne
      exact hfresh _ rfl (h.known _ hne)
  once := fun token => by
    rw [acceptances_append]
    split_ifs with hacc
    · rw [h.unspent token (has_and_attempted_of_accepts hacc).1]
    · exact h.once token
  known := fun token hne => by
    rw [acceptances_append] at hne
    rw [List.map_append, List.filterMap_append, List.mem_append]
    left
    split_ifs at hne with hacc
    · obtain ⟨⟨_, entry⟩, hmem, rfl⟩ := (has_and_attempted_of_accepts hacc).1
      by_contra hfresh
      exact h.absent_of_fresh hfresh ⟨_, hmem, rfl⟩
    · exact h.known token hne
  right := fun other hother => by
    rw [List.map_append]
    rcases List.mem_append.mp hother with hpast | hnow
    · exact (h.right other hpast).mono (List.subset_append_left _ _)
    · rw [List.mem_singleton.mp hnow]
      exact (h.right_of_call hfresh).mono (List.subset_append_left _ _)

/-- Every list of calls is a run. -/
theorem reaches_foldl (store : RelayTokenStore) (calls : List Call) :
    Reaches step store calls (calls.foldl RelayTokenStore.after store) := by
  induction calls generalizing store with
  | nil => exact .refl store
  | cons call calls ih => exact .cons rfl (ih (store.after call))

/-- The run lemma: with fresh tokens every run from the empty store is sound. -/
theorem sound_of_run {calls : List Call} (hfresh : (calls.filterMap Call.issued).Nodup) :
    Sound (calls.foldl RelayTokenStore.after {}) (history step {} calls) := by
  have hrun := reaches_foldl {} calls
  have hgen := hrun.history_invariant
    (fun store past => ((past.map Prod.snd).filterMap Call.issued).Nodup → Sound store past)
    (fun before call after past ih hstep hnodup => ?_) (fun _ => sound_init)
  · exact hgen (by rw [hrun.history_labels]; exact hfresh)
  · cases hstep
    rw [List.map_append, List.filterMap_append, List.nodup_append] at hnodup
    obtain ⟨hpast, -, hdisjoint⟩ := hnodup
    refine (ih hpast).after fun token hissue hmem => ?_
    exact hdisjoint token hmem token (by simp [hissue]) rfl

/-- **Relay tokens are good once, and for their session.** In every run from the empty store in
which no token is issued twice, whatever the clock reads: no token is accepted more than once, and
every call is right (`Right`). -/
theorem singleUse_and_bound {calls : List Call} (hfresh : (calls.filterMap Call.issued).Nodup) :
    (∀ token, acceptances token (history step {} calls) ≤ 1) ∧
      ∀ call ∈ history step {} calls, Right calls call.1 call.2 := by
  have hsound := sound_of_run hfresh
  refine ⟨hsound.once, fun call hcall => ?_⟩
  have hright := hsound.right call hcall
  rwa [(reaches_foldl {} calls).history_labels] at hright

/-- A token is issued, tried for another session, then tried for its own; a second one is used at
the instant it expires. -/
theorem singleUse_and_bound_run :
    let calls : List Call :=
      [.issue "relay_a" "s_1" 5, .issue "relay_b" "s_2" 5, .consumeIfValid "relay_a" "s_2" 6,
        .pruneExpired 7, .consumeIfValid "relay_a" "s_1" 8,
        .consumeIfValid "relay_b" "s_2" (5 + kTokenTTL)]
    (∀ token, acceptances token (history step {} calls) ≤ 1) ∧
      ∀ call ∈ history step {} calls, Right calls call.1 call.2 :=
  singleUse_and_bound (by decide)

end RelayTokenStore

end Sentrits.Net
