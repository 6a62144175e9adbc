import Sentrits.Service.LogWindow

/-!
# The lines around a line

`Context` copies the entries around a revision. How many before and after it, comes as two 64-bit
numbers from the target of a request, and the index behind the last entry is a sum of such numbers.

* `context`: the code, with the sum as it wraps around.
* `IsWindow`: what is asked for.
* `context_isWindow_iff`: **the entries of the interval are returned exactly when** the sum does not
  wrap around.

Source: `src/service/log_buffer.cpp`.
-/

namespace Sentrits.Service

open Found Found.Bytes

namespace LogBuffer

/-- The index behind the last entry that is copied; the sum is one of 64-bit numbers. -/
def contextEnd (anchorIndex after count : ℕ) : ℕ := min count ((anchorIndex + after + 1) % 2 ^ 64)

/-- The index of the first entry that is copied. -/
def contextStart (anchorIndex before : ℕ) : ℕ :=
  if anchorIndex > before then anchorIndex - before else 0

/-- Nothing is returned when `reserve` throws: the number it is given has wrapped around, and is
more than any vector can hold.
Source: `log_buffer.cpp` `LogBuffer::Context`. -/
def context (b : LogBuffer) (revision before after : ℕ) : Option (List EvidenceEntry) :=
  match b.entries.head? with
  | none => some []
  | some front =>
      if !b.containsRevision revision then some []
      else
        let oldestRevision := front.revision
        let anchorIndex := revision - oldestRevision
        let start := contextStart anchorIndex before
        let stop := contextEnd anchorIndex after b.entries.length
        if stop < start then none else entriesFrom b.entries start (stop - start)

/-- The retained entries from `before` entries before the revision to `after` entries after it. -/
def around (b : LogBuffer) (revision before after : ℕ) : List EvidenceEntry :=
  b.entries.filter fun entry =>
    max b.stats.oldestRevision (revision - before) ≤ entry.revision ∧
      entry.revision ≤ min b.stats.latestRevision (revision + after)

/-- What is asked for: these entries, and the one with the revision among them. -/
def IsWindow (b : LogBuffer) (revision before after : ℕ) (window : List EvidenceEntry) : Prop :=
  window = b.around revision before after ∧ ∃ entry ∈ window, entry.revision = revision

/-! ### The slice -/

/-- What the lookup comes to on a retained revision. -/
theorem context_of_retained {b : LogBuffer} {first : ℕ}
    (h : Numbered (·.revision) first b.entries) {revision : ℕ} (hfirst : first ≤ revision)
    (hlast : revision < first + b.entries.length) (before after : ℕ) :
    b.context revision before after =
      if contextEnd (revision - first) after b.entries.length < contextStart (revision - first) before
      then none
      else some ((b.entries.drop (contextStart (revision - first) before)).take
        (contextEnd (revision - first) after b.entries.length -
          contextStart (revision - first) before)) := by
  have hne : b.entries ≠ [] := by
    intro hnil
    rw [hnil, List.length_nil] at hlast
    omega
  obtain ⟨front, back, hhead, -, hfront, -⟩ := exists_ends h hne
  have hcontains : b.containsRevision revision = true := by
    rw [containsRevision_iff h, h.exists_iff]
    exact ⟨hfirst, hlast⟩
  unfold context
  rw [hhead]
  simp only [hcontains, hfront, Bool.not_true, Bool.false_eq_true, if_false]
  split_ifs with hwrapped
  · rfl
  · apply entriesFrom_eq
    unfold contextEnd at hwrapped ⊢
    omega

/-- Whatever it comes to, it returns retained entries. -/
theorem sublist_of_context {b : LogBuffer} {revision before after : ℕ}
    {window : List EvidenceEntry} (h : b.context revision before after = some window) :
    window.Sublist b.entries := by
  unfold context at h
  rcases hhead : b.entries.head? with _ | front
  · rw [hhead] at h
    cases h
    exact List.nil_sublist _
  · rw [hhead] at h
    dsimp only at h
    split_ifs at h with hcontains hwrapped
    · cases h
      exact List.nil_sublist _
    · exact sublist_of_entriesFrom h

/-- The first entry shown is so many before the anchor, or the first of all. -/
theorem contextStart_eq (anchorIndex before : ℕ) :
    contextStart anchorIndex before = anchorIndex - before := by
  unfold contextStart
  split_ifs with hlt
  · rfl
  · exact (Nat.sub_eq_zero_of_le (not_lt.mp hlt)).symm

/-- The entries around a retained revision, as a slice. -/
theorem around_eq {b : LogBuffer} {first : ℕ} (h : Numbered (·.revision) first b.entries)
    (holdest : b.stats.oldestRevision = first)
    (hlatest : b.stats.latestRevision + 1 = first + b.entries.length) {revision : ℕ}
    (hfirst : first ≤ revision) (before after : ℕ) :
    b.around revision before after =
      (b.entries.drop (contextStart (revision - first) before)).take
        (min b.entries.length (revision - first + after + 1) -
          contextStart (revision - first) before) := by
  unfold around
  rw [h.filter_between, holdest]
  have hstart : max first (revision - before) - first = contextStart (revision - first) before := by
    rw [contextStart_eq, Nat.max_comm, ← Nat.sub_add_eq_max, Nat.add_sub_cancel,
      Nat.sub_right_comm]
  have hcount : min b.stats.latestRevision (revision + after) + 1 -
      max (max first (revision - before)) first =
        min b.entries.length (revision - first + after + 1) -
          contextStart (revision - first) before := by
    have hend : min b.stats.latestRevision (revision + after) + 1 =
        first + min b.entries.length (revision - first + after + 1) := by
      rw [← Nat.add_min_add_right, hlatest, ← Nat.add_min_add_left]
      congr 1
      omega
    have hfront : first ≤ max first (revision - before) := le_max_left _ _
    obtain ⟨skipped, hskipped⟩ := Nat.exists_eq_add_of_le hfront
    rw [← hstart, max_eq_left hfront, hend, hskipped, Nat.add_sub_add_left,
      Nat.add_sub_cancel_left]
  rw [hstart, hcount]

/-! ### The window -/

/-- A slice that ends before the anchor does not have the anchor in it. -/
theorem not_isWindow_of_le {b : LogBuffer} {first : ℕ} (h : Numbered (·.revision) first b.entries)
    {revision start count : ℕ} (hend : first + start + count ≤ revision) (before after : ℕ) :
    ¬ b.IsWindow revision before after ((b.entries.drop start).take count) := by
  rintro ⟨-, hmem⟩
  obtain ⟨-, hlt⟩ := (((h.drop start).take count).exists_iff revision).mp hmem
  have hlength := List.length_take_le count (b.entries.drop start)
  omega

/-- A sum that does not wrap around cuts nothing from the slice. -/
theorem contextEnd_of_lt {anchorIndex after : ℕ} (h : anchorIndex + after + 1 < 2 ^ 64)
    (count : ℕ) : contextEnd anchorIndex after count = min count (anchorIndex + after + 1) := by
  unfold contextEnd
  rw [Nat.mod_eq_of_lt h]

/-- One that does, ends the slice at the anchor or before it. -/
theorem contextEnd_le_of_wrapped {anchorIndex : ℕ} {after : UInt64}
    (h : ¬ anchorIndex + after.toNat + 1 < 2 ^ 64) (count : ℕ) :
    contextEnd anchorIndex after.toNat count ≤ anchorIndex := by
  have hafter : after.toNat < 2 ^ 64 := after.toNat_lt
  have hwrapped : (anchorIndex + after.toNat + 1) % 2 ^ 64 ≤
      anchorIndex + after.toNat + 1 - 2 ^ 64 := by
    rw [Nat.mod_eq_sub_mod (not_lt.mp h)]
    exact Nat.mod_le _ _
  unfold contextEnd
  omega

/-- The window of a buffer with consecutive revisions. -/
theorem isWindow_context_iff {b : LogBuffer} {first : ℕ}
    (h : Numbered (·.revision) first b.entries) (holdest : b.stats.oldestRevision = first)
    (hlatest : b.stats.latestRevision + 1 = first + b.entries.length) {revision : ℕ}
    (hretained : ∃ entry ∈ b.entries, entry.revision = revision) (before after : UInt64) :
    (∃ window, b.context revision before.toNat after.toNat = some window ∧
        b.IsWindow revision before.toNat after.toNat window) ↔
      revision - first + after.toNat + 1 < 2 ^ 64 := by
  obtain ⟨hfirst, hlast⟩ := (h.exists_iff revision).mp hretained
  have hstart : contextStart (revision - first) before.toNat ≤ revision - first := by
    unfold contextStart
    split_ifs
    · exact Nat.sub_le _ _
    · exact Nat.zero_le _
  rw [context_of_retained h hfirst hlast]
  by_cases hsum : revision - first + after.toNat + 1 < 2 ^ 64
  · refine iff_of_true ?_ hsum
    rw [contextEnd_of_lt hsum, if_neg (by omega), ← around_eq h holdest hlatest hfirst]
    refine ⟨_, rfl, rfl, ?_⟩
    -- the anchor is in its own interval
    obtain ⟨entry, hentry, hrevision⟩ := hretained
    refine ⟨entry, ?_, hrevision⟩
    simp only [around, List.mem_filter, decide_eq_true_eq]
    exact ⟨hentry, by omega⟩
  · refine iff_of_false ?_ hsum
    have hend := contextEnd_le_of_wrapped hsum b.entries.length
    rintro ⟨window, hcontext, hwindow⟩
    split_ifs at hcontext with hthrows
    cases hcontext
    exact not_isWindow_of_le h (by omega) before.toNat after.toNat hwindow

/-- **The lines around a line are returned exactly when the sum fits.** After any appends to a
buffer with any limits, and for any revision it retains: the lookup returns the retained entries of
the interval, the one with the revision among them, exactly when the index of that entry, the
number of entries after it and one add up to less than `2 ^ 64`. -/
theorem context_isWindow_iff (source : EvidenceSourceRef) (limits : LogBufferLimits)
    (calls : List AppendCall) (revision : ℕ) (before after : UInt64)
    (hretained : ∃ entry ∈ ((empty source limits).appendAll calls).entries,
      entry.revision = revision) :
    let b := (empty source limits).appendAll calls
    (∃ window, b.context revision before.toNat after.toNat = some window ∧
        b.IsWindow revision before.toNat after.toNat window) ↔
      revision - b.stats.oldestRevision + after.toNat + 1 < 2 ^ 64 := by
  intro b
  have hwindow : Window ((empty source noLimits).appendAll calls) b :=
    window_appendAll (window_empty source limits) calls
  obtain ⟨holdest, hlatest, hcount⟩ := hwindow.stats
  rw [holdest]
  refine isWindow_context_iff hwindow.numbered holdest ?_ hretained before after
  rw [hlatest, ← hcount, holdest]
  rfl

/-- What the session wrote that has six lines, in two calls. -/
def sixLines : List AppendCall :=
  [{ stream := .stdout, data := utf8 "a\nb\nc\nd", timestampUnixMs := 1 },
    { stream := .stdout, data := utf8 "\ne\nf\n", timestampUnixMs := 2 }]

/-- Two of six lines are gone: the fourth is found with both its neighbours. -/
theorem sixLines_context :
    let b := (empty { kind := .managedLogSession, sessionId := "s" }
      { maxBytes := 0, maxEntries := 4 }).appendAll sixLines
    b.droppedEntries = 2 ∧
      ∃ window, b.context 4 1 1 = some window ∧ b.IsWindow 4 1 1 window ∧
        window.map (·.text) = [utf8 "c", utf8 "d", utf8 "e"] := by
  intro b
  have hlines : (b.context 4 1 1).map (·.map (·.text)) =
      some [utf8 "c", utf8 "d", utf8 "e"] := by decide
  obtain ⟨window, hcontext, hwindow⟩ :=
    (context_isWindow_iff { kind := .managedLogSession, sessionId := "s" }
      { maxBytes := 0, maxEntries := 4 } sixLines 4 1 1 (by decide)).mpr (by decide)
  refine ⟨by decide, window, hcontext, hwindow, ?_⟩
  have hsome : b.context 4 1 1 = some window := hcontext
  rw [hsome] at hlines
  exact Option.some.inj hlines

/-- The log of a session that wrote one line. -/
def oneLine : LogBuffer :=
  (empty { kind := .managedLogSession, sessionId := "s" } {}).appendAll
    [{ stream := .stdout, data := [97, lf], timestampUnixMs := 1 }]

/-- With as many lines after it as the query can ask for, the line is lost. -/
theorem oneLine_context_wrapped :
    (∃ entry ∈ oneLine.entries, entry.revision = 1) ∧
      oneLine.context 1 0 (2 ^ 64 - 1) = some [] ∧
      ¬ oneLine.IsWindow 1 0 (2 ^ 64 - 1) [] := by
  refine ⟨⟨_, List.mem_singleton_self _, rfl⟩, by decide, ?_⟩
  rintro ⟨-, entry, hentry, -⟩
  exact absurd hentry List.not_mem_nil

end LogBuffer

end Sentrits.Service
