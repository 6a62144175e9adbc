import Sentrits.Service.LogContext
import Sentrits.Service.LogSearch
import Sentrits.Service.LogTail

/-!
# Evidence

Evidence is what a client is shown of a managed log: some of its lines, where in the log they stand,
and whether there would have been more.

* `EvidenceResult`, `makeEvidenceResultFromEntries`: what is shown.
* `tailEvidence`, `rangeEvidence`, `searchEvidence`, `contextEvidence`: the code, on one log.
* `Assigned`, `Evicted`: the revisions there were, and those that are gone.
* `range_complete_iff`, `context_complete_iff`: **when evidence that is not marked as truncated has
  all that was asked for.**

Sources: `include/vibe/service/evidence.h`, `src/service/session_manager.cpp`.
-/

namespace Sentrits.Service

open Found Found.Bytes

/-! ### What is shown -/

/-- Source: `evidence.h` `EvidenceOperation`. -/
inductive EvidenceOperation
  | tail
  | search
  | context
  | range
  deriving DecidableEq

/-- Source: `evidence.h` `ToString`. -/
def EvidenceOperation.toString : EvidenceOperation → String
  | .tail => "tail"
  | .search => "search"
  | .context => "context"
  | .range => "range"

/-- Source: `evidence.h` `EvidenceResult`; its replay token comes in where it is answered. -/
structure EvidenceResult where
  source : EvidenceSourceRef
  operation : EvidenceOperation
  query : Bytes := []
  revisionStart : ℕ := 0
  revisionEnd : ℕ := 0
  oldestRevision : ℕ := 0
  latestRevision : ℕ := 0
  entries : List EvidenceEntry := []
  highlights : List EvidenceHighlight := []
  truncated : Bool := false
  bufferExhausted : Bool := false
  droppedEntries : ℕ := 0
  droppedBytes : ℕ := 0
  errorCode : String := ""
  deriving DecidableEq

/-- What is asked of a log.
Source: `session_manager.h` `EvidenceTailOptions`, `EvidenceSearchOptions`, `EvidenceRangeOptions`,
`EvidenceContextOptions`. -/
inductive EvidenceQuery
  | tail (lines : ℕ)
  | search (query : Bytes) (limit : ℕ)
  | range (revisionStart revisionEnd limit : ℕ)
  | context (revision before after : ℕ)
  deriving DecidableEq

namespace LogBuffer

/-- Source: `session_manager.cpp` `MakeEvidenceResultFromEntries`. -/
def makeEvidenceResultFromEntries (source : EvidenceSourceRef) (operation : EvidenceOperation)
    (query : Bytes) (entries : List EvidenceEntry) (stats : LogBufferStats) : EvidenceResult where
  source := source
  operation := operation
  query := query
  revisionStart := (entries.head?.map (·.revision)).getD 0
  revisionEnd := (entries.getLast?.map (·.revision)).getD 0
  oldestRevision := stats.oldestRevision
  latestRevision := stats.latestRevision
  entries := entries
  droppedEntries := stats.droppedEntries
  droppedBytes := stats.droppedBytes

/-- Source: `session_manager.cpp` `MakeBufferExhaustedEvidenceResult`. -/
def makeBufferExhaustedEvidenceResult (source : EvidenceSourceRef) (operation : EvidenceOperation)
    (stats : LogBufferStats) : EvidenceResult where
  source := source
  operation := operation
  oldestRevision := stats.oldestRevision
  latestRevision := stats.latestRevision
  truncated := true
  bufferExhausted := true
  droppedEntries := stats.droppedEntries
  droppedBytes := stats.droppedBytes
  errorCode := "buffer_exhausted"

/-- Source: `session_manager.cpp` `SessionManager::TailEvidence`, on the log it found. -/
def tailEvidence (b : LogBuffer) (source : EvidenceSourceRef) (lines : ℕ) : EvidenceResult :=
  makeEvidenceResultFromEntries source .tail [] (b.tail lines true) b.stats

/-- Nothing is returned when the lookup throws.
Source: `session_manager.cpp` `SessionManager::RangeEvidence`, on the log it found. -/
def rangeEvidence (b : LogBuffer) (source : EvidenceSourceRef)
    (revisionStart revisionEnd limit : ℕ) : Option EvidenceResult :=
  (b.range revisionStart revisionEnd limit).map fun entries =>
    { makeEvidenceResultFromEntries source .range [] entries b.stats with
      truncated :=
        decide (revisionStart < b.stats.oldestRevision) && decide (b.stats.droppedEntries > 0) }

/-- Source: `session_manager.cpp` `SessionManager::SearchEvidence`, on the log it found. -/
def searchEvidence (b : LogBuffer) (source : EvidenceSourceRef) (query : Bytes) (limit : ℕ) :
    EvidenceResult :=
  let search := b.search query limit
  { makeEvidenceResultFromEntries source .search query search.entries b.stats with
    highlights := search.highlights
    truncated := search.truncated }

/-- Nothing is returned when the lookup throws.
Source: `session_manager.cpp` `SessionManager::ContextEvidence`, on the log it found. -/
def contextEvidence (b : LogBuffer) (source : EvidenceSourceRef) (revision before after : ℕ) :
    Option EvidenceResult :=
  if b.containsRevision revision then
    (b.context revision before after).map fun entries =>
      makeEvidenceResultFromEntries source .context [] entries b.stats
  else some (makeBufferExhaustedEvidenceResult source .context b.stats)

/-- What the log shows of itself; nothing when the lookup throws. -/
def evidence (b : LogBuffer) (source : EvidenceSourceRef) : EvidenceQuery → Option EvidenceResult
  | .tail lines => some (b.tailEvidence source lines)
  | .search query limit => some (b.searchEvidence source query limit)
  | .range revisionStart revisionEnd limit => b.rangeEvidence source revisionStart revisionEnd limit
  | .context revision before after => b.contextEvidence source revision before after

/-! ### The revisions of a log -/

/-- A completed line had the revision. -/
def Assigned (b : LogBuffer) (revision : ℕ) : Prop := 1 ≤ revision ∧ revision < b.nextRevision

/-- It is not retained any more. -/
def Evicted (b : LogBuffer) (revision : ℕ) : Prop :=
  b.Assigned revision ∧ ¬ ∃ entry ∈ b.entries, entry.revision = revision

/-- The evicted ones are those before the retained. -/
theorem Window.evicted_iff {log b : LogBuffer} (h : Window log b) (revision : ℕ) :
    b.Evicted revision ↔ 1 ≤ revision ∧ revision ≤ b.droppedEntries := by
  have hnext := h.nextRevision_eq
  unfold Evicted Assigned
  rw [h.numbered.exists_iff]
  omega

/-! ### Evidence that hides nothing -/

/-- A range that is not marked as truncated has every line of the revisions asked for. -/
def RangeComplete (b : LogBuffer) (revisionStart revisionEnd : ℕ) (result : EvidenceResult) :
    Prop :=
  result.truncated = false → ∀ revision, revisionStart ≤ revision → revision ≤ revisionEnd →
    b.Assigned revision → ∃ entry ∈ result.entries, entry.revision = revision

/-- The lines around a revision that are not marked as truncated are all that there ever were. -/
def ContextComplete (b : LogBuffer) (revision before after : ℕ) (result : EvidenceResult) : Prop :=
  result.truncated = false → ∀ other, revision - before ≤ other → other ≤ revision + after →
    ¬ b.Evicted other

/-- The first entries of a slice have all of its revisions when there are not too many. -/
theorem Window.slice_complete_iff {log b : LogBuffer} (h : Window log b)
    (revisionStart revisionEnd limit : ℕ) :
    (∀ revision, revisionStart ≤ revision → revision ≤ revisionEnd →
        (∃ entry ∈ b.entries, entry.revision = revision) →
        ∃ entry ∈ (b.entries.filter fun entry =>
          revisionStart ≤ entry.revision ∧ entry.revision ≤ revisionEnd).take limit,
          entry.revision = revision) ↔
      min revisionEnd (b.nextRevision - 1) + 1 - max revisionStart (b.droppedEntries + 1) ≤
        limit := by
  have hnext := h.nextRevision_eq
  have hslice := (h.numbered.drop (revisionStart - (b.droppedEntries + 1))).take
    (min limit (revisionEnd + 1 - max revisionStart (b.droppedEntries + 1)))
  rw [h.numbered.filter_between, List.take_take]
  simp only [hslice.exists_iff, h.numbered.exists_iff, List.length_take, List.length_drop]
  have hstart : b.droppedEntries + 1 + (revisionStart - (b.droppedEntries + 1)) =
      max revisionStart (b.droppedEntries + 1) := by
    rw [Nat.add_comm, Nat.sub_add_eq_max]
  rw [hstart]
  have hlow := Nat.le_max_left revisionStart (b.droppedEntries + 1)
  have hfirst := Nat.le_max_right revisionStart (b.droppedEntries + 1)
  have hleast : ∀ revision, revisionStart ≤ revision → b.droppedEntries + 1 ≤ revision →
      max revisionStart (b.droppedEntries + 1) ≤ revision := by
    exact fun revision hge hkept => Nat.max_le.mpr ⟨hge, hkept⟩
  generalize max revisionStart (b.droppedEntries + 1) = start at hlow hfirst hstart hleast ⊢
  obtain ⟨skipped, rfl⟩ := Nat.exists_eq_add_of_le hfirst
  rw [Nat.add_left_cancel hstart]
  clear hstart hfirst hslice
  constructor
  · intro hall
    by_contra hmany
    have hend := Nat.min_le_left revisionEnd (b.nextRevision - 1)
    have hretained := Nat.min_le_right revisionEnd (b.nextRevision - 1)
    generalize min revisionEnd (b.nextRevision - 1) = last at hmany hend hretained
    -- the revision behind the last one that is returned
    obtain ⟨-, hlt⟩ := hall (b.droppedEntries + 1 + skipped + limit) (by omega) (by omega)
      ⟨by omega, by omega⟩
    have hwithin := Nat.lt_of_add_lt_add_left hlt
    exact Nat.lt_irrefl limit (Nat.lt_min.mp (Nat.lt_min.mp hwithin).1).1
  · rintro hcount revision hge hend ⟨hretained, hlt⟩
    have hlast : revision ≤ min revisionEnd (b.nextRevision - 1) :=
      Nat.le_min.mpr ⟨hend, by omega⟩
    generalize min revisionEnd (b.nextRevision - 1) = last at hcount hlast
    have hlimit := Nat.sub_le_iff_le_add.mp hcount
    clear hcount
    obtain ⟨offset, rfl⟩ := Nat.exists_eq_add_of_le (hleast revision hge hretained)
    refine ⟨Nat.le_add_right _ _, Nat.add_lt_add_left ?_ _⟩
    refine Nat.lt_min.mpr ⟨Nat.lt_min.mpr ⟨?_, ?_⟩, ?_⟩
    · omega
    · exact Nat.lt_sub_of_add_lt (by omega)
    · exact Nat.lt_sub_of_add_lt (by omega)

/-- **A range hides nothing exactly when** it is marked as truncated or the limit is not below the
number of completed lines it asks for. -/
theorem range_complete_iff {log b : LogBuffer} (h : Window log b) (source : EvidenceSourceRef)
    (revisionStart revisionEnd limit : ℕ) :
    (∀ result ∈ b.rangeEvidence source revisionStart revisionEnd limit,
        b.RangeComplete revisionStart revisionEnd result) ↔
      (revisionStart < b.stats.oldestRevision ∧ 0 < b.stats.droppedEntries) ∨
        min revisionEnd b.stats.latestRevision + 1 - max revisionStart 1 ≤ limit := by
  obtain ⟨holdest, hlatest, -⟩ := h.stats
  have hdropped : b.stats.droppedEntries = b.droppedEntries := rfl
  have hnext : b.stats.nextRevision = b.nextRevision := rfl
  have hslice := h.slice_complete_iff revisionStart revisionEnd limit
  unfold rangeEvidence RangeComplete
  rw [range_eq h.numbered, Option.map_some]
  simp only [Option.mem_def, Option.some.injEq, forall_eq', makeEvidenceResultFromEntries]
  by_cases hmarked : revisionStart < b.stats.oldestRevision ∧ 0 < b.stats.droppedEntries
  · refine iff_of_true (fun hfalse => ?_) (Or.inl hmarked)
    simp [hmarked.1, hmarked.2] at hfalse
  · -- no line of the range was evicted
    have hassigned : ∀ revision, revisionStart ≤ revision →
        (b.Assigned revision ↔ ∃ entry ∈ b.entries, entry.revision = revision) := by
      intro revision hstart
      have hlast := h.nextRevision_eq
      unfold Assigned
      rw [h.numbered.exists_iff]
      omega
    have hflag : (decide (revisionStart < b.stats.oldestRevision) &&
        decide (b.stats.droppedEntries > 0)) = false := by
      rw [← Bool.not_eq_true, Bool.and_eq_true, decide_eq_true_iff, decide_eq_true_iff]
      exact hmarked
    have hend : b.stats.latestRevision = b.nextRevision - 1 := by
      omega
    have hstart : max revisionStart 1 = max revisionStart (b.droppedEntries + 1) := by
      rcases Nat.eq_zero_or_pos b.droppedEntries with hzero | hpos
      · rw [hzero]
      · have hbehind : b.droppedEntries + 1 ≤ revisionStart := by
          omega
        rw [Nat.max_eq_left hbehind, Nat.max_eq_left (by omega)]
    have hcount : min revisionEnd b.stats.latestRevision + 1 - max revisionStart 1 =
        min revisionEnd (b.nextRevision - 1) + 1 - max revisionStart (b.droppedEntries + 1) := by
      rw [hend, hstart]
    rw [hflag, or_iff_right hmarked, hcount, ← hslice]
    simp only [true_imp_iff]
    constructor
    · intro hall revision hstart hend hretained
      exact hall revision hstart hend ((hassigned revision hstart).mpr hretained)
    · intro hall revision hstart hend hlog
      exact hall revision hstart hend ((hassigned revision hstart).mp hlog)

/-- A context whose lines before were evicted begins with the first retained line. -/
theorem contextStart_eq_zero {anchorIndex before : ℕ} (h : anchorIndex ≤ before) :
    contextStart anchorIndex before = 0 := by
  unfold contextStart
  rw [if_neg (not_lt.mpr h)]

/-- **A context hides nothing exactly when** no line before it was evicted that it asks for. -/
theorem context_complete_iff {log b : LogBuffer} (h : Window log b) (source : EvidenceSourceRef)
    {revision : ℕ} (hretained : ∃ entry ∈ b.entries, entry.revision = revision)
    (before after : ℕ) :
    (∀ result ∈ b.contextEvidence source revision before after,
        b.ContextComplete revision before after result) ↔
      b.stats.droppedEntries = 0 ∨ b.stats.droppedEntries < revision - before := by
  have hdropped : b.stats.droppedEntries = b.droppedEntries := rfl
  obtain ⟨hfirst, hlast⟩ := (h.numbered.exists_iff revision).mp hretained
  have hcontains : b.containsRevision revision = true :=
    (containsRevision_iff h.numbered revision).mpr hretained
  unfold contextEvidence ContextComplete
  rw [if_pos hcontains, hdropped]
  simp only [h.evicted_iff]
  constructor
  · intro hall
    by_contra hgone
    rw [not_or] at hgone
    -- with nothing cut off before the anchor, the lookup does not throw
    have hstart : contextStart (revision - (b.droppedEntries + 1)) before = 0 :=
      contextStart_eq_zero (by omega)
    have hcontext := context_of_retained h.numbered hfirst hlast before after
    rw [hstart, if_neg (Nat.not_lt_zero _)] at hcontext
    rw [hcontext] at hall
    exact hall _ rfl rfl b.droppedEntries (by omega) (by omega) ⟨by omega, Nat.le_refl _⟩
  · intro hkept result hresult hnot other hlow hhigh hevicted
    omega

end LogBuffer

end Sentrits.Service
