import Sentrits.Found.Occurrences
import Sentrits.Service.LogWindow

/-!
# Searching the log

`Search` scans the retained entries for those whose text contains the query, stops at the first one
over the limit, and highlights the occurrences in each entry it returns.

* `search`, `searchLoop`, `highlightLoop`: the code.
* `matching`: the entries a search is for.
* `searchLoop_eq`: what the scan adds to what it has already found.
* `search_exact`: **the result is the first entries that match**, with the occurrences from left to
  right, and the flag when there are more.

Sources: `include/vibe/service/log_buffer.h`, `src/service/log_buffer.cpp`,
`include/vibe/service/evidence.h`.
-/

namespace Sentrits.Service

open Found Found.Bytes Found.Occurrences

/-- Source: `evidence.h` `EvidenceHighlightKind`; `matched` is `Match` there. -/
inductive EvidenceHighlightKind
  | matched
  | warning
  | error
  | preset
  deriving DecidableEq

/-- Source: `evidence.h` `EvidenceHighlight`. -/
structure EvidenceHighlight where
  entryId : String
  start : ℕ
  length : ℕ
  kind : EvidenceHighlightKind
  deriving DecidableEq

namespace LogBuffer

/-- Source: `log_buffer.h` `LogBufferSearchResult`. -/
structure LogBufferSearchResult where
  entries : List EvidenceEntry := []
  highlights : List EvidenceHighlight := []
  truncated : Bool := false
  deriving DecidableEq

/-- The highlight of one occurrence of the query. -/
def matchAt (query : Bytes) (entry : EvidenceEntry) (offset : ℕ) : EvidenceHighlight where
  entryId := entry.entryId
  start := offset
  length := query.length
  kind := .matched

/-- The inner loop, with the offset of the first occurrence; there are no more turns than bytes. -/
def highlightLoop (query : Bytes) (entry : EvidenceEntry) (offset : Option ℕ) :
    List EvidenceHighlight :=
  (successive query entry.text entry.text.length offset).map (matchAt query entry)

/-- The loop over the entries. -/
def searchLoop (query : Bytes) (limit : ℕ) :
    LogBufferSearchResult → List EvidenceEntry → LogBufferSearchResult
  | result, [] => result
  | result, entry :: rest =>
      match find query entry.text 0 with
      | none => searchLoop query limit result rest
      | some offset =>
          if result.entries.length ≥ limit then { result with truncated := true }
          else
            searchLoop query limit
              { result with
                entries := result.entries ++ [entry]
                highlights := result.highlights ++ highlightLoop query entry (some offset) } rest

/-- Source: `log_buffer.cpp` `LogBuffer::Search`. -/
def search (b : LogBuffer) (query : Bytes) (limit : ℕ) : LogBufferSearchResult :=
  if query.isEmpty ∨ limit = 0 then {} else searchLoop query limit {} b.entries

/-! ### What is searched for -/

/-- The entries whose text contains the query. -/
def matching (query : Bytes) (entries : List EvidenceEntry) : List EvidenceEntry :=
  entries.filter fun entry => query <:+: entry.text

/-- Nothing is found in no entries. -/
@[simp]
theorem matching_nil (query : Bytes) : matching query [] = [] := rfl

/-- An entry that matches is found first. -/
theorem matching_cons_of_match {query : Bytes} {entry : EvidenceEntry} (h : query <:+: entry.text)
    (rest : List EvidenceEntry) :
    matching query (entry :: rest) = entry :: matching query rest := by
  unfold matching
  rw [List.filter_cons_of_pos (by simpa using h)]

/-- An entry that does not match is passed over. -/
theorem matching_cons_of_noMatch {query : Bytes} {entry : EvidenceEntry}
    (h : ¬ query <:+: entry.text) (rest : List EvidenceEntry) :
    matching query (entry :: rest) = matching query rest := by
  unfold matching
  rw [List.filter_cons_of_neg (by simpa using h)]

/-- The highlights of an entry, from its first occurrence on. -/
def highlightsOf (query : Bytes) (entry : EvidenceEntry) : List EvidenceHighlight :=
  highlightLoop query entry (find query entry.text 0)

/-! ### The scan -/

/-- Turns that find nothing change nothing. -/
theorem searchLoop_cons_of_noMatch {query : Bytes} (hquery : query ≠ []) {entry : EvidenceEntry}
    (h : ¬ query <:+: entry.text) (limit : ℕ) (result : LogBufferSearchResult)
    (rest : List EvidenceEntry) :
    searchLoop query limit result (entry :: rest) = searchLoop query limit result rest := by
  have hnone : find query entry.text 0 = none := by
    rw [← Option.not_isSome_iff_eq_none, find_zero_isSome_iff hquery]
    exact h
  rw [searchLoop, hnone]

/-- A match over the limit ends the scan, and one within it is added. -/
theorem searchLoop_cons_of_match {query : Bytes} (hquery : query ≠ []) {entry : EvidenceEntry}
    (h : query <:+: entry.text) (limit : ℕ) (result : LogBufferSearchResult)
    (rest : List EvidenceEntry) :
    searchLoop query limit result (entry :: rest) =
      if result.entries.length ≥ limit then { result with truncated := true }
      else
        searchLoop query limit
          { result with
            entries := result.entries ++ [entry]
            highlights := result.highlights ++ highlightsOf query entry } rest := by
  obtain ⟨offset, hfind⟩ := Option.isSome_iff_exists.mp ((find_zero_isSome_iff hquery).mpr h)
  rw [searchLoop, highlightsOf, hfind]

/-- **The scan** adds the matching entries that are still within the limit, with their highlights,
and sets the flag when one is left. -/
theorem searchLoop_eq {query : Bytes} (hquery : query ≠ []) (limit : ℕ)
    (result : LogBufferSearchResult) (hresult : result.entries.length ≤ limit)
    (entries : List EvidenceEntry) :
    searchLoop query limit result entries =
      { entries :=
          result.entries ++ (matching query entries).take (limit - result.entries.length)
        highlights := result.highlights ++
          ((matching query entries).take (limit - result.entries.length)).flatMap
            (highlightsOf query)
        truncated := result.truncated ||
          decide (limit < result.entries.length + (matching query entries).length) } := by
  induction entries generalizing result with
  | nil =>
      have hflag : decide (limit < result.entries.length) = false := by
        rw [decide_eq_false_iff_not, not_lt]
        exact hresult
      simp [searchLoop, hflag]
  | cons entry rest ih =>
      by_cases hmatch : query <:+: entry.text
      · rw [searchLoop_cons_of_match hquery hmatch, matching_cons_of_match hmatch]
        by_cases hfull : result.entries.length ≥ limit
        · have hleft : limit - result.entries.length = 0 := by omega
          have hmore : limit < result.entries.length + (matching query rest).length + 1 := by omega
          rw [if_pos hfull, hleft]
          simp [← Nat.add_assoc, hmore]
        · have hleft : limit - result.entries.length =
              limit - (result.entries.length + 1) + 1 := by omega
          have hroom : (result.entries ++ [entry]).length ≤ limit := by
            rw [List.length_append, List.length_singleton]
            omega
          rw [if_neg hfull, ih _ hroom, hleft]
          simp [Nat.add_assoc, Nat.add_comm 1]
      · rw [searchLoop_cons_of_noMatch hquery hmatch, matching_cons_of_noMatch hmatch]
        exact ih result hresult

/-- The whole search. -/
theorem search_eq (b : LogBuffer) {query : Bytes} (hquery : query ≠ []) {limit : ℕ}
    (hlimit : 1 ≤ limit) :
    b.search query limit =
      { entries := (matching query b.entries).take limit
        highlights := ((matching query b.entries).take limit).flatMap (highlightsOf query)
        truncated := decide (limit < (matching query b.entries).length) } := by
  have hguard : ¬ (query.isEmpty = true ∨ limit = 0) := by
    rw [List.isEmpty_iff, not_or]
    exact ⟨hquery, by omega⟩
  unfold search
  rw [if_neg hguard, searchLoop_eq hquery limit {} (Nat.zero_le _)]
  simp

/-- Whatever it is asked, a search returns retained entries. -/
theorem sublist_of_search (b : LogBuffer) (query : Bytes) (limit : ℕ) :
    (b.search query limit).entries.Sublist b.entries := by
  by_cases hguard : query.isEmpty = true ∨ limit = 0
  · unfold search
    rw [if_pos hguard]
    exact List.nil_sublist _
  · rw [not_or, List.isEmpty_iff] at hguard
    rw [search_eq b hguard.1 (Nat.pos_of_ne_zero hguard.2)]
    exact (List.take_sublist _ _).trans List.filter_sublist

/-- **A search is exact.** After any appends to a buffer with any limits, for any query that is not
empty and any limit of at least one: the entries are the first ones whose text contains the query,
by ascending revision; the highlights are, entry by entry, the occurrences marked from left to
right; and the flag says that a further entry contains it. -/
theorem search_exact (source : EvidenceSourceRef) (limits : LogBufferLimits)
    (calls : List AppendCall) (query : Bytes) (limit : ℕ) (hquery : query ≠ [])
    (hlimit : 1 ≤ limit) :
    let b := (empty source limits).appendAll calls
    let result := b.search query limit
    result.entries = (b.entries.filter fun entry => query <:+: entry.text).take limit ∧
      result.entries.Pairwise (·.revision < ·.revision) ∧
      (∃ offsets : EvidenceEntry → List ℕ,
        (∀ entry, Leftmost query entry.text (offsets entry)) ∧
          result.highlights = result.entries.flatMap fun entry =>
            (offsets entry).map fun offset =>
              { entryId := entry.entryId, start := offset, length := query.length
                kind := .matched }) ∧
      (result.truncated = true ↔
        limit < (b.entries.filter fun entry => query <:+: entry.text).length) := by
  intro b result
  have hresult : result = _ := search_eq b hquery hlimit
  have hwindow : Window ((empty source noLimits).appendAll calls) b :=
    window_appendAll (window_empty source limits) calls
  rw [hresult]
  refine ⟨rfl, ?_, ⟨fun entry => successive query entry.text entry.text.length
    (find query entry.text 0), fun entry => leftmost_successive hquery, rfl⟩, decide_eq_true_iff⟩
  exact hwindow.numbered.pairwise_lt.sublist ((List.take_sublist _ _).trans List.filter_sublist)

/-- Overlapping occurrences are marked from the left, and a limit of one leaves the second match
out. -/
theorem search_exact_overlapping :
    let b := (empty { kind := .managedLogSession, sessionId := "s" } {}).appendAll
      [{ stream := .stdout, data := [97, 97, 97, lf, 97, 97, lf], timestampUnixMs := 1 }]
    (b.search [97, 97] 1).truncated = true :=
  (search_exact { kind := .managedLogSession, sessionId := "s" } {}
    [{ stream := .stdout, data := [97, 97, 97, lf, 97, 97, lf], timestampUnixMs := 1 }]
    [97, 97] 1 (by decide) (by decide)).2.2.2.mpr (by decide)

end LogBuffer

end Sentrits.Service
