import Mathlib.Data.List.Infix
import Mathlib.Data.List.Range
import Mathlib.Data.Nat.Basic

/-!
# Where a pattern occurs in a text

A search looks a pattern up from an offset on, and goes on behind each place where it finds it.

* `OccursAt pattern text offset`, `find`: an occurrence, and the first one from an offset on.
* `find_eq_some_iff`, `find_eq_none_iff`: what `find` answers.
* `successive`: the loop that collects occurrences until there is none left.
* `Leftmost`: the occurrences a reader marks from left to right, each behind the one before it.
* `leftmost_successive`: **the loop marks exactly these**, and ends.
* `exists_mem_infix_iff`: who looks at one chunk of a stream at a time finds a pattern exactly when
  an occurrence of it is not cut.
-/

namespace Found.Occurrences

variable {α : Type*} [DecidableEq α] {pattern text : List α}

/-- The pattern stands in the text at the offset. -/
def OccursAt (pattern text : List α) (offset : ℕ) : Prop := pattern <+: text.drop offset

instance (pattern text : List α) (offset : ℕ) : Decidable (OccursAt pattern text offset) :=
  inferInstanceAs (Decidable (pattern <+: text.drop offset))

/-- The first occurrence at the offset or behind it. -/
def find (pattern text : List α) (start : ℕ) : Option ℕ :=
  (List.range' start (text.length + 1 - start)).find? fun offset => OccursAt pattern text offset

/-- The occurrences found one after the other, each search beginning where the last match ended. The
first argument bounds the number of searches. -/
def successive (pattern text : List α) : ℕ → Option ℕ → List ℕ
  | fuel + 1, some offset =>
      offset :: successive pattern text fuel (find pattern text (offset + pattern.length))
  | _, _ => []

/-! ### Occurrences -/

omit [DecidableEq α] in
/-- What occurs somewhere is an infix. -/
theorem isInfix_iff_exists_occursAt :
    pattern <:+: text ↔ ∃ offset, OccursAt pattern text offset := by
  constructor
  · rintro ⟨before, after, rfl⟩
    refine ⟨before.length, ?_⟩
    unfold OccursAt
    rw [List.append_assoc, List.drop_left]
    exact List.prefix_append _ _
  · rintro ⟨offset, hoccurs⟩
    exact hoccurs.isInfix.trans (List.drop_suffix offset text).isInfix

omit [DecidableEq α] in
/-- An occurrence ends within the text. -/
theorem OccursAt.add_length_le (hne : pattern ≠ []) {offset : ℕ}
    (h : OccursAt pattern text offset) : offset + pattern.length ≤ text.length := by
  have hlength := h.length_le
  have hpos := List.length_pos_iff.mpr hne
  rw [List.length_drop] at hlength
  omega

/-! ### The first one -/

/-- **What `find` answers** is the first occurrence from the offset on. -/
theorem find_eq_some_iff (hne : pattern ≠ []) {start offset : ℕ} :
    find pattern text start = some offset ↔
      start ≤ offset ∧ OccursAt pattern text offset ∧
        ∀ earlier, start ≤ earlier → earlier < offset → ¬ OccursAt pattern text earlier := by
  unfold find
  rw [List.find?_range'_eq_some]
  simp only [List.mem_range'_1, decide_eq_true_eq, Bool.not_eq_true', decide_eq_false_iff_not]
  constructor
  · rintro ⟨hoccurs, hrange, hfirst⟩
    exact ⟨hrange.1, hoccurs, hfirst⟩
  · rintro ⟨hstart, hoccurs, hfirst⟩
    have hwithin := hoccurs.add_length_le hne
    exact ⟨hoccurs, ⟨hstart, by omega⟩, hfirst⟩

/-- It answers nothing when there is none. -/
theorem find_eq_none_iff (hne : pattern ≠ []) {start : ℕ} :
    find pattern text start = none ↔ ∀ offset, start ≤ offset → ¬ OccursAt pattern text offset := by
  unfold find
  rw [List.find?_eq_none]
  simp only [List.mem_range'_1, decide_eq_true_eq]
  constructor
  · intro hnone offset hstart hoccurs
    have hwithin := hoccurs.add_length_le hne
    exact hnone offset ⟨hstart, by omega⟩ hoccurs
  · intro hnone offset hrange
    exact hnone offset hrange.1

/-- From the beginning of the text, it finds what is an infix. -/
theorem find_zero_isSome_iff (hne : pattern ≠ []) :
    (find pattern text 0).isSome = true ↔ pattern <:+: text := by
  rw [isInfix_iff_exists_occursAt, ← not_iff_not, Option.not_isSome_iff_eq_none,
    find_eq_none_iff hne, not_exists]
  simp only [Nat.zero_le, true_imp_iff]

/-! ### All of them, from left to right -/

/-- The occurrences from an offset on that a reader marks from left to right: those that no
occurrence marked before reaches into. -/
structure LeftmostFrom (pattern text : List α) (start : ℕ) (offsets : List ℕ) : Prop where
  apart : offsets.Pairwise fun offset later => offset + pattern.length ≤ later
  mem_iff : ∀ offset, offset ∈ offsets ↔
    start ≤ offset ∧ OccursAt pattern text offset ∧
      ∀ marked ∈ offsets, marked < offset → marked + pattern.length ≤ offset

/-- The occurrences in all of the text. -/
abbrev Leftmost (pattern text : List α) (offsets : List ℕ) : Prop :=
  LeftmostFrom pattern text 0 offsets

/-- Without an occurrence there is none to mark. -/
theorem leftmostFrom_nil (hne : pattern ≠ []) {start : ℕ} (h : find pattern text start = none) :
    LeftmostFrom pattern text start [] where
  apart := List.Pairwise.nil
  mem_iff := by
    intro offset
    refine iff_of_false List.not_mem_nil ?_
    rintro ⟨hstart, hoccurs, -⟩
    exact (find_eq_none_iff hne).mp h offset hstart hoccurs

/-- The first occurrence is marked, and behind it one goes on as if the text began there. -/
theorem leftmostFrom_cons (hne : pattern ≠ []) {start first : ℕ} {rest : List ℕ}
    (h : find pattern text start = some first)
    (hrest : LeftmostFrom pattern text (first + pattern.length) rest) :
    LeftmostFrom pattern text start (first :: rest) := by
  obtain ⟨hstart, hoccurs, hfirst⟩ := (find_eq_some_iff hne).mp h
  have hpos := List.length_pos_iff.mpr hne
  have hbehind : ∀ later ∈ rest, first + pattern.length ≤ later := by
    intro later hlater
    exact ((hrest.mem_iff later).mp hlater).1
  refine ⟨List.pairwise_cons.mpr ⟨hbehind, hrest.apart⟩, ?_⟩
  intro offset
  rw [List.forall_mem_cons, List.mem_cons]
  constructor
  · rintro (rfl | hmem)
    · refine ⟨hstart, hoccurs, fun hlt => absurd hlt (lt_irrefl _), ?_⟩
      intro later hlater hlt
      have hle := hbehind later hlater
      omega
    · obtain ⟨hle, hoccurs', hclear⟩ := (hrest.mem_iff offset).mp hmem
      exact ⟨by omega, hoccurs', fun _ => hle, hclear⟩
  · rintro ⟨hle, hoccurs', hclear, hclear'⟩
    rcases lt_trichotomy offset first with hlt | heq | hgt
    · exact absurd hoccurs' (hfirst offset hle hlt)
    · exact Or.inl heq
    · exact Or.inr ((hrest.mem_iff offset).mpr ⟨hclear hgt, hoccurs', hclear'⟩)

/-- The loop from any search on, with enough searches for the rest of the text. -/
theorem leftmostFrom_successive (hne : pattern ≠ []) {fuel start : ℕ}
    (hfuel : text.length ≤ start + fuel) :
    LeftmostFrom pattern text start (successive pattern text fuel (find pattern text start)) := by
  have hpos := List.length_pos_iff.mpr hne
  induction fuel generalizing start with
  | zero =>
      -- nothing fits behind the end of the text
      have hnone : find pattern text start = none := by
        rw [find_eq_none_iff hne]
        intro offset hstart hoccurs
        have hwithin := hoccurs.add_length_le hne
        omega
      rw [hnone]
      exact leftmostFrom_nil hne hnone
  | succ fuel ih =>
      rcases hfind : find pattern text start with _ | first
      · exact leftmostFrom_nil hne hfind
      · obtain ⟨hstart, -, -⟩ := (find_eq_some_iff hne).mp hfind
        exact leftmostFrom_cons hne hfind (ih (by omega))

/-- **The loop marks the occurrences from left to right**, within one search for each place of the
text. -/
theorem leftmost_successive (hne : pattern ≠ []) :
    Leftmost pattern text (successive pattern text text.length (find pattern text 0)) := by
  apply leftmostFrom_successive hne
  rw [Nat.zero_add]

/-! ### In a stream that comes in chunks -/

/-- The pattern stands in the stream at the offset, and no cut between two chunks goes through it.
-/
def OccursUncut (pattern : List α) (chunks : List (List α)) (offset : ℕ) : Prop :=
  OccursAt pattern chunks.flatten offset ∧
    ∀ before after, chunks = before ++ after →
      before.flatten.length ≤ offset ∨ offset + pattern.length ≤ before.flatten.length

omit [DecidableEq α] in
/-- What stands in a chunk is not cut. -/
theorem occursUncut_of_infix {before after : List (List α)} {chunk : List α}
    (h : pattern <:+: chunk) :
    ∃ offset, OccursUncut pattern (before ++ chunk :: after) offset := by
  obtain ⟨front, back, rfl⟩ := h
  refine ⟨before.flatten.length + front.length, ?_, ?_⟩
  · unfold OccursAt
    rw [List.flatten_append, List.flatten_cons, ← List.drop_drop, List.drop_left,
      List.append_assoc, List.append_assoc, List.drop_left]
    exact List.prefix_append _ _
  · intro before' after' hcut
    rcases List.append_eq_append_iff.mp hcut with ⟨more, rfl, hmore⟩ | ⟨more, rfl, -⟩
    · -- the cut is behind the chunk, unless it is right in front of it
      rcases more with _ | ⟨first, more⟩
      · left
        rw [List.append_nil]
        omega
      · right
        obtain ⟨rfl, -⟩ := List.cons.inj hmore
        simp only [List.flatten_append, List.flatten_cons, List.length_append]
        omega
    · left
      rw [List.flatten_append, List.length_append]
      omega

omit [DecidableEq α] in
/-- **A pattern stands in one of the chunks exactly when** the stream has an occurrence of it that
no cut goes through. -/
theorem exists_mem_infix_iff (hne : pattern ≠ []) {chunks : List (List α)} :
    (∃ chunk ∈ chunks, pattern <:+: chunk) ↔ ∃ offset, OccursUncut pattern chunks offset := by
  constructor
  · rintro ⟨chunk, hchunk, hinfix⟩
    obtain ⟨before, after, rfl⟩ := List.append_of_mem hchunk
    exact occursUncut_of_infix hinfix
  · rintro ⟨offset, hoccurs, hcuts⟩
    induction chunks generalizing offset with
    | nil =>
        have hnil : pattern = [] := by simpa [OccursAt] using hoccurs
        exact absurd hnil hne
    | cons chunk chunks ih =>
        unfold OccursAt at hoccurs
        rw [List.flatten_cons] at hoccurs
        rcases hcuts [chunk] chunks rfl with hbehind | hwithin
        · -- the occurrence is behind the first chunk
          rw [List.flatten_singleton] at hbehind
          have hrest : OccursAt pattern chunks.flatten (offset - chunk.length) := by
            rwa [List.drop_append, List.drop_eq_nil_of_le hbehind, List.nil_append] at hoccurs
          have hcuts' : ∀ before after, chunks = before ++ after →
              before.flatten.length ≤ offset - chunk.length ∨
                offset - chunk.length + pattern.length ≤ before.flatten.length := by
            rintro before after rfl
            have hcut := hcuts (chunk :: before) after rfl
            rw [List.flatten_cons, List.length_append] at hcut
            omega
          obtain ⟨found, hfound, hinfix⟩ := ih _ hrest hcuts'
          exact ⟨found, List.mem_cons_of_mem _ hfound, hinfix⟩
        · -- it is within the first chunk
          rw [List.flatten_singleton] at hwithin
          have hpos := List.length_pos_iff.mpr hne
          have hpre : pattern <+: chunk.drop offset := by
            rw [List.drop_append_of_le_length (by omega)] at hoccurs
            refine List.prefix_of_prefix_length_le hoccurs (List.prefix_append _ _) ?_
            rw [List.length_drop]
            omega
          exact ⟨chunk, List.mem_cons_self,
            hpre.isInfix.trans (List.drop_suffix offset chunk).isInfix⟩

end Found.Occurrences
