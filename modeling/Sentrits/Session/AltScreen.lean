import Sentrits.Found.Occurrences
import Sentrits.Session.TerminalMultiplexer

/-!
# Switches of the alternate screen

A program switches to the alternate screen and back with escape sequences. The multiplexer looks for
them in the bytes of one chunk at a time, so one that is cut between two chunks is not seen.

* `altScreenSequences`: the sequences that are looked for.
* `mem_reportedKinds_iff`: a run reports a switch exactly when one of its chunks has a sequence.
* `altScreen_detected_iff`: **a stream with a sequence is reported exactly when** some occurrence of
  one is not cut.

Source: `src/session/terminal_multiplexer.cpp`.
-/

namespace Sentrits.Session.Multiplexer

open Found Found.Bytes Found.Occurrences

variable {σ : Type} (v : VTerm σ)

/-! ### The sequences -/

/-- The sequences that `HasAltScreenEnter` and `HasAltScreenExit` look for. -/
def altScreenSequences : List Bytes :=
  [csi "?1049h", csi "?1047h", csi "?47h", csi "?1049l", csi "?1047l", csi "?47l"]

/-- The bytes have a sequence that is recognised. -/
def HasAltScreen (data : Bytes) : Prop := (hasAltScreenEnter data || hasAltScreenExit data) = true

instance (data : Bytes) : Decidable (HasAltScreen data) := by
  unfold HasAltScreen
  infer_instance

/-- When a sequence is in the output. -/
theorem hasAltScreen_iff {data : Bytes} :
    HasAltScreen data ↔ ∃ sequence ∈ altScreenSequences, sequence <:+: data := by
  simp only [HasAltScreen, hasAltScreenEnter, hasAltScreenExit, containsSequence,
    altScreenSequences, Bool.or_eq_true, decide_eq_true_eq, List.exists_mem_cons_iff,
    List.not_mem_nil, false_and, exists_false, or_false, or_assoc]

/-- A sequence has bytes. -/
theorem ne_nil_of_mem_altScreenSequences {sequence : Bytes} (h : sequence ∈ altScreenSequences) :
    sequence ≠ [] := by
  rintro rfl
  simp [altScreenSequences, csi] at h

/-- A switch is what the comparison says of a chunk with a sequence, and of no other. -/
theorem kind_eq_altScreenTransition_iff (data : Bytes) (before after : TerminalScreenSnapshot) :
    (classifySemanticChange data before after).kind = .altScreenTransition ↔
      HasAltScreen data := by
  unfold HasAltScreen classifySemanticChange
  dsimp only
  by_cases hscreen : (hasAltScreenEnter data || hasAltScreenExit data) = true
  · rw [if_pos hscreen]
    exact iff_of_true rfl hscreen
  · rw [if_neg hscreen]
    refine iff_of_false ?_ hscreen
    -- no other answer is a switch
    rcases findSingleChangedVisibleLine before after with _ | ⟨beforeLine, afterLine⟩
    · split_ifs <;> simp
    · dsimp only
      by_cases hsame : hasLineErase data = true ∧ appendedVisibleCharacters before after = 0 ∧
          beforeLine ≠ [] ∧ afterLine = []
      · rw [if_pos hsame]
        split_ifs <;> simp
      · rw [if_neg hsame]
        by_cases hvisible : isScreenBlank before = true ∨ beforeLine ≠ [] ∨ afterLine ≠ []
        · rw [if_pos hvisible]
          split_ifs <;> simp
        · rw [if_neg hvisible]
          split_ifs <;> simp

/-! ### Runs -/

/-- The chunks of a run. -/
def chunksOf (ops : List Op) : List Bytes :=
  ops.filterMap fun op =>
    match op with
    | .append data => some data
    | .resize _ => none

/-- What `last_semantic_change` says behind each `Append` of a run. -/
def reportedKinds : Multiplexer σ → List Op → List TerminalSemanticChangeKind
  | _, [] => []
  | m, .append data :: ops =>
      (m.append v data).lastSemanticChange.kind :: reportedKinds (m.append v data) ops
  | m, .resize terminalSize :: ops => reportedKinds (m.resize v terminalSize) ops

variable {v}

/-- A new size leaves what was reported last. -/
theorem lastSemanticChange_resize (m : Multiplexer σ) (terminalSize : TerminalSize) :
    (m.resize v terminalSize).lastSemanticChange = m.lastSemanticChange := by
  unfold resize called refreshSnapshot countRevision
  dsimp only
  split_ifs
  · exact (framed_foldl _ _).lastSemanticChange
  · exact (framed_foldl _ _).lastSemanticChange

/-- **A run reports a switch exactly when** one of its chunks has a sequence. -/
theorem mem_reportedKinds_iff {m : Multiplexer σ}
    (hm : m.lastSemanticChange.kind ≠ .altScreenTransition) (ops : List Op) :
    .altScreenTransition ∈ reportedKinds v m ops ↔ ∃ data ∈ chunksOf ops, HasAltScreen data := by
  induction ops generalizing m with
  | nil => simp [reportedKinds, chunksOf]
  | cons op ops ih =>
      rcases op with data | terminalSize
      · have hchunks : chunksOf (.append data :: ops) = data :: chunksOf ops := rfl
        rw [hchunks, List.exists_mem_cons_iff, reportedKinds, List.mem_cons]
        by_cases hempty : data = []
        · -- nothing is looked at, and what was reported before is no switch
          subst hempty
          have happend : m.append v [] = m := rfl
          have hnone : ¬HasAltScreen [] := by decide
          rw [happend, ih hm, or_iff_right hnone, or_iff_right hm.symm]
        · have hkind : (m.append v data).lastSemanticChange.kind = .altScreenTransition ↔
              HasAltScreen data := by
            unfold append
            rw [if_neg fun h => hempty (List.isEmpty_iff.mp h)]
            exact kind_eq_altScreenTransition_iff data _ _
          by_cases hscreen : HasAltScreen data
          · exact iff_of_true (Or.inl (hkind.mpr hscreen).symm) (Or.inl hscreen)
          · have hkept : (m.append v data).lastSemanticChange.kind ≠ .altScreenTransition :=
              fun h => hscreen (hkind.mp h)
            rw [ih hkept, or_iff_right hscreen, or_iff_right hkept.symm]
      · have hchunks : chunksOf (.resize terminalSize :: ops) = chunksOf ops := rfl
        rw [hchunks, reportedKinds]
        apply ih
        rw [lastSemanticChange_resize]
        exact hm

/-- **A stream with a sequence is reported exactly when** some occurrence of a sequence in it is not
cut between two chunks. -/
theorem altScreen_detected_iff (v : VTerm σ) (terminalSize : TerminalSize) (maxScrollbackLines : ℕ)
    (ops : List Op) :
    (HasAltScreen (chunksOf ops).flatten →
        .altScreenTransition ∈ reportedKinds v (create v terminalSize maxScrollbackLines) ops) ↔
      (HasAltScreen (chunksOf ops).flatten →
        ∃ sequence ∈ altScreenSequences, ∃ offset, OccursUncut sequence (chunksOf ops) offset) := by
  have hnew : (create v terminalSize maxScrollbackLines).lastSemanticChange.kind ≠
      .altScreenTransition := by
    show TerminalSemanticChangeKind.none ≠ .altScreenTransition
    decide
  refine imp_congr_right fun _ => ?_
  rw [mem_reportedKinds_iff hnew]
  constructor
  · rintro ⟨data, hdata, hscreen⟩
    obtain ⟨sequence, hsequence, hinfix⟩ := hasAltScreen_iff.mp hscreen
    have hne := ne_nil_of_mem_altScreenSequences hsequence
    exact ⟨sequence, hsequence, (exists_mem_infix_iff hne).mp ⟨data, hdata, hinfix⟩⟩
  · rintro ⟨sequence, hsequence, huncut⟩
    have hne := ne_nil_of_mem_altScreenSequences hsequence
    obtain ⟨data, hdata, hinfix⟩ := (exists_mem_infix_iff hne).mpr huncut
    exact ⟨data, hdata, hasAltScreen_iff.mpr ⟨sequence, hsequence, hinfix⟩⟩

/-- A sequence that is cut in the middle is not reported. -/
theorem altScreen_cut :
    ¬∀ (σ : Type) (v : VTerm σ) (terminalSize : TerminalSize) (maxScrollbackLines : ℕ)
        (ops : List Op), HasAltScreen (chunksOf ops).flatten →
        .altScreenTransition ∈ reportedKinds v (create v terminalSize maxScrollbackLines) ops := by
  intro h
  have hreported := h _ blankScreen { columns := 2, rows := 2 } 1
    [.append (csi "?10"), .append (utf8 "49h")] (by decide)
  rw [mem_reportedKinds_iff (by decide)] at hreported
  exact absurd hreported (by decide)

end Sentrits.Session.Multiplexer
