import Sentrits.Service.ColorReports

/-!
# Output that only decorates

The daemon does not take every output of a session for a sign of progress. It reads over the escape
sequences and counts what is left to see.

* `scanLoop`, `isCosmeticTerminalOutput`: the code.
* `Shows`: what some output shows, said by the sequences it is made of; the last of them may be cut
  off. `exists_shows`: any output is made of such sequences.
* `scanLoop_of_shows`: **the scan sees what is shown,** and nothing else.
* `isCosmeticTerminalOutput_iff`: **output only decorates exactly when** it shows at most six bytes,
  all of them trivial marks and none a line feed. The other conditions of the code decide nothing.

Source: `src/service/session_manager.cpp`.
-/

namespace Sentrits.Service

open Found Found.Bytes

/-! ### The scan -/

/-- The lambda `is_trivial_mark`.
Source: `session_manager.cpp` `IsCosmeticTerminalOutput`. -/
def isTrivialMark (ch : UInt8) : Bool :=
  (utf8 ".,:;'\"\x60-_=+|/\\()[]\x7b\x7d<>*#").contains ch

/-- `std::isalnum` of the C locale. -/
def isAlnum (ch : UInt8) : Bool :=
  (0x30 ≤ ch && ch ≤ 0x39) || (0x41 ≤ ch && ch ≤ 0x5A) || (0x61 ≤ ch && ch ≤ 0x7A)

/-- What the loop has seen so far. -/
structure CosmeticScan where
  sawNewline : Bool := false
  sawEscape : Bool := false
  visibleCount : ℕ := 0
  alnumCount : ℕ := 0
  onlyTrivialMarks : Bool := true
  deriving DecidableEq

/-- One character that can be seen. -/
def CosmeticScan.visible (s : CosmeticScan) (ch : UInt8) : CosmeticScan :=
  { s with
    visibleCount := s.visibleCount + 1
    alnumCount := if isAlnum ch then s.alnumCount + 1 else s.alnumCount
    onlyTrivialMarks := s.onlyTrivialMarks && !isAlnum ch && isTrivialMark ch }

/-- A byte that ends a control sequence. -/
def isFinal (ch : UInt8) : Bool := 0x40 ≤ ch && ch ≤ 0x7e

/-- A byte that shows nothing. -/
def isControl (ch : UInt8) : Bool := ch < 0x20 || ch == 0x7f

/-- What is behind a control sequence. -/
def skipCsi (data : Bytes) : Bytes := (data.dropWhile (!isFinal ·)).drop 1

/-- What is behind an operating system command. -/
def skipOsc : Bytes → Bytes
  | [] => []
  | c :: rest =>
      if c = bel then rest
      else if c = esc ∧ rest.head? = some 0x5c then rest.tail
      else skipOsc rest

/-- Skipping a control sequence leaves no more. -/
theorem length_skipCsi_le (data : Bytes) : (skipCsi data).length ≤ data.length := by
  have hle := (List.dropWhile_suffix (l := data) (!isFinal ·)).length_le
  unfold skipCsi
  rw [List.length_drop]
  omega

/-- Skipping a command leaves no more. -/
theorem length_skipOsc_le (data : Bytes) : (skipOsc data).length ≤ data.length := by
  induction data with
  | nil => exact le_rfl
  | cons c rest ih =>
      unfold skipOsc
      split_ifs
      · simp
      · simp only [List.length_tail, List.length_cons]
        omega
      · exact ih.trans (Nat.le_succ _)

/-- The loop of `IsCosmeticTerminalOutput`. -/
def scanLoop (s : CosmeticScan) : Bytes → CosmeticScan
  | [] => s
  | ch :: rest =>
      if ch = esc then
        let s := { s with sawEscape := true }
        match rest with
        | [] => s
        | next :: rest =>
            if next = 0x5b then scanLoop s (skipCsi rest)
            else if next = 0x5d then scanLoop s (skipOsc rest)
            else scanLoop s rest
      else if ch = lf then scanLoop { s with sawNewline := true } rest
      else if isControl ch then scanLoop s rest
      else scanLoop (s.visible ch) rest
termination_by data => data.length
decreasing_by
  · have hle := length_skipCsi_le rest
    simp only [List.length_cons]
    omega
  · have hle := length_skipOsc_le rest
    simp only [List.length_cons]
    omega
  all_goals simp only [List.length_cons]; omega

/-- Source: `session_manager.cpp` `IsCosmeticTerminalOutput`. -/
def isCosmeticTerminalOutput (data : Bytes) : Bool :=
  let s := scanLoop {} data
  if s.sawNewline then false
  else if !s.sawEscape && s.visibleCount == 0 then true
  else if s.alnumCount ≥ 4 || s.visibleCount ≥ 16 then false
  else if s.onlyTrivialMarks && s.visibleCount ≤ 6 then true
  else s.visibleCount == 0

/-! ### What is shown -/

/-- What some output shows: line feeds, and what can be seen. -/
inductive Shows : Bytes → Bytes → Prop
  | nil : Shows [] []
  | escapeCut : Shows [esc] []
  | controlSequence {params rest shown : Bytes} {final : UInt8} :
      (∀ ch ∈ params, isFinal ch = false) → isFinal final = true → Shows rest shown →
        Shows (esc :: 0x5b :: (params ++ final :: rest)) shown
  | controlSequenceCut {params : Bytes} :
      (∀ ch ∈ params, isFinal ch = false) → Shows (esc :: 0x5b :: params) []
  | command {text terminator rest shown : Bytes} :
      Unterminated text → IsTerminator terminator → Shows rest shown →
        Shows (esc :: 0x5d :: (text ++ terminator ++ rest)) shown
  | commandCut {text : Bytes} : Unterminated text → Shows (esc :: 0x5d :: text) []
  | escape {next : UInt8} {rest shown : Bytes} :
      next ≠ 0x5b → next ≠ 0x5d → Shows rest shown → Shows (esc :: next :: rest) shown
  | control {ch : UInt8} {rest shown : Bytes} :
      isControl ch = true → ch ≠ esc → ch ≠ lf → Shows rest shown → Shows (ch :: rest) shown
  | printed {ch : UInt8} {rest shown : Bytes} :
      ch = lf ∨ isControl ch = false → Shows rest shown → Shows (ch :: rest) (ch :: shown)

/-! ### The scan reads over what is not shown -/

/-- A control sequence is skipped to its final byte. -/
theorem skipCsi_append {params : Bytes} (h : ∀ ch ∈ params, isFinal ch = false) {final : UInt8}
    (hfinal : isFinal final = true) (rest : Bytes) : skipCsi (params ++ final :: rest) = rest := by
  have hpos : ∀ ch ∈ params, (!isFinal ch) = true := fun ch hch => by simp [h ch hch]
  unfold skipCsi
  rw [List.dropWhile_append_of_pos hpos, List.dropWhile_cons_of_neg (by simp [hfinal])]
  exact List.drop_one

/-- Without one, all is skipped. -/
theorem skipCsi_eq_nil {params : Bytes} (h : ∀ ch ∈ params, isFinal ch = false) :
    skipCsi params = [] := by
  have hnil : params.dropWhile (!isFinal ·) = [] :=
    List.dropWhile_eq_nil_iff.mpr (fun ch hch => by simp [h ch hch])
  unfold skipCsi
  rw [hnil, List.drop_nil]

/-- A control sequence is complete, or its end is still to come. -/
theorem params_cases (data : Bytes) :
    (∀ ch ∈ data, isFinal ch = false) ∨ ∃ params final rest, data = params ++ final :: rest ∧
      (∀ ch ∈ params, isFinal ch = false) ∧ isFinal final = true := by
  induction data with
  | nil => exact Or.inl (fun ch hch => absurd hch List.not_mem_nil)
  | cons c data ih =>
      rcases hc : isFinal c with _ | _
      · rcases ih with hall | ⟨params, final, rest, rfl, hparams, hfinal⟩
        · exact Or.inl (List.forall_mem_cons.mpr ⟨hc, hall⟩)
        · exact Or.inr ⟨c :: params, final, rest, rfl, List.forall_mem_cons.mpr ⟨hc, hparams⟩,
            hfinal⟩
      · exact Or.inr ⟨[], c, data, rfl, fun ch hch => absurd hch List.not_mem_nil, hc⟩

/-- The command ends where a colour report would. -/
theorem skipOsc_eq (data : Bytes) :
    skipOsc data = ((colorReportTail data).map data.drop).getD [] := by
  induction data with
  | nil => rfl
  | cons c rest ih =>
      rw [skipOsc, colorReportTail]
      by_cases hbel : c = bel
      · subst hbel
        rfl
      have hne : ¬ c = 0x07 := hbel
      rw [if_neg hbel, if_neg hne]
      split_ifs
      · rw [Option.map_some, Option.getD_some, List.drop_succ_cons, List.drop_one]
      · rw [ih, Option.map_map]
        rfl

/-- A command is skipped to its terminator. -/
theorem skipOsc_append {text terminator : Bytes} (htext : Unterminated text)
    (hterminator : IsTerminator terminator) (rest : Bytes) :
    skipOsc (text ++ terminator ++ rest) = rest := by
  rw [skipOsc_eq, colorReportTail_append htext hterminator, Option.map_some, Option.getD_some,
    List.drop_left]

/-- Without one, all is skipped. -/
theorem skipOsc_eq_nil {text : Bytes} (h : Unterminated text) : skipOsc text = [] := by
  induction text with
  | nil => rfl
  | cons b text ih =>
      rw [unterminated_cons_iff] at h
      rw [skipOsc, if_neg h.1, if_neg h.2.1, ih h.2.2]

/-- A command is complete, or its end is still to come. -/
theorem command_cases (data : Bytes) :
    Unterminated data ∨ ∃ text terminator rest, data = text ++ terminator ++ rest ∧
      Unterminated text ∧ IsTerminator terminator := by
  rcases h : colorReportTail data with _ | n
  · left
    induction data with
    | nil => exact unterminated_nil
    | cons b data ih =>
        rw [colorReportTail] at h
        split_ifs at h with hbel hst
        rw [unterminated_cons_iff]
        exact ⟨hbel, hst, ih (Option.map_eq_none_iff.mp h)⟩
  · obtain ⟨text, terminator, rest, hdata, htext, hterminator, -⟩ := exists_of_colorReportTail h
    exact Or.inr ⟨text, terminator, rest, hdata, htext, hterminator⟩

/-- **Whatever is output shows something,** possibly nothing. -/
theorem exists_shows (data : Bytes) : ∃ shown, Shows data shown := by
  induction hlength : data.length using Nat.strong_induction_on generalizing data with
  | _ n ih =>
      subst hlength
      have hbehind : ∀ rest : Bytes, rest.length < data.length → ∃ shown, Shows rest shown :=
        fun rest hlt => ih rest.length hlt rest rfl
      rcases data with _ | ⟨ch, rest⟩
      · exact ⟨[], .nil⟩
      by_cases hesc : ch = esc
      · subst hesc
        rcases rest with _ | ⟨next, rest⟩
        · exact ⟨[], .escapeCut⟩
        by_cases hcsi : next = 0x5b
        · subst hcsi
          rcases params_cases rest with hparams | ⟨params, final, rest, rfl, hparams, hfinal⟩
          · exact ⟨[], .controlSequenceCut hparams⟩
          · obtain ⟨shown, h⟩ := hbehind rest (by
              simp only [List.length_cons, List.length_append]
              omega)
            exact ⟨shown, .controlSequence hparams hfinal h⟩
        by_cases hosc : next = 0x5d
        · subst hosc
          rcases command_cases rest with htext | ⟨text, terminator, rest, rfl, htext, hend⟩
          · exact ⟨[], .commandCut htext⟩
          · obtain ⟨shown, h⟩ := hbehind rest (by
              simp only [List.length_cons, List.length_append]
              omega)
            exact ⟨shown, .command htext hend h⟩
        obtain ⟨shown, h⟩ := hbehind rest (by
          simp only [List.length_cons]
          omega)
        exact ⟨shown, .escape hcsi hosc h⟩
      obtain ⟨shown, h⟩ := hbehind rest (by
        rw [List.length_cons]
        omega)
      by_cases hlf : ch = lf
      · exact ⟨ch :: shown, .printed (Or.inl hlf) h⟩
      rcases hcontrol : isControl ch with _ | _
      · exact ⟨ch :: shown, .printed (Or.inr hcontrol) h⟩
      · exact ⟨shown, .control hcontrol hesc hlf h⟩

/-! ### What the scan counts -/

/-- A byte that is shown is counted. -/
def CosmeticScan.see (s : CosmeticScan) (ch : UInt8) : CosmeticScan :=
  if ch = lf then { s with sawNewline := true } else s.visible ch

/-- What is seen does not depend on the escapes before it. -/
theorem foldl_see_sawEscape (shown : Bytes) (s : CosmeticScan) (b : Bool) :
    shown.foldl CosmeticScan.see { s with sawEscape := b } =
      { shown.foldl CosmeticScan.see s with sawEscape := b } := by
  induction shown generalizing s with
  | nil => rfl
  | cons ch shown ih =>
      have hsee : CosmeticScan.see { s with sawEscape := b } ch =
          { s.see ch with sawEscape := b } := by
        unfold CosmeticScan.see
        split_ifs
        · rfl
        · rfl
      rw [List.foldl_cons, List.foldl_cons, hsee, ih]

/-- An escape that is read over leaves nothing but `sawEscape`. -/
theorem exists_foldl_see_of_escape {shown : Bytes} {s t : CosmeticScan}
    (h : ∃ b, t = { shown.foldl CosmeticScan.see { s with sawEscape := true } with
      sawEscape := b }) :
    ∃ b, t = { shown.foldl CosmeticScan.see s with sawEscape := b } := by
  obtain ⟨b, rfl⟩ := h
  refine ⟨b, ?_⟩
  rw [foldl_see_sawEscape]

/-- **The scan sees what is shown,** and nothing else; it remembers whether there was an escape. -/
theorem scanLoop_of_shows {data shown : Bytes} (h : Shows data shown) (s : CosmeticScan) :
    ∃ b, scanLoop s data = { shown.foldl CosmeticScan.see s with sawEscape := b } := by
  induction h generalizing s with
  | nil =>
      refine ⟨s.sawEscape, ?_⟩
      rw [scanLoop, List.foldl_nil]
  | escapeCut =>
      refine ⟨true, ?_⟩
      rw [scanLoop, if_pos rfl, List.foldl_nil]
  | controlSequence hparams hfinal _ ih =>
      apply exists_foldl_see_of_escape
      rw [scanLoop, if_pos rfl]
      dsimp only
      rw [if_pos rfl, skipCsi_append hparams hfinal]
      exact ih _
  | controlSequenceCut hparams =>
      refine ⟨true, ?_⟩
      rw [scanLoop, if_pos rfl]
      dsimp only
      rw [if_pos rfl, skipCsi_eq_nil hparams, scanLoop, List.foldl_nil]
  | command htext hterminator _ ih =>
      apply exists_foldl_see_of_escape
      rw [scanLoop, if_pos rfl]
      dsimp only
      rw [if_neg (by decide), if_pos rfl, skipOsc_append htext hterminator]
      exact ih _
  | commandCut htext =>
      refine ⟨true, ?_⟩
      rw [scanLoop, if_pos rfl]
      dsimp only
      rw [if_neg (by decide), if_pos rfl, skipOsc_eq_nil htext, scanLoop, List.foldl_nil]
  | escape hcsi hosc _ ih =>
      apply exists_foldl_see_of_escape
      rw [scanLoop, if_pos rfl]
      dsimp only
      rw [if_neg hcsi, if_neg hosc]
      exact ih _
  | control hcontrol hesc hlf _ ih =>
      rw [scanLoop, if_neg hesc, if_neg hlf, if_pos hcontrol]
      exact ih s
  | @printed ch rest shown hshown _ ih =>
      rw [List.foldl_cons]
      have hsee : scanLoop s (ch :: rest) = scanLoop (s.see ch) rest := by
        unfold CosmeticScan.see
        by_cases hlf : ch = lf
        · subst hlf
          rw [scanLoop, if_neg (by decide), if_pos rfl, if_pos rfl]
        · have hvisible : isControl ch = false := hshown.resolve_left hlf
          have hesc : ch ≠ esc := by
            rintro rfl
            exact absurd hvisible (by decide)
          rw [scanLoop, if_neg hesc, if_neg hlf, hvisible, if_neg Bool.false_ne_true, if_neg hlf]
      rw [hsee]
      exact ih _

/-- A line feed is seen exactly when there is one. -/
theorem sawNewline_foldl (shown : Bytes) (s : CosmeticScan) :
    (shown.foldl CosmeticScan.see s).sawNewline = true ↔ s.sawNewline = true ∨ lf ∈ shown := by
  induction shown generalizing s with
  | nil => simp
  | cons ch shown ih =>
      rw [List.foldl_cons, ih, List.mem_cons]
      unfold CosmeticScan.see
      split_ifs with hlf
      · simp [hlf]
      · simp [CosmeticScan.visible, Ne.symm hlf]

/-- Without line feeds the visible bytes are counted. -/
theorem foldl_see_of_lf_notMem {shown : Bytes} (h : lf ∉ shown) (s : CosmeticScan) :
    shown.foldl CosmeticScan.see s =
      { s with
        visibleCount := s.visibleCount + shown.length
        alnumCount := s.alnumCount + shown.countP isAlnum
        onlyTrivialMarks :=
          s.onlyTrivialMarks && shown.all fun ch => !isAlnum ch && isTrivialMark ch } := by
  induction shown generalizing s with
  | nil => simp
  | cons ch shown ih =>
      rw [List.mem_cons, not_or] at h
      rw [List.foldl_cons, ih h.2]
      unfold CosmeticScan.see
      rw [if_neg (Ne.symm h.1)]
      unfold CosmeticScan.visible
      rcases hch : isAlnum ch with _ | _
      · simp [hch, Nat.add_assoc, Nat.add_comm 1, Bool.and_assoc]
      · simp [hch, Nat.add_assoc, Nat.add_comm 1]

/-- A trivial mark is no letter and no digit. -/
theorem isAlnum_of_isTrivialMark {ch : UInt8} (h : isTrivialMark ch = true) :
    isAlnum ch = false := by
  revert ch
  apply forall_quarters
  all_goals decide +kernel

/-- **What only decorates:** whatever is output shows something, and it is cosmetic exactly when
it shows six trivial marks at most, and no line feed. -/
theorem isCosmeticTerminalOutput_iff (data : Bytes) :
    (∃ shown, Shows data shown) ∧
      ∀ shown, Shows data shown →
        (isCosmeticTerminalOutput data = true ↔
          lf ∉ shown ∧ shown.length ≤ 6 ∧ ∀ ch ∈ shown, isTrivialMark ch = true) := by
  refine ⟨exists_shows data, fun shown hshown => ?_⟩
  obtain ⟨b, hscan⟩ := scanLoop_of_shows hshown {}
  unfold isCosmeticTerminalOutput
  rw [hscan]
  dsimp only
  by_cases hlf : lf ∈ shown
  · have hnewline : (shown.foldl CosmeticScan.see {}).sawNewline = true :=
      (sawNewline_foldl shown {}).mpr (Or.inr hlf)
    rw [hnewline, if_pos rfl]
    exact iff_of_false Bool.false_ne_true fun h => h.1 hlf
  rw [foldl_see_of_lf_notMem hlf]
  simp only [Bool.false_eq_true, if_false, Nat.zero_add, Bool.true_and]
  have hall : (shown.all fun ch => !isAlnum ch && isTrivialMark ch) = true ↔
      ∀ ch ∈ shown, isTrivialMark ch = true := by
    rw [List.all_eq_true]
    apply forall₂_congr
    intro ch _
    rw [Bool.and_eq_true, Bool.not_eq_true']
    exact ⟨fun h => h.2, fun h => ⟨isAlnum_of_isTrivialMark h, h⟩⟩
  by_cases hempty : shown = []
  · subst hempty
    simp
  have hlength : shown.length ≠ 0 := fun h => hempty (List.length_eq_zero_iff.mp h)
  have hcount : (shown.length == 0) = false := beq_eq_false_iff_ne.mpr hlength
  rw [hcount, Bool.and_false, if_neg Bool.false_ne_true]
  constructor
  · intro h
    split_ifs at h with hlimit hfew
    rw [Bool.and_eq_true, hall, decide_eq_true_eq] at hfew
    exact ⟨hlf, hfew.2, hfew.1⟩
  · rintro ⟨-, hle, hmarks⟩
    have halnum : shown.countP isAlnum = 0 := by
      rw [List.countP_eq_zero]
      intro ch hch
      rw [isAlnum_of_isTrivialMark (hmarks ch hch)]
      exact Bool.false_ne_true
    have hlimit : ¬ (shown.countP isAlnum ≥ 4 ∨ shown.length ≥ 16) := by omega
    rw [if_neg (by simpa using hlimit), if_pos]
    rw [Bool.and_eq_true, hall, decide_eq_true_eq]
    exact ⟨hmarks, hle⟩

end Sentrits.Service
