import Sentrits.Found.Stripping
import Sentrits.Service.TerminalInput

/-!
# Colour reports in the input

`FilterTerminalColorReports` goes over the input once and leaves out each complete answer to a query
of the foreground or background colour. What comes together where a report was is not looked at
again.

* `IsColorReport`: a complete report; `isColorReportSequence_eq_some_iff`: what the code takes for
  one.
* `filterTerminalColorReports_eq`: the loop is `strip`.
* `without_filterTerminalColorReports`: **nothing but complete reports is left out.**
* `filteredClean_iff`: what reaches the child has no complete report in it exactly when none comes
  together around one that is left out.
* `not_filteredClean`: a report in the introducer of another.
* `writtenInput_clean_iff`: the same for what `SendInput` passes on.

Source: `src/service/session_manager.cpp`.
-/

namespace Sentrits.Service

open Found Stripping

/-! ### Reports -/

/-- The bell character, which may end a report. -/
def bel : UInt8 := 0x07

/-- The string terminator, which may end a report as well. -/
def stringTerminator : Bytes := [esc, 0x5c]

/-- A terminator of a report. -/
def IsTerminator (w : Bytes) : Prop := w = [bel] ∨ w = stringTerminator

/-- What a report begins with; the digit says which colour. -/
def introducer (digit : UInt8) : Bytes := [esc, 0x5d, 0x31, digit, 0x3b]

/-- There is no terminator in the text. -/
def Unterminated (text : Bytes) : Prop := bel ∉ text ∧ ¬ stringTerminator <:+: text

/-- A complete report of colour 10 or 11, up to its first terminator. -/
def IsColorReport (w : Bytes) : Prop :=
  ∃ digit text terminator, (digit = 0x30 ∨ digit = 0x31) ∧ Unterminated text ∧
    IsTerminator terminator ∧ w = introducer digit ++ text ++ terminator

/-- Nothing is unterminated. -/
theorem unterminated_nil : Unterminated [] := by
  refine ⟨List.not_mem_nil, fun h => ?_⟩
  exact absurd (List.infix_nil.mp h) (List.cons_ne_nil _ _)

/-- A byte in front ends nothing. -/
theorem unterminated_cons_iff (b : UInt8) (text : Bytes) :
    Unterminated (b :: text) ↔
      b ≠ bel ∧ ¬ (b = esc ∧ text.head? = some 0x5c) ∧ Unterminated text := by
  unfold Unterminated
  rw [List.mem_cons, not_or, List.infix_cons_iff, not_or]
  have hstart : stringTerminator <+: b :: text ↔ b = esc ∧ text.head? = some 0x5c := by
    unfold stringTerminator
    rw [List.cons_prefix_cons]
    rcases text with _ | ⟨c, text⟩
    · simp
    · simp [List.cons_prefix_cons, eq_comm]
  rw [hstart]
  constructor
  · rintro ⟨⟨hb, htext⟩, hst, hin⟩
    exact ⟨Ne.symm hb, hst, htext, hin⟩
  · rintro ⟨hb, hst, htext, hin⟩
    exact ⟨⟨Ne.symm hb, htext⟩, hst, hin⟩

/-- A terminator does not begin like the end of one. -/
theorem IsTerminator.head {terminator : Bytes} (h : IsTerminator terminator) (rest : Bytes) :
    (terminator ++ rest).head? ≠ some 0x5c := by
  rcases h with rfl | rfl
  · simp [bel]
  · simp [stringTerminator, esc]

/-- The loop of `IsColorReportSequence` stops at the first terminator. -/
theorem colorReportTail_append {text terminator : Bytes} (htext : Unterminated text)
    (hterminator : IsTerminator terminator) (rest : Bytes) :
    colorReportTail (text ++ terminator ++ rest) = some (text ++ terminator).length := by
  induction text with
  | nil =>
      rcases hterminator with rfl | rfl
      · rfl
      · rfl
  | cons b text ih =>
      rw [unterminated_cons_iff] at htext
      obtain ⟨hbel, hst, htext⟩ := htext
      have hfirst : ¬ (b = esc ∧ (text ++ terminator ++ rest).head? = some 0x5c) := by
        rintro ⟨rfl, hhead⟩
        rcases text with _ | ⟨c, text⟩
        · exact hterminator.head rest hhead
        · exact hst ⟨rfl, hhead⟩
      have hne : ¬ b = 0x07 := hbel
      rw [List.cons_append, List.cons_append, colorReportTail, if_neg hne, if_neg hfirst, ih htext]
      rfl

/-- What it finds is a terminator, and there is none before it. -/
theorem exists_of_colorReportTail {xs : Bytes} {n : ℕ} (h : colorReportTail xs = some n) :
    ∃ text terminator rest, xs = text ++ terminator ++ rest ∧ Unterminated text ∧
      IsTerminator terminator ∧ n = (text ++ terminator).length := by
  induction xs generalizing n with
  | nil => exact absurd h.symm (Option.some_ne_none n)
  | cons b xs ih =>
      rw [colorReportTail] at h
      split_ifs at h with hbel hst
      · subst hbel
        exact ⟨[], [bel], xs, rfl, unterminated_nil, Or.inl rfl, (Option.some.inj h).symm⟩
      · obtain ⟨rfl, hhead⟩ := hst
        rcases xs with _ | ⟨c, rest⟩
        · exact absurd hhead.symm (Option.some_ne_none _)
        · obtain rfl : c = 0x5c := Option.some.inj hhead
          exact ⟨[], stringTerminator, rest, rfl, unterminated_nil, Or.inr rfl,
            (Option.some.inj h).symm⟩
      · obtain ⟨k, hk, rfl⟩ := Option.map_eq_some_iff.mp h
        obtain ⟨text, terminator, rest, rfl, htext, hterminator, rfl⟩ := ih hk
        refine ⟨b :: text, terminator, rest, rfl, ?_, hterminator, rfl⟩
        rw [unterminated_cons_iff]
        refine ⟨hbel, fun hfirst => hst ⟨hfirst.1, ?_⟩, htext⟩
        rcases text with _ | ⟨c, text⟩
        · exact absurd hfirst.2.symm (Option.some_ne_none _)
        · exact hfirst.2

/-- **What the code takes for a report is one,** and it takes all of it. -/
theorem isColorReportSequence_eq_some_iff (xs : Bytes) (n : ℕ) :
    isColorReportSequence xs = some n ↔
      ∃ report rest, xs = report ++ rest ∧ IsColorReport report ∧ n = report.length := by
  unfold isColorReportSequence
  split
  next a b c d e xs =>
    split_ifs with hopen hdigits
    · refine iff_of_false not_false ?_
      rintro ⟨_, rest, heq, ⟨digit, text, terminator, -, -, -, rfl⟩, -⟩
      obtain ⟨rfl, htail⟩ := List.cons.inj heq
      exact hopen.elim (fun h => h rfl) (fun h => h (List.cons.inj htail).1)
    · refine iff_of_false not_false ?_
      rintro ⟨_, rest, heq, ⟨digit, text, terminator, hdigit, -, -, rfl⟩, -⟩
      simp only [introducer, List.cons_append, List.cons.injEq] at heq
      obtain ⟨-, -, rfl, rfl, rfl, -⟩ := heq
      rcases hdigits with h | h | h
      · exact h rfl
      · exact hdigit.elim h.1 h.2
      · exact h rfl
    · simp only [not_or, not_not, not_and] at hopen hdigits
      obtain ⟨rfl, rfl⟩ := hopen
      obtain ⟨rfl, hdigit, rfl⟩ := hdigits
      rw [Option.map_eq_some_iff]
      constructor
      · rintro ⟨k, hk, rfl⟩
        obtain ⟨text, terminator, rest, rfl, htext, hterminator, rfl⟩ :=
          exists_of_colorReportTail hk
        refine ⟨introducer d ++ text ++ terminator, rest, ?_,
          ⟨d, text, terminator, ?_, htext, hterminator, rfl⟩, ?_⟩
        · simp [introducer]
        · by_cases hd : d = 0x30
          · exact Or.inl hd
          · exact Or.inr (hdigit hd)
        · simp only [introducer, List.length_append, List.length_cons, List.length_nil]
          omega
      · rintro ⟨_, rest, heq, ⟨digit, text, terminator, -, htext, hterminator, rfl⟩, rfl⟩
        simp only [introducer, List.cons_append, List.nil_append, List.cons.injEq, true_and]
          at heq
        rw [heq.2]
        refine ⟨_, colorReportTail_append htext hterminator rest, ?_⟩
        simp only [introducer, List.length_append, List.length_cons, List.length_nil]
        omega
  next hshort =>
    refine iff_of_false (Option.some_ne_none n).symm ?_
    rintro ⟨_, rest, rfl, ⟨digit, text, terminator, -, -, -, rfl⟩, -⟩
    exact hshort _ _ _ _ _ _ rfl

/-- A report has bytes. -/
theorem IsColorReport.ne_nil {report : Bytes} (h : IsColorReport report) : report ≠ [] := by
  obtain ⟨digit, text, terminator, -, -, -, rfl⟩ := h
  exact List.cons_ne_nil _ _

/-- **A report is found, whatever is behind it.** -/
theorem isColorReportSequence_of_report {report : Bytes} (h : IsColorReport report) (rest : Bytes) :
    isColorReportSequence (report ++ rest) = some report.length :=
  (isColorReportSequence_eq_some_iff _ _).mpr ⟨report, rest, rfl, h, rfl⟩

/-- What is found has a length, and is there as a whole. -/
theorem proper_isColorReportSequence : Proper isColorReportSequence where
  pos := by
    intro xs n h
    obtain ⟨report, rest, -, hreport, rfl⟩ := (isColorReportSequence_eq_some_iff xs n).mp h
    exact List.length_pos_of_ne_nil hreport.ne_nil
  le := by
    intro xs n h
    obtain ⟨report, rest, rfl, -, rfl⟩ := (isColorReportSequence_eq_some_iff xs n).mp h
    rw [List.length_append]
    exact Nat.le_add_right _ _

/-- **What is found is a report.** -/
theorem isColorReport_take {xs : Bytes} {n : ℕ} (h : isColorReportSequence xs = some n) :
    IsColorReport (xs.take n) := by
  obtain ⟨report, rest, rfl, hreport, rfl⟩ := (isColorReportSequence_eq_some_iff xs n).mp h
  rw [List.take_left]
  exact hreport

/-! ### The filter -/

/-- The filter leaves out what matches. -/
theorem filterLoop_eq (skip : ℕ) (xs : Bytes) :
    filterLoop skip xs = stripLoop isColorReportSequence skip xs := by
  induction xs generalizing skip with
  | nil => rw [filterLoop, stripLoop]
  | cons b xs ih =>
      rcases skip with _ | skip
      · rw [filterLoop, stripLoop]
        rcases isColorReportSequence (b :: xs) with _ | n
        · dsimp only
          rw [ih 0]
        · dsimp only
          rw [ih (n - 1)]
      · rw [filterLoop, stripLoop, ih skip]

/-- The loop leaves out what matches. -/
theorem filterTerminalColorReports_eq (input : Bytes) :
    (filterTerminalColorReports input).1 = strip isColorReportSequence input :=
  congrArg Prod.fst (filterLoop_eq 0 input)

/-- **Nothing but complete reports is left out.** -/
theorem without_filterTerminalColorReports (input : Bytes) :
    Without IsColorReport input (filterTerminalColorReports input).1 := by
  rw [filterTerminalColorReports_eq]
  exact without_strip proper_isColorReportSequence isColorReport_take input

/-- The filter does all it is for: no complete report is left, so that filtering again changes
nothing, and nothing but complete reports is gone. -/
def FilteredClean (input : Bytes) : Prop :=
  (∀ report, IsColorReport report → ¬ report <:+: (filterTerminalColorReports input).1) ∧
    (filterTerminalColorReports (filterTerminalColorReports input).1).1 =
      (filterTerminalColorReports input).1 ∧
    Without IsColorReport input (filterTerminalColorReports input).1

/-- A report is left exactly when it comes together around one that is left out. -/
theorem report_infix_iff {report : Bytes} (h : IsColorReport report) (input : Bytes) :
    report <:+: (filterTerminalColorReports input).1 ↔
      Joins isColorReportSequence input report := by
  rw [filterTerminalColorReports_eq, infix_strip_iff proper_isColorReportSequence h.ne_nil]
  constructor
  · rintro (⟨front, rest, -, hkept⟩ | hjoins)
    · have hnone := hkept report (List.suffix_refl _) h.ne_nil
      rw [isColorReportSequence_of_report h] at hnone
      exact absurd hnone (Option.some_ne_none _)
    · exact hjoins
  · exact Or.inr

/-- Text without a complete report is left as it is. -/
theorem filterTerminalColorReports_of_clean {text : Bytes}
    (h : ∀ report, IsColorReport report → ¬ report <:+: text) :
    (filterTerminalColorReports text).1 = text := by
  rw [filterTerminalColorReports_eq, strip_eq_self_iff proper_isColorReportSequence]
  intro u hu _
  rw [Option.eq_none_iff_forall_ne_some]
  intro n hsome
  obtain ⟨report, rest, rfl, hreport, -⟩ := (isColorReportSequence_eq_some_iff u n).mp hsome
  exact h report hreport ((List.prefix_append report rest).isInfix.trans hu.isInfix)

/-- **The filter does all it is for exactly when** no report comes together, bytes before and
behind, around one that is left out. -/
theorem filteredClean_iff (input : Bytes) :
    FilteredClean input ↔
      ∀ report, IsColorReport report → ¬ Joins isColorReportSequence input report := by
  constructor
  · rintro ⟨hclean, -⟩ report hreport hjoins
    exact hclean report hreport ((report_infix_iff hreport input).mpr hjoins)
  · intro h
    have hclean : ∀ report, IsColorReport report →
        ¬ report <:+: (filterTerminalColorReports input).1 := by
      intro report hreport hin
      exact h report hreport ((report_infix_iff hreport input).mp hin)
    exact ⟨hclean, filterTerminalColorReports_of_clean hclean,
      without_filterTerminalColorReports input⟩

/-- A report of the background colour. -/
def reportR : Bytes := introducer 0x31 ++ [0x72] ++ [bel]

/-- The introducer of a report, with another report behind its first three bytes. -/
def splitReport : Bytes :=
  (introducer 0x30).take 3 ++ reportR ++ (introducer 0x30).drop 3 ++ [0x78] ++ [bel]

/-- **A report is let through** when another one stands in its introducer. -/
theorem not_filteredClean :
    (filterTerminalColorReports splitReport).1 = introducer 0x30 ++ [0x78] ++ [bel] ∧
      ¬ FilteredClean splitReport := by
  have hout : (filterTerminalColorReports splitReport).1 = introducer 0x30 ++ [0x78] ++ [bel] := by
    decide
  refine ⟨hout, fun h => ?_⟩
  have hagain := h.2.1
  rw [hout] at hagain
  exact absurd hagain (by decide)

/-- What is passed to the runtime of a session is what the filter leaves. -/
theorem eq_filtered_of_writtenInput {m : SessionManager} {sessionId : String} {input bytes : Bytes}
    (h : m.writtenInput sessionId input = some bytes) :
    bytes = (filterTerminalColorReports input).1 := by
  obtain ⟨e, -, hwritten⟩ := Option.bind_eq_some_iff.mp h
  unfold SessionEntry.writtenInput at hwritten
  rcases hruntime : e.runtime with _ | r
  · rw [hruntime] at hwritten
    cases hwritten
  · rw [hruntime] at hwritten
    dsimp only at hwritten
    split_ifs at hwritten
    exact (Option.some.inj hwritten).symm

/-- **What `SendInput` passes on** is the input without complete reports, and no report is in it
exactly when none comes together. -/
theorem writtenInput_clean_iff {m : SessionManager} {sessionId : String} {input bytes : Bytes}
    (h : m.writtenInput sessionId input = some bytes) :
    Without IsColorReport input bytes ∧
      ((∀ report, IsColorReport report → ¬ report <:+: bytes) ↔
        ∀ report, IsColorReport report → ¬ Joins isColorReportSequence input report) := by
  rw [eq_filtered_of_writtenInput h]
  refine ⟨without_filterTerminalColorReports input, forall₂_congr fun report hreport => ?_⟩
  rw [report_infix_iff hreport]

end Sentrits.Service
