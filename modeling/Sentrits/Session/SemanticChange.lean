import Mathlib.Algebra.GroupWithZero.Nat
import Mathlib.Data.List.Infix
import Sentrits.Found.Bytes

/-!
# What changed on a terminal screen

After each chunk of output the multiplexer compares the screen with what it was before, and says
what kind of change that is: a switch of the alternate screen, meaningful output, cosmetic churn, a
moved cursor or nothing.

* `classifySemanticChange`: the comparison.
* `Lively`: more changed than one line, or one line that was not just rewritten or lengthened by a
  few marks.
* `classified_iff`: **a change counts exactly when** the alternate screen is switched, or the screen
  was drawn anew and either the scrollback grew or the change is lively.

Source: `src/session/terminal_multiplexer.cpp`.
-/

namespace Sentrits.Session

open Found Found.Bytes

/-- Source: `terminal_multiplexer.h` `TerminalSemanticChangeKind`. -/
inductive TerminalSemanticChangeKind
  | none
  | meaningfulOutput
  | cosmeticChurn
  | cursorOnly
  | altScreenTransition
  deriving DecidableEq

/-- Source: `terminal_multiplexer.h` `TerminalSemanticChange`. -/
structure TerminalSemanticChange where
  kind : TerminalSemanticChangeKind := .none
  changedVisibleLineCount : ℕ := 0
  scrollbackLinesAdded : ℕ := 0
  appendedVisibleCharacterCount : ℕ := 0
  cursorMoved : Bool := false
  altScreenEntered : Bool := false
  altScreenExited : Bool := false
  deriving DecidableEq

/-- Source: `terminal_multiplexer.h` `TerminalScreenSnapshot`, without the text that draws it. -/
structure TerminalScreenSnapshot where
  columns : UInt16 := 0
  rows : UInt16 := 0
  renderRevision : ℕ := 0
  cursorRow : ℕ := 0
  cursorColumn : ℕ := 0
  visibleLines : List Bytes := []
  scrollbackLines : List Bytes := []
  deriving DecidableEq

/-! ### The chunk -/

/-- Source: `terminal_multiplexer.cpp` `ContainsSequence`. -/
def containsSequence (input needle : Bytes) : Bool := decide (needle <:+: input)

/-- A sequence that begins with the escape character and an opening bracket. -/
def csi (rest : String) : Bytes := 0x1b :: 0x5b :: utf8 rest

/-- Source: `terminal_multiplexer.cpp` `HasAltScreenEnter`. -/
def hasAltScreenEnter (data : Bytes) : Bool :=
  containsSequence data (csi "?1049h") || containsSequence data (csi "?1047h") ||
    containsSequence data (csi "?47h")

/-- Source: `terminal_multiplexer.cpp` `HasAltScreenExit`. -/
def hasAltScreenExit (data : Bytes) : Bool :=
  containsSequence data (csi "?1049l") || containsSequence data (csi "?1047l") ||
    containsSequence data (csi "?47l")

/-- Source: `terminal_multiplexer.cpp` `HasBareCarriageReturn`. -/
def hasBareCarriageReturn : Bytes → Bool
  | [] => false
  | ch :: data => (ch == cr && data.head? != some lf) || hasBareCarriageReturn data

/-- Source: `terminal_multiplexer.cpp` `HasLineErase`. -/
def hasLineErase (data : Bytes) : Bool :=
  containsSequence data (csi "2K") || containsSequence data (csi "K")

/-! ### Lines -/

/-- Source: `terminal_multiplexer.cpp` `IsTrivialVisibleCharacter`. -/
def isTrivialVisibleCharacter (ch : UInt8) : Bool :=
  ch ∈ utf8 ".,:;'\"`-_=+|/\\()[]\x7b\x7d<>*#!?"

/-- What is behind `before` in `after`, apart from control characters, if it begins with it and is
longer. -/
def visibleTail (before after : Bytes) : Option Bytes :=
  if after.length ≤ before.length ∨ ¬before <+: after then none
  else some ((after.drop before.length).filter fun ch => !(ch < 0x20 || ch == 0x7f))

/-- Source: `terminal_multiplexer.cpp` `CountVisibleTailGrowth`. -/
def countVisibleTailGrowth (before after : Bytes) : ℕ :=
  ((visibleTail before after).map (·.length)).getD 0

/-- Source: `terminal_multiplexer.cpp` `HasOnlyTrivialTailGrowth`. -/
def hasOnlyTrivialTailGrowth (before after : Bytes) : Bool :=
  (visibleTail before after).any fun tail => !tail.isEmpty && tail.all isTrivialVisibleCharacter

/-- Source: `terminal_multiplexer.cpp` `IsScreenBlank`. -/
def isScreenBlank (snapshot : TerminalScreenSnapshot) : Bool :=
  snapshot.visibleLines.all (·.isEmpty)

/-- The lines that are compared, each with what it was: a line that is not there is empty. -/
def comparedLines (before after : TerminalScreenSnapshot) : List (Bytes × Bytes) :=
  (List.range (max before.visibleLines.length after.visibleLines.length)).map fun index =>
    (before.visibleLines.getD index [], after.visibleLines.getD index [])

/-- The lines that are not what they were. -/
def changedLines (before after : TerminalScreenSnapshot) : List (Bytes × Bytes) :=
  (comparedLines before after).filter fun line => line.1 ≠ line.2

/-- Source: `terminal_multiplexer.cpp` `FindSingleChangedVisibleLine`. -/
def findSingleChangedVisibleLine (before after : TerminalScreenSnapshot) : Option (Bytes × Bytes) :=
  match changedLines before after with
  | [line] => some line
  | _ => none

/-- How many characters were put behind the lines there are before and after. -/
def appendedVisibleCharacters (before after : TerminalScreenSnapshot) : ℕ :=
  (List.zipWith countVisibleTailGrowth before.visibleLines after.visibleLines).sum

/-- Some line there is before and after has been lengthened by marks alone. -/
def someTrivialTailGrowth (before after : TerminalScreenSnapshot) : Bool :=
  (List.zip before.visibleLines after.visibleLines).any fun line =>
    hasOnlyTrivialTailGrowth line.1 line.2

/-! ### The comparison -/

/-- Source: `terminal_multiplexer.cpp` `TerminalMultiplexer::Impl::ClassifySemanticChange`. -/
def classifySemanticChange (data : Bytes) (before after : TerminalScreenSnapshot) :
    TerminalSemanticChange :=
  let sawCarriageReturn := hasBareCarriageReturn data
  let sawLineErase := hasLineErase data
  let beforeScreenBlank := isScreenBlank before
  let change : TerminalSemanticChange :=
    { changedVisibleLineCount := (changedLines before after).length
      scrollbackLinesAdded := after.scrollbackLines.length - before.scrollbackLines.length
      appendedVisibleCharacterCount := appendedVisibleCharacters before after
      cursorMoved := before.cursorRow != after.cursorRow ||
        before.cursorColumn != after.cursorColumn
      altScreenEntered := hasAltScreenEnter data
      altScreenExited := hasAltScreenExit data }
  if change.altScreenEntered || change.altScreenExited then
    { change with kind := .altScreenTransition }
  else if after.renderRevision = before.renderRevision then change
  else if 0 < change.scrollbackLinesAdded then { change with kind := .meaningfulOutput }
  else if change.changedVisibleLineCount = 0 ∧ change.cursorMoved = true then
    { change with kind := .cursorOnly }
  else
    -- a line that was rewritten in place
    let rewritten : Option TerminalSemanticChangeKind :=
      if change.scrollbackLinesAdded = 0 ∧ change.changedVisibleLineCount = 1 ∧
          (sawCarriageReturn || sawLineErase) = true then
        match findSingleChangedVisibleLine before after with
        | none => none
        | some (beforeLine, afterLine) =>
            if sawLineErase = true ∧ change.appendedVisibleCharacterCount = 0 ∧
                beforeLine ≠ [] ∧ afterLine = [] then some .cursorOnly
            else if beforeScreenBlank = true ∨ beforeLine ≠ [] ∨ afterLine ≠ [] then
              some .cosmeticChurn
            else none
      else none
    match rewritten with
    | some kind => { change with kind }
    | none =>
        if change.changedVisibleLineCount ≤ 1 ∧ 0 < change.appendedVisibleCharacterCount ∧
            change.appendedVisibleCharacterCount ≤ 4 ∧ someTrivialTailGrowth before after = true then
          { change with kind := .cosmeticChurn }
        else if 0 < change.changedVisibleLineCount then { change with kind := .meaningfulOutput }
        else change

/-! ### What counts -/

/-- The change counts as activity of the session.
Source: `session_manager.cpp` `SessionManager::PollSession`. -/
def TerminalSemanticChangeKind.Counts (kind : TerminalSemanticChangeKind) : Prop :=
  kind = .meaningfulOutput ∨ kind = .altScreenTransition

instance (kind : TerminalSemanticChangeKind) : Decidable kind.Counts := by
  unfold TerminalSemanticChangeKind.Counts
  infer_instance

/-- More than one line is not what it was, or one is that was neither rewritten in place nor
lengthened by up to four marks. -/
def Lively (data : Bytes) (before after : TerminalScreenSnapshot) : Prop :=
  1 < (changedLines before after).length ∨
    (changedLines before after).length = 1 ∧ hasBareCarriageReturn data = false ∧
      hasLineErase data = false ∧
      ¬(0 < appendedVisibleCharacters before after ∧ appendedVisibleCharacters before after ≤ 4 ∧
        someTrivialTailGrowth before after = true)

instance (data : Bytes) (before after : TerminalScreenSnapshot) :
    Decidable (Lively data before after) := by
  unfold Lively
  infer_instance

/-- One line that is not what it was is found, and it is empty at most once. -/
theorem findSingleChangedVisibleLine_of_length {before after : TerminalScreenSnapshot}
    (h : (changedLines before after).length = 1) :
    ∃ line, findSingleChangedVisibleLine before after = some line ∧ line.1 ≠ line.2 := by
  obtain ⟨line, hline⟩ := List.length_eq_one_iff.mp h
  have hin : line ∈ changedLines before after := by
    rw [hline]
    exact List.mem_singleton_self line
  refine ⟨line, ?_, ?_⟩
  · unfold findSingleChangedVisibleLine
    rw [hline]
  · simpa using (List.mem_filter.mp hin).2

/-- One line that was rewritten in place never counts, and neither does a moved cursor. -/
theorem kind_of_not_grown {data : Bytes} {before after : TerminalScreenSnapshot}
    (hscreen : (hasAltScreenEnter data || hasAltScreenExit data) = false)
    (hdrawn : after.renderRevision ≠ before.renderRevision)
    (hgrown : after.scrollbackLines.length - before.scrollbackLines.length = 0) :
    (classifySemanticChange data before after).kind.Counts ↔ Lively data before after := by
  unfold classifySemanticChange Lively
  dsimp only
  rw [if_neg (by rw [hscreen]; decide), if_neg hdrawn, hgrown, if_neg (lt_irrefl 0)]
  by_cases hnone : (changedLines before after).length = 0
  · -- no line is another: the cursor has moved, or nothing was found
    rw [hnone]
    apply iff_of_false
    · by_cases hmoved : (before.cursorRow != after.cursorRow ||
          before.cursorColumn != after.cursorColumn) = true
      · rw [if_pos ⟨rfl, hmoved⟩]
        simp [TerminalSemanticChangeKind.Counts]
      · rw [if_neg fun h => hmoved h.2, if_neg fun h => absurd h.2.1 (by decide)]
        dsimp only
        rw [if_neg (lt_irrefl 0)]
        split_ifs <;> simp [TerminalSemanticChangeKind.Counts]
    · simp
  rw [if_neg fun h => hnone h.1]
  by_cases hone : (changedLines before after).length = 1
  · obtain ⟨⟨beforeLine, afterLine⟩, hfound, hdiffer⟩ := findSingleChangedVisibleLine_of_length hone
    have hvisible : isScreenBlank before = true ∨ beforeLine ≠ [] ∨ afterLine ≠ [] := by
      by_cases hbefore : beforeLine = []
      · exact Or.inr (Or.inr fun hafter => hdiffer (hbefore.trans hafter.symm))
      · exact Or.inr (Or.inl hbefore)
    rw [hone, hfound]
    by_cases hsign : (hasBareCarriageReturn data || hasLineErase data) = true
    · rw [if_pos ⟨rfl, rfl, hsign⟩]
      dsimp only
      rw [if_pos hvisible]
      rw [Bool.or_eq_true] at hsign
      apply iff_of_false
      · split_ifs <;> simp [TerminalSemanticChangeKind.Counts]
      · rintro (hmany | ⟨-, hreturn, herase, -⟩)
        · exact absurd hmany (lt_irrefl 1)
        · rw [hreturn, herase] at hsign
          exact absurd hsign (by decide)
    · rw [if_neg fun h => hsign h.2.2]
      rw [Bool.or_eq_true, not_or, Bool.not_eq_true, Bool.not_eq_true] at hsign
      dsimp only
      rw [if_pos Nat.one_pos]
      split_ifs with htrivial
      · simp [TerminalSemanticChangeKind.Counts, htrivial.2]
      · simp only [le_refl, true_and] at htrivial
        simp [TerminalSemanticChangeKind.Counts, hsign, htrivial]
  · have hmany : 1 < (changedLines before after).length := by omega
    rw [if_neg fun h => hone h.2.1]
    dsimp only
    rw [if_neg fun h => absurd h.1 (by omega), if_pos (by omega)]
    simp [TerminalSemanticChangeKind.Counts, hmany]

/-- **A change counts exactly when** the alternate screen is switched, or the screen was drawn anew
and the scrollback grew or the change is lively. -/
theorem classified_iff (data : Bytes) (before after : TerminalScreenSnapshot) :
    (classifySemanticChange data before after).kind.Counts ↔
      (hasAltScreenEnter data || hasAltScreenExit data) = true ∨
        after.renderRevision ≠ before.renderRevision ∧
          (before.scrollbackLines.length < after.scrollbackLines.length ∨
            Lively data before after) := by
  by_cases hscreen : (hasAltScreenEnter data || hasAltScreenExit data) = true
  · apply iff_of_true
    · unfold classifySemanticChange
      dsimp only
      rw [if_pos hscreen]
      exact Or.inr rfl
    · exact Or.inl hscreen
  rw [or_iff_right hscreen]
  by_cases hdrawn : after.renderRevision = before.renderRevision
  · apply iff_of_false
    · unfold classifySemanticChange
      dsimp only
      rw [if_neg hscreen, if_pos hdrawn]
      simp [TerminalSemanticChangeKind.Counts]
    · exact fun h => h.1 hdrawn
  rw [and_iff_right hdrawn]
  by_cases hgrown : before.scrollbackLines.length < after.scrollbackLines.length
  · apply iff_of_true
    · unfold classifySemanticChange
      dsimp only
      rw [if_neg hscreen, if_neg hdrawn, if_pos (by omega)]
      exact Or.inl rfl
    · exact Or.inl hgrown
  · rw [or_iff_right hgrown]
    exact kind_of_not_grown (Bool.not_eq_true _ ▸ hscreen) hdrawn (by omega)

end Sentrits.Session
