import Mathlib.Data.List.TakeDrop
import Sentrits.Found.Bytes

/-!
# Replacing a store file

The stores write a file anew by writing a temporary one beside it and renaming that. When the rename
fails the old file is removed and the rename is tried again; when closing the temporary file fails
nobody looks.

* `writeFileAtomically`: the call, given what each operation of the file system comes to.
* `KeepsPromise`: the file holds the new content where the call says so, and else what it held.
* `keepsPromise_iff`: **this is so exactly when** no byte is lost in closing, and the old file is
  not removed in vain.
* `target_writeAll`: **over any sequence of such calls** the file holds what was last said to be
  written.

Source: `src/store/file_stores.cpp`.
-/

namespace Sentrits.Store

open Found

/-! ### The call -/

/-- The file and the temporary one beside it, each with its content if it is there. -/
structure FilePair where
  target : Option Bytes
  temp : Option Bytes := none
  deriving DecidableEq

/-- What the operations of one call come to, in their order. -/
structure WriteAnswers where
  /-- `create_directories` reports no error. -/
  directoriesCreated : Bool := true
  /-- The temporary file is open. -/
  opened : Bool := true
  /-- The stream is good after the write. -/
  good : Bool := true
  /-- `none` when the temporary file is flushed and closed; else how many bytes it has got. -/
  lostAfter : Option ℕ := none
  /-- The first `rename` reports no error. -/
  renamed : Bool := true
  /-- The `remove` of the file reports no error. -/
  removed : Bool := true
  /-- The second `rename` reports no error. -/
  renamedAgain : Bool := true
  /-- The `remove` of the temporary file reports no error. -/
  tempRemoved : Bool := true
  deriving DecidableEq

/-- The content of the temporary file once it is closed. -/
def WriteAnswers.stored (answers : WriteAnswers) (data : Bytes) : Bytes :=
  match answers.lostAfter with
  | none => data
  | some count => data.take count

/-- Source: `file_stores.cpp` `WriteFileAtomically`. -/
def writeFileAtomically (files : FilePair) (data : Bytes) (answers : WriteAnswers) :
    FilePair × Bool :=
  if answers.directoriesCreated = false then (files, false)
  else if answers.opened = false then (files, false)
  else
    let temp := some (answers.stored data)
    if answers.good = false then ({ files with temp }, false)
    else if answers.renamed then ({ target := temp }, true)
    else
      let target := if answers.removed then none else files.target
      if answers.renamedAgain then ({ target := temp }, true)
      else ({ target, temp := if answers.tempRemoved then none else temp }, false)

/-! ### What it promises -/

/-- The file holds the new content where the call returns true, and else what it held before. -/
structure KeepsPromise (files : FilePair) (data : Bytes) (answers : WriteAnswers) : Prop where
  failed : (writeFileAtomically files data answers).2 = false →
    (writeFileAtomically files data answers).1.target = files.target
  written : (writeFileAtomically files data answers).2 = true →
    (writeFileAtomically files data answers).1.target = some data

/-- The renames are reached: there is a temporary file, and nothing is known to be wrong with it. -/
def WriteAnswers.ReachesRename (answers : WriteAnswers) : Prop :=
  answers.directoriesCreated = true ∧ answers.opened = true ∧ answers.good = true

/-- All bytes have got into the temporary file, whatever closing it came to. -/
def WriteAnswers.Complete (answers : WriteAnswers) (data : Bytes) : Prop :=
  ∀ count ∈ answers.lostAfter, data.length ≤ count

/-- Where a rename succeeds the temporary file is complete, and where none does the file is not
removed, or there was none. -/
def Harmless (files : FilePair) (data : Bytes) (answers : WriteAnswers) : Prop :=
  answers.ReachesRename →
    if answers.renamed = true ∨ answers.renamedAgain = true then answers.Complete data
    else answers.removed = false ∨ files.target = none

/-- The data are stored exactly when they are written completely. -/
theorem stored_eq_iff (answers : WriteAnswers) (data : Bytes) :
    answers.stored data = data ↔ answers.Complete data := by
  unfold WriteAnswers.stored WriteAnswers.Complete
  rcases answers.lostAfter with _ | count
  · simp
  · simp

variable {files : FilePair} {data : Bytes} {answers : WriteAnswers}

/-- A call that does not reach the renames leaves the file. -/
theorem writeFileAtomically_of_not_reaches (h : ¬answers.ReachesRename) :
    (writeFileAtomically files data answers).2 = false ∧
      (writeFileAtomically files data answers).1.target = files.target := by
  unfold WriteAnswers.ReachesRename at h
  unfold writeFileAtomically
  split_ifs with hcreated hopened hgood
  · exact ⟨rfl, rfl⟩
  · exact ⟨rfl, rfl⟩
  · exact ⟨rfl, rfl⟩
  all_goals
    rw [Bool.not_eq_false] at hcreated hopened hgood
    exact absurd ⟨hcreated, hopened, hgood⟩ h

/-- A call that reaches the renames puts the temporary file in the place of the file, or takes the
file away. -/
theorem writeFileAtomically_of_reaches (h : answers.ReachesRename) :
    (writeFileAtomically files data answers).2 =
        decide (answers.renamed = true ∨ answers.renamedAgain = true) ∧
      (writeFileAtomically files data answers).1.target =
        if answers.renamed = true ∨ answers.renamedAgain = true then some (answers.stored data)
        else if answers.removed = true then none else files.target := by
  obtain ⟨hcreated, hopened, hgood⟩ := h
  unfold writeFileAtomically
  rw [hcreated, hopened, hgood]
  rw [if_neg (by decide), if_neg (by decide), if_neg (by decide)]
  rcases answers.renamed with _ | _
  · rcases answers.renamedAgain with _ | _
    · simp
    · simp
  · simp

/-- **The promise is kept exactly when** the temporary file is complete, where a rename succeeds,
and the file is not removed in vain, where none does. -/
theorem keepsPromise_iff (files : FilePair) (data : Bytes) (answers : WriteAnswers) :
    KeepsPromise files data answers ↔ Harmless files data answers := by
  unfold Harmless
  by_cases hreaches : answers.ReachesRename
  · have hcall : (writeFileAtomically files data answers).2 = _ ∧
        (writeFileAtomically files data answers).1.target = _ :=
      writeFileAtomically_of_reaches hreaches
    obtain ⟨hresult, htarget⟩ := hcall
    rw [forall_prop_of_true hreaches]
    by_cases hrenamed : answers.renamed = true ∨ answers.renamedAgain = true
    · rw [if_pos hrenamed] at htarget ⊢
      rw [decide_eq_true hrenamed] at hresult
      rw [← stored_eq_iff]
      constructor
      · intro h
        exact Option.some.inj (htarget.symm.trans (h.written hresult))
      · intro hstored
        refine ⟨fun hfailed => ?_, fun _ => ?_⟩
        · exact absurd (hresult.symm.trans hfailed) (by decide)
        · rw [htarget, hstored]
    · rw [if_neg hrenamed] at htarget ⊢
      rw [decide_eq_false hrenamed] at hresult
      constructor
      · intro h
        have hkept := htarget.symm.trans (h.failed hresult)
        split_ifs at hkept with hremoved
        · exact Or.inr hkept.symm
        · exact Or.inl (Bool.not_eq_true _ ▸ hremoved)
      · intro hkept
        refine ⟨fun _ => ?_, fun hwritten => ?_⟩
        · rw [htarget]
          rcases hkept with hremoved | hnone
          · rw [hremoved, if_neg (by decide)]
          · rw [hnone, ite_self]
        · exact absurd (hresult.symm.trans hwritten) (by decide)
  · have hcall : (writeFileAtomically files data answers).2 = false ∧
        (writeFileAtomically files data answers).1.target = files.target :=
      writeFileAtomically_of_not_reaches hreaches
    obtain ⟨hresult, htarget⟩ := hcall
    apply iff_of_true
    · exact ⟨fun _ => htarget, fun hwritten => absurd (hresult.symm.trans hwritten) (by decide)⟩
    · exact fun h => absurd h hreaches

/-- No space is left for the bytes that were not written out yet, and the file is said to be
written. -/
theorem promise_broken :
    ¬∀ (files : FilePair) (data : Bytes) (answers : WriteAnswers),
      KeepsPromise files data answers := by
  intro h
  have hwritten := (h { target := some [1] } [2, 3] { lostAfter := some 1 }).written (by decide)
  exact absurd hwritten (by decide)

/-! ### Sequences of calls -/

/-- The file after some calls. -/
def writeAll (files : FilePair) : List (Bytes × WriteAnswers) → FilePair
  | [] => files
  | (data, answers) :: calls => writeAll (writeFileAtomically files data answers).1 calls

/-- What the file was last said to hold. -/
def lastWritten (files : FilePair) (held : Option Bytes) :
    List (Bytes × WriteAnswers) → Option Bytes
  | [] => held
  | (data, answers) :: calls =>
      lastWritten (writeFileAtomically files data answers).1
        (if (writeFileAtomically files data answers).2 then some data else held) calls

/-- Every call of the sequence is harmless where it is made. -/
def AllHarmless (files : FilePair) : List (Bytes × WriteAnswers) → Prop
  | [] => True
  | (data, answers) :: calls =>
      Harmless files data answers ∧ AllHarmless (writeFileAtomically files data answers).1 calls

/-- **Over any sequence of harmless calls the file holds what it was last said to hold.** -/
theorem target_writeAll {calls : List (Bytes × WriteAnswers)} {files : FilePair}
    (h : AllHarmless files calls) :
    (writeAll files calls).target = lastWritten files files.target calls := by
  induction calls generalizing files with
  | nil => rfl
  | cons call calls ih =>
      rcases call with ⟨data, answers⟩
      have hkept := (keepsPromise_iff files data answers).mpr h.1
      rw [writeAll, lastWritten, ih h.2]
      congr 1
      split_ifs with hwritten
      · exact hkept.written hwritten
      · exact hkept.failed (Bool.not_eq_true _ ▸ hwritten)

end Sentrits.Store
