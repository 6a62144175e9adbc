import Sentrits.Found.Bytes

/-!
# The lines of a stream

What a loop of `std::getline` reads from a text: the pieces between line feeds, and what stands
behind the last one, unless that is nothing.

* `streamLines`: the lines, one after the other.
* `streamLines_append_lf`, `streamLines_of_notMem`: **a line ends at its line feed, or with the
  text.**
* `streamLines_flatMap`: lines that are each ended by a line feed are read back.
-/

namespace Found

open Bytes

/-- The lines a loop of `std::getline` reads. -/
def streamLines : Bytes → List Bytes
  | [] => []
  | ch :: text =>
      if ch = lf then [] :: streamLines text
      else
        match streamLines text with
        | [] => [[ch]]
        | line :: lines => (ch :: line) :: lines

/-- **A line ends at its line feed.** -/
theorem streamLines_append_lf {line : Bytes} (h : lf ∉ line) (rest : Bytes) :
    streamLines (line ++ lf :: rest) = line :: streamLines rest := by
  induction line with
  | nil => exact if_pos rfl
  | cons ch line ih =>
      rw [List.mem_cons, not_or] at h
      obtain ⟨hch, hline⟩ := h
      rw [List.cons_append, streamLines, if_neg (Ne.symm hch), ih hline]

/-- **The last line ends with the text.** -/
theorem streamLines_of_notMem {line : Bytes} (hne : line ≠ []) (h : lf ∉ line) :
    streamLines line = [line] := by
  induction line with
  | nil => exact absurd rfl hne
  | cons ch line ih =>
      rw [List.mem_cons, not_or] at h
      obtain ⟨hch, hline⟩ := h
      rw [streamLines, if_neg (Ne.symm hch)]
      rcases line with _ | ⟨next, line⟩
      · rfl
      · rw [ih (List.cons_ne_nil _ _) hline]

/-- Lines that are each ended by a line feed are read back. -/
theorem streamLines_flatMap {lines : List Bytes} (h : ∀ line ∈ lines, lf ∉ line) :
    streamLines (lines.flatMap (· ++ [lf])) = lines := by
  induction lines with
  | nil => rfl
  | cons line lines ih =>
      rw [List.flatMap_cons, List.append_assoc, List.singleton_append,
        streamLines_append_lf (h line List.mem_cons_self),
        ih fun line' hline' => h line' (List.mem_cons_of_mem line hline')]

end Found
