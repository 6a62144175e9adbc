import Mathlib.Data.List.Destutter
import Mathlib.Data.List.DropRight
import Mathlib.Order.Lattice

/-!
# Histories that are cut and cleaned

Three ways of keeping less than all of a history: leave out what tells nothing new about what was
kept before it, keep only the end, or sort and keep each thing once.

* `destutter_concat`: one more event at the end of a cleaned history.
* `rtake_rtake_concat`: **the end of a history** is kept by adding to the end and cutting again.
* `ascending_destutter_mergeSort`: **sorting and dropping repetitions** lists a set in order.
-/

namespace Found.Histories

variable {α : Type}

/-! ### What tells something new -/

/-- What comes behind the last element is kept when it is related to the last one that was. -/
theorem destutter'_concat (R : α → α → Prop) [DecidableRel R] (first : α) (middle : List α)
    (last : α) :
    ∃ kept front, middle.destutter' R first = front ++ [kept] ∧
      (middle ++ [last]).destutter' R first =
        middle.destutter' R first ++ if R kept last then [last] else [] := by
  induction middle generalizing first with
  | nil =>
      refine ⟨first, [], rfl, ?_⟩
      rw [List.nil_append, List.destutter'_singleton, List.destutter'_nil]
      split_ifs <;> rfl
  | cons next middle ih =>
      by_cases hrelated : R first next
      · obtain ⟨kept, front, heq, hconcat⟩ := ih next
        refine ⟨kept, first :: front, ?_, ?_⟩
        · rw [List.destutter'_cons_pos _ hrelated, heq, List.cons_append]
        · rw [List.cons_append, List.destutter'_cons_pos _ hrelated, hconcat,
            List.destutter'_cons_pos _ hrelated, List.cons_append]
      · obtain ⟨kept, front, heq, hconcat⟩ := ih first
        refine ⟨kept, front, ?_, ?_⟩
        · rw [List.destutter'_cons_neg _ hrelated, heq]
        · rw [List.cons_append, List.destutter'_cons_neg _ hrelated, hconcat,
            List.destutter'_cons_neg _ hrelated]

/-- What is kept with one event more. -/
theorem destutter_concat (R : α → α → Prop) [DecidableRel R] (events : List α) (last : α) :
    (events ++ [last]).destutter R =
      events.destutter R ++
        if ∀ kept ∈ (events.destutter R).getLast?, R kept last then [last] else [] := by
  rcases events with _ | ⟨first, middle⟩
  · simp
  · obtain ⟨kept, front, heq, hconcat⟩ := destutter'_concat R first middle last
    rw [List.cons_append, List.destutter_cons', List.destutter_cons', hconcat, heq,
      List.getLast?_append, List.getLast?_singleton]
    simp

/-! ### The end of a history -/

/-- The end of a history and one more event have the end of both. -/
theorem rtake_rtake_concat {n : ℕ} (history : List α) (last : α) :
    (history.rtake n ++ [last]).rtake n = (history ++ [last]).rtake n := by
  simp only [List.rtake_eq_reverse_take_reverse, List.reverse_append, List.reverse_cons,
    List.reverse_nil, List.nil_append, List.singleton_append, List.reverse_reverse]
  rcases n with _ | n
  · rfl
  · rw [List.take_succ_cons, List.take_succ_cons, List.take_take,
      Nat.min_eq_left (Nat.le_succ n)]

/-- The last of the last events. -/
theorem getLast?_rtake {n : ℕ} (hpos : 0 < n) (history : List α) :
    (history.rtake n).getLast? = history.getLast? := by
  rw [List.rtake_eq_reverse_take_reverse, List.getLast?_reverse, List.head?_take,
    if_neg hpos.ne', List.head?_reverse]

/-! ### Sets in order -/

section order

variable [LinearOrder α]

/-- A list in which every element of a set stands once, in order. -/
structure Ascending (s : α → Prop) (l : List α) : Prop where
  pairwise : l.Pairwise (· < ·)
  mem_iff : ∀ a, a ∈ l ↔ s a

/-- Dropping repetitions drops no element. -/
theorem mem_destutter'_ne {a first : α} {l : List α} (h : a ∈ first :: l) :
    a ∈ l.destutter' (· ≠ ·) first := by
  induction l generalizing first with
  | nil => exact h
  | cons next l ih =>
      by_cases hne : first ≠ next
      · rw [List.destutter'_cons_pos _ hne]
        rcases List.mem_cons.mp h with rfl | hin
        · exact List.mem_cons_self
        · exact List.mem_cons_of_mem _ (ih hin)
      · rw [List.destutter'_cons_neg _ hne]
        apply ih
        rcases List.mem_cons.mp h with rfl | hin
        · exact List.mem_cons_self
        · rwa [not_ne_iff.mp hne]

/-- No event is lost. -/
theorem mem_destutter_ne {a : α} {l : List α} : a ∈ l.destutter (· ≠ ·) ↔ a ∈ l := by
  refine ⟨fun h => (List.destutter_sublist _ l).mem h, fun h => ?_⟩
  rcases l with _ | ⟨first, l⟩
  · exact h
  · exact mem_destutter'_ne h

/-- **Sorting and dropping repetitions** lists the elements in order. -/
theorem ascending_destutter_mergeSort (l : List α) :
    Ascending (· ∈ l) ((l.mergeSort (fun a b => decide (a ≤ b))).destutter (· ≠ ·)) := by
  have hsorted : (l.mergeSort (fun a b => decide (a ≤ b))).Pairwise (· ≤ ·) := by
    apply (List.pairwise_mergeSort _ _ l).imp
    · exact fun h => of_decide_eq_true h
    · exact fun a b c hab hbc => by
        simp only [decide_eq_true_iff] at hab hbc ⊢
        exact hab.trans hbc
    · exact fun a b => by
        simp only [Bool.or_eq_true, decide_eq_true_iff]
        exact le_total a b
  refine ⟨?_, fun a => ?_⟩
  · rw [← List.isChain_iff_pairwise]
    have hle := (hsorted.sublist (List.destutter_sublist (· ≠ ·) _)).isChain
    have hne := List.isChain_destutter (· ≠ ·) (l.mergeSort (fun a b => decide (a ≤ b)))
    rw [List.isChain_iff_getElem] at hle hne ⊢
    exact fun i hi => lt_of_le_of_ne (hle i hi) (hne i hi)
  · rw [mem_destutter_ne, List.mem_mergeSort]

end order

end Found.Histories
