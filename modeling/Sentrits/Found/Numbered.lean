import Mathlib.Data.List.Nodup
import Mathlib.Data.List.Range

/-!
# Lists numbered without gaps

The values of a list carry consecutive numbers, as the entries of a log do that is appended to at
the back and trimmed at the front.

* `Numbered num first xs`: the numbers of `xs` are `first, first + 1, ...`.
* `Numbered.snoc`, `Numbered.drop`: appending the next number and dropping from the front keep it.
* `Numbered.exists_iff`, `Numbered.pairwise_lt`: the numbers there are, and their order.
* `Numbered.filter_between`: **the values with a number in an interval are a slice**.
-/

namespace Found

variable {α : Type*}

/-- The numbers of the list are consecutive and begin with `first`. -/
def Numbered (num : α → ℕ) (first : ℕ) (xs : List α) : Prop :=
  xs.map num = List.range' first xs.length

namespace Numbered

variable {num : α → ℕ} {first : ℕ} {x : α} {xs : List α}

/-- No elements are numbered. -/
@[simp]
theorem nil : Numbered num first [] := rfl

/-- The first element has the first number. -/
@[simp]
theorem cons_iff : Numbered num first (x :: xs) ↔ num x = first ∧ Numbered num (first + 1) xs := by
  simp [Numbered, List.range'_succ]

/-- The next element has the next number. -/
theorem snoc (h : Numbered num first xs) (hx : num x = first + xs.length) :
    Numbered num first (xs ++ [x]) := by
  unfold Numbered at h ⊢
  rw [List.map_append, h, List.length_append, List.length_singleton, List.range'_1_concat]
  simp [hx]

/-- What is left begins with a later number. -/
theorem drop (h : Numbered num first xs) (k : ℕ) : Numbered num (first + k) (xs.drop k) := by
  induction xs generalizing first k with
  | nil => simp
  | cons y ys ih =>
      obtain ⟨-, htail⟩ := cons_iff.mp h
      cases k with
      | zero => exact h
      | succ k =>
          have hstep := ih htail k
          rw [Nat.add_assoc, Nat.add_comm 1] at hstep
          simpa using hstep

/-- What is taken begins with the same. -/
theorem take (h : Numbered num first xs) (k : ℕ) : Numbered num first (xs.take k) := by
  unfold Numbered at h ⊢
  rw [List.map_take, h, List.length_take]
  rcases Nat.le_total k xs.length with hle | hle
  · rw [List.take_range'_of_length_ge hle, Nat.min_eq_left hle]
  · rw [List.take_range'_of_length_le hle, Nat.min_eq_right hle]

/-- **A number is there exactly when** it is between the first and the last. -/
theorem exists_iff (h : Numbered num first xs) (k : ℕ) :
    (∃ y ∈ xs, num y = k) ↔ first ≤ k ∧ k < first + xs.length := by
  rw [← List.mem_map, h, List.mem_range'_1]

/-- The numbers ascend. -/
theorem pairwise_lt (h : Numbered num first xs) : xs.Pairwise fun x y => num x < num y := by
  have hmap : (xs.map num).Pairwise (· < ·) := by
    rw [h]
    exact List.pairwise_lt_range'
  exact List.pairwise_map.mp hmap

/-- A number stands for one value. -/
theorem eq_of_num_eq (h : Numbered num first xs) {x y : α} (hx : x ∈ xs) (hy : y ∈ xs)
    (hnum : num x = num y) : x = y := by
  have hnodup : (xs.map num).Nodup := by
    rw [h]
    exact List.nodup_range'
  exact List.inj_on_of_nodup_map hnodup hx hy hnum

/-- The number of the last value. -/
theorem num_getLast (h : Numbered num first xs) (hlast : xs.getLast? = some x) :
    num x + 1 = first + xs.length := by
  induction xs generalizing first with
  | nil => cases hlast
  | cons y ys ih =>
      obtain ⟨hy, htail⟩ := cons_iff.mp h
      cases ys with
      | nil =>
          simp only [List.getLast?_singleton, Option.some.injEq] at hlast
          simp [← hlast, hy]
      | cons z zs =>
          rw [List.getLast?_cons_cons] at hlast
          have hstep := ih htail hlast
          simp only [List.length_cons] at hstep ⊢
          omega

/-- **The values with a number in an interval are a slice.** -/
theorem filter_between (h : Numbered num first xs) (lo hi : ℕ) :
    xs.filter (fun y => lo ≤ num y ∧ num y ≤ hi) =
      (xs.drop (lo - first)).take (hi + 1 - max lo first) := by
  induction xs generalizing first with
  | nil => simp
  | cons y ys ih =>
      obtain ⟨hy, htail⟩ := cons_iff.mp h
      have hrest := ih htail
      rcases Nat.lt_or_ge first lo with hlo | hlo
      · -- the first value is below the interval
        have hdrop : lo - first = lo - (first + 1) + 1 := by omega
        have hmax : max lo first = max lo (first + 1) := by
          rw [Nat.max_eq_left hlo.le, Nat.max_eq_left hlo]
        have hout : ¬ (lo ≤ num y ∧ num y ≤ hi) :=
          fun hin => Nat.not_le_of_lt hlo (hy ▸ hin.1)
        rw [List.filter_cons_of_neg (by simpa using hout), hdrop, List.drop_succ_cons, hmax]
        exact hrest
      · have hdrop : lo - first = 0 := Nat.sub_eq_zero_of_le hlo
        have hdrop' : lo - (first + 1) = 0 := Nat.sub_eq_zero_of_le (Nat.le_succ_of_le hlo)
        rw [hdrop', List.drop_zero, Nat.max_eq_right (Nat.le_succ_of_le hlo)] at hrest
        rw [hdrop, List.drop_zero, Nat.max_eq_right hlo]
        rcases Nat.lt_or_ge hi first with hhi | hhi
        · -- it is above it, and so is what follows
          have hcount : hi + 1 - first = 0 := Nat.sub_eq_zero_of_le hhi
          have hcount' : hi + 1 - (first + 1) = 0 := Nat.sub_eq_zero_of_le (Nat.le_succ_of_le hhi)
          have hout : ¬ (lo ≤ num y ∧ num y ≤ hi) :=
            fun hin => Nat.not_le_of_lt hhi (hy ▸ hin.2)
          rw [hcount', List.take_zero] at hrest
          rw [List.filter_cons_of_neg (by simpa using hout), hrest, hcount, List.take_zero]
        · have hcount : hi + 1 - first = hi + 1 - (first + 1) + 1 := by
            rw [Nat.add_sub_add_right, Nat.succ_sub hhi]
          have hin : lo ≤ num y ∧ num y ≤ hi := hy.symm ▸ ⟨hlo, hhi⟩
          rw [List.filter_cons_of_pos (by simpa using hin), hcount, List.take_succ_cons, hrest]

end Numbered

end Found
