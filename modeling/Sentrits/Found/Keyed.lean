import Mathlib.Data.List.Nodup

/-!
# Lists of values with a key

The list a store keeps, or the contents of a map: each value has a key, and an update touches the
value of one key.

* `upsert`: the first value with the key is replaced in place, or the value is appended.
* `remove`: every value with the key goes.
* `find_upsert_self`, `find_remove_self`, …: what a lookup sees after an update.
* `find_foldl_upsert_of_mem`, `mem_foldl_remove`, …: many updates one after the other.
* `upsert_split`, `upsert_absent`: where an upsert puts the value.
* `nodup_upsert`, `nodup_remove`: unique keys stay unique.
-/

namespace Found.Keyed

variable {α κ : Type*} [DecidableEq κ] (key : α → κ)

/-! ### The operations -/

/-- The first value with the key. -/
def find (k : κ) (xs : List α) : Option α :=
  xs.find? fun x => key x = k

/-- Replaces the first value that has the key of `x`, or appends `x`. -/
def upsert (x : α) : List α → List α
  | [] => [x]
  | y :: ys => if key y = key x then x :: ys else y :: upsert x ys

/-- Removes every value with the key. -/
def remove (k : κ) (xs : List α) : List α :=
  xs.filter fun x => key x ≠ k

/-- Some value has the key. -/
def Has (k : κ) (xs : List α) : Prop :=
  ∃ x ∈ xs, key x = k

instance (k : κ) (xs : List α) : Decidable (Has key k xs) :=
  inferInstanceAs (Decidable (∃ x ∈ xs, key x = k))

/-! ### Membership -/

variable {key}

omit [DecidableEq κ] in

/-- A key is there when it is among the keys. -/
theorem has_iff_mem_keys {k : κ} {xs : List α} : Has key k xs ↔ k ∈ xs.map key := by
  simp only [Has, List.mem_map]

/-- Nothing is found in an empty list. -/
@[simp]
theorem find_nil (k : κ) : find key k ([] : List α) = none := rfl

/-- The first element is found under its key. -/
theorem find_cons_self {k : κ} {x : α} (h : key x = k) (xs : List α) :
    find key k (x :: xs) = some x := by
  simp [find, h]

/-- Under another key than the first one looks further. -/
theorem find_cons_of_ne {k : κ} {x : α} (h : key x ≠ k) (xs : List α) :
    find key k (x :: xs) = find key k xs := by
  simp [find, h]

/-- What is found is there, under that key. -/
theorem mem_of_find {k : κ} {x : α} {xs : List α} (h : find key k xs = some x) :
    x ∈ xs ∧ key x = k := by
  refine ⟨List.mem_of_find?_eq_some h, ?_⟩
  simpa using List.find?_some h

/-- Nothing is found exactly when the key is not there. -/
theorem find_eq_none_iff {k : κ} {xs : List α} : find key k xs = none ↔ ¬ Has key k xs := by
  simp [find, Has]

/-- With unique keys a lookup finds the value there is. -/
theorem find_of_mem {x : α} {xs : List α} (hnodup : (xs.map key).Nodup) (h : x ∈ xs) :
    find key (key x) xs = some x := by
  induction xs with
  | nil => exact absurd h List.not_mem_nil
  | cons y ys ih =>
      rw [List.map_cons, List.nodup_cons] at hnodup
      rcases List.mem_cons.mp h with rfl | hmem
      · exact find_cons_self rfl ys
      · have hne : key y ≠ key x := fun heq => hnodup.1 (heq ▸ List.mem_map_of_mem hmem)
        rw [find_cons_of_ne hne]
        exact ih hnodup.2 hmem

/-- What is left has other keys. -/
@[simp]
theorem mem_remove {k : κ} {x : α} {xs : List α} :
    x ∈ remove key k xs ↔ x ∈ xs ∧ key x ≠ k := by
  simp [remove]

/-- The key is gone. -/
theorem not_has_remove (k : κ) (xs : List α) : ¬ Has key k (remove key k xs) := by
  rintro ⟨x, hx, hk⟩
  exact (mem_remove.mp hx).2 hk

/-- Nothing is removed exactly when the key is not there. -/
theorem remove_eq_self_iff {k : κ} {xs : List α} : remove key k xs = xs ↔ ¬ Has key k xs := by
  simp [remove, Has, List.filter_eq_self]

/-- An element that was put last is removed again. -/
theorem remove_append_singleton_self {k : κ} {x : α} (h : key x = k) (xs : List α) :
    remove key k (xs ++ [x]) = remove key k xs := by
  simp [remove, h]

/-- What is put in is there. -/
theorem mem_upsert_self (x : α) (xs : List α) : x ∈ upsert key x xs := by
  induction xs with
  | nil => exact List.mem_singleton_self x
  | cons y ys ih =>
      unfold upsert
      split_ifs
      · exact List.mem_cons_self
      · exact List.mem_cons_of_mem y ih

/-- Nothing else comes in. -/
theorem mem_of_mem_upsert {x z : α} {xs : List α} (h : z ∈ upsert key x xs) : z = x ∨ z ∈ xs := by
  induction xs with
  | nil => exact Or.inl (List.mem_singleton.mp h)
  | cons y ys ih =>
      unfold upsert at h
      split_ifs at h
      · rcases List.mem_cons.mp h with rfl | h
        · exact Or.inl rfl
        · exact Or.inr (List.mem_cons_of_mem y h)
      · rcases List.mem_cons.mp h with rfl | h
        · exact Or.inr List.mem_cons_self
        · exact (ih h).imp id (List.mem_cons_of_mem y)

/-- What has another key stays. -/
theorem mem_upsert_of_ne {x z : α} {xs : List α} (hz : z ∈ xs) (hk : key z ≠ key x) :
    z ∈ upsert key x xs := by
  induction xs with
  | nil => exact absurd hz List.not_mem_nil
  | cons y ys ih =>
      unfold upsert
      split_ifs with hy
      · rcases List.mem_cons.mp hz with rfl | hz
        · exact absurd hy hk
        · exact List.mem_cons_of_mem x hz
      · rcases List.mem_cons.mp hz with rfl | hz
        · exact List.mem_cons_self
        · exact List.mem_cons_of_mem y (ih hz)

/-- What was put in under a key goes with the key. -/
theorem remove_upsert_self (x : α) (xs : List α) :
    remove key (key x) (upsert key x xs) = remove key (key x) xs := by
  unfold remove
  induction xs with
  | nil => simp [upsert]
  | cons y ys ih =>
      unfold upsert
      split_ifs with hy
      · simp [hy]
      · rw [List.filter_cons, List.filter_cons, ih]

/-! ### Where an upsert puts the value -/

/-- A key that is there has a first value. -/
theorem has_split {k : κ} {xs : List α} (h : Has key k xs) :
    ∃ front y back, xs = front ++ y :: back ∧ ¬ Has key k front ∧ key y = k := by
  induction xs with
  | nil =>
      obtain ⟨y, hy, -⟩ := h
      exact absurd hy List.not_mem_nil
  | cons x xs ih =>
      by_cases hx : key x = k
      · exact ⟨[], x, xs, rfl, fun ⟨y, hy, _⟩ => absurd hy List.not_mem_nil, hx⟩
      · obtain ⟨y, hy, hk⟩ := h
        have hmem : y ∈ xs := by
          rcases List.mem_cons.mp hy with rfl | hmem
          · exact absurd hk hx
          · exact hmem
        obtain ⟨front, z, back, rfl, hfront, hz⟩ := ih ⟨y, hmem, hk⟩
        refine ⟨x :: front, z, back, rfl, ?_, hz⟩
        rintro ⟨w, hw, hwk⟩
        rcases List.mem_cons.mp hw with rfl | hw
        · exact hx hwk
        · exact hfront ⟨w, hw, hwk⟩

/-- An upsert of a key that is absent appends. -/
theorem upsert_absent {x : α} {xs : List α} (h : ¬ Has key (key x) xs) :
    upsert key x xs = xs ++ [x] := by
  induction xs with
  | nil => rfl
  | cons y ys ih =>
      have hy : key y ≠ key x := fun heq => h ⟨y, List.mem_cons_self, heq⟩
      have hys : ¬ Has key (key x) ys := fun ⟨z, hz, hk⟩ => h ⟨z, List.mem_cons_of_mem y hz, hk⟩
      rw [upsert, if_neg hy, ih hys, List.cons_append]

/-- An upsert of a key that is there replaces its first value, in place. -/
theorem upsert_split {x y : α} {front back : List α} (hfront : ¬ Has key (key x) front)
    (hy : key y = key x) : upsert key x (front ++ y :: back) = front ++ x :: back := by
  induction front with
  | nil => rw [List.nil_append, upsert, if_pos hy, List.nil_append]
  | cons z zs ih =>
      have hz : key z ≠ key x := fun heq => hfront ⟨z, List.mem_cons_self, heq⟩
      have hzs : ¬ Has key (key x) zs :=
        fun ⟨w, hw, hk⟩ => hfront ⟨w, List.mem_cons_of_mem z hw, hk⟩
      rw [List.cons_append, upsert, if_neg hz, ih hzs, List.cons_append]

/-! ### Lookups after an update -/

/-- What is put in is found under its key. -/
theorem find_upsert_self (x : α) (xs : List α) :
    find key (key x) (upsert key x xs) = some x := by
  induction xs with
  | nil => exact find_cons_self rfl []
  | cons y ys ih =>
      unfold upsert
      split_ifs with hy
      · exact find_cons_self rfl ys
      · rw [find_cons_of_ne hy]
        exact ih

/-- What is put in does not change what is found under another key. -/
theorem find_upsert_of_ne {x : α} {k : κ} (hk : key x ≠ k) (xs : List α) :
    find key k (upsert key x xs) = find key k xs := by
  induction xs with
  | nil => rw [upsert, find_cons_of_ne hk]
  | cons y ys ih =>
      unfold upsert
      split_ifs with hy
      · rw [find_cons_of_ne hk, find_cons_of_ne (hy ▸ hk)]
      · by_cases hyk : key y = k
        · rw [find_cons_self hyk, find_cons_self hyk]
        · rw [find_cons_of_ne hyk, find_cons_of_ne hyk, ih]

/-- Nothing is found under a key that was removed. -/
theorem find_remove_self (k : κ) (xs : List α) : find key k (remove key k xs) = none :=
  find_eq_none_iff.mpr (not_has_remove k xs)

/-- Removing a key does not change what is found under another. -/
theorem find_remove_of_ne {k l : κ} (h : l ≠ k) (xs : List α) :
    find key l (remove key k xs) = find key l xs := by
  unfold find remove
  rw [List.find?_filter]
  refine congrArg (fun p => xs.find? p) (funext fun x => ?_)
  by_cases hx : key x = l
  · simp [hx, h]
  · simp [hx]

/-! ### Many updates one after the other -/

/-- Elements with other keys are put in beside it. -/
theorem find_foldl_upsert_of_not_has {k : κ} {ys : List α} (h : ¬ Has key k ys) (xs : List α) :
    find key k (ys.foldl (fun xs y => upsert key y xs) xs) = find key k xs := by
  induction ys generalizing xs with
  | nil => rfl
  | cons y ys ih =>
      have hy : key y ≠ k := fun heq => h ⟨y, List.mem_cons_self, heq⟩
      rw [List.foldl_cons, ih fun ⟨z, hz, hk⟩ => h ⟨z, List.mem_cons_of_mem y hz, hk⟩]
      exact find_upsert_of_ne hy xs

/-- Of values with different keys each is found under its own. -/
theorem find_foldl_upsert_of_mem {y : α} {ys : List α} (hnodup : (ys.map key).Nodup) (h : y ∈ ys)
    (xs : List α) : find key (key y) (ys.foldl (fun xs y => upsert key y xs) xs) = some y := by
  induction ys generalizing xs with
  | nil => exact absurd h List.not_mem_nil
  | cons z zs ih =>
      rw [List.map_cons, List.nodup_cons] at hnodup
      rw [List.foldl_cons]
      rcases List.mem_cons.mp h with rfl | hmem
      · rw [find_foldl_upsert_of_not_has (fun hhas => hnodup.1 (has_iff_mem_keys.mp hhas))]
        exact find_upsert_self y xs
      · exact ih hnodup.2 hmem _

/-- Only what is put in comes in. -/
theorem mem_of_mem_foldl_upsert {z : α} {ys xs : List α}
    (h : z ∈ ys.foldl (fun xs y => upsert key y xs) xs) : z ∈ ys ∨ z ∈ xs := by
  induction ys generalizing xs with
  | nil => exact Or.inr h
  | cons y ys ih =>
      rcases ih h with hmem | hmem
      · exact Or.inl (List.mem_cons_of_mem y hmem)
      · rcases mem_of_mem_upsert hmem with rfl | hmem
        · exact Or.inl List.mem_cons_self
        · exact Or.inr hmem

/-- What is left when several keys are removed. -/
theorem mem_foldl_remove {z : α} {ks : List κ} {xs : List α} :
    z ∈ ks.foldl (fun xs k => remove key k xs) xs ↔ z ∈ xs ∧ key z ∉ ks := by
  induction ks generalizing xs with
  | nil => simp
  | cons k ks ih =>
      rw [List.foldl_cons, ih, mem_remove, List.mem_cons, not_or, and_assoc]

/-- Under a key that is not removed the same is found. -/
theorem find_foldl_remove_of_not_mem {k : κ} {ks : List κ} (h : k ∉ ks) (xs : List α) :
    find key k (ks.foldl (fun xs k => remove key k xs) xs) = find key k xs := by
  induction ks generalizing xs with
  | nil => rfl
  | cons l ks ih =>
      rw [List.mem_cons, not_or] at h
      rw [List.foldl_cons, ih h.2, find_remove_of_ne h.1]

/-! ### Unique keys -/

/-- No key comes twice by putting something in. -/
theorem nodup_upsert {xs : List α} (h : (xs.map key).Nodup) (x : α) :
    ((upsert key x xs).map key).Nodup := by
  induction xs with
  | nil => exact List.nodup_singleton _
  | cons y ys ih =>
      rw [List.map_cons, List.nodup_cons] at h
      unfold upsert
      split_ifs with hy
      · rw [List.map_cons, List.nodup_cons, ← hy]
        exact h
      · rw [List.map_cons, List.nodup_cons]
        refine ⟨fun hmem => ?_, ih h.2⟩
        obtain ⟨z, hz, hkey⟩ := List.mem_map.mp hmem
        rcases mem_of_mem_upsert hz with rfl | hz
        · exact hy hkey.symm
        · exact h.1 (hkey ▸ List.mem_map_of_mem hz)

/-- No key comes twice by removing. -/
theorem nodup_remove {xs : List α} (h : (xs.map key).Nodup) (k : κ) :
    ((remove key k xs).map key).Nodup :=
  h.sublist (List.filter_sublist.map key)

end Found.Keyed
