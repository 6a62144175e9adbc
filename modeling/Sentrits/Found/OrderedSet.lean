import Mathlib.Data.List.Nodup

/-!
# Sets in the order of insertion

A set kept as the list of its elements, each once, in the order in which they came.

* `OrderedSet`: the list, with the proof that nothing stands in it twice.
* `insert`, `ofList`: an element comes behind the others unless it is there.
* `union`, `diff`: what is new of the second set comes behind the first; what is in the second set
  leaves the first.
* `foldl_insert_elems`: **inserting the elements of a set one by one is the union with it**.
-/

namespace Found

/-- A set as the list of its elements in the order of insertion. -/
@[ext]
structure OrderedSet (α : Type*) where
  elems : List α
  nodup : elems.Nodup

namespace OrderedSet

variable {α : Type*}

/-- The set without elements. -/
def empty : OrderedSet α := ⟨[], List.nodup_nil⟩

/-- Nothing is in the empty set. -/
@[simp]
theorem elems_empty : (empty : OrderedSet α).elems = [] := rfl

variable [DecidableEq α]

instance : DecidableEq (OrderedSet α) := fun _ _ => decidable_of_iff _ OrderedSet.ext_iff.symm

/-! ### The operations -/

/-- Puts an element behind the others, unless it is there. -/
def insert (s : OrderedSet α) (a : α) : OrderedSet α where
  elems := if a ∈ s.elems then s.elems else s.elems ++ [a]
  nodup := by
    split_ifs with h
    · exact s.nodup
    · rw [← List.concat_eq_append]
      exact s.nodup.concat h

/-- The elements of a list, each where it first stands in it. -/
def ofList (l : List α) : OrderedSet α := l.foldl insert empty

/-- What is new of the second set, behind the first. -/
def union (s t : OrderedSet α) : OrderedSet α where
  elems := s.elems ++ t.elems.filter (· ∉ s.elems)
  nodup := by
    rw [List.nodup_append]
    refine ⟨s.nodup, t.nodup.filter _, ?_⟩
    rintro a ha b hb rfl
    exact (of_decide_eq_true (List.mem_filter.mp hb).2) ha

/-- The first set without what is in the second. -/
def diff (s t : OrderedSet α) : OrderedSet α where
  elems := s.elems.filter (· ∉ t.elems)
  nodup := s.nodup.filter _

/-- An element comes last unless it is there. -/
theorem elems_insert (s : OrderedSet α) (a : α) :
    (s.insert a).elems = if a ∈ s.elems then s.elems else s.elems ++ [a] := rfl

/-- What is new comes last. -/
theorem elems_union (s t : OrderedSet α) :
    (s.union t).elems = s.elems ++ t.elems.filter (· ∉ s.elems) := rfl

/-- What is taken away is not there. -/
theorem elems_diff (s t : OrderedSet α) :
    (s.diff t).elems = s.elems.filter (· ∉ t.elems) := rfl

/-! ### One by one -/

/-- A loop that puts elements into a list unless they are there inserts them into the set. -/
theorem foldl_elems (s : OrderedSet α) (l : List α) :
    l.foldl (fun elems a => if a ∈ elems then elems else elems ++ [a]) s.elems =
      (l.foldl insert s).elems := by
  induction l generalizing s with
  | nil => rfl
  | cons a l ih =>
      rw [List.foldl_cons, List.foldl_cons, ← ih, elems_insert]

/-- What distinct elements add to a set is those that are not in it. -/
theorem foldl_insert_of_nodup (s : OrderedSet α) {l : List α} (h : l.Nodup) :
    (l.foldl insert s).elems = s.elems ++ l.filter (· ∉ s.elems) := by
  induction l generalizing s with
  | nil => simp
  | cons a l ih =>
      obtain ⟨ha, hl⟩ := List.nodup_cons.mp h
      rw [List.foldl_cons, ih _ hl, elems_insert]
      by_cases hmem : a ∈ s.elems
      · rw [if_pos hmem, List.filter_cons_of_neg (by simpa using hmem)]
      · -- `a` is put behind the others, and does not come again
        have hrest : l.filter (· ∉ s.elems ++ [a]) = l.filter (· ∉ s.elems) := by
          refine List.filter_congr fun b hb => ?_
          have hne : b ≠ a := fun heq => ha (heq ▸ hb)
          simp [hne]
        rw [if_neg hmem, hrest, List.filter_cons_of_pos (by simpa using hmem), List.append_assoc]
        rfl

/-- **Inserting the elements of a set one by one is the union with it.** -/
theorem foldl_insert_elems (s t : OrderedSet α) : t.elems.foldl insert s = s.union t :=
  OrderedSet.ext (foldl_insert_of_nodup s t.nodup)

end OrderedSet

end Found
