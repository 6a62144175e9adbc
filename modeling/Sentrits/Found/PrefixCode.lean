import Mathlib.Data.List.Basic

/-!
# Codes that are read back word by word

A code writes each value as a word. When it can be told from the words that follow where one ends,
what was written can be read back, up to a sign that no word begins with.

* `PrefixFree`, `prefixFree_of_read`: the words are told apart, as they are when there is a reader.
* `flatMap_stop_inj`: **values and what follows the stop sign are known from what was written.**
* `append_stop_inj`: so is what has no stop sign in it.
-/

namespace Found.PrefixCode

variable {α β : Type}

/-- Whatever follows a word, it is known which word it is. -/
def PrefixFree (code : α → List β) : Prop :=
  ∀ a b s t, code a ++ s = code b ++ t → a = b ∧ s = t

/-- A code whose words are read back one at a time. -/
theorem prefixFree_of_read {code : α → List β} {read : List β → Option (α × List β)}
    (h : ∀ a rest, read (code a ++ rest) = some (a, rest)) : PrefixFree code := by
  intro a b s t heq
  have hread := congrArg read heq
  rw [h, h] at hread
  exact Prod.mk.inj (Option.some.inj hread)

/-- **What was written is known:** the values, and what follows the stop sign. -/
theorem flatMap_stop_inj {code : α → List β} (hcode : PrefixFree code) {stop : β}
    (hstop : ∀ a, ∃ first rest, code a = first :: rest ∧ first ≠ stop) {left right : List α}
    {s t : List β} (h : left.flatMap code ++ stop :: s = right.flatMap code ++ stop :: t) :
    left = right ∧ s = t := by
  have hends : ∀ (a : α) (more s t : List β), code a ++ more ++ s ≠ stop :: t := by
    intro a more s t heq
    obtain ⟨first, rest, hfirst, hne⟩ := hstop a
    rw [hfirst] at heq
    exact hne (List.cons.inj heq).1
  induction left generalizing right with
  | nil =>
      rcases right with _ | ⟨b, right⟩
      · exact ⟨rfl, (List.cons.inj h).2⟩
      · rw [List.flatMap_cons] at h
        exact absurd h.symm (hends b _ _ _)
  | cons a left ih =>
      rcases right with _ | ⟨b, right⟩
      · rw [List.flatMap_cons] at h
        exact absurd h (hends a _ _ _)
      · rw [List.flatMap_cons, List.flatMap_cons, List.append_assoc, List.append_assoc] at h
        obtain ⟨rfl, hrest⟩ := hcode a b _ _ h
        obtain ⟨rfl, htail⟩ := ih hrest
        exact ⟨rfl, htail⟩

/-- What is in front of the first stop sign is known, and what is behind it. -/
theorem append_stop_inj {stop : β} {left right s t : List β} (hleft : stop ∉ left)
    (hright : stop ∉ right) (h : left ++ stop :: s = right ++ stop :: t) :
    left = right ∧ s = t := by
  induction left generalizing right with
  | nil =>
      rcases right with _ | ⟨b, right⟩
      · exact ⟨rfl, (List.cons.inj h).2⟩
      · exact absurd ((List.cons.inj h).1 ▸ List.mem_cons_self) hright
  | cons a left ih =>
      rw [List.mem_cons, not_or] at hleft
      rcases right with _ | ⟨b, right⟩
      · exact absurd (List.cons.inj h).1.symm hleft.1
      · rw [List.mem_cons, not_or] at hright
        obtain ⟨rfl, hrest⟩ := List.cons.inj h
        obtain ⟨rfl, htail⟩ := ih hleft.2 hright.2 hrest
        exact ⟨rfl, htail⟩

end Found.PrefixCode
