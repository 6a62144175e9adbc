import Sentrits.Found.Runs

/-!
# Runs that emit

A step may also tell what it did: `step : σ → α → Option (σ × List ε)`. What is told takes no part
in how the run goes on; it is what a statement about the run speaks of.

* `silent step`: the machine without what it tells.
* `emitted step s xs`: everything the run over `xs` from `s` tells, in order.
* `forall_emitted_iff_allSteps`: **the exact-condition rule**. If at every step from a good state
  all that is told is right exactly when the step meets `C`, then all that the run tells is right
  exactly when all its steps meet `C`.
-/

namespace Found.Runs

variable {σ α ε : Type*}

/-- The machine without what it tells. -/
def silent (step : σ → α → Option (σ × List ε)) (s : σ) (x : α) : Option σ :=
  (step s x).map Prod.fst

/-- Everything the run over the labels tells. -/
def emitted (step : σ → α → Option (σ × List ε)) : σ → List α → List ε
  | _, [] => []
  | s, x :: xs =>
      match step s x with
      | none => []
      | some (t, told) => told ++ emitted step t xs

variable {step : σ → α → Option (σ × List ε)}

/-- Without steps nothing is told. -/
@[simp]
theorem emitted_nil (s : σ) : emitted step s [] = [] := rfl

/-- Nothing is told of a step that cannot be made. -/
theorem emitted_cons_of_none {s : σ} {x : α} (h : step s x = none) (xs : List α) :
    emitted step s (x :: xs) = [] := by
  simp only [emitted, h]

/-- What the first step tells comes first. -/
theorem emitted_cons {s t : σ} {x : α} {told : List ε} (h : step s x = some (t, told))
    (xs : List α) : emitted step s (x :: xs) = told ++ emitted step t xs := by
  simp only [emitted, h]

/-- The step without what it tells. -/
theorem silent_eq_some {s t : σ} {x : α} :
    silent step s x = some t ↔ ∃ told, step s x = some (t, told) := by
  unfold silent
  rw [Option.map_eq_some_iff]
  constructor
  · rintro ⟨⟨t', told⟩, h, rfl⟩
    exact ⟨told, h⟩
  · rintro ⟨told, h⟩
    exact ⟨(t, told), h, rfl⟩

/-- **The exact-condition rule.** -/
theorem forall_emitted_iff_allSteps (Inv : σ → Prop) {P : ε → Prop} {C : σ → α → Prop}
    (hinv : ∀ s x t told, Inv s → step s x = some (t, told) → Inv t)
    (hexact : ∀ s x t told, Inv s → step s x = some (t, told) → ((∀ e ∈ told, P e) ↔ C s x))
    {s : σ} (hs : Inv s) (xs : List α) :
    (∀ e ∈ emitted step s xs, P e) ↔ AllSteps (silent step) C s xs := by
  induction xs generalizing s with
  | nil => simp [allSteps_nil]
  | cons x xs ih =>
      rw [allSteps_cons]
      rcases hstep : step s x with _ | ⟨t, told⟩
      · rw [emitted_cons_of_none hstep]
        simp [silent, hstep]
      · have hsilent : silent step s x = some t := silent_eq_some.mpr ⟨told, hstep⟩
        have hrest := ih (hinv s x t told hs hstep)
        have hhere := hexact s x t told hs hstep
        rw [emitted_cons hstep, hsilent]
        constructor
        · intro h t' ht'
          obtain rfl := Option.some.inj ht'
          exact ⟨hhere.mp fun e he => h e (List.mem_append_left _ he),
            hrest.mp fun e he => h e (List.mem_append_right _ he)⟩
        · intro h e he
          obtain ⟨hC, hall⟩ := h t rfl
          rcases List.mem_append.mp he with he | he
          · exact hhere.mpr hC e he
          · exact hrest.mpr hall e he

end Found.Runs
