import Mathlib.Data.List.Infix

/-!
# Runs of a labelled machine

A machine is a partial step function `step : σ → α → Option σ`. Everything the outside world
decides (a client's request, what a system call returns, which byte arrives) is part of the
label, so a run is determined by its list of labels; `none` says that the label is not possible
in that state.

* `Reaches step s xs t`: the run over `xs` from `s` ends in `t`.
* `AllStates step P s xs`: `P` holds in every state the run over `xs` passes through, its first
  and last ones included.
* `AllSteps step C s xs`: `C` holds of every step the run takes (state before, label).
* `Reaches.invariant`: what one step preserves, a run preserves.
* `history step s xs`: the steps the run takes, each with the state before it;
  `Reaches.history_invariant` proves facts about it along the run.
* `allStates_iff_checkStates`, `allSteps_iff_checkSteps`: over a given run both are decidable.
* `forall_prefix_iff_forall_mem`: the same rule for what is said of the labels so far.
* `allStates_iff_allSteps`: **the exact-condition rule**. If, from a good state, a step leads to
  a good state exactly when it meets `C`, then a run stays good exactly when all its steps
  meet `C`.
-/

namespace Found.Runs

variable {σ α : Type*}

/-! ### Runs -/

/-- `Reaches step s xs t`: running the labels `xs` from `s` ends in `t`. -/
inductive Reaches (step : σ → α → Option σ) : σ → List α → σ → Prop
  | refl (s : σ) : Reaches step s [] s
  | cons {s t u : σ} {x : α} {xs : List α} :
      step s x = some t → Reaches step t xs u → Reaches step s (x :: xs) u

/-- A state is reachable when some run from an initial state ends in it. -/
def Reachable (step : σ → α → Option σ) (init : σ → Prop) (t : σ) : Prop :=
  ∃ s xs, init s ∧ Reaches step s xs t

/-- `P` holds in every state of the run over `xs` from `s`. -/
def AllStates (step : σ → α → Option σ) (P : σ → Prop) (s : σ) (xs : List α) : Prop :=
  ∀ pre t, pre <+: xs → Reaches step s pre t → P t

/-- `C` holds of every step of the run over `xs` from `s`. -/
def AllSteps (step : σ → α → Option σ) (C : σ → α → Prop) (s : σ) (xs : List α) : Prop :=
  ∀ pre x t u, pre ++ [x] <+: xs → Reaches step s pre t → step t x = some u → C t x

variable {step : σ → α → Option σ}

namespace Reaches

/-- A run without steps stays where it is. -/
theorem nil_iff {s t : σ} : Reaches step s [] t ↔ s = t := by
  constructor
  · rintro ⟨⟩; rfl
  · rintro rfl; exact refl s

/-- A run is its first step and the rest. -/
theorem cons_iff {s u : σ} {x : α} {xs : List α} :
    Reaches step s (x :: xs) u ↔ ∃ t, step s x = some t ∧ Reaches step t xs u := by
  constructor
  · rintro (_ | ⟨h, ht⟩); exact ⟨_, h, ht⟩
  · rintro ⟨t, h, ht⟩; exact cons h ht

/-- Running the labels computes where the run ends. -/
theorem iff_foldlM {s u : σ} {xs : List α} :
    Reaches step s xs u ↔ xs.foldlM step s = some u := by
  induction xs generalizing s with
  | nil => rw [nil_iff, List.foldlM_nil]; exact (Option.some.injEq s u).to_iff.symm
  | cons x xs ih =>
      rw [cons_iff, List.foldlM_cons, Option.bind_eq_bind, Option.bind_eq_some_iff]
      simp only [ih]

/-- **Invariant rule.** -/
theorem invariant (Inv : σ → Prop) (hstep : ∀ s x t, Inv s → step s x = some t → Inv t)
    {s t : σ} {xs : List α} (hs : Inv s) (h : Reaches step s xs t) : Inv t := by
  induction h with
  | refl s => exact hs
  | cons hx _ ih => exact ih (hstep _ _ _ hs hx)

end Reaches

/-- An invariant of the initial states and of every step holds in every reachable state. -/
theorem Reachable.invariant {init Inv : σ → Prop} (hinit : ∀ s, init s → Inv s)
    (hstep : ∀ s x t, Inv s → step s x = some t → Inv t) {t : σ}
    (h : Reachable step init t) : Inv t := by
  obtain ⟨s, xs, hs, hrun⟩ := h
  exact hrun.invariant Inv hstep (hinit s hs)

/-! ### The history of a run -/

/-- The steps the run over the labels takes: the state before each, with its label. -/
def history (step : σ → α → Option σ) : σ → List α → List (σ × α)
  | _, [] => []
  | s, x :: xs =>
      match step s x with
      | none => []
      | some t => (s, x) :: history step t xs

/-- Without steps there is no past. -/
@[simp]
theorem history_nil (s : σ) : history step s [] = [] := rfl

/-- The first step is the oldest. -/
theorem history_cons {s t : σ} {x : α} (h : step s x = some t) (xs : List α) :
    history step s (x :: xs) = (s, x) :: history step t xs := by
  simp only [history, h]

/-- **Invariant rule for histories.** What holds of the first state with nothing done yet, and is
kept when a step is taken and noted, holds of where a run ends and all it did. -/
theorem Reaches.history_invariant (Inv : σ → List (σ × α) → Prop)
    (hstep : ∀ s x t past, Inv s past → step s x = some t → Inv t (past ++ [(s, x)]))
    {s t : σ} {xs : List α} (hs : Inv s []) (h : Reaches step s xs t) :
    Inv t (history step s xs) := by
  suffices hgen : ∀ past, Inv s past → Inv t (past ++ history step s xs) from hgen [] hs
  clear hs
  induction h with
  | refl s =>
      intro past hpast
      rw [history_nil, List.append_nil]
      exact hpast
  | cons hx _ ih =>
      intro past hpast
      rw [history_cons hx, List.append_cons]
      exact ih _ (hstep _ _ _ past hpast hx)

/-- The labels of the history are the labels of the run. -/
theorem Reaches.history_labels {s t : σ} {xs : List α} (h : Reaches step s xs t) :
    (history step s xs).map Prod.snd = xs := by
  induction h with
  | refl s => rfl
  | cons hx _ ih => rw [history_cons hx, List.map_cons, ih]

/-! ### All states and all steps of a run -/

/-- Without steps there is one state. -/
theorem allStates_nil {P : σ → Prop} {s : σ} : AllStates step P s [] ↔ P s := by
  constructor
  · intro h; exact h [] s (List.prefix_refl _) (.refl s)
  · intro h pre t hpre ht
    rw [List.prefix_nil.mp hpre, Reaches.nil_iff] at ht
    exact ht ▸ h

/-- The first state, and those behind the first step. -/
theorem allStates_cons {P : σ → Prop} {s : σ} {x : α} {xs : List α} :
    AllStates step P s (x :: xs) ↔ P s ∧ ∀ t, step s x = some t → AllStates step P t xs := by
  constructor
  · intro h
    refine ⟨h [] s (List.nil_prefix) (.refl s), fun t ht pre u hpre hu => ?_⟩
    exact h (x :: pre) u (by simpa using hpre) (.cons ht hu)
  · rintro ⟨hs, h⟩ pre t hpre ht
    cases pre with
    | nil => rw [Reaches.nil_iff] at ht; exact ht ▸ hs
    | cons y pre =>
        obtain ⟨rfl, hpre'⟩ := List.cons_prefix_cons.mp hpre
        obtain ⟨v, hv, ht⟩ := Reaches.cons_iff.mp ht
        exact h v hv pre t hpre' ht

/-- Without steps there is nothing to check. -/
theorem allSteps_nil {C : σ → α → Prop} {s : σ} : AllSteps step C s [] := by
  intro pre x t u hpre
  simp at hpre

/-- The first step, and those behind it. -/
theorem allSteps_cons {C : σ → α → Prop} {s : σ} {x : α} {xs : List α} :
    AllSteps step C s (x :: xs) ↔ ∀ t, step s x = some t → C s x ∧ AllSteps step C t xs := by
  constructor
  · intro h t ht
    refine ⟨h [] x s t (by simp) (.refl s) ht, fun pre y v u hpre hv hu => ?_⟩
    exact h (x :: pre) y v u (by simpa using hpre) (.cons ht hv) hu
  · intro h pre y v u hpre hv hu
    cases pre with
    | nil =>
        rw [Reaches.nil_iff] at hv
        subst hv
        simp only [List.nil_append, List.cons_prefix_cons] at hpre
        obtain ⟨rfl, -⟩ := hpre
        exact (h u hu).1
    | cons z pre =>
        simp only [List.cons_append, List.cons_prefix_cons] at hpre
        obtain ⟨rfl, hpre⟩ := hpre
        obtain ⟨w, hw, hv⟩ := Reaches.cons_iff.mp hv
        exact (h w hw).2 pre y v u hpre hv hu

/-! ### Deciding a given run -/

/-- Runs the labels and tests every state on the way. -/
def checkStates (step : σ → α → Option σ) (P : σ → Prop) [DecidablePred P] : σ → List α → Bool
  | s, [] => decide (P s)
  | s, x :: xs => decide (P s) && (step s x).all fun t => checkStates step P t xs

/-- Runs the labels and tests every step on the way. -/
def checkSteps (step : σ → α → Option σ) (C : σ → α → Prop) [∀ s x, Decidable (C s x)] :
    σ → List α → Bool
  | _, [] => true
  | s, x :: xs => (step s x).all fun t => decide (C s x) && checkSteps step C t xs

/-- A property of all states can be checked. -/
theorem allStates_iff_checkStates {P : σ → Prop} [DecidablePred P] {s : σ} {xs : List α} :
    AllStates step P s xs ↔ checkStates step P s xs = true := by
  induction xs generalizing s with
  | nil => simp [allStates_nil, checkStates]
  | cons x xs ih =>
      simp only [allStates_cons, checkStates, Bool.and_eq_true, decide_eq_true_iff, ih,
        Option.all_eq_true]

/-- A property of all steps can be checked. -/
theorem allSteps_iff_checkSteps {C : σ → α → Prop} [∀ s x, Decidable (C s x)] {s : σ}
    {xs : List α} : AllSteps step C s xs ↔ checkSteps step C s xs = true := by
  induction xs generalizing s with
  | nil => simp [allSteps_nil, checkSteps]
  | cons x xs ih =>
      simp only [allSteps_cons, checkSteps, Bool.and_eq_true, decide_eq_true_iff, ih,
        Option.all_eq_true]

instance {P : σ → Prop} [DecidablePred P] (s : σ) (xs : List α) :
    Decidable (AllStates step P s xs) :=
  decidable_of_iff _ allStates_iff_checkStates.symm

instance {C : σ → α → Prop} [∀ s x, Decidable (C s x)] (s : σ) (xs : List α) :
    Decidable (AllSteps step C s xs) :=
  decidable_of_iff _ allSteps_iff_checkSteps.symm

/-! ### From steps to runs -/

/-- **The exact-condition rule.** `Inv` is what every run keeps whatever happens. If a step from
a state with `Inv` and `P` leads to a state with `P` exactly when it meets `C`, then a run keeps
`P` exactly when all its steps meet `C`. -/
theorem allStates_iff_allSteps (Inv : σ → Prop) {P : σ → Prop} {C : σ → α → Prop}
    (hinv : ∀ s x t, Inv s → P s → step s x = some t → Inv t)
    (hexact : ∀ s x t, Inv s → P s → step s x = some t → (P t ↔ C s x))
    {s : σ} (hs : Inv s) (hP : P s) (xs : List α) :
    AllStates step P s xs ↔ AllSteps step C s xs := by
  induction xs generalizing s with
  | nil => exact ⟨fun _ => allSteps_nil, fun _ => allStates_nil.mpr hP⟩
  | cons x xs ih =>
      rw [allStates_cons, allSteps_cons]
      constructor
      · rintro ⟨-, h⟩ t ht
        have hPt : P t := h t ht [] t List.nil_prefix (.refl t)
        exact ⟨(hexact s x t hs hP ht).mp hPt,
          (ih (hinv s x t hs hP ht) hPt).mp (h t ht)⟩
      · refine fun h => ⟨hP, fun t ht => ?_⟩
        have hPt : P t := (hexact s x t hs hP ht).mpr (h t ht).1
        exact (ih (hinv s x t hs hP ht) hPt).mpr (h t ht).2

/-- Two properties of a step that agree wherever runs lead hold of the same runs. -/
theorem allSteps_iff_allSteps (Inv : σ → Prop) {C C' : σ → α → Prop}
    (hinv : ∀ s x t, Inv s → step s x = some t → Inv t)
    (hexact : ∀ s x t, Inv s → step s x = some t → (C s x ↔ C' s x)) {s : σ} (hs : Inv s)
    (xs : List α) : AllSteps step C s xs ↔ AllSteps step C' s xs := by
  induction xs generalizing s with
  | nil => exact iff_of_true allSteps_nil allSteps_nil
  | cons x xs ih =>
      rw [allSteps_cons, allSteps_cons]
      refine forall_congr' fun t => forall_congr' fun ht => ?_
      rw [hexact s x t hs ht, ih (hinv s x t hs ht)]

/-- The rule for what is said of all that was done so far, when every label is possible. -/
theorem forall_prefix_iff_forall_mem {P : List α → Prop} {C : α → Prop} (hnil : P [])
    (hexact : ∀ past x, P past → (P (past ++ [x]) ↔ C x)) (xs : List α) :
    (∀ past, past <+: xs → P past) ↔ ∀ x ∈ xs, C x := by
  induction xs using List.reverseRecOn with
  | nil =>
      refine iff_of_true ?_ fun _ h => absurd h List.not_mem_nil
      intro past hpast
      rw [List.prefix_nil.mp hpast]
      exact hnil
  | append_singleton past x ih =>
      constructor
      · intro h y hy
        have hpast : P past := h past (List.prefix_append past [x])
        rcases List.mem_append.mp hy with hy | hy
        · exact ih.mp (fun pre hpre => h pre (hpre.trans (List.prefix_append past [x]))) y hy
        · rw [List.mem_singleton.mp hy]
          exact (hexact past x hpast).mp (h _ (List.prefix_refl _))
      · intro h pre hpre
        have hold := ih.mpr fun y hy => h y (List.mem_append_left _ hy)
        rcases List.prefix_concat_iff.mp hpre with rfl | hpre
        · have hx := h x (List.mem_append_right _ (List.mem_singleton_self x))
          exact (hexact past x (hold past (List.prefix_refl _))).mpr hx
        · exact hold pre hpre

end Found.Runs
