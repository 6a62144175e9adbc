import Mathlib.Data.List.Infix
import Mathlib.Order.Basic

/-!
# Leaving out what matches

A filter goes over a list from left to right and leaves out each piece that matches where it stands;
the bytes before such a piece and those behind it come together, and are not looked at again.

* `stripLoop`, `strip`, `found`: the filter, what it leaves, and whether it left out anything.
* `Reads`: a word is read from the list, pieces that match left out; `Reads.strip_eq`,
  `exists_reads`: **what can be read is what is left.**
* `Joins`: a word comes together around a piece that is left out.
* `infix_strip_iff`: **a word is in what is left exactly when** it was kept as it stood or comes
  together.
* `strip_eq_self_iff`: nothing is left out exactly when nothing matches.
* `without_strip`: what is left is the list without pieces.
* `infix_strip_of_marked`: where pieces and words begin with a mark and have no other mark, no word
  is torn apart.
* `stripAll`: several filters, one after the other; `infix_stripAll`, `infix_stripAll_of_marked`,
  `exists_foundBy_iff`: what they leave, and whether one of them finds anything.
-/

namespace Found.Stripping

variable {α : Type*}

/-- The length of what matches at the front of a list, if anything does. -/
abbrev Matcher (α : Type*) := List α → Option ℕ

variable (m : Matcher α)

/-- Goes over a list; the number counts the elements of a piece that are still to be left out. The
flag says whether a piece was found. -/
def stripLoop : ℕ → List α → List α × Bool
  | _, [] => ([], false)
  | skip + 1, _ :: xs => stripLoop skip xs
  | 0, x :: xs =>
      match m (x :: xs) with
      | some length => ((stripLoop (length - 1) xs).1, true)
      | none => (x :: (stripLoop 0 xs).1, (stripLoop 0 xs).2)

/-- What is left. -/
def strip (xs : List α) : List α := (stripLoop m 0 xs).1

/-- A piece was left out. -/
def found (xs : List α) : Bool := (stripLoop m 0 xs).2

/-- What matches is something, and it is there. -/
structure Proper (m : Matcher α) : Prop where
  pos : ∀ {xs n}, m xs = some n → 0 < n
  le : ∀ {xs n}, m xs = some n → n ≤ xs.length

/-! ### One piece, one element -/

variable {m}

/-- The rest of a piece is left out first. -/
theorem stripLoop_skip (skip : ℕ) (xs : List α) :
    stripLoop m skip xs = stripLoop m 0 (xs.drop skip) := by
  induction skip generalizing xs with
  | zero => rfl
  | succ skip ih =>
      rcases xs with _ | ⟨x, xs⟩
      · rfl
      · exact ih xs

/-- Nothing is left of nothing. -/
@[simp]
theorem strip_nil : strip m [] = [] := rfl

/-- A piece at the front is left out. -/
theorem strip_of_some (hm : Proper m) {xs : List α} {n : ℕ} (h : m xs = some n) :
    strip m xs = strip m (xs.drop n) := by
  have hpos := hm.pos h
  rcases xs with _ | ⟨x, xs⟩
  · exact absurd (hm.le h) (Nat.not_le.mpr hpos)
  · obtain ⟨n, rfl⟩ : ∃ k, n = k + 1 := ⟨n - 1, by omega⟩
    unfold strip
    rw [stripLoop, h]
    dsimp only
    rw [Nat.add_sub_cancel, stripLoop_skip, List.drop_succ_cons]

/-- An element at which nothing matches is kept. -/
theorem strip_of_none {x : α} {xs : List α} (h : m (x :: xs) = none) :
    strip m (x :: xs) = x :: strip m xs := by
  unfold strip
  rw [stripLoop, h]

/-- What is proved of a list behind a piece, and of a list behind an element, holds of all lists. -/
theorem strip_induction (hm : Proper m) {motive : List α → Prop} (nil : motive [])
    (piece : ∀ xs n, m xs = some n → motive (xs.drop n) → motive xs)
    (keep : ∀ x xs, m (x :: xs) = none → motive xs → motive (x :: xs)) (xs : List α) :
    motive xs := by
  induction hlength : xs.length using Nat.strong_induction_on generalizing xs with
  | _ length ih =>
      rcases xs with _ | ⟨x, xs⟩
      · exact nil
      · rcases hmatch : m (x :: xs) with _ | n
        · exact keep x xs hmatch (ih xs.length (by rw [← hlength]; simp) xs rfl)
        · have hpos := hm.pos hmatch
          refine piece (x :: xs) n hmatch (ih _ ?_ _ rfl)
          rw [← hlength, List.length_drop, List.length_cons]
          omega

/-- **A piece is found exactly when** something matches somewhere. -/
theorem found_iff (xs : List α) : found m xs = true ↔ ∃ u, u <:+ xs ∧ u ≠ [] ∧ m u ≠ none := by
  induction xs with
  | nil =>
      constructor
      · intro h
        exact absurd h Bool.false_ne_true
      · rintro ⟨u, hu, hne, -⟩
        exact absurd (List.suffix_nil.mp hu) hne
  | cons x xs ih =>
      unfold found at ih ⊢
      rw [stripLoop]
      rcases hmatch : m (x :: xs) with _ | n
      · dsimp only
        rw [ih]
        constructor
        · rintro ⟨u, hu, hne, hsome⟩
          exact ⟨u, hu.trans (List.suffix_cons x xs), hne, hsome⟩
        · rintro ⟨u, hu, hne, hsome⟩
          rcases List.suffix_cons_iff.mp hu with rfl | hu
          · exact absurd hmatch hsome
          · exact ⟨u, hu, hne, hsome⟩
      · apply iff_of_true rfl
        exact ⟨x :: xs, List.suffix_refl _, List.cons_ne_nil x xs, by simp [hmatch]⟩

/-- Nothing that was not there is left. -/
theorem strip_sublist (hm : Proper m) (xs : List α) : (strip m xs).Sublist xs := by
  induction xs using strip_induction hm with
  | nil => exact List.Sublist.refl []
  | piece xs n hmatch ih =>
      rw [strip_of_some hm hmatch]
      exact ih.trans (List.drop_sublist n xs)
  | keep x xs hmatch ih =>
      rw [strip_of_none hmatch]
      exact ih.cons_cons x

/-- Where nothing is found all is left. -/
theorem strip_of_not_found (xs : List α) (h : found m xs = false) : strip m xs = xs := by
  induction xs with
  | nil => rfl
  | cons x xs ih =>
      unfold found at h ih
      rw [stripLoop] at h
      rcases hmatch : m (x :: xs) with _ | n
      · rw [hmatch] at h
        rw [strip_of_none hmatch, ih h]
      · rw [hmatch] at h
        exact absurd h.symm Bool.false_ne_true

/-- **All is left exactly when nothing matches.** -/
theorem strip_eq_self_iff (hm : Proper m) (xs : List α) :
    strip m xs = xs ↔ ∀ u, u <:+ xs → u ≠ [] → m u = none := by
  constructor
  · intro h u hu hne
    by_contra hsome
    -- the first piece makes what is left shorter
    have hshorter : ∀ ys : List α, found m ys = true → (strip m ys).length < ys.length := by
      intro ys
      induction ys using strip_induction hm with
      | nil => exact fun hfound => absurd hfound Bool.false_ne_true
      | piece ys n hmatch _ =>
          intro _
          have hle := (strip_sublist hm (ys.drop n)).length_le
          have hpos := hm.pos hmatch
          have hlength := hm.le hmatch
          rw [strip_of_some hm hmatch]
          rw [List.length_drop] at hle
          omega
      | keep y ys hmatch ih =>
          intro hfound
          have hlater : found m ys = true := by
            unfold found at hfound ⊢
            rw [stripLoop, hmatch] at hfound
            exact hfound
          rw [strip_of_none hmatch, List.length_cons, List.length_cons]
          exact Nat.succ_lt_succ (ih hlater)
    have hlength := hshorter xs ((found_iff xs).mpr ⟨u, hu, hne, hsome⟩)
    rw [h] at hlength
    exact lt_irrefl _ hlength
  · intro h
    apply strip_of_not_found
    rw [← Bool.not_eq_true, found_iff]
    rintro ⟨u, hu, hne, hsome⟩
    exact hsome (h u hu hne)

/-! ### Words that are read -/

/-- `Reads m xs word rest`: the word is read from the list, with pieces that match left out, and the
rest is what comes behind. -/
inductive Reads (m : Matcher α) : List α → List α → List α → Prop
  | nil (xs : List α) : Reads m xs [] xs
  | skip {xs word rest : List α} {n : ℕ} (hmatch : m xs = some n)
      (hread : Reads m (xs.drop n) word rest) : Reads m xs word rest
  | keep {x : α} {xs word rest : List α} (hmatch : m (x :: xs) = none)
      (hread : Reads m xs word rest) : Reads m (x :: xs) (x :: word) rest

/-- The word comes together around a piece that is left out, somewhere in the list. -/
def Joins (m : Matcher α) (xs word : List α) : Prop :=
  ∃ front start left mid n right rest, Reads m xs front start ∧ word = left ++ right ∧
    left ≠ [] ∧ right ≠ [] ∧ Reads m start left mid ∧ m mid = some n ∧
    Reads m (mid.drop n) right rest

/-- The word stands in the list and is kept as it is. -/
def Keeps (m : Matcher α) (xs word : List α) : Prop :=
  ∃ front rest, Reads m xs front (word ++ rest) ∧
    ∀ u, u <:+ word → u ≠ [] → m (u ++ rest) = none

namespace Reads

variable {xs word rest : List α}

/-- **What is read is what is left.** -/
theorem strip_eq (hm : Proper m) (h : Reads m xs word rest) :
    strip m xs = word ++ strip m rest := by
  induction h with
  | nil xs => rfl
  | skip hmatch _ ih => rw [strip_of_some hm hmatch, ih]
  | keep hmatch _ ih => rw [strip_of_none hmatch, ih, List.cons_append]

/-- One word after the other. -/
theorem trans {word' rest' : List α} (h : Reads m xs word rest) (h' : Reads m rest word' rest') :
    Reads m xs (word ++ word') rest' := by
  induction h with
  | nil xs => exact h'
  | skip hmatch _ ih => exact .skip hmatch (ih h')
  | keep hmatch _ ih => exact .keep hmatch (ih h')

/-- The rest is where the list ends. -/
theorem suffix (h : Reads m xs word rest) : rest <:+ xs := by
  induction h with
  | nil xs => exact List.suffix_refl xs
  | skip _ _ ih => exact ih.trans (List.drop_suffix _ _)
  | keep _ _ ih => exact ih.trans (List.suffix_cons _ _)

/-- A word that is read stands there, or a piece is left out within it. -/
theorem cases_skip (h : Reads m xs word rest) :
    (∃ rest', xs = word ++ rest' ∧ Reads m rest' [] rest ∧
        ∀ u, u <:+ word → u ≠ [] → m (u ++ rest') = none) ∨
      ∃ left mid n right, word = left ++ right ∧ right ≠ [] ∧ Reads m xs left mid ∧
        m mid = some n ∧ Reads m (mid.drop n) right rest := by
  induction h with
  | nil xs =>
      refine Or.inl ⟨xs, rfl, .nil xs, fun u hu hne => ?_⟩
      exact absurd (List.suffix_nil.mp hu) hne
  | @skip xs word rest n hmatch hread _ =>
      rcases word with _ | ⟨x, word⟩
      · refine Or.inl ⟨xs, rfl, .skip hmatch hread, fun u hu hne => ?_⟩
        exact absurd (List.suffix_nil.mp hu) hne
      · exact Or.inr ⟨[], xs, n, x :: word, rfl, List.cons_ne_nil x word, .nil xs, hmatch, hread⟩
  | @keep x xs word rest hmatch _ ih =>
      rcases ih with ⟨rest', rfl, hrest, hkept⟩ |
        ⟨left, mid, n, right, rfl, hright, hleft, hmid, hread⟩
      · refine Or.inl ⟨rest', rfl, hrest, fun u hu hne => ?_⟩
        rcases List.suffix_cons_iff.mp hu with rfl | hu
        · exact hmatch
        · exact hkept u hu hne
      · exact Or.inr ⟨x :: left, mid, n, right, rfl, hright, .keep hmatch hleft, hmid, hread⟩

/-- Before the first element of a word, whole pieces are left out. -/
theorem head (h : Reads m xs word rest) (hne : word ≠ []) :
    ∃ x xs' word', word = x :: word' ∧ Reads m xs [] (x :: xs') ∧ m (x :: xs') = none ∧
      Reads m xs' word' rest := by
  induction h with
  | nil xs => exact absurd rfl hne
  | skip hmatch _ ih =>
      obtain ⟨x, xs', word', hword, hbefore, hnone, hread⟩ := ih hne
      exact ⟨x, xs', word', hword, .skip hmatch hbefore, hnone, hread⟩
  | keep hmatch hread _ => exact ⟨_, _, _, rfl, .nil _, hmatch, hread⟩

end Reads

/-- **What is left can be read.** -/
theorem exists_reads (hm : Proper m) {xs word ys : List α} (h : strip m xs = word ++ ys) :
    ∃ rest, Reads m xs word rest ∧ strip m rest = ys := by
  induction xs using strip_induction hm generalizing word with
  | nil =>
      rw [strip_nil] at h
      obtain ⟨rfl, rfl⟩ := List.append_eq_nil_iff.mp h.symm
      exact ⟨[], .nil [], rfl⟩
  | piece xs n hmatch ih =>
      rw [strip_of_some hm hmatch] at h
      obtain ⟨rest, hread, hrest⟩ := ih h
      exact ⟨rest, .skip hmatch hread, hrest⟩
  | keep x xs hmatch ih =>
      rcases word with _ | ⟨y, word⟩
      · exact ⟨x :: xs, .nil _, h⟩
      · rw [strip_of_none hmatch, List.cons_append] at h
        obtain ⟨rfl, htail⟩ := List.cons.inj h
        obtain ⟨rest, hread, hrest⟩ := ih htail
        exact ⟨rest, .keep hmatch hread, hrest⟩

/-- A word that is kept as it stands is read. -/
theorem reads_of_kept {word rest : List α} (h : ∀ u, u <:+ word → u ≠ [] → m (u ++ rest) = none) :
    Reads m (word ++ rest) word rest := by
  induction word with
  | nil => exact .nil rest
  | cons x word ih =>
      refine .keep (h (x :: word) (List.suffix_refl _) (List.cons_ne_nil x word)) (ih ?_)
      intro u hu hne
      exact h u (hu.trans (List.suffix_cons x word)) hne

/-- **A word is in what is left exactly when** it was kept as it stood, or comes together. -/
theorem infix_strip_iff (hm : Proper m) {xs word : List α} (hne : word ≠ []) :
    word <:+: strip m xs ↔ Keeps m xs word ∨ Joins m xs word := by
  constructor
  · rintro ⟨front, back, hstrip⟩
    rw [List.append_assoc] at hstrip
    obtain ⟨start, hfront, hstart⟩ := exists_reads hm hstrip.symm
    obtain ⟨rest, hread, -⟩ := exists_reads hm hstart
    obtain ⟨x, xs', word', rfl, hbefore, hnone, hrest⟩ := hread.head hne
    rcases hrest.cases_skip with ⟨rest', rfl, -, hkept⟩ |
      ⟨left, mid, n, right, rfl, hright, hleft, hmid, hread'⟩
    · refine Or.inl ⟨front, rest', ?_, fun u hu hu' => ?_⟩
      · have hboth := hfront.trans hbefore
        rw [List.append_nil] at hboth
        exact hboth
      · rcases List.suffix_cons_iff.mp hu with rfl | hu
        · exact hnone
        · exact hkept u hu hu'
    · exact Or.inr ⟨front, start, x :: left, mid, n, right, rest, hfront, rfl,
        List.cons_ne_nil x left, hright, hbefore.trans (.keep hnone hleft), hmid, hread'⟩
  · rintro (⟨front, rest, hfront, hkept⟩ |
      ⟨front, start, left, mid, n, right, rest, hfront, rfl, -, -, hleft, hmid, hright⟩)
    · refine ⟨front, strip m rest, ?_⟩
      rw [(hfront.trans (reads_of_kept hkept)).strip_eq hm]
    · refine ⟨front, strip m rest, ?_⟩
      rw [(hfront.trans (hleft.trans (.skip hmid hright))).strip_eq hm]

/-! ### Pieces -/

/-- The second list is the first without some of the pieces that have a property. -/
inductive Without (P : List α → Prop) : List α → List α → Prop
  | nil : Without P [] []
  | keep (x : α) {xs ys : List α} (h : Without P xs ys) : Without P (x :: xs) (x :: ys)
  | drop {piece xs ys : List α} (hpiece : P piece) (h : Without P xs ys) :
      Without P (piece ++ xs) ys

/-- Nothing but pieces that match is left out. -/
theorem without_strip (hm : Proper m) {P : List α → Prop}
    (hpiece : ∀ {xs n}, m xs = some n → P (xs.take n)) (xs : List α) :
    Without P xs (strip m xs) := by
  induction xs using strip_induction hm with
  | nil => exact .nil
  | piece xs n hmatch ih =>
      have hdrop := Without.drop (hpiece hmatch) ih
      rw [List.take_append_drop] at hdrop
      rw [strip_of_some hm hmatch]
      exact hdrop
  | keep x xs hmatch ih =>
      rw [strip_of_none hmatch]
      exact .keep x ih

/-- Begins with a mark and has no other mark. -/
def Marked (mark : α → Prop) : List α → Prop
  | [] => False
  | x :: xs => mark x ∧ ∀ y ∈ xs, ¬ mark y

variable {mark : α → Prop}

/-- Where a piece begins there is a mark. -/
theorem mark_of_some (hm : Proper m) (hpiece : ∀ {xs n}, m xs = some n → Marked mark (xs.take n))
    {x : α} {xs : List α} {n : ℕ} (h : m (x :: xs) = some n) : mark x := by
  obtain ⟨n, rfl⟩ : ∃ k, n = k + 1 := ⟨n - 1, by have := hm.pos h; omega⟩
  have hmarked := hpiece h
  rw [List.take_succ_cons] at hmarked
  exact hmarked.1

/-- No word begins within a piece. -/
theorem suffix_drop_of_marked (hpiece : ∀ {xs n}, m xs = some n → Marked mark (xs.take n))
    {xs word rest : List α} {n : ℕ} (hword : Marked mark word) (hsuffix : word ++ rest <:+ xs)
    (hmatch : m xs = some n) (hnone : m (word ++ rest) = none) : word ++ rest <:+ xs.drop n := by
  obtain ⟨front, rfl⟩ := hsuffix
  rcases word with _ | ⟨x, word⟩
  · exact hword.elim
  · rcases front with _ | ⟨y, front⟩
    · rw [List.nil_append, hnone] at hmatch
      exact absurd hmatch (Option.some_ne_none n).symm
    · have hmarked := hpiece hmatch
      by_cases hle : n ≤ (y :: front).length
      · rw [List.drop_append_of_le_length hle]
        exact List.suffix_append _ _
      · -- the mark of the word would be a second one in the piece
        obtain ⟨n, rfl⟩ : ∃ k, n = k + 1 := ⟨n - 1, by omega⟩
        rw [List.length_cons] at hle
        rw [List.cons_append, List.take_succ_cons] at hmarked
        refine absurd hword.1 (hmarked.2 x ?_)
        rw [List.take_append, List.mem_append]
        right
        obtain ⟨k, hk⟩ : ∃ k, n - front.length = k + 1 := ⟨n - front.length - 1, by omega⟩
        rw [hk, List.cons_append, List.take_succ_cons]
        exact List.mem_cons_self

/-- **Words are not torn apart:** where a word stands at which nothing matches, it is left as it is,
if pieces and word begin with a mark and have no other. -/
theorem infix_strip_of_marked (hm : Proper m)
    (hpiece : ∀ {xs n}, m xs = some n → Marked mark (xs.take n)) {xs word rest : List α}
    (hword : Marked mark word) (hsuffix : word ++ rest <:+ xs) (hnone : m (word ++ rest) = none) :
    word <:+: strip m xs := by
  induction xs using strip_induction hm with
  | nil =>
      rw [(List.append_eq_nil_iff.mp (List.suffix_nil.mp hsuffix)).1]
      exact List.nil_infix
  | piece xs n hmatch ih =>
      rw [strip_of_some hm hmatch]
      exact ih (suffix_drop_of_marked hpiece hword hsuffix hmatch hnone)
  | keep x xs hmatch ih =>
      rcases List.suffix_cons_iff.mp hsuffix with heq | hsuffix
      · rw [← heq]
        have hread : Reads m (word ++ rest) word rest := by
          apply reads_of_kept
          intro u hu hne
          rcases word with _ | ⟨y, word⟩
          · exact hword.elim
          · rcases List.suffix_cons_iff.mp hu with rfl | hu
            · exact hnone
            · rcases u with _ | ⟨z, u⟩
              · exact absurd rfl hne
              · rw [Option.eq_none_iff_forall_ne_some]
                intro n hsome
                exact hword.2 z (hu.subset List.mem_cons_self) (mark_of_some hm hpiece hsome)
        exact ⟨[], strip m rest, (hread.strip_eq hm).symm⟩
      · rw [strip_of_none hmatch]
        exact (ih hsuffix).trans (List.suffix_cons x _).isInfix

/-! ### One filter after the other -/

variable {ι : Type*}

/-- What several filters leave, each going over what the ones before it left. -/
def stripAll (m : ι → Matcher α) (passes : List ι) (xs : List α) : List α :=
  passes.foldl (fun xs pass => strip (m pass) xs) xs

/-- A filter that comes behind some others finds a piece in what these left. -/
def FoundBy (m : ι → Matcher α) (passes : List ι) (xs : List α) (pass : ι) : Prop :=
  ∃ before after, passes = before ++ pass :: after ∧ found (m pass) (stripAll m before xs) = true

variable {m : ι → Matcher α}

/-- Without filters all is left. -/
@[simp]
theorem stripAll_nil (xs : List α) : stripAll m [] xs = xs := rfl

/-- The first filter comes first. -/
@[simp]
theorem stripAll_cons (pass : ι) (passes : List ι) (xs : List α) :
    stripAll m (pass :: passes) xs = stripAll m passes (strip (m pass) xs) := rfl

/-- Some filters after others. -/
theorem stripAll_append (before after : List ι) (xs : List α) :
    stripAll m (before ++ after) xs = stripAll m after (stripAll m before xs) := by
  unfold stripAll
  rw [List.foldl_append]

/-- The first filter finds something, or a later one does. -/
theorem foundBy_cons_iff (first : ι) (passes : List ι) (xs : List α) (pass : ι) :
    FoundBy m (first :: passes) xs pass ↔
      (pass = first ∧ found (m first) xs = true) ∨
        FoundBy m passes (strip (m first) xs) pass := by
  constructor
  · rintro ⟨before, after, heq, hfound⟩
    rcases before with _ | ⟨p, before⟩
    · obtain ⟨rfl, -⟩ := List.cons.inj heq
      exact Or.inl ⟨rfl, hfound⟩
    · obtain ⟨rfl, rfl⟩ := List.cons.inj heq
      exact Or.inr ⟨before, after, rfl, hfound⟩
  · rintro (⟨rfl, hfound⟩ | ⟨before, after, rfl, hfound⟩)
    · exact ⟨[], passes, rfl, hfound⟩
    · exact ⟨first :: before, after, rfl, hfound⟩

/-- **One of the filters finds something exactly when** one of them would, alone. -/
theorem exists_foundBy_iff (passes : List ι) (xs : List α) :
    (∃ pass, FoundBy m passes xs pass) ↔ ∃ pass ∈ passes, found (m pass) xs = true := by
  induction passes with
  | nil =>
      constructor
      · rintro ⟨pass, before, after, heq, -⟩
        exact absurd heq.symm (List.append_ne_nil_of_right_ne_nil before (List.cons_ne_nil _ _))
      · rintro ⟨pass, hmem, -⟩
        exact absurd hmem List.not_mem_nil
  | cons first passes ih =>
      by_cases hfirst : found (m first) xs = true
      · apply iff_of_true
        · exact ⟨first, (foundBy_cons_iff first passes xs first).mpr (Or.inl ⟨rfl, hfirst⟩)⟩
        · exact ⟨first, List.mem_cons_self, hfirst⟩
      · have hsame := strip_of_not_found xs (Bool.not_eq_true _ ▸ hfirst)
        constructor
        · rintro ⟨pass, hpass⟩
          rcases (foundBy_cons_iff first passes xs pass).mp hpass with ⟨-, hfound⟩ | hpass
          · exact absurd hfound hfirst
          · rw [hsame] at hpass
            obtain ⟨p, hmem, hfound⟩ := ih.mp ⟨pass, hpass⟩
            exact ⟨p, List.mem_cons_of_mem first hmem, hfound⟩
        · rintro ⟨p, hmem, hfound⟩
          rcases List.mem_cons.mp hmem with rfl | hmem
          · exact absurd hfound hfirst
          · obtain ⟨pass, hpass⟩ := ih.mpr ⟨p, hmem, hfound⟩
            refine ⟨pass, (foundBy_cons_iff first passes xs pass).mpr (Or.inr ?_)⟩
            rw [hsame]
            exact hpass

/-- Where no filter would find anything all is left. -/
theorem stripAll_of_not_found {passes : List ι} {xs : List α}
    (h : ∀ pass ∈ passes, found (m pass) xs = false) : stripAll m passes xs = xs := by
  induction passes with
  | nil => rfl
  | cons first passes ih =>
      rw [stripAll_cons, strip_of_not_found xs (h first List.mem_cons_self)]
      exact ih fun pass hpass => h pass (List.mem_cons_of_mem first hpass)

/-- A word that is left was there, or came together at one of the filters. -/
theorem infix_stripAll (hm : ∀ pass, Proper (m pass)) {passes : List ι} {xs word : List α}
    (hne : word ≠ []) (h : word <:+: stripAll m passes xs) :
    word <:+: xs ∨ ∃ before pass after, passes = before ++ pass :: after ∧
      Joins (m pass) (stripAll m before xs) word := by
  induction passes generalizing xs with
  | nil => exact Or.inl h
  | cons first passes ih =>
      rcases ih h with hin | ⟨before, pass, after, rfl, hjoins⟩
      · rcases (infix_strip_iff (hm first) hne).mp hin with ⟨front, rest, hread, -⟩ | hjoins
        · exact Or.inl ((List.prefix_append word rest).isInfix.trans hread.suffix.isInfix)
        · exact Or.inr ⟨[], first, passes, rfl, hjoins⟩
      · exact Or.inr ⟨first :: before, pass, after, rfl, hjoins⟩

/-- **Words that no filter looks for are left.** -/
theorem infix_stripAll_of_marked (hm : ∀ pass, Proper (m pass))
    (hpiece : ∀ {pass xs n}, m pass xs = some n → Marked mark (xs.take n)) {passes : List ι}
    {xs word : List α} (hword : Marked mark word)
    (hnone : ∀ pass ∈ passes, ∀ rest, m pass (word ++ rest) = none) (h : word <:+: xs) :
    word <:+: stripAll m passes xs := by
  induction passes generalizing xs with
  | nil => exact h
  | cons first passes ih =>
      obtain ⟨front, rest, rfl⟩ := h
      refine ih (fun pass hpass => hnone pass (List.mem_cons_of_mem first hpass)) ?_
      have hsuffix : word ++ rest <:+ front ++ word ++ rest := by
        rw [List.append_assoc]
        exact List.suffix_append front _
      exact infix_strip_of_marked (hm first) hpiece hword hsuffix
        (hnone first List.mem_cons_self rest)

end Found.Stripping
