import Sentrits.Cli.ReclaimInput

/-!
# Encodings that are passed on

`FilterLocalReclaimInput` searches for each encoding once, returns early when it has seen none of
the first six, and erases in place. So an encoding may be left: one that is only searched behind the
return, one without the NUL that a literal's length takes in, one that comes together.

* `FilterComplete`: the keys are seen and taken out, and nothing else changes.
* `Erasable`: what the passes need for that.
* `filterComplete_iff`: **the filter is complete exactly when** there is no encoding in the input or
  the input is `Erasable`.
* `not_filterComplete`: a key that is passed on to the session.
* `handleStdin_of_complete`: what a complete filter means for the frames that are written.

Source: `src/cli/daemon_client.cpp`.
-/

namespace Sentrits.Cli

open Found Stripping Net

/-! ### Complete filtering -/

/-- The filter does all it is for: it reports the keys that have an encoding in the input, no
encoding is left in the payload, and input without any is left as it is. -/
def FilterComplete (input : Bytes) : Prop :=
  ((filterLocalReclaimInput input).sawReclaim = true ↔ Contains .reclaim input) ∧
    ((filterLocalReclaimInput input).sawDetach = true ↔ Contains .detach input) ∧
    (∀ key, ¬ Contains key (filterLocalReclaimInput input).payload) ∧
    ((∀ key, ¬ Contains key input) → (filterLocalReclaimInput input).payload = input)

/-- The input without what some passes erase: for each of them in turn, its encodings are left out
from left to right, and what comes together there is not looked at again by the same pass. -/
def without (before : List Pass) (input : Bytes) : Bytes := stripAll passMatcher before input

/-- Every encoding is erased by its own pass, and none comes together where that goes unnoticed or
is reported as another key's. It is a condition on the input alone: `without before input` is what
is left of its bytes where the pass behind `before` begins, whether or not the filter gets there
after its early return; nothing here speaks of what the filter has seen or gives back. -/
structure Erasable (input : Bytes) : Prop where
  /-- A sequence that is searched before the early return is there. -/
  triggers : Triggers input
  /-- Where its pass comes to it, an encoding of the form `CSI u` has a NUL behind it. -/
  csiU : ∀ {before after key rest}, passes = before ++ (key, Form.csiU) :: after →
    Cli.csiU key ++ rest <:+ without before input → rest.head? = some 0
  /-- What comes together around something that a pass erases is searched later, and its key is in
  the input anyway. -/
  joined : ∀ {before pass after key form code}, passes = before ++ pass :: after →
    Encoding key form code → Joins (passMatcher pass) (without before input) code →
    (key, form) ∈ after ∧ Contains key input

variable {input : Bytes}

/-- The passes around one of them are others. -/
theorem notMem_of_passes_eq {before after : List Pass} {pass : Pass}
    (h : passes = before ++ pass :: after) : pass ∉ before ∧ pass ∉ after := by
  have hnodup := passes_nodup
  rw [h, List.nodup_middle, List.nodup_cons, List.mem_append, not_or] at hnodup
  exact hnodup.1

namespace Encoding

variable {key : Key} {form : Form} {code : Bytes}

/-- Passes other than its own leave an encoding. -/
theorem infix_stripAll (h : Encoding key form code) {others : List Pass}
    (hothers : (key, form) ∉ others) {xs : Bytes} (hin : code <:+: xs) :
    code <:+: stripAll passMatcher others xs := by
  refine infix_stripAll_of_marked proper_passMatcher marked_take h.marked' ?_ hin
  intro pass hpass rest
  exact h.passMatcher_of_ne (fun heq => hothers (heq ▸ hpass)) rest

/-- **What its own pass leaves is in the payload.** -/
theorem infix_without_passes (h : Encoding key form code) {before after : List Pass}
    (hpasses : passes = before ++ (key, form) :: after)
    (hin : code <:+: strip (passMatcher (key, form)) (without before input)) :
    code <:+: without passes input := by
  unfold without at hin ⊢
  rw [hpasses, stripAll_append, stripAll_cons]
  exact h.infix_stripAll (notMem_of_passes_eq hpasses).2 hin

/-- Where its own pass comes to an encoding it is found, or it is in the payload. -/
theorem found_or_infix (h : Encoding key form code) {before after : List Pass}
    (hpasses : passes = before ++ (key, form) :: after) (hin : code <:+: without before input) :
    FoundBy passMatcher passes input (key, form) ∨ code <:+: without passes input := by
  obtain ⟨front, rest, hsplit⟩ := hin
  have hsuffix : code ++ rest <:+ without before input := by
    rw [← hsplit, List.append_assoc]
    exact List.suffix_append front _
  rcases hmatch : passMatcher (key, form) (code ++ rest) with _ | n
  · right
    exact h.infix_without_passes hpasses
      (infix_strip_of_marked (proper_passMatcher _) marked_take h.marked' hsuffix hmatch)
  · left
    refine ⟨before, after, hpasses, (found_iff _).mpr ⟨code ++ rest, hsuffix, ?_, ?_⟩⟩
    · exact List.append_ne_nil_of_left_ne_nil h.ne_nil rest
    · rw [hmatch]
      exact Option.some_ne_none n

end Encoding

/-- An encoding that comes together at a pass is in what the pass leaves. -/
theorem infix_of_joins {before : List Pass} {pass : Pass} {key : Key} {form : Form}
    {code : Bytes} (hcode : Encoding key form code)
    (hjoins : Joins (passMatcher pass) (without before input) code) :
    code <:+: strip (passMatcher pass) (without before input) :=
  (infix_strip_iff (proper_passMatcher pass) hcode.ne_nil).mpr (Or.inr hjoins)

/-- What has been seen is in the input, if what comes together is. -/
theorem Erasable.contains_of_foundBy (h : Erasable input) {key : Key} {form : Form}
    (hfound : FoundBy passMatcher passes input (key, form)) : Contains key input := by
  obtain ⟨before, after, hpasses, hfound⟩ := hfound
  obtain ⟨u, hu, -, hsome⟩ := (found_iff _).mp hfound
  obtain ⟨n, hn⟩ := Option.ne_none_iff_exists'.mp hsome
  obtain ⟨code, tail, rest, hcode, -, rfl, -⟩ := exists_encoding_of_some hn
  have hin : code <:+: stripAll passMatcher before input := by
    rw [List.append_assoc] at hu
    exact (List.prefix_append code _).isInfix.trans hu.isInfix
  rcases infix_stripAll proper_passMatcher hcode.ne_nil hin with hin |
    ⟨front, pass, back, rfl, hjoins⟩
  · exact ⟨form, code, hcode, hin⟩
  · rw [List.append_assoc, List.cons_append] at hpasses
    exact (h.joined hpasses hcode hjoins).2

/-- No encoding is left. -/
theorem Erasable.not_infix (h : Erasable input) {key : Key} {form : Form} {code : Bytes}
    (hcode : Encoding key form code) : ¬ code <:+: without passes input := by
  obtain ⟨before, after, hpasses⟩ := List.append_of_mem (mem_passes (key, form))
  have hnotMem := notMem_of_passes_eq hpasses
  intro hin
  unfold without at hin
  rw [hpasses, stripAll_append, stripAll_cons] at hin
  rcases infix_stripAll proper_passMatcher hcode.ne_nil hin with hin |
    ⟨front, pass, back, rfl, hjoins⟩
  · rcases (infix_strip_iff (proper_passMatcher _) hcode.ne_nil).mp hin with
      ⟨front, rest, hread, hkept⟩ | hjoins
    · -- its own pass has left it as it stood
      have hnone := hkept code (List.suffix_refl _) hcode.ne_nil
      obtain ⟨rfl, hhead⟩ := (hcode.passMatcher_eq_none_iff rest).mp hnone
      cases hcode
      exact hhead (h.csiU hpasses hread.suffix)
    · exact hnotMem.2 (h.joined hpasses hcode hjoins).1
  · have hsplit : passes = (before ++ (key, form) :: front) ++ pass :: back := by
      rw [hpasses, List.append_assoc, List.cons_append]
    have hjoins' : Joins (passMatcher pass) (without (before ++ (key, form) :: front) input)
        code := by
      unfold without
      rw [stripAll_append, stripAll_cons]
      exact hjoins
    have hlater := (h.joined hsplit hcode hjoins').1
    exact hnotMem.2 (List.mem_append_right front (List.mem_cons_of_mem pass hlater))

/-- **What is erasable is filtered completely.** -/
theorem Erasable.filterComplete (h : Erasable input) : FilterComplete input := by
  have hsaw (key : Key) : ((unfiltered input).run passes).saw key = true ↔ Contains key input := by
    have hnothing : ¬ (unfiltered input).saw key = true := by
      cases key <;> exact Bool.false_ne_true
    rw [FilteredInput.run_saw, or_iff_right hnothing]
    constructor
    · rintro ⟨form, hfound⟩
      exact h.contains_of_foundBy hfound
    · rintro ⟨form, code, hcode, hin⟩
      obtain ⟨before, after, hpasses⟩ := List.append_of_mem (mem_passes (key, form))
      have hbefore := hcode.infix_stripAll (notMem_of_passes_eq hpasses).1 hin
      exact ⟨form, (hcode.found_or_infix hpasses hbefore).resolve_right (h.not_infix hcode)⟩
  unfold FilterComplete
  rw [filterLocalReclaimInput_of_triggers h.triggers]
  refine ⟨hsaw .reclaim, hsaw .detach, ?_, ?_⟩
  · rintro key ⟨form, code, hcode, hin⟩
    rw [FilteredInput.run_payload] at hin
    exact h.not_infix hcode hin
  · intro hnone
    obtain ⟨key, hcodes⟩ := h.triggers
    rcases hcodes with hin | hin | hin
    · exact absurd ⟨_, _, .classic, hin⟩ (hnone key)
    · exact absurd ⟨_, _, .csiU, (List.prefix_append _ _).isInfix.trans hin⟩ (hnone key)
    · exact absurd ⟨_, _, .modifyOtherKeys, hin⟩ (hnone key)

/-- A complete filter has made all its passes. -/
theorem FilterComplete.erasable (h : FilterComplete input) (hsome : ∃ key, Contains key input) :
    Erasable input := by
  have htriggers : Triggers input := by
    by_contra hnot
    obtain ⟨key, hkey⟩ := hsome
    have hclean := h.2.2.1 key
    rw [filterLocalReclaimInput_of_not_triggers hnot] at hclean
    exact hclean hkey
  unfold FilterComplete at h
  rw [filterLocalReclaimInput_of_triggers htriggers, FilteredInput.run_payload] at h
  obtain ⟨hreclaim, hdetach, hclean, -⟩ := h
  have hsaw {key : Key} {form : Form} (hfound : FoundBy passMatcher passes input (key, form)) :
      Contains key input := by
    have hkey : ((unfiltered input).run passes).saw key = true :=
      (FilteredInput.run_saw _ _ _).mpr (Or.inr ⟨form, hfound⟩)
    cases key with
    | reclaim => exact hreclaim.mp hkey
    | detach => exact hdetach.mp hkey
  refine ⟨htriggers, ?_, ?_⟩
  · intro before after key rest hpasses hsuffix
    by_contra hhead
    have hcode : Encoding key .csiU (csiU key) := .csiU
    have hnone := (hcode.passMatcher_eq_none_iff rest).mpr ⟨rfl, hhead⟩
    have hleft := infix_strip_of_marked (proper_passMatcher _) marked_take hcode.marked' hsuffix
      hnone
    exact hclean key ⟨_, _, hcode, hcode.infix_without_passes hpasses hleft⟩
  · intro before pass after key form code hpasses hcode hjoins
    have hleft := infix_of_joins hcode hjoins
    have hlater : (key, form) ∈ after := by
      by_contra hnotMem
      refine hclean key ⟨form, code, hcode, ?_⟩
      rw [hpasses, stripAll_append, stripAll_cons]
      exact hcode.infix_stripAll hnotMem hleft
    refine ⟨hlater, ?_⟩
    obtain ⟨front, back, rfl⟩ := List.append_of_mem hlater
    have hsplit : passes = (before ++ pass :: front) ++ (key, form) :: back := by
      rw [hpasses, List.append_assoc, List.cons_append]
    have hfront := (notMem_of_passes_eq hsplit).1
    rw [List.mem_append, List.mem_cons, not_or, not_or] at hfront
    have hin : code <:+: without (before ++ pass :: front) input := by
      unfold without
      rw [stripAll_append, stripAll_cons]
      exact hcode.infix_stripAll hfront.2.2 hleft
    rcases hcode.found_or_infix hsplit hin with hfound | hin
    · exact hsaw hfound
    · exact absurd ⟨form, code, hcode, hin⟩ (hclean key)

/-- **The filter does all it is for exactly when** there is no encoding in the input, or a sequence
that is searched before the early return is there, encodings of the form `CSI u` have the NUL behind
them that the length of the literal takes in, and none comes together where it goes unnoticed. -/
theorem filterComplete_iff (input : Bytes) :
    FilterComplete input ↔ (∀ key, ¬ Contains key input) ∨ Erasable input := by
  constructor
  · intro h
    by_cases hsome : ∃ key, Contains key input
    · exact Or.inr (h.erasable hsome)
    · exact Or.inl (not_exists.mp hsome)
  · rintro (hnone | h)
    · have hnot : ¬ Triggers input := by
        rintro ⟨key, hin | hin | hin⟩
        · exact hnone key ⟨_, _, .classic, hin⟩
        · exact hnone key ⟨_, _, .csiU, (List.prefix_append _ _).isInfix.trans hin⟩
        · exact hnone key ⟨_, _, .modifyOtherKeys, hin⟩
      unfold FilterComplete
      rw [filterLocalReclaimInput_of_not_triggers hnot]
      refine ⟨iff_of_false Bool.false_ne_true (hnone _), iff_of_false Bool.false_ne_true (hnone _),
        hnone, fun _ => rfl⟩
    · exact h.filterComplete

/-- **Ctrl-] is passed on to the session** when a terminal sends it as `CSI u`, and so it is with
the type of the event. -/
theorem not_filterComplete :
    (filterLocalReclaimInput (csiU .reclaim) = unfiltered (csiU .reclaim) ∧
      ¬ FilterComplete (csiU .reclaim)) ∧
    (filterLocalReclaimInput (kittyPrefix .reclaim ++ [0x31, 0x75]) =
        unfiltered (kittyPrefix .reclaim ++ [0x31, 0x75]) ∧
      ¬ FilterComplete (kittyPrefix .reclaim ++ [0x31, 0x75])) := by
  have hcsiU : filterLocalReclaimInput (csiU .reclaim) = unfiltered (csiU .reclaim) := by decide
  have hkitty : filterLocalReclaimInput (kittyPrefix .reclaim ++ [0x31, 0x75]) =
      unfiltered (kittyPrefix .reclaim ++ [0x31, 0x75]) := by decide
  refine ⟨⟨hcsiU, fun h => ?_⟩, ⟨hkitty, fun h => ?_⟩⟩
  · have hsaw := h.1
    rw [hcsiU] at hsaw
    exact Bool.false_ne_true (hsaw.mpr ⟨_, _, .csiU, List.infix_refl _⟩)
  · have hsaw := h.1
    rw [hkitty] at hsaw
    refine Bool.false_ne_true (hsaw.mpr ⟨_, _, .kitty [0x31] ?_ ?_, List.infix_refl _⟩)
    · exact List.cons_ne_nil _ _
    · intro b hb
      rw [List.mem_singleton.mp hb]
      decide

/-- Where the filter is complete the loop stops exactly at the detach key, asks for control exactly
at the reclaim key, and writes no encoding of either. -/
theorem handleStdin_of_complete {read : Bytes} (h : FilterComplete read) :
    ((handleStdin read).2 = true ↔ Contains .detach read) ∧
      (⟨0x43, []⟩ ∈ (handleStdin read).1 ↔ Contains .reclaim read) ∧
      ∀ frame ∈ (handleStdin read).1, ∀ key, ¬ Contains key frame.payload := by
  obtain ⟨hreclaim, hdetach, hclean, -⟩ := h
  have hempty (key : Key) : ¬ Contains key [] := by
    rintro ⟨form, code, hcode, hin⟩
    exact hcode.ne_nil (List.infix_nil.mp hin)
  unfold handleStdin
  dsimp only
  refine ⟨hdetach, ?_, ?_⟩
  · rw [← hreclaim, List.mem_append]
    constructor
    · rintro (hmem | hmem)
      · by_contra hnot
        rw [if_neg hnot] at hmem
        exact List.not_mem_nil hmem
      · split_ifs at hmem
        · exact absurd hmem List.not_mem_nil
        · have htype : (0x43 : UInt8) = 0x49 := congrArg LocalFrame.type (List.mem_singleton.mp hmem)
          exact absurd htype (by decide)
    · intro hsaw
      left
      rw [if_pos hsaw]
      exact List.mem_singleton_self _
  · intro frame hframe key
    rcases List.mem_append.mp hframe with hmem | hmem
    · split_ifs at hmem
      · rw [List.mem_singleton.mp hmem]
        exact hempty key
      · exact absurd hmem List.not_mem_nil
    · split_ifs at hmem
      · exact absurd hmem List.not_mem_nil
      · rw [List.mem_singleton.mp hmem]
        exact hclean key

end Sentrits.Cli
