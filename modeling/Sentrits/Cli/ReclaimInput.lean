import Sentrits.Found.Stripping
import Sentrits.Net.LocalFrames

/-!
# Keys that the client keeps

While the command line is attached to a session, two keys are not passed on: one takes control back,
the other one detaches. Terminals have several encodings for them; `FilterLocalReclaimInput` takes
these out of what was read, one after the other.

* `Encoding`: what terminals send for a key.
* `filterLocalReclaimInput`: the passes, with the early return between them.
* `handleStdin`: the frames that are written for one read.
* `Encoding.passMatcher_eq_none_iff`, `Encoding.passMatcher_of_ne`: **a pass stops at the encodings
  it is for,** but for one form without a NUL behind it, and at no others.
* `filterLocalReclaimInput_of_triggers`, `filterLocalReclaimInput_of_not_triggers`: **either all
  passes are made, or nothing is seen and nothing changed.**

Source: `src/cli/daemon_client.cpp`.
-/

namespace Sentrits.Cli

open Found Stripping Net

/-! ### Encodings -/

/-- The two keys: Ctrl-] and Ctrl-\. -/
inductive Key
  | reclaim
  | detach
  deriving DecidableEq

/-- The ways to encode them. -/
inductive Form
  | classic
  | csiU
  | modifyOtherKeys
  | kitty
  deriving DecidableEq

/-- The escape. -/
def esc : UInt8 := 0x1b

/-- The control character. -/
def Key.byte : Key → UInt8
  | .reclaim => 0x1d
  | .detach => 0x1c

/-- The second digit of the key's character code; the first one is a nine. -/
def Key.digit : Key → UInt8
  | .reclaim => 0x33
  | .detach => 0x32

/-- `ESC [ 9 3 ; 5 u` and `ESC [ 9 2 ; 5 u`. -/
def csiU (key : Key) : Bytes := [esc, 0x5b, 0x39, key.digit, 0x3b, 0x35, 0x75]

/-- `ESC [ 2 7 ; 5 ; 9 3 ~` and `ESC [ 2 7 ; 5 ; 9 2 ~`. -/
def modifyOtherKeys (key : Key) : Bytes :=
  [esc, 0x5b, 0x32, 0x37, 0x3b, 0x35, 0x3b, 0x39, key.digit, 0x7e]

/-- `ESC [ 9 3 ; 5 :` and `ESC [ 9 2 ; 5 :`. -/
def kittyPrefix (key : Key) : Bytes := [esc, 0x5b, 0x39, key.digit, 0x3b, 0x35, 0x3a]

/-- A byte from `0` to `9`. -/
def isDigit (b : UInt8) : Bool := 0x30 ≤ b && b ≤ 0x39

/-- The encodings of a key; the last form has the type of the event behind the colon. -/
inductive Encoding (key : Key) : Form → Bytes → Prop
  | classic : Encoding key .classic [key.byte]
  | csiU : Encoding key .csiU (csiU key)
  | modifyOtherKeys : Encoding key .modifyOtherKeys (modifyOtherKeys key)
  | kitty (digits : Bytes) (hne : digits ≠ []) (hdigits : ∀ b ∈ digits, isDigit b = true) :
      Encoding key .kitty (kittyPrefix key ++ digits ++ [0x75])

/-- An encoding of the key stands in the bytes. -/
def Contains (key : Key) (input : Bytes) : Prop :=
  ∃ form code, Encoding key form code ∧ code <:+: input

/-! ### The filter -/

/-- Source: `daemon_client.cpp` `FilteredInput`. -/
structure FilteredInput where
  sawReclaim : Bool
  sawDetach : Bool
  payload : Bytes
  deriving DecidableEq

/-- The flag of a key. -/
def FilteredInput.saw (result : FilteredInput) : Key → Bool
  | .reclaim => result.sawReclaim
  | .detach => result.sawDetach

/-- Where `find` stops. -/
def startsWith (sequence : Bytes) : Matcher UInt8 := fun xs =>
  if sequence.isPrefixOf xs then some sequence.length else none

/-- Where the loop over the prefixes with an event type erases, and how much. -/
def startsWithKitty (kittyPrefix : Bytes) : Matcher UInt8 := fun xs =>
  if kittyPrefix.isPrefixOf xs then
    let digits := (xs.drop kittyPrefix.length).takeWhile isDigit
    if digits ≠ [] ∧ (xs.drop (kittyPrefix.length + digits.length)).head? = some 0x75 then
      some (kittyPrefix.length + digits.length + 1)
    else none
  else none

/-- One of the loops that find and erase. The position goes up where nothing begins, and stays where
something was erased, so that what comes together around it is not found. A prefix of the last form
that is not gone on with is stepped over whole, which is the same: nothing begins within it. -/
def FilteredInput.erase (result : FilteredInput) (key : Key) (matcher : Matcher UInt8) :
    FilteredInput :=
  let (payload, seen) := stripLoop matcher 0 result.payload
  match key with
  | .reclaim => { result with sawReclaim := result.sawReclaim || seen, payload := payload }
  | .detach => { result with sawDetach := result.sawDetach || seen, payload := payload }

/-- The literals, as long as the code says: the second one with the NUL behind it. -/
def kReclaimSequences : List Bytes :=
  [[0x1d],
    [0x1b, 0x5b, 0x39, 0x33, 0x3b, 0x35, 0x75, 0x00],
    [0x1b, 0x5b, 0x32, 0x37, 0x3b, 0x35, 0x3b, 0x39, 0x33, 0x7e]]

/-- The literals, as long as the code says: the second one with the NUL behind it. -/
def kDetachSequences : List Bytes :=
  [[0x1c],
    [0x1b, 0x5b, 0x39, 0x32, 0x3b, 0x35, 0x75, 0x00],
    [0x1b, 0x5b, 0x32, 0x37, 0x3b, 0x35, 0x3b, 0x39, 0x32, 0x7e]]

/-- Source: `daemon_client.cpp` `FilterLocalReclaimInput`. -/
def filterLocalReclaimInput (input : Bytes) : FilteredInput :=
  let result : FilteredInput := ⟨false, false, input⟩
  let result := kReclaimSequences.foldl
    (fun result sequence => result.erase .reclaim (startsWith sequence)) result
  let result := kDetachSequences.foldl
    (fun result sequence => result.erase .detach (startsWith sequence)) result
  if !result.sawReclaim && !result.sawDetach then result
  else
    [(([0x1b, 0x5b, 0x39, 0x33, 0x3b, 0x35, 0x3a] : Bytes), Key.reclaim),
      ([0x1b, 0x5b, 0x39, 0x32, 0x3b, 0x35, 0x3a], Key.detach)].foldl
      (fun result entry => result.erase entry.2 (startsWithKitty entry.1)) result

/-- What the loop of `AttachSessionLocal` makes of one read: the frames that are written, and
whether it stops. -/
def handleStdin (read : Bytes) : List LocalFrame × Bool :=
  let filtered := filterLocalReclaimInput read
  let reclaimFrames : List LocalFrame := if filtered.sawReclaim then [⟨0x43, []⟩] else []
  let inputFrames : List LocalFrame :=
    if filtered.payload.isEmpty then [] else [⟨0x49, filtered.payload⟩]
  (reclaimFrames ++ inputFrames, filtered.sawDetach)

/-! ### What a pass looks for -/

/-- When a sequence is at the front. -/
theorem startsWith_eq_some_iff (sequence xs : Bytes) (n : ℕ) :
    startsWith sequence xs = some n ↔ ∃ rest, xs = sequence ++ rest ∧ n = sequence.length := by
  unfold startsWith
  rw [Option.ite_none_right_eq_some, List.isPrefixOf_iff_prefix]
  constructor
  · rintro ⟨⟨rest, rfl⟩, hn⟩
    exact ⟨rest, rfl, (Option.some.inj hn).symm⟩
  · rintro ⟨rest, rfl, rfl⟩
    exact ⟨List.prefix_append _ _, rfl⟩

/-- When an encoding of Kitty's protocol is: digits and a `u` follow the prefix. -/
theorem startsWithKitty_eq_some_iff (kittyPrefix xs : Bytes) (n : ℕ) :
    startsWithKitty kittyPrefix xs = some n ↔
      ∃ digits rest, digits ≠ [] ∧ (∀ b ∈ digits, isDigit b = true) ∧
        xs = kittyPrefix ++ digits ++ [0x75] ++ rest ∧
        n = (kittyPrefix ++ digits ++ [0x75]).length := by
  unfold startsWithKitty
  rw [Option.ite_none_right_eq_some, List.isPrefixOf_iff_prefix]
  constructor
  · rintro ⟨⟨behind, rfl⟩, hn⟩
    rw [List.drop_left] at hn
    dsimp only at hn
    rw [Option.ite_none_right_eq_some, ← List.drop_drop, List.drop_left] at hn
    obtain ⟨⟨hne, hhead⟩, hn⟩ := hn
    have hdrop : (behind.takeWhile isDigit ++ behind.dropWhile isDigit).drop
        (behind.takeWhile isDigit).length = behind.dropWhile isDigit := List.drop_left
    rw [List.takeWhile_append_dropWhile] at hdrop
    rw [hdrop] at hhead
    obtain ⟨rest, hrest⟩ : ∃ rest, behind.dropWhile isDigit = 0x75 :: rest := by
      rcases hbehind : behind.dropWhile isDigit with _ | ⟨b, rest⟩
      · rw [hbehind] at hhead
        exact absurd hhead.symm (Option.some_ne_none _)
      · rw [hbehind, List.head?_cons] at hhead
        exact ⟨rest, by rw [Option.some.inj hhead]⟩
    refine ⟨behind.takeWhile isDigit, rest, hne, fun b hb => List.mem_takeWhile_imp hb, ?_, ?_⟩
    · rw [List.append_assoc, List.append_assoc, List.singleton_append, ← hrest,
        List.takeWhile_append_dropWhile]
    · rw [List.length_append, List.length_append, List.length_singleton]
      exact (Option.some.inj hn).symm
  · rintro ⟨digits, rest, hne, hdigits, rfl, rfl⟩
    have htake : (digits ++ [0x75] ++ rest).takeWhile isDigit = digits := by
      rw [List.append_assoc, List.takeWhile_append_of_pos hdigits, List.singleton_append,
        List.takeWhile_cons_of_neg (by decide), List.append_nil]
    rw [List.append_assoc kittyPrefix, List.append_assoc kittyPrefix]
    refine ⟨List.prefix_append _ _, ?_⟩
    dsimp only
    rw [List.drop_left, htake, Option.ite_none_right_eq_some, ← List.drop_drop, List.drop_left,
      List.append_assoc digits, List.drop_left, List.length_append, List.length_append,
      List.length_singleton, Nat.add_assoc]
    exact ⟨⟨hne, rfl⟩, rfl⟩

/-- Which bytes begin an encoding; they stand nowhere else in one. -/
def Mark (b : UInt8) : Prop := b = esc ∨ ∃ key : Key, b = key.byte

/-- Bytes that are no marks: the NUL and all that are no control characters. -/
def plain (b : UInt8) : Bool := b == 0 || 0x1e ≤ b

/-- A plain byte begins nothing. -/
theorem not_mark_of_plain {b : UInt8} (h : plain b = true) : ¬ Mark b := by
  rintro (rfl | ⟨_ | _, rfl⟩)
  · exact absurd h (by decide)
  · exact absurd h (by decide)
  · exact absurd h (by decide)

/-- A mark with plain bytes behind it. -/
theorem marked_of_plain {b : UInt8} {bs : Bytes} (hb : Mark b) (hbs : bs.all plain = true) :
    Marked Mark (b :: bs) :=
  ⟨hb, fun c hc => not_mark_of_plain (List.all_eq_true.mp hbs c hc)⟩

/-- Digits are plain. -/
theorem plain_of_isDigit {b : UInt8} (h : isDigit b = true) : plain b = true := by
  unfold isDigit at h
  rw [Bool.and_eq_true, decide_eq_true_eq] at h
  unfold plain
  rw [Bool.or_eq_true, decide_eq_true_eq]
  exact Or.inr (UInt8.le_trans (by decide) h.1)

/-- What a pass is about: a key, and a way to encode it. -/
abbrev Pass := Key × Form

/-- Where a pass erases. -/
def passMatcher : Pass → Matcher UInt8
  | (key, .classic) => startsWith [key.byte]
  | (key, .csiU) => startsWith (csiU key ++ [0])
  | (key, .modifyOtherKeys) => startsWith (modifyOtherKeys key)
  | (key, .kitty) => startsWithKitty (kittyPrefix key)

/-- What all encodings of a key in one form begin with. -/
def shape : Pass → Bytes
  | (key, .classic) => [key.byte]
  | (key, .csiU) => csiU key
  | (key, .modifyOtherKeys) => modifyOtherKeys key
  | (key, .kitty) => kittyPrefix key

/-- The passes before the early return. -/
def sequencePasses : List Pass :=
  [(.reclaim, .classic), (.reclaim, .csiU), (.reclaim, .modifyOtherKeys),
    (.detach, .classic), (.detach, .csiU), (.detach, .modifyOtherKeys)]

/-- The passes behind it. -/
def kittyPasses : List Pass := [(.reclaim, .kitty), (.detach, .kitty)]

/-- All passes, in their order. -/
def passes : List Pass := sequencePasses ++ kittyPasses

/-- Every key is searched for in every form. -/
theorem mem_passes (pass : Pass) : pass ∈ passes := by
  rcases pass with ⟨_ | _, _ | _ | _ | _⟩ <;> decide

/-- No pass is made twice. -/
theorem passes_nodup : passes.Nodup := by decide

/-- No form begins as another one. -/
theorem shape_injective {pass pass' : Pass} (h : shape pass <+: shape pass') : pass = pass' := by
  have hall : (passes.all fun p => passes.all fun q =>
      !(shape p).isPrefixOf (shape q) || p == q) = true := by decide
  have hpair := List.all_eq_true.mp (List.all_eq_true.mp hall pass (mem_passes pass)) pass'
    (mem_passes pass')
  rw [List.isPrefixOf_iff_prefix.mpr h, Bool.not_true, Bool.false_or] at hpair
  exact eq_of_beq hpair

namespace Encoding

variable {key : Key} {form : Form} {code : Bytes}

/-- An encoding has bytes. -/
theorem ne_nil (h : Encoding key form code) : code ≠ [] := by
  cases h <;> exact List.cons_ne_nil _ _

/-- An encoding begins as all of its form do. -/
theorem shape_prefix (h : Encoding key form code) : shape (key, form) <+: code := by
  cases h with
  | classic => exact List.prefix_refl _
  | csiU => exact List.prefix_refl _
  | modifyOtherKeys => exact List.prefix_refl _
  | kitty digits hne hdigits =>
      rw [List.append_assoc]
      exact List.prefix_append _ _

/-- Text begins with an encoding of one key and form at most. -/
theorem unique {pass : Pass} {code' rest rest' : Bytes} (h : Encoding key form code)
    (h' : Encoding pass.1 pass.2 code') (heq : code ++ rest = code' ++ rest') :
    (key, form) = pass := by
  have hleft : shape (key, form) <+: code ++ rest := h.shape_prefix.trans (List.prefix_append _ _)
  have hright : shape pass <+: code ++ rest := by
    rw [heq]
    exact h'.shape_prefix.trans (List.prefix_append _ _)
  rcases List.prefix_or_prefix_of_prefix hleft hright with hle | hle
  · exact shape_injective hle
  · exact (shape_injective hle).symm

/-- An encoding begins with a mark and has no other, a NUL behind it or not. -/
theorem marked (h : Encoding key form code) {tail : Bytes} (htail : tail = [] ∨ tail = [0]) :
    Marked Mark (code ++ tail) := by
  have hplain : tail.all plain = true := by
    rcases htail with rfl | rfl
    · rfl
    · rfl
  cases h with
  | classic => exact marked_of_plain (Or.inr ⟨key, rfl⟩) hplain
  | csiU =>
      apply marked_of_plain (Or.inl rfl)
      rw [List.append_eq, List.all_append, hplain]
      cases key <;> rfl
  | modifyOtherKeys =>
      apply marked_of_plain (Or.inl rfl)
      rw [List.append_eq, List.all_append, hplain]
      cases key <;> rfl
  | kitty digits hne hdigits =>
      have hdigits' : digits.all plain = true :=
        List.all_eq_true.mpr fun b hb => plain_of_isDigit (hdigits b hb)
      apply marked_of_plain (Or.inl rfl)
      simp only [List.append_eq, List.all_append, hplain, hdigits']
      cases key <;> rfl

end Encoding

/-- What a pass erases is an encoding, or one with a NUL behind it. -/
theorem exists_encoding_of_some {pass : Pass} {xs : Bytes} {n : ℕ}
    (h : passMatcher pass xs = some n) :
    ∃ code tail rest, Encoding pass.1 pass.2 code ∧ (tail = [] ∨ tail = [0]) ∧
      xs = code ++ tail ++ rest ∧ n = (code ++ tail).length := by
  rcases pass with ⟨key, _ | _ | _ | _⟩
  · obtain ⟨rest, rfl, rfl⟩ := (startsWith_eq_some_iff _ _ _).mp h
    exact ⟨_, [], rest, .classic, Or.inl rfl, rfl, rfl⟩
  · obtain ⟨rest, rfl, rfl⟩ := (startsWith_eq_some_iff _ _ _).mp h
    exact ⟨_, [0], rest, .csiU, Or.inr rfl, rfl, rfl⟩
  · obtain ⟨rest, rfl, rfl⟩ := (startsWith_eq_some_iff _ _ _).mp h
    exact ⟨_, [], rest, .modifyOtherKeys, Or.inl rfl, by rw [List.append_nil], by
      rw [List.append_nil]⟩
  · obtain ⟨digits, rest, hne, hdigits, rfl, rfl⟩ := (startsWithKitty_eq_some_iff _ _ _).mp h
    exact ⟨_, [], rest, .kitty digits hne hdigits, Or.inl rfl, by rw [List.append_nil], by
      rw [List.append_nil]⟩

/-- What a pass erases is there, and is something. -/
theorem proper_passMatcher (pass : Pass) : Proper (passMatcher pass) where
  pos := by
    intro xs n h
    obtain ⟨code, tail, rest, hcode, -, -, rfl⟩ := exists_encoding_of_some h
    exact List.length_pos_of_ne_nil (List.append_ne_nil_of_left_ne_nil hcode.ne_nil tail)
  le := by
    intro xs n h
    obtain ⟨code, tail, rest, -, -, rfl, rfl⟩ := exists_encoding_of_some h
    exact (List.prefix_append (code ++ tail) rest).length_le

/-- What a pass erases begins with a mark, and has no other. -/
theorem marked_take {pass : Pass} {xs : Bytes} {n : ℕ} (h : passMatcher pass xs = some n) :
    Marked Mark (xs.take n) := by
  obtain ⟨code, tail, rest, hcode, htail, rfl, rfl⟩ := exists_encoding_of_some h
  rw [List.take_left]
  exact hcode.marked htail

namespace Encoding

variable {key : Key} {form : Form} {code : Bytes}

/-- An encoding begins with a mark, and has no other. -/
theorem marked' (h : Encoding key form code) : Marked Mark code := by
  have hmarked := h.marked (Or.inl rfl)
  rw [List.append_nil] at hmarked
  exact hmarked

/-- Other passes do not stop at the encoding. -/
theorem passMatcher_of_ne (h : Encoding key form code) {pass : Pass} (hne : pass ≠ (key, form))
    (rest : Bytes) : passMatcher pass (code ++ rest) = none := by
  rw [Option.eq_none_iff_forall_ne_some]
  intro n hsome
  obtain ⟨code', tail, rest', hcode', -, heq, -⟩ := exists_encoding_of_some hsome
  rw [List.append_assoc] at heq
  exact hne (h.unique hcode' heq).symm

/-- **Its own pass stops at it,** unless it is of the form `CSI u` and no NUL comes behind. -/
theorem passMatcher_eq_none_iff (h : Encoding key form code) (rest : Bytes) :
    passMatcher (key, form) (code ++ rest) = none ↔ form = .csiU ∧ rest.head? ≠ some 0 := by
  rw [Option.eq_none_iff_forall_ne_some]
  cases h with
  | classic =>
      refine iff_of_false (fun hnone => ?_) (fun hform => by cases hform.1)
      exact hnone _ ((startsWith_eq_some_iff _ _ _).mpr ⟨rest, rfl, rfl⟩)
  | csiU =>
      constructor
      · intro hnone
        refine ⟨rfl, fun hhead => ?_⟩
        rcases rest with _ | ⟨b, rest⟩
        · exact absurd hhead.symm (Option.some_ne_none _)
        · obtain rfl : b = 0 := Option.some.inj hhead
          refine hnone _ ((startsWith_eq_some_iff _ _ _).mpr ⟨rest, ?_, rfl⟩)
          rw [List.append_assoc, List.singleton_append]
      · rintro ⟨-, hhead⟩ n hsome
        obtain ⟨rest', heq, -⟩ := (startsWith_eq_some_iff _ _ _).mp hsome
        rw [List.append_assoc, List.append_cancel_left_eq] at heq
        exact hhead (by rw [heq]; rfl)
  | modifyOtherKeys =>
      refine iff_of_false (fun hnone => ?_) (fun hform => by cases hform.1)
      exact hnone _ ((startsWith_eq_some_iff _ _ _).mpr ⟨rest, rfl, rfl⟩)
  | kitty digits hne hdigits =>
      refine iff_of_false (fun hnone => ?_) (fun hform => by cases hform.1)
      exact hnone _ ((startsWithKitty_eq_some_iff _ _ _).mpr
        ⟨digits, rest, hne, hdigits, rfl, rfl⟩)

end Encoding

/-! ### What the filter does -/

/-- Several passes. -/
def FilteredInput.run (result : FilteredInput) (passes : List Pass) : FilteredInput :=
  passes.foldl (fun result pass => result.erase pass.1 (passMatcher pass)) result

/-- What was read, before the passes. -/
def unfiltered (input : Bytes) : FilteredInput := ⟨false, false, input⟩

namespace FilteredInput

/-- A pass leaves the payload without what it matches. -/
theorem erase_payload (result : FilteredInput) (key : Key) (matcher : Matcher UInt8) :
    (result.erase key matcher).payload = strip matcher result.payload := by
  cases key <;> rfl

/-- A pass has seen its key if it finds anything. -/
theorem erase_saw (result : FilteredInput) (key k : Key) (matcher : Matcher UInt8) :
    (result.erase key matcher).saw k = true ↔
      result.saw k = true ∨ (k = key ∧ found matcher result.payload = true) := by
  cases key <;> cases k <;> simp [erase, saw, found]

/-- The passes, one after the other. -/
theorem run_payload (result : FilteredInput) (passes : List Pass) :
    (result.run passes).payload = stripAll passMatcher passes result.payload := by
  unfold run
  induction passes generalizing result with
  | nil => rfl
  | cons pass passes ih => rw [List.foldl_cons, ih, erase_payload, stripAll_cons]

/-- A key is seen when one of its passes finds something. -/
theorem run_saw (result : FilteredInput) (passes : List Pass) (key : Key) :
    (result.run passes).saw key = true ↔
      result.saw key = true ∨ ∃ form, FoundBy passMatcher passes result.payload (key, form) := by
  unfold run
  induction passes generalizing result with
  | nil =>
      refine (or_iff_left ?_).symm
      rintro ⟨form, before, after, heq, -⟩
      exact absurd heq.symm (List.append_ne_nil_of_right_ne_nil before (List.cons_ne_nil _ _))
  | cons pass passes ih =>
      rw [List.foldl_cons, ih, erase_saw, erase_payload, or_assoc]
      refine or_congr_right ?_
      constructor
      · rintro (⟨rfl, hfound⟩ | ⟨form, hfound⟩)
        · exact ⟨pass.2, (foundBy_cons_iff pass passes _ _).mpr (Or.inl ⟨rfl, hfound⟩)⟩
        · exact ⟨form, (foundBy_cons_iff pass passes _ _).mpr (Or.inr hfound)⟩
      · rintro ⟨form, hform⟩
        rcases (foundBy_cons_iff pass passes _ _).mp hform with ⟨rfl, hfound⟩ | hfound
        · exact Or.inl ⟨rfl, hfound⟩
        · exact Or.inr ⟨form, hfound⟩

end FilteredInput

/-- One of the sequences that are searched before the early return is in the input. -/
def Triggers (input : Bytes) : Prop :=
  ∃ key : Key, [key.byte] <:+: input ∨ csiU key ++ [0] <:+: input ∨ modifyOtherKeys key <:+: input

/-- A sequence is found exactly when it is in the input. -/
theorem found_startsWith_iff {sequence : Bytes} (hne : sequence ≠ []) (xs : Bytes) :
    found (startsWith sequence) xs = true ↔ sequence <:+: xs := by
  rw [found_iff]
  constructor
  · rintro ⟨u, hu, -, hsome⟩
    obtain ⟨n, hn⟩ := Option.ne_none_iff_exists'.mp hsome
    obtain ⟨rest, rfl, -⟩ := (startsWith_eq_some_iff _ _ _).mp hn
    exact (List.prefix_append sequence rest).isInfix.trans hu.isInfix
  · rintro ⟨front, rest, rfl⟩
    refine ⟨sequence ++ rest, ?_, List.append_ne_nil_of_left_ne_nil hne rest, ?_⟩
    · rw [List.append_assoc]
      exact List.suffix_append front _
    · rw [(startsWith_eq_some_iff _ _ _).mpr ⟨rest, rfl, rfl⟩]
      exact Option.some_ne_none _

/-- When one of the passes before the early return finds anything. -/
theorem triggers_iff (input : Bytes) :
    Triggers input ↔ ∃ pass ∈ sequencePasses, found (passMatcher pass) input = true := by
  have hclassic (key : Key) : found (passMatcher (key, .classic)) input = true ↔
      [key.byte] <:+: input := found_startsWith_iff (List.cons_ne_nil _ _) input
  have hcsiU (key : Key) : found (passMatcher (key, .csiU)) input = true ↔
      csiU key ++ [0] <:+: input := found_startsWith_iff (List.cons_ne_nil _ _) input
  have hother (key : Key) : found (passMatcher (key, .modifyOtherKeys)) input = true ↔
      modifyOtherKeys key <:+: input := found_startsWith_iff (List.cons_ne_nil _ _) input
  constructor
  · rintro ⟨key, h | h | h⟩
    · exact ⟨(key, .classic), by cases key <;> decide, (hclassic key).mpr h⟩
    · exact ⟨(key, .csiU), by cases key <;> decide, (hcsiU key).mpr h⟩
    · exact ⟨(key, .modifyOtherKeys), by cases key <;> decide, (hother key).mpr h⟩
  · rintro ⟨⟨key, form⟩, hmem, hfound⟩
    refine ⟨key, ?_⟩
    cases form with
    | classic => exact Or.inl ((hclassic key).mp hfound)
    | csiU => exact Or.inr (Or.inl ((hcsiU key).mp hfound))
    | modifyOtherKeys => exact Or.inr (Or.inr ((hother key).mp hfound))
    | kitty => exact absurd hmem (by cases key <;> decide)

/-- The early return is taken when none of the first passes has seen anything. -/
theorem filterLocalReclaimInput_eq_ite (input : Bytes) :
    filterLocalReclaimInput input =
      if !((unfiltered input).run sequencePasses).sawReclaim &&
          !((unfiltered input).run sequencePasses).sawDetach then
        (unfiltered input).run sequencePasses
      else (unfiltered input).run passes := rfl

/-- The first passes see a key exactly when one of their sequences is in the input. -/
theorem exists_saw_iff (input : Bytes) :
    (∃ key, ((unfiltered input).run sequencePasses).saw key = true) ↔ Triggers input := by
  have hnothing (key : Key) : ¬ (unfiltered input).saw key = true := by
    cases key <;> exact Bool.false_ne_true
  rw [triggers_iff, ← exists_foundBy_iff, Prod.exists]
  apply exists_congr
  intro key
  rw [FilteredInput.run_saw, or_iff_right (hnothing key)]
  exact Iff.rfl

/-- All passes are made. -/
theorem filterLocalReclaimInput_of_triggers {input : Bytes} (h : Triggers input) :
    filterLocalReclaimInput input = (unfiltered input).run passes := by
  obtain ⟨key, hsaw⟩ := (exists_saw_iff input).mpr h
  rw [filterLocalReclaimInput_eq_ite, if_neg]
  intro hnone
  rw [Bool.and_eq_true, Bool.not_eq_true', Bool.not_eq_true'] at hnone
  cases key with
  | reclaim => exact Bool.false_ne_true (hnone.1.symm.trans hsaw)
  | detach => exact Bool.false_ne_true (hnone.2.symm.trans hsaw)

/-- Nothing is seen and nothing changed. -/
theorem filterLocalReclaimInput_of_not_triggers {input : Bytes} (h : ¬ Triggers input) :
    filterLocalReclaimInput input = unfiltered input := by
  have hsaw (key : Key) : ((unfiltered input).run sequencePasses).saw key = false := by
    rw [← Bool.not_eq_true]
    intro hkey
    exact h ((exists_saw_iff input).mp ⟨key, hkey⟩)
  have hpayload : ((unfiltered input).run sequencePasses).payload = input := by
    rw [FilteredInput.run_payload]
    apply stripAll_of_not_found
    intro pass hpass
    rw [← Bool.not_eq_true]
    intro hfound
    exact h ((triggers_iff input).mpr ⟨pass, hpass, hfound⟩)
  have hrun : (unfiltered input).run sequencePasses = unfiltered input := by
    rw [FilteredInput.mk.injEq]
    exact ⟨hsaw .reclaim, hsaw .detach, hpayload⟩
  rw [filterLocalReclaimInput_eq_ite, hrun]
  exact if_pos rfl

/-- Both keys between two letters. -/
example : filterLocalReclaimInput ([0x61, 0x1d] ++ modifyOtherKeys .detach ++ [0x62]) =
    { sawReclaim := true, sawDetach := true, payload := [0x61, 0x62] } := by
  decide

end Sentrits.Cli
