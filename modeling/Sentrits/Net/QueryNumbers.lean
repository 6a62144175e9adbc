import Mathlib.Tactic.Ring
import Sentrits.Net.UrlEncoding

/-!
# Numbers in queries

Three parsers read a number from the value of a query item. All three hand the raw value to
`std::stoull`, which looks for a number at the front of the text only, and none decodes it first.

* `FrontNumber`, `stoull_eq_some_iff`: the number the C library finds, as a grammar.
* `Exact`: a text is read exactly when it is decimal digits of a number in the range.
* `ReadAsWritten`, `exact_inRange_iff`: **when the number found is the number written.**
* `query_numbers_exact_iff`: the three parsers.

Source: `src/net/http_shared.cpp`.
-/

namespace Sentrits.Net

open Found Found.Bytes

/-! ### The number at the front of a text -/

/-- A number below `2 ^ 64` at the front of a text: blanks, at most one sign, and all the digits
that follow, whatever stands behind them. -/
def FrontNumber (text : Bytes) (negative : Bool) (value : ℕ) : Prop :=
  ∃ blanks sign digits rest, text = blanks ++ (sign ++ (digits ++ rest)) ∧
    (∀ ch ∈ blanks, isSpace ch = true) ∧
    sign ∈ (if negative then [[minusSign]] else [[], [plusSign]]) ∧
    digits ≠ [] ∧ (∀ ch ∈ digits, isDigit ch = true) ∧ (∀ ch ∈ rest.head?, isDigit ch = false) ∧
    decimalValue digits = value ∧ value < 2 ^ 64

/-- What such a number counts: a negative one counts down from `2 ^ 64`. -/
def counted (negative : Bool) (value : ℕ) : ℕ :=
  if negative then (2 ^ 64 - value) % 2 ^ 64 else value

/-- Digits stop where something else begins. -/
theorem takeWhile_isDigit_append {digits rest : Bytes} (hdigits : ∀ ch ∈ digits, isDigit ch = true)
    (hrest : ∀ ch ∈ rest.head?, isDigit ch = false) :
    (digits ++ rest).takeWhile isDigit = digits := by
  rw [List.takeWhile_append_of_pos hdigits]
  rcases rest with _ | ⟨ch, rest⟩
  · simp
  · rw [List.takeWhile_cons_of_neg (by simp [hrest ch rfl]), List.append_nil]

/-- Blanks stop where something else begins. -/
theorem dropWhile_isSpace_append {blanks rest : Bytes} (hblanks : ∀ ch ∈ blanks, isSpace ch = true)
    (hrest : ∀ ch ∈ rest.head?, isSpace ch = false) :
    (blanks ++ rest).dropWhile isSpace = rest := by
  rw [List.dropWhile_append_of_pos hblanks]
  rcases rest with _ | ⟨ch, rest⟩
  · rfl
  · rw [List.dropWhile_cons_of_neg (by simp [hrest ch rfl])]

/-- What a loop over a text leaves begins with something else. -/
theorem head_dropWhile (p : UInt8 → Bool) (text : Bytes) :
    ∀ ch ∈ (text.dropWhile p).head?, p ch = false := by
  intro ch hch
  have hnot := List.head?_dropWhile_not p text
  rw [Option.mem_def.mp hch] at hnot
  simpa using hnot

/-- The number of digits alone. -/
theorem stoull_digits {digits rest : Bytes} (hne : digits ≠ [])
    (hdigits : ∀ ch ∈ digits, isDigit ch = true) (hrest : ∀ ch ∈ rest.head?, isDigit ch = false)
    {sign : Bytes} {negative : Bool}
    (hsign : sign ∈ (if negative then [[minusSign]] else [[], [plusSign]]))
    {blanks : Bytes} (hblanks : ∀ ch ∈ blanks, isSpace ch = true) :
    stoull (blanks ++ (sign ++ (digits ++ rest))) =
      if 2 ^ 64 ≤ decimalValue digits then none
      else some (counted negative (decimalValue digits)) := by
  obtain ⟨digit, more, rfl⟩ := List.exists_cons_of_ne_nil hne
  obtain ⟨hspace, hminus, hplus⟩ := not_sign_of_isDigit (hdigits digit List.mem_cons_self)
  have htake : (digit :: (more ++ rest)).takeWhile isDigit = digit :: more :=
    takeWhile_isDigit_append hdigits hrest
  have hdrop : (blanks ++ (sign ++ (digit :: more ++ rest))).dropWhile isSpace =
      sign ++ (digit :: more ++ rest) := by
    refine dropWhile_isSpace_append hblanks ?_
    intro ch hch
    cases negative with
    | true =>
        obtain rfl := List.mem_singleton.mp hsign
        obtain rfl := Option.some.inj hch
        decide
    | false =>
        rcases List.mem_cons.mp hsign with rfl | hsign
        · obtain rfl := Option.some.inj hch
          exact hspace
        · obtain rfl := List.mem_singleton.mp hsign
          obtain rfl := Option.some.inj hch
          decide
  unfold stoull counted
  rw [hdrop]
  cases negative with
  | true =>
      obtain rfl := List.mem_singleton.mp hsign
      simp [htake]
  | false =>
      rcases List.mem_cons.mp hsign with rfl | hsign
      · simp [hminus, hplus, htake]
      · obtain rfl := List.mem_singleton.mp hsign
        simp [htake, show plusSign ≠ minusSign by decide]

/-- **The number the C library reads.** -/
theorem stoull_eq_some_iff {text : Bytes} {n : ℕ} :
    stoull text = some n ↔
      ∃ negative value, FrontNumber text negative value ∧ counted negative value = n := by
  constructor
  · intro h
    -- the text is split where the loops of the library stop
    let signed := text.dropWhile isSpace
    have hsplit : ∃ negative sign digits, ∃ rest : Bytes, signed = sign ++ (digits ++ rest) ∧
        sign ∈ (if negative then [[minusSign]] else [[], [plusSign]]) ∧
        (∀ ch ∈ digits, isDigit ch = true) ∧ (∀ ch ∈ rest.head?, isDigit ch = false) ∧
        stoull text = if digits.isEmpty || 2 ^ 64 ≤ decimalValue digits then none
          else some (counted negative (decimalValue digits)) := by
      have hdigits : ∀ rest : Bytes, ∀ ch ∈ rest.takeWhile isDigit, isDigit ch = true :=
        fun rest ch hch => List.mem_takeWhile_imp hch
      by_cases hminus : signed.head? = some minusSign
      · obtain ⟨rest, hrest⟩ := List.head?_eq_some_iff.mp hminus
        refine ⟨true, [minusSign], rest.takeWhile isDigit, rest.dropWhile isDigit, ?_,
          List.mem_singleton_self _, hdigits rest, head_dropWhile isDigit rest, ?_⟩
        · rw [List.takeWhile_append_dropWhile, hrest]
          rfl
        · unfold stoull counted
          simp [show text.dropWhile isSpace = minusSign :: rest from hrest]
      · by_cases hplus : signed.head? = some plusSign
        · obtain ⟨rest, hrest⟩ := List.head?_eq_some_iff.mp hplus
          refine ⟨false, [plusSign], rest.takeWhile isDigit, rest.dropWhile isDigit, ?_,
            List.mem_cons_of_mem _ (List.mem_singleton_self _), hdigits rest,
            head_dropWhile isDigit rest, ?_⟩
          · rw [List.takeWhile_append_dropWhile, hrest]
            rfl
          · unfold stoull counted
            simp [show text.dropWhile isSpace = plusSign :: rest from hrest,
              show plusSign ≠ minusSign by decide]
        · refine ⟨false, [], signed.takeWhile isDigit, signed.dropWhile isDigit, ?_,
            List.mem_cons_self, hdigits signed, head_dropWhile isDigit signed, ?_⟩
          · rw [List.takeWhile_append_dropWhile]
            rfl
          · unfold stoull counted
            simp [show (text.dropWhile isSpace).head? ≠ some minusSign from hminus,
              show (text.dropWhile isSpace).head? ≠ some plusSign from hplus, signed]
    obtain ⟨negative, sign, digits, rest, hsigned, hsign, hdigits, hrest, hread⟩ := hsplit
    rw [h] at hread
    split_ifs at hread with hnone
    simp only [Bool.or_eq_true, List.isEmpty_iff, decide_eq_true_eq, not_or, not_le] at hnone
    refine ⟨negative, decimalValue digits, ⟨text.takeWhile isSpace, sign, digits, rest, ?_,
      fun ch hch => List.mem_takeWhile_imp hch, hsign, hnone.1, hdigits, hrest, rfl, hnone.2⟩,
      (Option.some.inj hread).symm⟩
    rw [← hsigned, List.takeWhile_append_dropWhile]
  · rintro ⟨negative, value, ⟨blanks, sign, digits, rest, rfl, hblanks, hsign, hne, hdigits, hrest,
      rfl, hvalue⟩, rfl⟩
    rw [stoull_digits hne hdigits hrest hsign hblanks, if_neg (by omega)]

/-! ### Digits that are encoded -/

/-- Digits at the front of a value stand for themselves. -/
theorem urlDecode_digits_append {digits : Bytes} (h : ∀ ch ∈ digits, isDigit ch = true)
    (rest : Bytes) : urlDecode (digits ++ rest) = (urlDecode rest).map (digits ++ ·) := by
  induction digits with
  | nil =>
      exact Option.map_id'.symm
  | cons ch digits ih =>
      have hch := h ch List.mem_cons_self
      have hpercent : ch ≠ percentSign := by
        rintro rfl
        exact absurd hch (by decide)
      rw [List.cons_append, urlDecode_cons_of_ne hpercent, if_neg (not_sign_of_isDigit hch).2.2,
        ih fun b hb => h b (List.mem_cons_of_mem ch hb), Option.map_map]
      rfl

/-- Nothing is decoded from nothing only. -/
theorem eq_nil_of_urlDecode {raw : Bytes} (h : urlDecode raw = some []) : raw = [] := by
  rcases raw with _ | ⟨ch, rest⟩
  · rfl
  · by_cases hpercent : ch = percentSign
    · subst hpercent
      rcases rest with _ | ⟨high, _ | ⟨low, rest⟩⟩
      · simp [urlDecode] at h
      · simp [urlDecode] at h
      · rw [urlDecode, if_pos rfl] at h
        split at h
        next =>
          obtain ⟨s, -, hs⟩ := Option.map_eq_some_iff.mp h
          exact absurd hs (by simp)
        next => exact absurd h (by simp)
    · rw [urlDecode_cons_of_ne hpercent] at h
      obtain ⟨s, -, hs⟩ := Option.map_eq_some_iff.mp h
      exact absurd hs (by simp)

/-- A value that stands for a digit first, and does not begin with one, begins with its code; there
is no number at its front. -/
theorem stoull_eq_none_of_encoded {raw s : Bytes} {digit : UInt8}
    (hdecode : urlDecode raw = some (digit :: s)) (hdigit : isDigit digit = true)
    (hraw : ∀ ch ∈ raw.head?, isDigit ch = false) : stoull raw = none := by
  rcases raw with _ | ⟨ch, rest⟩
  · rfl
  · by_cases hpercent : ch = percentSign
    · subst hpercent
      have hdrop : (percentSign :: rest).dropWhile isSpace = percentSign :: rest :=
        List.dropWhile_cons_of_neg (by decide)
      unfold stoull
      simp [hdrop, show percentSign ≠ minusSign by decide, show percentSign ≠ plusSign by decide,
        show isDigit percentSign = false by decide]
    · rw [urlDecode_cons_of_ne hpercent] at hdecode
      obtain ⟨s', -, hs'⟩ := Option.map_eq_some_iff.mp hdecode
      obtain ⟨hhead, -⟩ := List.cons.inj hs'
      split_ifs at hhead with hplus
      · rw [← hhead] at hdigit
        exact absurd hdigit (by decide)
      · rw [← hhead, hraw ch rfl] at hdigit
        exact absurd hdigit (by decide)

/-! ### What digits are worth -/

/-- The value of digits before other digits. -/
theorem decimalValue_append (digits digits' : Bytes) :
    decimalValue (digits ++ digits') =
      decimalValue digits * 10 ^ digits'.length + decimalValue digits' := by
  have hfrom : ∀ (text : Bytes) (value : ℕ),
      text.foldl (fun value digit => 10 * value + (digit - 0x30).toNat) value =
        value * 10 ^ text.length + decimalValue text := by
    intro text
    unfold decimalValue
    induction text with
    | nil => simp
    | cons digit text ih =>
        intro value
        rw [List.foldl_cons, List.foldl_cons, ih, ih (10 * 0 + _), List.length_cons, pow_succ]
        ring
  rw [decimalValue, List.foldl_append]
  exact hfrom digits' _

/-- So many digits write a number below so high a power of ten. -/
theorem decimalValue_lt {digits : Bytes} (h : ∀ ch ∈ digits, isDigit ch = true) :
    decimalValue digits < 10 ^ digits.length := by
  induction digits with
  | nil => exact Nat.one_pos
  | cons digit digits ih =>
      have hrest := ih fun ch hch => h ch (List.mem_cons_of_mem digit hch)
      have hdigit := h digit List.mem_cons_self
      unfold isDigit at hdigit
      simp only [Bool.and_eq_true, decide_eq_true_eq, UInt8.le_iff_toNat_le,
        UInt8.reduceToNat] at hdigit
      have hvalue : decimalValue [digit] ≤ 9 := by
        show 10 * 0 + (digit - 0x30).toNat ≤ 9
        rw [UInt8.toNat_sub]
        simp only [UInt8.reduceToNat]
        omega
      have hmul := Nat.mul_le_mul_right (10 ^ digits.length) hvalue
      rw [← List.singleton_append, decimalValue_append, List.length_append, pow_add,
        List.length_singleton]
      omega

/-- Digits are worth as much as the first of them only when they are worth nothing. -/
theorem decimalValue_append_eq_left {digits digits' : Bytes} (hne : digits' ≠ []) :
    decimalValue digits = decimalValue (digits ++ digits') ↔
      decimalValue (digits ++ digits') = 0 := by
  have hten : 10 ≤ 10 ^ digits'.length := Nat.le_self_pow (by simpa using hne) 10
  have hgrows : decimalValue digits * 10 ≤ decimalValue digits * 10 ^ digits'.length :=
    Nat.mul_le_mul_left _ hten
  rw [decimalValue_append]
  omega

/-! ### When a number is read as it is written -/

/-- A text is the decimal digits of a number in the range. -/
def Fits (low bound : ℕ) (s : Bytes) : Prop :=
  (∀ ch ∈ s, isDigit ch = true) ∧ low ≤ decimalValue s ∧ decimalValue s < bound

/-- **A text is read exactly**: as the number its digits write, if that is in the range; anything
else is refused. -/
def Exact (low bound : ℕ) (result : Option ℕ) (s : Bytes) : Prop :=
  ∀ n, result = some n ↔ Fits low bound s ∧ decimalValue s = n

/-- **When the raw value is read exactly as what it stands for**: it is all digits; or it stands
for something else than digits of a number in the range, and has no number at its front that counts
into the range; or it stands for zeros, the first of which is not encoded. -/
def ReadAsWritten (low bound : ℕ) (raw s : Bytes) : Prop :=
  (∀ ch ∈ raw, isDigit ch = true) ∨
    (¬ Fits low bound s ∧ ∀ negative value, FrontNumber raw negative value →
      ¬ (low ≤ counted negative value ∧ counted negative value < bound)) ∨
    (Fits low bound s ∧ decimalValue s = 0 ∧ ∃ ch ∈ raw.head?, isDigit ch = true)

/-- What does not fit is read exactly when it is refused. -/
theorem exact_iff_of_not_fits {low bound : ℕ} {s : Bytes} (h : ¬ Fits low bound s)
    (result : Option ℕ) : Exact low bound result s ↔ result = none := by
  constructor
  · intro hexact
    rcases hresult : result with _ | n
    · rfl
    · exact absurd ((hexact n).mp hresult).1 h
  · rintro rfl n
    exact iff_of_false (by simp) fun hn => h hn.1

/-- What fits is read exactly when its value is read. -/
theorem exact_iff_of_fits {low bound : ℕ} {s : Bytes} (h : Fits low bound s)
    (result : Option ℕ) : Exact low bound result s ↔ result = some (decimalValue s) := by
  constructor
  · intro hexact
    exact (hexact _).mpr ⟨h, rfl⟩
  · rintro rfl n
    rw [Option.some.injEq]
    exact ⟨fun hn => ⟨h, hn⟩, fun hn => hn.2⟩

/-- What is counted fits. -/
theorem counted_lt {negative : Bool} {value : ℕ} (h : value < 2 ^ 64) :
    counted negative value < 2 ^ 64 := by
  unfold counted
  split_ifs
  · exact Nat.mod_lt _ (by decide)
  · exact h

/-- What `std::stoull` returns fits. -/
theorem lt_of_stoull {text : Bytes} {n : ℕ} (h : stoull text = some n) : n < 2 ^ 64 := by
  obtain ⟨negative, value, ⟨_, _, _, _, -, -, -, -, -, -, -, hvalue⟩, rfl⟩ :=
    stoull_eq_some_iff.mp h
  exact counted_lt hvalue

/-- What a parser keeps of the number the C library reads. -/
def inRange (low bound : ℕ) (text : Bytes) : Option ℕ :=
  (stoull text).filter fun n => low ≤ n && n < bound

/-- A number in the range is read. -/
theorem inRange_eq_some_iff {low bound : ℕ} {text : Bytes} {n : ℕ} :
    inRange low bound text = some n ↔ stoull text = some n ∧ low ≤ n ∧ n < bound := by
  rw [inRange, Option.filter_eq_some_iff, Bool.and_eq_true, decide_eq_true_eq, decide_eq_true_eq]

/-- None is read exactly when none at the front counts into it. -/
theorem inRange_eq_none_iff {low bound : ℕ} {text : Bytes} :
    inRange low bound text = none ↔ ∀ negative value, FrontNumber text negative value →
      ¬ (low ≤ counted negative value ∧ counted negative value < bound) := by
  rw [Option.eq_none_iff_forall_ne_some]
  constructor
  · intro h negative value hfront hrange
    exact h _ (inRange_eq_some_iff.mpr
      ⟨stoull_eq_some_iff.mpr ⟨negative, value, hfront, rfl⟩, hrange⟩)
  · intro h n hn
    obtain ⟨hread, hrange⟩ := inRange_eq_some_iff.mp hn
    obtain ⟨negative, value, hfront, rfl⟩ := stoull_eq_some_iff.mp hread
    exact h negative value hfront hrange

/-- The number of a text that begins with digits. -/
theorem stoull_of_digits {digits rest : Bytes} (hne : digits ≠ [])
    (hdigits : ∀ ch ∈ digits, isDigit ch = true) (hrest : ∀ ch ∈ rest.head?, isDigit ch = false) :
    stoull (digits ++ rest) =
      if 2 ^ 64 ≤ decimalValue digits then none else some (decimalValue digits) := by
  have h : stoull ([] ++ ([] ++ (digits ++ rest))) =
      if 2 ^ 64 ≤ decimalValue digits then none else some (counted false (decimalValue digits)) :=
    stoull_digits hne hdigits hrest List.mem_cons_self fun _ h => absurd h List.not_mem_nil
  exact h

/-- A raw value of digits alone stands for itself, and is read exactly. -/
theorem exact_of_digits {low bound : ℕ} (hbound : bound ≤ 2 ^ 64) {raw : Bytes} (hne : raw ≠ [])
    (hdigits : ∀ ch ∈ raw, isDigit ch = true) : Exact low bound (inRange low bound raw) raw := by
  intro n
  have hread : stoull raw =
      if 2 ^ 64 ≤ decimalValue raw then none else some (decimalValue raw) := by
    rw [← stoull_of_digits hne hdigits (show ∀ ch ∈ [].head?, isDigit ch = false by simp),
      List.append_nil]
  rw [inRange_eq_some_iff, hread]
  constructor
  · rintro ⟨hn, hlow, hhigh⟩
    split_ifs at hn with hlarge
    obtain rfl := Option.some.inj hn
    exact ⟨⟨hdigits, hlow, hhigh⟩, rfl⟩
  · rintro ⟨⟨-, hlow, hhigh⟩, rfl⟩
    rw [if_neg (by omega)]
    exact ⟨rfl, hlow, hhigh⟩

/-- A raw value that stands for digits of a number in the range, not all of them written as such:
what is read is the number of those in front of the first that is encoded. -/
theorem exact_of_encoded {low bound : ℕ} (hbound : bound ≤ 2 ^ 64) {raw s : Bytes}
    (hdecode : urlDecode raw = some s) (hne : s ≠ []) (hfits : Fits low bound s)
    (hraw : ¬ ∀ ch ∈ raw, isDigit ch = true) :
    Exact low bound (inRange low bound raw) s ↔
      decimalValue s = 0 ∧ ∃ ch ∈ raw.head?, isDigit ch = true := by
  obtain ⟨hdigits, hlow, hhigh⟩ := hfits
  rw [exact_iff_of_fits ⟨hdigits, hlow, hhigh⟩, inRange_eq_some_iff]
  by_cases hhead : ∃ ch ∈ raw.head?, isDigit ch = true
  · -- the digits in front are read, and others stand behind them
    let front := raw.takeWhile isDigit
    let behind := raw.dropWhile isDigit
    have hsplit : front ++ behind = raw := List.takeWhile_append_dropWhile
    have hfront : ∀ ch ∈ front, isDigit ch = true := fun ch hch => List.mem_takeWhile_imp hch
    have hfrontne : front ≠ [] := by
      obtain ⟨ch, hch, hdigit⟩ := hhead
      obtain ⟨rest, hrest⟩ := List.head?_eq_some_iff.mp hch
      show raw.takeWhile isDigit ≠ []
      rw [hrest, List.takeWhile_cons_of_pos hdigit]
      exact List.cons_ne_nil _ _
    have hbehind : behind ≠ [] := by
      intro hnil
      rw [hnil, List.append_nil] at hsplit
      exact hraw (hsplit ▸ hfront)
    rw [← hsplit, urlDecode_digits_append hfront] at hdecode
    obtain ⟨s', hs', rfl⟩ := Option.map_eq_some_iff.mp hdecode
    have hs'ne : s' ≠ [] := by
      rintro rfl
      exact hbehind (eq_nil_of_urlDecode hs')
    have hle : decimalValue front ≤ decimalValue (front ++ s') := by
      rw [decimalValue_append]
      have := Nat.le_mul_of_pos_right (decimalValue front) (Nat.pow_pos (n := s'.length)
        (show 0 < 10 by decide))
      omega
    rw [← hsplit, stoull_of_digits hfrontne hfront (head_dropWhile isDigit raw),
      if_neg (by omega), Option.some.injEq, decimalValue_append_eq_left hs'ne]
    have hhead' : ∃ ch ∈ (front ++ behind).head?, isDigit ch = true := hsplit.symm ▸ hhead
    exact ⟨fun h => ⟨h.1, hhead'⟩, fun h => ⟨h.1, hlow, hhigh⟩⟩
  · -- nothing is read
    obtain ⟨digit, rest, rfl⟩ := List.exists_cons_of_ne_nil hne
    have hnone := stoull_eq_none_of_encoded hdecode (hdigits digit List.mem_cons_self)
      fun ch hch => by simpa using fun h => hhead ⟨ch, hch, h⟩
    rw [hnone]
    exact iff_of_false (by simp) fun h => hhead h.2

/-- **When the number that is found is the number that is written.** -/
theorem exact_inRange_iff {low bound : ℕ} (hbound : bound ≤ 2 ^ 64) {raw s : Bytes}
    (hdecode : urlDecode raw = some s) (hne : s ≠ []) :
    Exact low bound (inRange low bound raw) s ↔ ReadAsWritten low bound raw s := by
  by_cases hraw : ∀ ch ∈ raw, isDigit ch = true
  · refine iff_of_true ?_ (Or.inl hraw)
    have hself : urlDecode raw = some raw := by
      have h := urlDecode_digits_append hraw []
      rwa [List.append_nil, show urlDecode [] = some [] from rfl, Option.map_some,
        List.append_nil] at h
    obtain rfl := Option.some.inj (hdecode.symm.trans hself)
    exact exact_of_digits hbound hne hraw
  · by_cases hfits : Fits low bound s
    · rw [exact_of_encoded hbound hdecode hne hfits hraw]
      constructor
      · exact fun h => Or.inr (Or.inr ⟨hfits, h⟩)
      · rintro (h | ⟨h, -⟩ | ⟨-, h⟩)
        · exact absurd h hraw
        · exact absurd hfits h
        · exact h
    · rw [exact_iff_of_not_fits hfits, inRange_eq_none_iff]
      constructor
      · exact fun h => Or.inr (Or.inl ⟨hfits, h⟩)
      · rintro (h | ⟨-, h⟩ | ⟨h, -⟩)
        · exact absurd h hraw
        · exact h
        · exact absurd h hfits

/-! ### The three parsers -/

/-- Every number is in the range of all. -/
theorem inRange_all (text : Bytes) : inRange 0 (2 ^ 64) text = stoull text := by
  refine Option.ext fun n => ?_
  rw [inRange_eq_some_iff]
  exact ⟨fun h => h.1, fun h => ⟨h, Nat.zero_le n, lt_of_stoull h⟩⟩

/-- A port is a number in its range. -/
theorem parseUnsignedQueryValue_eq {target : Bytes} {key : String}
    (hne : parseQueryValue target key ≠ []) :
    (parseUnsignedQueryValue target key).map UInt16.toNat =
      inRange 1 65536 (parseQueryValue target key) := by
  unfold parseUnsignedQueryValue inRange
  rw [if_neg (by simpa using hne)]
  rcases stoull (parseQueryValue target key) with _ | n
  · rfl
  · by_cases hrange : n = 0 ∨ 65535 < n
    · have hout : (1 ≤ n && n < 65536) = false := by
        rw [Bool.and_eq_false_iff, decide_eq_false_iff_not, decide_eq_false_iff_not]
        omega
      simp [hrange, hout, Option.filter]
    · have hin : (1 ≤ n && n < 65536) = true := by
        rw [Bool.and_eq_true, decide_eq_true_eq, decide_eq_true_eq]
        omega
      simp [hrange, hin, Option.filter]
      omega

/-- **When the three parsers read exactly what is written.** -/
theorem query_numbers_exact_iff (target : Bytes) (key : String) {s : Bytes}
    (hdecode : urlDecode (parseQueryValue target key) = some s) (hne : s ≠ []) :
    (∀ defaultValue, Exact 0 (2 ^ 64) (parseSizeQueryValue target key defaultValue) s ↔
      ReadAsWritten 0 (2 ^ 64) (parseQueryValue target key) s) ∧
    (Exact 0 (2 ^ 64) (parseRequiredRevisionQueryValue target key) s ↔
      ReadAsWritten 0 (2 ^ 64) (parseQueryValue target key) s) ∧
    (Exact 1 65536 ((parseUnsignedQueryValue target key).map UInt16.toNat) s ↔
      ReadAsWritten 1 65536 (parseQueryValue target key) s) := by
  have hraw : parseQueryValue target key ≠ [] := by
    intro hnil
    rw [hnil] at hdecode
    exact hne (Option.some.inj hdecode).symm
  refine ⟨fun defaultValue => ?_, ?_, ?_⟩
  · rw [← exact_inRange_iff le_rfl hdecode hne, inRange_all, parseSizeQueryValue,
      if_neg (by simpa using hraw)]
  · rw [← exact_inRange_iff le_rfl hdecode hne, inRange_all, parseRequiredRevisionQueryValue,
      if_neg (by simpa using hraw)]
  · rw [← exact_inRange_iff (by decide) hdecode hne, parseUnsignedQueryValue_eq hraw]

/-- Ten lines are ten lines to each of the parsers. -/
theorem query_numbers_exact_iff_ten :
    (∀ defaultValue, Exact 0 (2 ^ 64)
        (parseSizeQueryValue (utf8 "/logs?lines=10") "lines" defaultValue) (utf8 "10")) ∧
      Exact 0 (2 ^ 64) (parseRequiredRevisionQueryValue (utf8 "/logs?lines=10") "lines")
        (utf8 "10") ∧
      Exact 1 65536 ((parseUnsignedQueryValue (utf8 "/logs?lines=10") "lines").map UInt16.toNat)
        (utf8 "10") := by
  have hdigits : ∀ ch ∈ parseQueryValue (utf8 "/logs?lines=10") "lines", isDigit ch = true := by
    decide +kernel
  have hexact := query_numbers_exact_iff (utf8 "/logs?lines=10") "lines" (by decide +kernel)
    (by decide +kernel : utf8 "10" ≠ [])
  exact ⟨fun defaultValue => (hexact.1 defaultValue).mpr (Or.inl hdigits),
    hexact.2.1.mpr (Or.inl hdigits), hexact.2.2.mpr (Or.inl hdigits)⟩

/-- A negative number of lines is a huge one. -/
theorem negative_count_wraps :
    urlDecode (parseQueryValue (utf8 "/logs?lines=-1") "lines") = some (utf8 "-1") ∧
      parseSizeQueryValue (utf8 "/logs?lines=-1") "lines" 200 = some (2 ^ 64 - 1) ∧
      ¬ Exact 0 (2 ^ 64) (parseSizeQueryValue (utf8 "/logs?lines=-1") "lines" 200)
        (utf8 "-1") := by
  have hread : parseSizeQueryValue (utf8 "/logs?lines=-1") "lines" 200 = some (2 ^ 64 - 1) := by
    decide +kernel
  refine ⟨by decide +kernel, hread, fun h => ?_⟩
  have hdigits := ((h _).mp hread).1.1
  exact absurd (hdigits minusSign (by decide +kernel)) (by decide)

end Sentrits.Net
