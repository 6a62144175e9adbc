import Sentrits.Net.QueryParsing

/-!
# Percent encoding

Values in a target are written with percent signs and numbers with digits; this is how the client
writes them, and that the daemon reads what was written.

* `urlEncode`, `decimal`: the client.
* `urlDecode_urlEncode`: **what is encoded is decoded.**
* `stoull_decimal`: **a number is read as it was written.**

Sources: `src/cli/daemon_client_http.cpp`, `src/net/request_parsing.cpp`.
-/

namespace Sentrits.Net

open Found Found.Bytes

/-! ### The client -/

/-- The bytes that stand for themselves. -/
def isUnreserved (ch : UInt8) : Bool :=
  (0x41 ≤ ch && ch ≤ 0x5A) || (0x61 ≤ ch && ch ≤ 0x7A) || (0x30 ≤ ch && ch ≤ 0x39) ||
    ch == 0x2D || ch == 0x5F || ch == 0x2E || ch == 0x7E

/-- A number below sixteen, in upper case. -/
def hexDigit (value : UInt8) : UInt8 := if value < 10 then 0x30 + value else 0x41 + (value - 10)

/-- One turn of the loop of `UrlEncode`. -/
def encodeByte (ch : UInt8) : Bytes :=
  if isUnreserved ch then [ch] else [percentSign, hexDigit (ch >>> 4), hexDigit (ch &&& 0x0F)]

/-- Source: `daemon_client_http.cpp` `UrlEncode`. -/
def urlEncode (input : Bytes) : Bytes := input.flatMap encodeByte

/-- The decimal digits of a number.
Source: the C++ standard library's `std::to_string`. -/
def decimal (value : ℕ) : Bytes := (Nat.toDigits 10 value).map fun digit => UInt8.ofNat digit.toNat

/-! ### Encoding and decoding -/

/-- A byte other than a percent sign is decoded alone. -/
theorem urlDecode_cons_of_ne {ch : UInt8} (h : ch ≠ percentSign) (rest : Bytes) :
    urlDecode (ch :: rest) =
      (urlDecode rest).map ((if ch = plusSign then 0x20 else ch) :: ·) := by
  rcases rest with _ | ⟨ch', _ | ⟨ch'', rest⟩⟩
  · simp [urlDecode, h]
  · conv => lhs; rw [urlDecode, if_neg h]
  · conv => lhs; rw [urlDecode, if_neg h]

/-- A percent sign is decoded with the two bytes behind it. -/
theorem urlDecode_percent {high low digit digit' : UInt8} (hhigh : hexValue digit = some high)
    (hlow : hexValue digit' = some low) (rest : Bytes) :
    urlDecode (percentSign :: digit :: digit' :: rest) =
      (urlDecode rest).map ((high <<< 4 ||| low) :: ·) := by
  rw [urlDecode, if_pos rfl, hhigh, hlow]

/-- The byte that stands for itself is neither of the signs. -/
theorem ne_of_isUnreserved {ch sign : UInt8} (h : isUnreserved ch = true)
    (hsign : isUnreserved sign = false) : ch ≠ sign := by
  rintro rfl
  rw [h] at hsign
  exact absurd hsign (by decide)

/-- The digit of half a byte. -/
theorem hexValue_hexDigit : ∀ nibble : UInt8, nibble < 16 →
    hexValue (hexDigit nibble) = some nibble ∧ isUnreserved (hexDigit nibble) = true := by
  apply forall_nibble
  decide

/-- **One byte.** -/
theorem urlDecode_encodeByte (ch : UInt8) (rest : Bytes) :
    urlDecode (encodeByte ch ++ rest) = (urlDecode rest).map (ch :: ·) := by
  unfold encodeByte
  split_ifs with hplain
  · have hpercent : ch ≠ percentSign := ne_of_isUnreserved hplain (by decide)
    have hplus : ch ≠ plusSign := ne_of_isUnreserved hplain (by decide)
    rw [List.singleton_append, urlDecode_cons_of_ne hpercent, if_neg hplus]
  · obtain ⟨hhigh, hlow⟩ := halves_lt ch
    rw [List.cons_append, List.cons_append, List.cons_append, List.nil_append,
      urlDecode_percent (hexValue_hexDigit _ hhigh).1 (hexValue_hexDigit _ hlow).1, high_or_low]

/-- **What is encoded is decoded.** -/
theorem urlDecode_urlEncode (input : Bytes) : urlDecode (urlEncode input) = some input := by
  induction input with
  | nil => rfl
  | cons ch input ih =>
      rw [urlEncode, List.flatMap_cons, urlDecode_encodeByte]
      rw [urlEncode] at ih
      rw [ih]
      rfl

/-- Bytes that all stand for themselves are left. -/
theorem urlEncode_of_unreserved {input : Bytes} (h : ∀ ch ∈ input, isUnreserved ch = true) :
    urlEncode input = input := by
  induction input with
  | nil => rfl
  | cons ch input ih =>
      have hrest := ih fun b hb => h b (List.mem_cons_of_mem ch hb)
      unfold urlEncode at hrest ⊢
      rw [List.flatMap_cons, hrest, encodeByte, if_pos (h ch List.mem_cons_self)]
      rfl

/-- A sign that is not unreserved, other than the percent sign, does not occur in what is encoded.
-/
theorem notMem_urlEncode {sign : UInt8} (hsign : isUnreserved sign = false)
    (hpercent : sign ≠ percentSign) (input : Bytes) : sign ∉ urlEncode input := by
  intro hmem
  obtain ⟨ch, -, hch⟩ := List.mem_flatMap.mp hmem
  have hhigh := (hexValue_hexDigit _ (halves_lt ch).1).2
  have hlow := (hexValue_hexDigit _ (halves_lt ch).2).2
  unfold encodeByte at hch
  split_ifs at hch with hplain
  · exact ne_of_isUnreserved hplain hsign (List.mem_singleton.mp hch).symm
  · simp only [List.mem_cons, List.not_mem_nil, or_false] at hch
    rcases hch with rfl | rfl | rfl
    · exact hpercent rfl
    · rw [hhigh] at hsign
      exact absurd hsign (by decide)
    · rw [hlow] at hsign
      exact absurd hsign (by decide)

/-! ### Numbers -/

/-- The code of a digit. -/
theorem toNat_of_isDigit {digit : Char} (h : digit.isDigit = true) :
    48 ≤ digit.toNat ∧ digit.toNat ≤ 57 := by
  simp only [Char.isDigit, Bool.and_eq_true, decide_eq_true_eq, ge_iff_le,
    UInt32.le_iff_toNat_le] at h
  exact h

/-- A number is written with digits. -/
theorem isDigit_of_mem_decimal {value : ℕ} {ch : UInt8} (h : ch ∈ decimal value) :
    isDigit ch = true := by
  obtain ⟨digit, hdigit, rfl⟩ := List.mem_map.mp h
  obtain ⟨hlow, hhigh⟩ :=
    toNat_of_isDigit (Nat.isDigit_of_mem_toDigits (by decide) (by decide) hdigit)
  unfold isDigit
  simp only [Bool.and_eq_true, decide_eq_true_eq, UInt8.le_iff_toNat_le, UInt8.toNat_ofNat']
  have hsmall : digit.toNat % 2 ^ 8 = digit.toNat := Nat.mod_eq_of_lt (by omega)
  rw [hsmall]
  exact ⟨hlow, hhigh⟩

/-- A number is written with at least one digit. -/
theorem decimal_ne_nil (value : ℕ) : decimal value ≠ [] := by
  unfold decimal
  rw [ne_eq, List.map_eq_nil_iff]
  exact Nat.toDigits_ne_nil

/-- Digits as bytes have the value of the digits. -/
theorem foldl_digits (digits : List Char) (h : ∀ digit ∈ digits, digit.isDigit = true)
    (value : ℕ) :
    (digits.map fun digit => UInt8.ofNat digit.toNat).foldl
        (fun value digit => 10 * value + (digit - 0x30).toNat) value =
      Nat.ofDigitChars 10 digits value := by
  induction digits generalizing value with
  | nil => simp
  | cons digit digits ih =>
      obtain ⟨hlow, hhigh⟩ := toNat_of_isDigit (h digit List.mem_cons_self)
      have hsub : (UInt8.ofNat digit.toNat - 0x30).toNat = digit.toNat - 48 := by
        rw [UInt8.toNat_sub, UInt8.toNat_ofNat']
        simp only [UInt8.reduceToNat]
        omega
      rw [List.map_cons, List.foldl_cons, hsub, Nat.ofDigitChars_cons]
      exact ih (fun other hother => h other (List.mem_cons_of_mem digit hother)) _

/-- A number is read back. -/
theorem decimalValue_decimal (value : ℕ) : decimalValue (decimal value) = value := by
  unfold decimalValue decimal
  rw [foldl_digits _ fun digit hdigit =>
    Nat.isDigit_of_mem_toDigits (by decide) (by decide) hdigit]
  exact Nat.ofDigitChars_ten_toDigits

/-- A digit is none of the signs and blanks a number may begin with. -/
theorem not_sign_of_isDigit {ch : UInt8} (h : isDigit ch = true) :
    isSpace ch = false ∧ ch ≠ minusSign ∧ ch ≠ plusSign := by
  unfold isDigit at h
  simp only [Bool.and_eq_true, decide_eq_true_eq, UInt8.le_iff_toNat_le, UInt8.reduceToNat] at h
  refine ⟨?_, ?_, ?_⟩
  · unfold isSpace
    simp only [Bool.or_eq_false_iff, Bool.and_eq_false_iff, beq_eq_false_iff_ne, ne_eq,
      decide_eq_false_iff_not, UInt8.le_iff_toNat_le, ← UInt8.toNat_inj, UInt8.reduceToNat]
    omega
  · rintro rfl
    exact absurd h.1 (by decide)
  · rintro rfl
    exact absurd h.1 (by decide)

/-- **A number is read as it was written.** -/
theorem stoull_decimal {value : ℕ} (h : value < 2 ^ 64) : stoull (decimal value) = some value := by
  obtain ⟨ch, rest, hcons⟩ := List.exists_cons_of_ne_nil (decimal_ne_nil value)
  have hdigits : ∀ b ∈ decimal value, isDigit b = true := fun b => isDigit_of_mem_decimal
  obtain ⟨hspace, hminus, hplus⟩ := not_sign_of_isDigit (hdigits ch (by rw [hcons]; simp))
  have hdrop : (decimal value).dropWhile isSpace = decimal value := by
    rw [hcons, List.dropWhile_cons_of_neg (by simp [hspace])]
  have hhead : (decimal value).head? = some ch := by rw [hcons]; rfl
  have htake : (decimal value).takeWhile isDigit = decimal value :=
    List.takeWhile_eq_self_iff.mpr hdigits
  unfold stoull
  simp only [hdrop, hhead]
  simp [hminus, hplus, htake, decimalValue_decimal, decimal_ne_nil]
  exact h

/-- Digits stand for themselves. -/
theorem urlEncode_decimal (value : ℕ) : urlEncode (decimal value) = decimal value := by
  apply urlEncode_of_unreserved
  intro ch hch
  have hdigit := isDigit_of_mem_decimal hch
  unfold isDigit at hdigit
  unfold isUnreserved
  simp [hdigit]

end Sentrits.Net
