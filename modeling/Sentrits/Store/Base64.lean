import Mathlib.Data.Nat.Bitwise
import Sentrits.Found.Bytes

/-!
# Base64

How the stores write bytes into a JSON string, and how they read them back.

* `base64Value_base64Digit`: the two alphabets agree.
* `base64DecodeLoop_base64Encode`, `base64Decode_base64Encode`: **what is written is read back**,
  for any bytes.

Sources: `src/store/file_stores.cpp`.
-/

namespace Sentrits.Store

open Found

/-! ### Writing -/

/-- Source: `file_stores.cpp` `kBase64Alphabet`. -/
def kBase64Alphabet : List Char :=
  "ABCDEFGHIJKLMNOPQRSTUVWXYZabcdefghijklmnopqrstuvwxyz0123456789+/".toList

/-- The character of the alphabet at the index. -/
def base64Digit (index : ℕ) : Char := kBase64Alphabet.getD index '='

/-- Source: `file_stores.cpp` `Base64Encode`. -/
def base64Encode : Bytes → List Char
  | a :: b :: c :: input =>
      base64Digit (a.toNat >>> 2 &&& 0x3F) ::
        base64Digit ((a.toNat &&& 0x03) <<< 4 ||| (b.toNat >>> 4 &&& 0x0F)) ::
        base64Digit ((b.toNat &&& 0x0F) <<< 2 ||| (c.toNat >>> 6 &&& 0x03)) ::
        base64Digit (c.toNat &&& 0x3F) :: base64Encode input
  | [a, b] =>
      [base64Digit (a.toNat >>> 2 &&& 0x3F),
        base64Digit ((a.toNat &&& 0x03) <<< 4 ||| (b.toNat >>> 4 &&& 0x0F)),
        base64Digit ((b.toNat &&& 0x0F) <<< 2), '=']
  | [a] =>
      [base64Digit (a.toNat >>> 2 &&& 0x3F), base64Digit ((a.toNat &&& 0x03) <<< 4), '=', '=']
  | [] => []

/-! ### Reading -/

/-- The byte of an ASCII character. -/
def ascii (ch : Char) : UInt8 := UInt8.ofNat ch.toNat

/-- Source: `file_stores.cpp` `Base64Value`. -/
def base64Value (ch : UInt8) : Option ℕ :=
  if ascii 'A' ≤ ch ∧ ch ≤ ascii 'Z' then some (ch.toNat - (ascii 'A').toNat)
  else if ascii 'a' ≤ ch ∧ ch ≤ ascii 'z' then some (ch.toNat - (ascii 'a').toNat + 26)
  else if ascii '0' ≤ ch ∧ ch ≤ ascii '9' then some (ch.toNat - (ascii '0').toNat + 52)
  else if ch = ascii '+' then some 62
  else if ch = ascii '/' then some 63
  else none

/-- The loop over the groups of four; padding ends the last group. -/
def base64DecodeLoop : Bytes → Option Bytes
  | a :: b :: c :: d :: input => do
      let valueA ← base64Value a
      let valueB ← base64Value b
      let first := UInt8.ofNat (valueA <<< 2 ||| valueB >>> 4)
      if c ≠ ascii '=' then
        let valueC ← base64Value c
        let second := UInt8.ofNat ((valueB &&& 0x0F) <<< 4 ||| valueC >>> 2)
        if d ≠ ascii '=' then
          let valueD ← base64Value d
          let third := UInt8.ofNat ((valueC &&& 0x03) <<< 6 ||| valueD)
          let decoded ← base64DecodeLoop input
          some (first :: second :: third :: decoded)
        else if input ≠ [] then none
        else some [first, second]
      else if d ≠ ascii '=' ∨ input ≠ [] then none
      else some [first]
  | _ => some []

/-- Source: `file_stores.cpp` `Base64Decode`. -/
def base64Decode (input : Bytes) : Option Bytes :=
  if input.length % 4 ≠ 0 then none else base64DecodeLoop input

/-! ### The alphabets agree -/

/-- The characters of the alphabet. -/
theorem kBase64Alphabet_eq :
    kBase64Alphabet =
      ['A', 'B', 'C', 'D', 'E', 'F', 'G', 'H', 'I', 'J', 'K', 'L', 'M', 'N', 'O', 'P', 'Q', 'R',
        'S', 'T', 'U', 'V', 'W', 'X', 'Y', 'Z', 'a', 'b', 'c', 'd', 'e', 'f', 'g', 'h', 'i', 'j',
        'k', 'l', 'm', 'n', 'o', 'p', 'q', 'r', 's', 't', 'u', 'v', 'w', 'x', 'y', 'z', '0', '1',
        '2', '3', '4', '5', '6', '7', '8', '9', '+', '/'] :=
  String.toList_ofList

/-- There are 64 digits. -/
theorem length_kBase64Alphabet : kBase64Alphabet.length = 64 := by
  rw [kBase64Alphabet_eq]
  rfl

/-- Every sextet has one. -/
theorem base64Digit_eq_getElem? {index : ℕ} (h : index < 64) :
    kBase64Alphabet[index]? = some (base64Digit index) := by
  have hlength := length_kBase64Alphabet
  rw [base64Digit, List.getD_eq_getElem _ _ (by omega), List.getElem?_eq_getElem]

/-- A digit is read as the sextet it stands for. -/
theorem base64Value_base64Digit {index : ℕ} (h : index < 64) :
    base64Value (ascii (base64Digit index)) = some index := by
  have hvalues : kBase64Alphabet.map (fun ch => base64Value (ascii ch)) =
      (List.range 64).map some := by
    rw [kBase64Alphabet_eq]
    decide +kernel
  have hvalue := congrArg (·[index]?) hvalues
  rw [List.getElem?_map, List.getElem?_map, base64Digit_eq_getElem? h, List.getElem?_range h]
    at hvalue
  exact Option.some.inj hvalue

/-- No digit is the padding. -/
theorem ascii_base64Digit_ne_pad {index : ℕ} (h : index < 64) :
    ascii (base64Digit index) ≠ ascii '=' := by
  have hall : kBase64Alphabet.all (fun ch => ascii ch != ascii '=') = true := by
    rw [kBase64Alphabet_eq]
    decide +kernel
  have hmem := List.mem_of_getElem? (base64Digit_eq_getElem? h)
  exact bne_iff_ne.mp (List.all_eq_true.mp hall _ hmem)

/-! ### Six bits of eight -/

/-- Bits put beside bits are added. -/
theorem shiftLeft_or {low k : ℕ} (h : low < 2 ^ k) (high : ℕ) :
    high <<< k ||| low = high * 2 ^ k + low := by
  rw [← Nat.shiftLeft_add_eq_or_of_lt h, Nat.shiftLeft_eq]

/-- A mask of low bits is a remainder. -/
theorem and_mask (x k : ℕ) : x &&& 2 ^ k - 1 = x % 2 ^ k := Nat.and_two_pow_sub_one_eq_mod x k

variable {a b c : UInt8}

/-- The first sextet of three bytes. -/
theorem sextet_first (a : UInt8) : a.toNat >>> 2 &&& 0x3F = a.toNat / 4 := by
  have ha := a.toNat_lt
  rw [show (0x3F : ℕ) = 2 ^ 6 - 1 from rfl, and_mask, Nat.shiftRight_eq_div_pow]
  omega

/-- The second one, of two bytes. -/
theorem sextet_second (a b : UInt8) :
    (a.toNat &&& 0x03) <<< 4 ||| (b.toNat >>> 4 &&& 0x0F) = a.toNat % 4 * 16 + b.toNat / 16 := by
  have hb := b.toNat_lt
  have hlow : b.toNat >>> 4 &&& 0x0F = b.toNat / 16 := by
    rw [show (0x0F : ℕ) = 2 ^ 4 - 1 from rfl, and_mask, Nat.shiftRight_eq_div_pow]
    omega
  rw [hlow, shiftLeft_or (by omega), show (0x03 : ℕ) = 2 ^ 2 - 1 from rfl, and_mask]
  omega

/-- The second one, where there is no second byte. -/
theorem sextet_second_alone (a : UInt8) : (a.toNat &&& 0x03) <<< 4 = a.toNat % 4 * 16 := by
  rw [show (0x03 : ℕ) = 2 ^ 2 - 1 from rfl, and_mask, Nat.shiftLeft_eq]
  omega

/-- The third one. -/
theorem sextet_third (b c : UInt8) :
    (b.toNat &&& 0x0F) <<< 2 ||| (c.toNat >>> 6 &&& 0x03) = b.toNat % 16 * 4 + c.toNat / 64 := by
  have hc := c.toNat_lt
  have hlow : c.toNat >>> 6 &&& 0x03 = c.toNat / 64 := by
    rw [show (0x03 : ℕ) = 2 ^ 2 - 1 from rfl, and_mask, Nat.shiftRight_eq_div_pow]
    omega
  rw [hlow, shiftLeft_or (by omega), show (0x0F : ℕ) = 2 ^ 4 - 1 from rfl, and_mask]
  omega

/-- The third one, where there is no third byte. -/
theorem sextet_third_alone (b : UInt8) : (b.toNat &&& 0x0F) <<< 2 = b.toNat % 16 * 4 := by
  rw [show (0x0F : ℕ) = 2 ^ 4 - 1 from rfl, and_mask, Nat.shiftLeft_eq]
  omega

/-- The fourth one. -/
theorem sextet_fourth (c : UInt8) : c.toNat &&& 0x3F = c.toNat % 64 := by
  rw [show (0x3F : ℕ) = 2 ^ 6 - 1 from rfl, and_mask]
  omega

/-- The first sextet has six bits. -/
theorem sextet_first_lt (a : UInt8) : a.toNat / 4 < 64 := by
  have ha := a.toNat_lt
  omega

/-- The second sextet of a byte alone has six bits. -/
theorem quarter_lt (a : UInt8) : a.toNat % 4 * 16 < 64 := by
  omega

/-- The third sextet of two bytes alone has six bits. -/
theorem nibble_lt (b : UInt8) : b.toNat % 16 * 4 < 64 := by
  omega

/-- The high half of a byte has four bits. -/
theorem sixteenth_lt (b : UInt8) : b.toNat / 16 < 16 := by
  have hb := b.toNat_lt
  omega

/-- The top of a byte has two bits. -/
theorem sixtyFourth_lt (c : UInt8) : c.toNat / 64 < 4 := by
  have hc := c.toNat_lt
  omega

/-- The second sextet has six bits. -/
theorem sextet_second_lt (a b : UInt8) : a.toNat % 4 * 16 + b.toNat / 16 < 64 := by
  have hb := sixteenth_lt b
  omega

/-- The third sextet has six bits. -/
theorem sextet_third_lt (b c : UInt8) : b.toNat % 16 * 4 + c.toNat / 64 < 64 := by
  have hc := sixtyFourth_lt c
  omega

/-- The fourth sextet has six bits. -/
theorem sextet_fourth_lt (c : UInt8) : c.toNat % 64 < 64 := Nat.mod_lt _ (Nat.zero_lt_succ _)

/-! ### Eight bits of six -/

/-- The first byte comes back from its two sextets. -/
theorem octet_first (a : UInt8) {low : ℕ} (h : low < 16) :
    UInt8.ofNat ((a.toNat / 4) <<< 2 ||| (a.toNat % 4 * 16 + low) >>> 4) = a := by
  have hvalue : (a.toNat / 4) <<< 2 ||| (a.toNat % 4 * 16 + low) >>> 4 = a.toNat := by
    rw [Nat.shiftRight_eq_div_pow, shiftLeft_or (by omega)]
    omega
  rw [hvalue, UInt8.ofNat_toNat]

/-- The second byte comes back from its two sextets. -/
theorem octet_second (high : ℕ) (b : UInt8) {low : ℕ} (h : low < 4) :
    UInt8.ofNat (((high * 16 + b.toNat / 16) &&& 0x0F) <<< 4 |||
      (b.toNat % 16 * 4 + low) >>> 2) = b := by
  have hb := b.toNat_lt
  have hvalue : ((high * 16 + b.toNat / 16) &&& 0x0F) <<< 4 |||
      (b.toNat % 16 * 4 + low) >>> 2 = b.toNat := by
    rw [Nat.shiftRight_eq_div_pow, show (0x0F : ℕ) = 2 ^ 4 - 1 from rfl, and_mask,
      shiftLeft_or (by omega)]
    omega
  rw [hvalue, UInt8.ofNat_toNat]

/-- The third byte comes back from its two sextets. -/
theorem octet_third (high : ℕ) (c : UInt8) :
    UInt8.ofNat (((high * 4 + c.toNat / 64) &&& 0x03) <<< 6 ||| c.toNat % 64) = c := by
  have hc := c.toNat_lt
  have hvalue : ((high * 4 + c.toNat / 64) &&& 0x03) <<< 6 ||| c.toNat % 64 = c.toNat := by
    rw [show (0x03 : ℕ) = 2 ^ 2 - 1 from rfl, and_mask, shiftLeft_or (by omega)]
    omega
  rw [hvalue, UInt8.ofNat_toNat]

/-! ### What is written is read back -/

/-- The loop reads back what is encoded. -/
theorem base64DecodeLoop_base64Encode (input : Bytes) :
    base64DecodeLoop ((base64Encode input).map ascii) = some input := by
  induction input using base64Encode.induct with
  | case1 a b c input ih =>
      have hthird := sextet_third_lt b c
      have hfourth := sextet_fourth_lt c
      rw [base64Encode, sextet_first, sextet_second, sextet_third, sextet_fourth]
      simp only [List.map_cons, base64DecodeLoop]
      rw [base64Value_base64Digit (sextet_first_lt a),
        base64Value_base64Digit (sextet_second_lt a b), base64Value_base64Digit hthird,
        base64Value_base64Digit hfourth, ih]
      simp only [Option.bind_eq_bind, Option.bind_some]
      rw [if_pos (ascii_base64Digit_ne_pad hthird), if_pos (ascii_base64Digit_ne_pad hfourth),
        octet_first a (sixteenth_lt b), octet_second _ b (sixtyFourth_lt c), octet_third]
  | case2 a b =>
      have hthird := nibble_lt b
      have hsecond := octet_second (a.toNat % 4) b (Nat.zero_lt_succ 3)
      rw [Nat.add_zero] at hsecond
      rw [base64Encode, sextet_first, sextet_second, sextet_third_alone]
      simp only [List.map_cons, List.map_nil, base64DecodeLoop]
      rw [base64Value_base64Digit (sextet_first_lt a),
        base64Value_base64Digit (sextet_second_lt a b), base64Value_base64Digit hthird]
      simp only [Option.bind_eq_bind, Option.bind_some]
      rw [if_pos (ascii_base64Digit_ne_pad hthird), if_neg (not_not.mpr rfl),
        if_neg (not_not.mpr rfl), octet_first a (sixteenth_lt b), hsecond]
  | case3 a =>
      have hfirst := octet_first a (Nat.zero_lt_succ 15)
      rw [Nat.add_zero] at hfirst
      rw [base64Encode, sextet_first, sextet_second_alone]
      simp only [List.map_cons, List.map_nil, base64DecodeLoop]
      rw [base64Value_base64Digit (sextet_first_lt a), base64Value_base64Digit (quarter_lt a)]
      simp only [Option.bind_eq_bind, Option.bind_some]
      rw [if_neg (not_not.mpr rfl), if_neg (by simp), hfirst]
  | case4 => rfl

/-- What is encoded comes in fours. -/
theorem length_base64Encode_mod (input : Bytes) : (base64Encode input).length % 4 = 0 := by
  induction input using base64Encode.induct with
  | case1 a b c input ih =>
      simp only [base64Encode, List.length_cons]
      omega
  | case2 a b => simp [base64Encode]
  | case3 a => simp [base64Encode]
  | case4 => simp [base64Encode]

/-- The characters of the alphabet are single bytes. -/
theorem utf8EncodeChar_base64Digit (index : ℕ) :
    String.utf8EncodeChar (base64Digit index) = [ascii (base64Digit index)] := by
  have hall : ('=' :: kBase64Alphabet).all
      (fun ch => String.utf8EncodeChar ch == [ascii ch]) = true := by
    rw [kBase64Alphabet_eq]
    decide +kernel
  apply eq_of_beq
  apply List.all_eq_true.mp hall
  rcases Nat.lt_or_ge index 64 with h | h
  · exact List.mem_cons_of_mem _ (List.mem_of_getElem? (base64Digit_eq_getElem? h))
  · have hpad : base64Digit index = '=' := List.getD_eq_default _ _ (length_kBase64Alphabet ▸ h)
    rw [hpad]
    exact List.mem_cons_self

/-- What is encoded is ASCII. -/
theorem utf8_base64Encode (input : Bytes) :
    Bytes.utf8 (String.ofList (base64Encode input)) = (base64Encode input).map ascii := by
  have hpad : String.utf8EncodeChar '=' = [ascii '='] := by decide +kernel
  unfold Bytes.utf8
  rw [String.toList_ofList]
  induction input using base64Encode.induct with
  | case1 a b c input ih =>
      simp only [base64Encode, List.flatMap_cons, List.map_cons, utf8EncodeChar_base64Digit, ih,
        List.singleton_append]
  | case2 a b =>
      simp only [base64Encode, List.flatMap_cons, List.flatMap_nil, List.map_cons, List.map_nil,
        utf8EncodeChar_base64Digit, hpad, List.singleton_append]
  | case3 a =>
      simp only [base64Encode, List.flatMap_cons, List.flatMap_nil, List.map_cons, List.map_nil,
        utf8EncodeChar_base64Digit, hpad, List.singleton_append]
  | case4 => rfl

/-- **Bytes are read back** from the text they are written as. -/
theorem base64Decode_base64Encode (input : Bytes) :
    base64Decode (Bytes.utf8 (String.ofList (base64Encode input))) = some input := by
  rw [utf8_base64Encode, base64Decode, List.length_map,
    if_neg (not_not.mpr (length_base64Encode_mod input))]
  exact base64DecodeLoop_base64Encode input

end Sentrits.Store
