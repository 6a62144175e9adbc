import Sentrits.Store.Base64

/-!
# Output as Base64

The daemon puts the bytes of a terminal into its JSON as Base64, and the client reads them back. The
stores have an encoder and a decoder of their own.

* `Net.base64Encode_eq`: both encoders write the same.
* `decodeBase64Loop_of_base64DecodeLoop`: what the stores' decoder reads, the client's reads as the
  same bytes.
* `base64_codecs_agree`: **bytes are read back as they were written**, by the client and by the
  stores.

Sources: `src/net/json.cpp`, `src/cli/daemon_client.cpp`, `src/store/file_stores.cpp`.
-/

namespace Sentrits

open Found Found.Bytes

/-! ### The daemon's encoder -/

namespace Net

/-- Source: `json.cpp` `kBase64Alphabet`. -/
def kBase64Alphabet : List Char :=
  "ABCDEFGHIJKLMNOPQRSTUVWXYZabcdefghijklmnopqrstuvwxyz0123456789+/".toList

/-- The character of the alphabet at the index. -/
def base64Digit (index : ℕ) : Char := kBase64Alphabet.getD index '='

/-- Source: `json.cpp` `Base64Encode`. -/
def base64Encode : Bytes → List Char
  | a :: b :: c :: input =>
      base64Digit (a.toNat >>> 2 &&& 0x3F) ::
        base64Digit ((a.toNat &&& 0x03) <<< 4 ||| (b.toNat >>> 4 &&& 0x0F)) ::
        base64Digit ((b.toNat &&& 0x0F) <<< 2 ||| (c.toNat >>> 6 &&& 0x03)) ::
        base64Digit (c.toNat &&& 0x3F) :: base64Encode input
  | [a, b] =>
      [base64Digit (a.toNat >>> 2 &&& 0x3F),
        base64Digit ((a.toNat &&& 0x03) <<< 4 ||| (b.toNat >>> 4 &&& 0x0F)),
        base64Digit ((b.toNat &&& 0x0F) <<< 2), '=']
  | [a] =>
      [base64Digit (a.toNat >>> 2 &&& 0x3F), base64Digit ((a.toNat &&& 0x03) <<< 4), '=', '=']
  | [] => []

/-- Both encoders write the same. -/
theorem base64Encode_eq (input : Bytes) : base64Encode input = Store.base64Encode input := by
  induction input using base64Encode.induct with
  | case1 a b c input ih =>
      rw [base64Encode, Store.base64Encode, ih]
      rfl
  | case2 a b => rfl
  | case3 a => rfl
  | case4 => rfl

end Net

/-! ### The client's decoder -/

namespace Cli

open Store

/-- Source: `daemon_client.cpp` the array `decoding_table` of `DecodeBase64`. -/
def decodingTable : UInt8 → ℤ :=
  let letters := (List.range 26).foldl (fun table index =>
    Function.update (Function.update table (ascii 'A' + UInt8.ofNat index) (index : ℤ))
      (ascii 'a' + UInt8.ofNat index) (26 + index)) fun _ => -1
  let digits := (List.range 10).foldl (fun table index =>
    Function.update table (ascii '0' + UInt8.ofNat index) (52 + index : ℤ)) letters
  Function.update (Function.update digits (ascii '+') 62) (ascii '/') 63

/-- The loop over the groups of four; each padding sign leaves out a byte. -/
def decodeBase64Loop : Bytes → Option Bytes
  | c0 :: c1 :: c2 :: c3 :: input =>
      if decodingTable c0 < 0 ∨ decodingTable c1 < 0 ∨
          (c2 ≠ ascii '=' ∧ decodingTable c2 < 0) ∨ (c3 ≠ ascii '=' ∧ decodingTable c3 < 0) then
        none
      else
        let v0 := (decodingTable c0).toNat
        let v1 := (decodingTable c1).toNat
        let v2 := if c2 = ascii '=' then 0 else (decodingTable c2).toNat
        let v3 := if c3 = ascii '=' then 0 else (decodingTable c3).toNat
        let second :=
          if c2 ≠ ascii '=' then [UInt8.ofNat ((v1 &&& 0x0F) <<< 4 ||| v2 >>> 2)] else []
        let third := if c3 ≠ ascii '=' then [UInt8.ofNat ((v2 &&& 0x03) <<< 6 ||| v3)] else []
        (decodeBase64Loop input).map fun decoded =>
          UInt8.ofNat (v0 <<< 2 ||| v1 >>> 4) :: (second ++ third ++ decoded)
  | _ => some []

/-- Source: `daemon_client.cpp` `DecodeBase64`. -/
def decodeBase64 (input : Bytes) : Option Bytes :=
  if input.length % 4 ≠ 0 then none else decodeBase64Loop input

/-- The table has the values of the alphabet. -/
theorem decodingTable_eq (ch : UInt8) :
    decodingTable ch = (base64Value ch).elim (-1) Nat.cast := by
  -- the table has an entry for each byte
  revert ch
  apply forall_quarters
  all_goals decide +kernel

/-- The table has the value of every digit. -/
theorem decodingTable_of_base64Value {ch : UInt8} {value : ℕ} (h : base64Value ch = some value) :
    ¬decodingTable ch < 0 ∧ (decodingTable ch).toNat = value := by
  have htable : decodingTable ch = value := by
    rw [decodingTable_eq, h]
    rfl
  rw [htable]
  exact ⟨Int.not_lt.mpr (Int.natCast_nonneg value), Int.toNat_natCast value⟩

/-- **What the stores' decoder reads**, the client's reads as the same bytes. -/
theorem decodeBase64Loop_of_base64DecodeLoop : (input decoded : Bytes) →
    base64DecodeLoop input = some decoded → decodeBase64Loop input = some decoded
  | c0 :: c1 :: c2 :: c3 :: input, decoded, h => by
      rw [base64DecodeLoop] at h
      obtain ⟨v0, hv0, h⟩ := Option.bind_eq_some_iff.mp h
      obtain ⟨v1, hv1, h⟩ := Option.bind_eq_some_iff.mp h
      obtain ⟨h0, hn0⟩ := decodingTable_of_base64Value hv0
      obtain ⟨h1, hn1⟩ := decodingTable_of_base64Value hv1
      dsimp only at h
      rw [decodeBase64Loop]
      by_cases hc2 : c2 = ascii '='
      · -- two padding signs end the text
        rw [if_neg (not_not.mpr hc2)] at h
        by_cases hend : c3 ≠ ascii '=' ∨ input ≠ []
        · rw [if_pos hend] at h
          cases h
        · obtain ⟨hc3, rfl⟩ : c3 = ascii '=' ∧ input = [] := by simpa using hend
          rw [if_neg hend] at h
          rw [if_neg (by simp [h0, h1, hc2, hc3])]
          simpa [hc2, hc3, hn0, hn1, decodeBase64Loop] using h
      · rw [if_pos hc2] at h
        obtain ⟨v2, hv2, h⟩ := Option.bind_eq_some_iff.mp h
        obtain ⟨h2, hn2⟩ := decodingTable_of_base64Value hv2
        by_cases hc3 : c3 = ascii '='
        · -- one padding sign does
          rw [if_neg (not_not.mpr hc3)] at h
          by_cases hend : input ≠ []
          · rw [if_pos hend] at h
            cases h
          · obtain rfl : input = [] := not_not.mp hend
            rw [if_neg hend] at h
            rw [if_neg (by simp [h0, h1, h2, hc3])]
            simpa [hc2, hc3, hn0, hn1, hn2, decodeBase64Loop] using h
        · rw [if_pos hc3] at h
          obtain ⟨v3, hv3, h⟩ := Option.bind_eq_some_iff.mp h
          obtain ⟨h3, hn3⟩ := decodingTable_of_base64Value hv3
          obtain ⟨rest, hrest, h⟩ := Option.bind_eq_some_iff.mp h
          rw [if_neg (by simp [h0, h1, h2, h3]),
            decodeBase64Loop_of_base64DecodeLoop input rest hrest]
          simpa [hc2, hc3, hn0, hn1, hn2, hn3] using h
  | [], _, h => h
  | [_], _, h => h
  | [_, _], _, h => h
  | [_, _, _], _, h => h

/-- What the daemon reads back, the client does. -/
theorem decodeBase64_of_base64Decode {input decoded : Bytes}
    (h : base64Decode input = some decoded) : decodeBase64 input = some decoded := by
  unfold base64Decode at h
  unfold decodeBase64
  split_ifs at h ⊢
  exact decodeBase64Loop_of_base64DecodeLoop input decoded h

end Cli

/-- **Bytes are read back as they were written:** by the client, of what the daemon writes, and by
the stores, of what they write. -/
theorem base64_codecs_agree (input : Bytes) :
    Cli.decodeBase64 (utf8 (String.ofList (Net.base64Encode input))) = some input ∧
      Store.base64Decode (utf8 (String.ofList (Store.base64Encode input))) = some input := by
  have hstores := Store.base64Decode_base64Encode input
  refine ⟨?_, hstores⟩
  rw [Net.base64Encode_eq]
  exact Cli.decodeBase64_of_base64Decode hstores

end Sentrits
