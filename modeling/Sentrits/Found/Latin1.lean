import Mathlib.Data.List.DropRight
import Sentrits.Found.Utf8

/-!
# UTF-8 that is read as Latin-1

Text is written as UTF-8 and each byte of it, up to some number of them, is read as the code point
of its number.

* `latin1`: what bytes are read as.
* `ReadsBack`: the text is of ASCII characters and fits, or it ends with characters of two bytes
  each whose bytes read as these characters again, and the number of bytes is the number of
  characters.
* `trim_latin1_eq_iff`: **text is read as it was written, apart from blanks at its end, exactly
  when** it reads back.
-/

namespace Found.Bytes

/-! ### Bytes that are read as code points -/

/-- Every byte is read as the code point of its number. -/
def latin1 (bs : Bytes) : List Char := bs.map Char.ofUInt8

/-- The byte with the number of a character. -/
def charByte (ch : Char) : UInt8 := UInt8.ofNat ch.toNat

/-- The character is a byte by itself. -/
def IsAsciiChar (ch : Char) : Prop := ch.toNat < 128

/-- The character has the number of a byte, and two bytes. -/
def IsUpperChar (ch : Char) : Prop := 128 ≤ ch.toNat ∧ ch.toNat < 256

instance (ch : Char) : Decidable (IsAsciiChar ch) := inferInstanceAs (Decidable (_ < _))

instance (ch : Char) : Decidable (IsUpperChar ch) := inferInstanceAs (Decidable (_ ∧ _))

/-- The character of a byte has its number. -/
theorem toNat_ofUInt8 (b : UInt8) : (Char.ofUInt8 b).toNat = b.toNat := by
  rfl

/-- A character of Latin-1 comes back from its byte. -/
theorem ofUInt8_charByte {ch : Char} (h : ch.toNat < 256) : Char.ofUInt8 (charByte ch) = ch := by
  apply Char.toNat_inj.mp
  rw [toNat_ofUInt8]
  unfold charByte
  rw [UInt8.toNat_ofNat', Nat.mod_eq_of_lt h]

/-- A byte comes back from its character. -/
theorem charByte_ofUInt8 (b : UInt8) : charByte (Char.ofUInt8 b) = b := by
  unfold charByte
  rw [toNat_ofUInt8, UInt8.ofNat_toNat]

/-- Bytes come back from their characters. -/
theorem map_charByte_latin1 (bs : Bytes) : (latin1 bs).map charByte = bs := by
  unfold latin1
  rw [List.map_map]
  exact (List.map_congr_left fun b _ => charByte_ofUInt8 b).trans (List.map_id _)

/-- Characters of Latin-1 come back from their bytes. -/
theorem latin1_map_charByte {chars : List Char} (h : ∀ ch ∈ chars, ch.toNat < 256) :
    latin1 (chars.map charByte) = chars := by
  unfold latin1
  rw [List.map_map]
  exact (List.map_congr_left fun ch hch => ofUInt8_charByte (h ch hch)).trans (List.map_id _)

/-- A character of ASCII is a byte of ASCII. -/
theorem isAscii_charByte {ch : Char} (h : IsAsciiChar ch) : IsAscii (charByte ch) := by
  unfold IsAsciiChar at h
  unfold IsAscii charByte
  rw [UInt8.lt_iff_toNat_lt, UInt8.toNat_ofNat', Nat.mod_eq_of_lt (by omega)]
  exact h

/-- ASCII characters are their bytes. -/
theorem encode_of_ascii {chars : List Char} (h : ∀ ch ∈ chars, IsAsciiChar ch) :
    encode chars = chars.map charByte := by
  induction chars with
  | nil => rfl
  | cons ch chars ih =>
      rw [List.forall_mem_cons] at h
      have hone := encode_ofUInt8 (isAscii_charByte h.1)
      rw [ofUInt8_charByte (Nat.lt_trans h.1 (by decide))] at hone
      rw [← List.singleton_append, encode_append, hone, ih h.2]
      rfl

/-- Text without an ASCII character has no such byte. -/
theorem notMem_encode_of_ascii {chars : List Char} {b : UInt8} (hb : IsAscii b)
    (h : Char.ofUInt8 b ∉ chars) : b ∉ encode chars := by
  intro hmem
  obtain ⟨ch, hch, hbyte⟩ := List.mem_flatMap.mp hmem
  by_cases hascii : IsAsciiChar ch
  · have hencode : encode [ch] = [ch].map charByte := encode_of_ascii (by simpa using hascii)
    have hone : String.utf8EncodeChar ch = [charByte ch] := by
      rwa [encode, List.flatMap_singleton] at hencode
    rw [hone, List.mem_singleton] at hbyte
    have hback := ofUInt8_charByte (Nat.lt_trans hascii (by decide))
    rw [← hbyte] at hback
    rw [← hback] at hch
    exact h hch
  · exact not_isAscii_of_mem_utf8EncodeChar (Nat.not_lt.mp hascii) hbyte hb

/-- The other characters of that kind have two bytes each. -/
theorem length_encode_upper {chars : List Char} (h : ∀ ch ∈ chars, IsUpperChar ch) :
    (encode chars).length = 2 * chars.length := by
  induction chars with
  | nil => rfl
  | cons ch chars ih =>
      rw [List.forall_mem_cons] at h
      have htwo : (String.utf8EncodeChar ch).length = 2 := by
        rw [String.length_utf8EncodeChar]
        unfold Char.utf8Size
        have hlow : ¬ch.val ≤ 0x7f := by
          rw [UInt32.le_iff_toNat_le]
          exact Nat.not_le.mpr h.1.1
        have hhigh : ch.val ≤ 0x7ff := by
          rw [UInt32.le_iff_toNat_le]
          exact Nat.le_trans (Nat.le_of_lt h.1.2) (by decide)
        simp [hlow, hhigh]
      rw [encode_cons, List.length_append, ih h.2, htwo, List.length_cons]
      omega

/-- None of their bytes is an ASCII one. -/
theorem not_isAscii_of_mem_encode {chars : List Char} (h : ∀ ch ∈ chars, IsUpperChar ch) {b : UInt8}
    (hb : b ∈ encode chars) : ¬IsAscii b := by
  obtain ⟨ch, hch, hmem⟩ := List.mem_flatMap.mp hb
  exact not_isAscii_of_mem_utf8EncodeChar (h ch hch).1 hmem

/-! ### What is read as it was written -/

/-- The text is of ASCII characters and fits; or it is of ASCII characters followed by others whose
bytes begin with the bytes of their own numbers, and there are as many characters as bytes are
read. -/
def ReadsBack (columns : ℕ) (chars : List Char) : Prop :=
  (∀ ch ∈ chars, IsAsciiChar ch) ∧ chars.length ≤ columns ∨
    ∃ front tail, chars = front ++ tail ∧ tail ≠ [] ∧ (∀ ch ∈ front, IsAsciiChar ch) ∧
      (∀ ch ∈ tail, IsUpperChar ch) ∧ tail.map charByte <+: encode tail ∧
      chars.length = columns

/-- Text that reads back is read as it was written. -/
theorem latin1_take_of_readsBack {columns : ℕ} {chars : List Char} (h : ReadsBack columns chars) :
    latin1 ((encode chars).take columns) = chars := by
  rcases h with ⟨hascii, hfits⟩ | ⟨front, tail, rfl, -, hfront, htail, hbytes, hlength⟩
  · rw [encode_of_ascii hascii, List.take_of_length_le (by rwa [List.length_map]),
      latin1_map_charByte fun ch hch => Nat.lt_trans (hascii ch hch) (by decide)]
  · obtain ⟨more, hmore⟩ := hbytes
    rw [List.length_append] at hlength
    have hall : ∀ ch ∈ front ++ tail, ch.toNat < 256 := by
      intro ch hch
      rcases List.mem_append.mp hch with hch | hch
      · exact Nat.lt_trans (hfront ch hch) (by decide)
      · exact (htail ch hch).2
    have htake : (encode (front ++ tail)).take columns = (front ++ tail).map charByte := by
      rw [encode_append, encode_of_ascii hfront, ← hmore, ← List.append_assoc, ← List.map_append]
      apply List.take_left'
      rw [List.length_map, List.length_append]
      exact hlength
    rw [htake, latin1_map_charByte hall]

/-- Behind as many bytes as there are characters of that kind, there is another byte, no ASCII one.
-/
theorem exists_mem_encode_upper {chars : List Char} (h : ∀ ch ∈ chars, IsUpperChar ch)
    (hne : chars ≠ []) (rest : Bytes) :
    ∃ b, (encode chars ++ rest)[chars.length]? = some b ∧ ¬IsAscii b := by
  have hlength := length_encode_upper h
  have hpos := List.length_pos_iff.mpr hne
  have hlt : chars.length < (encode chars).length := by omega
  refine ⟨(encode chars)[chars.length], ?_, not_isAscii_of_mem_encode h (List.getElem_mem hlt)⟩
  rw [List.getElem?_append_left hlt, List.getElem?_eq_getElem hlt]

/-- Characters whose bytes begin with the bytes of their own numbers have no ASCII one among them,
if the first is none. -/
theorem upper_of_prefix {tail : List Char} (hbytes : tail.map charByte <+: encode tail)
    (hsmall : ∀ ch ∈ tail, ch.toNat < 256) (hfirst : ∀ ch, tail.head? = some ch → ¬IsAsciiChar ch) :
    ∀ ch ∈ tail, IsUpperChar ch := by
  have hsplit := List.takeWhile_append_dropWhile (p := fun ch => ¬IsAsciiChar ch) (l := tail)
  have hupper : ∀ ch ∈ tail.takeWhile (fun ch => ¬IsAsciiChar ch), IsUpperChar ch := by
    intro ch hch
    have hnot : ¬IsAsciiChar ch := by simpa using List.mem_takeWhile_imp hch
    have hmem : ch ∈ tail := (List.takeWhile_prefix _).subset hch
    exact ⟨Nat.not_lt.mp hnot, hsmall ch hmem⟩
  rcases hrest : tail.dropWhile (fun ch => ¬IsAsciiChar ch) with _ | ⟨ch, more⟩
  · rw [hrest, List.append_nil] at hsplit
    rwa [hsplit] at hupper
  · -- the first ASCII character stands where the bytes of those in front of it still go on
    exfalso
    have hascii : IsAsciiChar ch := by
      have hhead := List.head?_dropWhile_not (fun ch => decide ¬IsAsciiChar ch) tail
      rw [hrest] at hhead
      simpa using hhead
    generalize tail.takeWhile (fun ch => ¬IsAsciiChar ch) = upper at hsplit hupper
    rw [hrest] at hsplit
    subst hsplit
    have hne : upper ≠ [] := by
      rintro rfl
      exact hfirst ch rfl hascii
    obtain ⟨behind, hbehind⟩ := hbytes
    rw [encode_append] at hbehind
    obtain ⟨b, hb, hnot⟩ := exists_mem_encode_upper hupper hne (encode (ch :: more))
    rw [← hbehind, List.map_append, List.append_assoc,
      List.getElem?_append_right (by rw [List.length_map]), List.length_map, Nat.sub_self] at hb
    obtain rfl := Option.some.inj hb
    exact hnot (isAscii_charByte hascii)

/-- **Text is read as it was written, apart from blanks at its end, exactly when** it reads back. -/
theorem trim_latin1_eq_iff {columns : ℕ} {chars : List Char}
    (htrim : chars.rdropWhile (· == ' ') = chars) :
    (latin1 ((encode chars).take columns)).rdropWhile (· == ' ') = chars ↔
      ReadsBack columns chars := by
  constructor
  · intro h
    have hread := List.rdropWhile_append_rtakeWhile (p := (· == ' '))
      (l := latin1 ((encode chars).take columns))
    rw [h] at hread
    generalize hblanks : (latin1 ((encode chars).take columns)).rtakeWhile (· == ' ') = blanks
      at hread
    have hlength : chars.length + blanks.length = min columns (encode chars).length := by
      have hcount := congrArg List.length hread
      unfold latin1 at hcount
      rwa [List.length_append, List.length_map, List.length_take] at hcount
    have hbytes : chars.map charByte ++ blanks.map charByte = (encode chars).take columns := by
      rw [← List.map_append, hread, map_charByte_latin1]
    have hsmall : ∀ ch ∈ chars, ch.toNat < 256 := by
      intro ch hch
      have hmem : ch ∈ latin1 ((encode chars).take columns) := by
        rw [← hread]
        exact List.mem_append_left _ hch
      obtain ⟨b, -, rfl⟩ := List.mem_map.mp hmem
      exact b.toNat_lt
    -- the ASCII characters in front, and what is behind them
    have hsplit := List.takeWhile_append_dropWhile (p := fun ch => IsAsciiChar ch) (l := chars)
    have hfront : ∀ ch ∈ chars.takeWhile (fun ch => IsAsciiChar ch), IsAsciiChar ch := by
      intro ch hch
      simpa using List.mem_takeWhile_imp hch
    have hfirst : ∀ ch, (chars.dropWhile fun ch => IsAsciiChar ch).head? = some ch →
        ¬IsAsciiChar ch := by
      intro ch hch
      have hhead := List.head?_dropWhile_not (fun ch => decide (IsAsciiChar ch)) chars
      rw [hch] at hhead
      simpa using hhead
    generalize chars.takeWhile (fun ch => IsAsciiChar ch) = front at hsplit hfront
    generalize chars.dropWhile (fun ch => IsAsciiChar ch) = tail at hsplit hfirst
    subst hsplit
    rcases tail with _ | ⟨first, tail⟩
    · left
      rw [List.append_nil] at hlength ⊢
      exact ⟨hfront, by omega⟩
    · right
      have hencode : encode (front ++ first :: tail) =
          front.map charByte ++ encode (first :: tail) := by
        rw [encode_append, encode_of_ascii hfront]
      have hbegins : (first :: tail).map charByte ++ blanks.map charByte <+:
          encode (first :: tail) := by
        have htake := List.take_prefix columns (encode (front ++ first :: tail))
        rw [← hbytes, hencode, List.map_append, List.append_assoc] at htake
        exact (List.prefix_append_right_inj _).mp htake
      have hupper := upper_of_prefix ((List.prefix_append _ _).trans hbegins)
        (fun ch hch => hsmall ch (List.mem_append_right _ hch)) hfirst
      refine ⟨front, first :: tail, rfl, List.cons_ne_nil _ _, hfront, hupper,
        (List.prefix_append _ _).trans hbegins, ?_⟩
      -- a blank behind the characters would be one of their bytes
      have hnone : blanks = [] := by
        rcases blanks with _ | ⟨blank, blanks⟩
        · rfl
        · exfalso
          have hblank : blank = ' ' := by
            have hmem : blank ∈ (latin1 ((encode (front ++ first :: tail)).take columns)).rtakeWhile
                (· == ' ') := by
              rw [hblanks]
              exact List.mem_cons_self
            simpa using List.mem_rtakeWhile_imp hmem
          obtain ⟨b, hb, hnot⟩ := exists_mem_encode_upper hupper (List.cons_ne_nil _ _) []
          obtain ⟨behind, hbehind⟩ := hbegins
          rw [List.append_nil, ← hbehind, List.append_assoc,
            List.getElem?_append_right (by rw [List.length_map]), List.length_map,
            Nat.sub_self] at hb
          obtain rfl := Option.some.inj hb
          rw [hblank] at hnot
          exact hnot (by decide)
      have hlengths : (encode (front ++ first :: tail)).length =
          front.length + 2 * (first :: tail).length := by
        rw [hencode, List.length_append, List.length_map, length_encode_upper hupper]
      rw [hnone, hlengths] at hlength
      simp only [List.length_append, List.length_cons, List.length_nil] at hlength ⊢
      omega
  · intro h
    rw [latin1_take_of_readsBack h, htrim]

end Found.Bytes
