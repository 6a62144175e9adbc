import Sentrits.Found.Utf8

/-!
# Going through text one character at a time

The first byte of a character tells how many bytes it has, and no other byte of one looks like a
first byte: whoever starts in front of a character gets from each to the next, and text that is cut
off within one is no text.

* `exists_lead`: what the first byte of a character tells.
* `IsCut`: between two characters, or at one of the ends.
* `isText_drop_iff`: **what is behind a place of a text is text exactly when** the place is between
  two characters.
-/

namespace Found.Bytes

/-! ### First bytes -/

/-- A mask that has nothing in common with the bits of a character leaves what they are put on. -/
theorem and_or_and {bits marks mask : UInt8} (h : bits &&& mask = 0) (x : UInt8) :
    (x &&& bits ||| marks) &&& mask = marks &&& mask := by
  apply UInt8.toBitVec_inj.mp
  have hbits : bits.toBitVec &&& mask.toBitVec = 0#8 := congrArg UInt8.toBitVec h
  calc (x.toBitVec &&& bits.toBitVec ||| marks.toBitVec) &&& mask.toBitVec
      = x.toBitVec &&& (bits.toBitVec &&& mask.toBitVec) |||
          marks.toBitVec &&& mask.toBitVec := by
        ext i
        simp only [BitVec.getElem_and, BitVec.getElem_or]
        rw [Bool.and_or_distrib_right, Bool.and_assoc]
    _ = marks.toBitVec &&& mask.toBitVec := by
        rw [hbits, BitVec.and_zero, BitVec.zero_or]

/-- How two bytes begin. -/
theorem lead_of_length_two (x : UInt8) :
    (x &&& 0x1f ||| 0xc0) &&& 0x80 ≠ 0 ∧ (x &&& 0x1f ||| 0xc0) &&& 0xe0 = 0xc0 := by
  rw [and_or_and (by decide), and_or_and (by decide)]
  decide

/-- How three bytes begin. -/
theorem lead_of_length_three (x : UInt8) :
    (x &&& 0x0f ||| 0xe0) &&& 0x80 ≠ 0 ∧ (x &&& 0x0f ||| 0xe0) &&& 0xe0 ≠ 0xc0 ∧
      (x &&& 0x0f ||| 0xe0) &&& 0xf0 = 0xe0 := by
  rw [and_or_and (by decide), and_or_and (by decide), and_or_and (by decide)]
  decide

/-- How four bytes begin. -/
theorem lead_of_length_four (x : UInt8) :
    (x &&& 0x07 ||| 0xf0) &&& 0x80 ≠ 0 ∧ (x &&& 0x07 ||| 0xf0) &&& 0xe0 ≠ 0xc0 ∧
      (x &&& 0x07 ||| 0xf0) &&& 0xf0 ≠ 0xe0 ∧ (x &&& 0x07 ||| 0xf0) &&& 0xf8 = 0xf0 := by
  rw [and_or_and (by decide), and_or_and (by decide), and_or_and (by decide),
    and_or_and (by decide)]
  decide

/-- **What the first byte of a character tells** of how many there are. -/
theorem exists_lead (ch : Char) :
    ∃ lead rest, String.utf8EncodeChar ch = lead :: rest ∧
      (rest.length = 0 ∧ lead &&& 0x80 = 0 ∨
        rest.length = 1 ∧ lead &&& 0x80 ≠ 0 ∧ lead &&& 0xe0 = 0xc0 ∨
        rest.length = 2 ∧ lead &&& 0x80 ≠ 0 ∧ lead &&& 0xe0 ≠ 0xc0 ∧ lead &&& 0xf0 = 0xe0 ∨
        rest.length = 3 ∧ lead &&& 0x80 ≠ 0 ∧ lead &&& 0xe0 ≠ 0xc0 ∧ lead &&& 0xf0 ≠ 0xe0 ∧
          lead &&& 0xf8 = 0xf0) := by
  rw [String.utf8EncodeChar_eq_utf8EncodeCharFast]
  unfold String.utf8EncodeCharFast
  dsimp only
  split_ifs with hone htwo hthree
  · refine ⟨_, _, rfl, Or.inl ⟨rfl, ?_⟩⟩
    have hall : ∀ n : Fin 128, UInt8.ofNat n &&& 0x80 = 0 := by decide +kernel
    have hlt : ch.val.toNat < 128 := by
      have hle := UInt32.le_iff_toNat_le.mp hone
      exact Nat.lt_succ_of_le hle
    exact hall ⟨ch.val.toNat, hlt⟩
  · exact ⟨_, _, rfl, Or.inr (Or.inl ⟨rfl, lead_of_length_two _⟩)⟩
  · exact ⟨_, _, rfl, Or.inr (Or.inr (Or.inl ⟨rfl, lead_of_length_three _⟩))⟩
  · exact ⟨_, _, rfl, Or.inr (Or.inr (Or.inr ⟨rfl, lead_of_length_four _⟩))⟩

/-- A byte behind the first of a character begins no text. -/
theorem not_isText_of_within {ch : Char} {front : Bytes} {b : UInt8} {back rest : Bytes}
    (hfront : front ≠ []) (h : String.utf8EncodeChar ch = front ++ b :: back) :
    ¬IsText (b :: back ++ rest) := by
  intro htext
  obtain ⟨chars, hchars⟩ := isText_iff.mp htext
  have hat : (String.utf8EncodeChar ch)[front.length]? = some b := by
    rw [h, List.getElem?_append_right (le_refl _), Nat.sub_self, List.getElem?_cons_zero]
  obtain ⟨hlt, hb⟩ := List.getElem?_eq_some_iff.mp hat
  have hnot : ¬b.IsUTF8FirstByte := by
    rw [← hb, UInt8.isUTF8FirstByte_getElem_utf8EncodeChar]
    exact fun hzero => hfront (List.length_eq_zero_iff.mp hzero)
  rcases chars with _ | ⟨first, chars⟩
  · cases hchars
  · have hne : String.utf8EncodeChar first ≠ [] := String.utf8EncodeChar_ne_nil
    obtain ⟨lead, more, hlead⟩ := List.exists_cons_of_ne_nil hne
    have hzero : lead.IsUTF8FirstByte := by
      have hpos : 0 < (String.utf8EncodeChar first).length := List.length_pos_iff.mpr hne
      have hget : (String.utf8EncodeChar first)[0] = lead := by
        simp only [hlead, List.getElem_cons_zero]
      rw [← hget, UInt8.isUTF8FirstByte_getElem_utf8EncodeChar]
    rw [encode_cons, hlead, List.cons_append, List.cons_append] at hchars
    obtain ⟨rfl, -⟩ := List.cons.inj hchars
    exact hnot hzero

/-! ### Cuts -/

/-- The place is between two characters of a text, or at one of its ends. -/
def IsCut (chars : List Char) (place : ℕ) : Prop :=
  ∃ front, front <+: chars ∧ (encode front).length = place

/-- **What is behind a place of a text is text exactly when** the place is between two characters.
-/
theorem isText_drop_iff {chars : List Char} {place : ℕ} (h : place ≤ (encode chars).length) :
    IsText ((encode chars).drop place) ↔ IsCut chars place := by
  induction chars generalizing place with
  | nil =>
      obtain rfl := Nat.le_zero.mp h
      exact iff_of_true (isText_encode []) ⟨[], List.prefix_refl _, rfl⟩
  | cons ch chars ih =>
      rw [encode_cons, List.length_append] at h
      rw [encode_cons]
      by_cases hpast : (String.utf8EncodeChar ch).length ≤ place
      · rw [List.drop_append, List.drop_eq_nil_of_le hpast, List.nil_append, ih (by omega)]
        constructor
        · rintro ⟨front, hfront, hlength⟩
          refine ⟨ch :: front, List.cons_prefix_cons.mpr ⟨rfl, hfront⟩, ?_⟩
          rw [encode_cons, List.length_append]
          omega
        · rintro ⟨front, hfront, hlength⟩
          rcases front with _ | ⟨first, front⟩
          · refine ⟨[], List.nil_prefix, ?_⟩
            rw [← hlength]
            exact (Nat.zero_sub _).symm
          · obtain ⟨rfl, hfront'⟩ := List.cons_prefix_cons.mp hfront
            rw [encode_cons, List.length_append] at hlength
            exact ⟨front, hfront', by omega⟩
      · rcases Nat.eq_zero_or_pos place with rfl | hpos
        · rw [List.drop_zero, ← encode_cons]
          exact iff_of_true (isText_encode _) ⟨[], List.nil_prefix, rfl⟩
        · apply iff_of_false
          · have hsplit := List.take_append_drop place (String.utf8EncodeChar ch)
            have hback : (String.utf8EncodeChar ch).drop place ≠ [] := by
              rw [Ne, List.drop_eq_nil_iff]
              exact hpast
            obtain ⟨b, back, hb⟩ := List.exists_cons_of_ne_nil hback
            have hfront : (String.utf8EncodeChar ch).take place ≠ [] := by
              rw [Ne, List.take_eq_nil_iff, not_or]
              exact ⟨hpos.ne', String.utf8EncodeChar_ne_nil⟩
            rw [List.drop_append_of_le_length (by omega), hb]
            exact not_isText_of_within hfront (by rw [← hb, hsplit])
          · rintro ⟨front, hfront, hlength⟩
            rcases front with _ | ⟨first, front⟩
            · exact hpos.ne hlength
            · obtain ⟨rfl, -⟩ := List.cons_prefix_cons.mp hfront
              rw [encode_cons, List.length_append] at hlength
              omega

end Found.Bytes
