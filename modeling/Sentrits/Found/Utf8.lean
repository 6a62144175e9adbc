import Sentrits.Found.Bytes

/-!
# Text among bytes

Whether bytes are text can be looked at piece by piece, as long as the pieces are cut in front of or
behind an ASCII sign: no other sign's encoding has an ASCII byte in it.

* `IsText`, `textOf_eq_some_iff`: bytes that are valid UTF-8, and the text they are.
* `isText_append_cons_iff`: **bytes with an ASCII sign between them are text exactly when** what is
  in front of it and what is behind it are.
* `isText_ascii_append_iff`: ASCII signs in front change nothing.
-/

namespace Found.Bytes

/-! ### Bytes that are text -/

/-- The bytes are valid UTF-8. -/
def IsText (bs : Bytes) : Prop := (textOf bs).isSome = true

instance (bs : Bytes) : Decidable (IsText bs) := inferInstanceAs (Decidable (_ = true))

/-- The characters' bytes, one after the other. -/
def encode (chars : List Char) : Bytes := chars.flatMap String.utf8EncodeChar

/-- The bytes of a text are those of its characters. -/
theorem encode_toList (s : String) : encode s.toList = utf8 s := by rfl

/-- The bytes of two texts, one after the other. -/
theorem encode_append (front back : List Char) :
    encode (front ++ back) = encode front ++ encode back := by
  exact List.flatMap_append

/-- The bytes of the first character come first. -/
theorem encode_cons (ch : Char) (chars : List Char) :
    encode (ch :: chars) = String.utf8EncodeChar ch ++ encode chars := by
  exact List.flatMap_cons

/-- The bytes of a text made of characters. -/
theorem utf8_ofList (chars : List Char) : utf8 (String.ofList chars) = encode chars := by
  rw [← encode_toList, String.toList_ofList]

/-- **The text some bytes are** is the one with these bytes. -/
theorem textOf_eq_some_iff {bs : Bytes} {s : String} : textOf bs = some s ↔ utf8 s = bs := by
  constructor
  · intro h
    unfold textOf String.fromUTF8? at h
    split_ifs at h with hvalid
    rw [Option.some.injEq] at h
    have hbytes : s.toByteArray = bs.toByteArray := by
      rw [← h]
      rfl
    have hutf8 : (utf8 s).toByteArray = s.toByteArray := by
      show s.toList.utf8Encode = s.toByteArray
      rw [← String.toByteArray_ofList, String.ofList_toList]
    have hdata := congrArg (fun bytes => bytes.data.toList) (hutf8.trans hbytes)
    simpa using hdata
  · rintro rfl
    exact textOf_utf8 s

/-- **Two texts have different bytes.** -/
theorem encode_injective {chars chars' : List Char} (h : encode chars = encode chars') :
    chars = chars' := by
  rw [← utf8_ofList, ← utf8_ofList] at h
  have hlists := congrArg String.toList (utf8_injective h)
  rwa [String.toList_ofList, String.toList_ofList] at hlists

/-- Text is what characters are written as. -/
theorem isText_iff {bs : Bytes} : IsText bs ↔ ∃ chars, encode chars = bs := by
  unfold IsText
  rw [Option.isSome_iff_exists]
  constructor
  · rintro ⟨s, hs⟩
    exact ⟨s.toList, textOf_eq_some_iff.mp hs⟩
  · rintro ⟨chars, hchars⟩
    refine ⟨String.ofList chars, textOf_eq_some_iff.mpr ?_⟩
    rw [utf8_ofList, hchars]

/-- Characters are written as text. -/
theorem isText_encode (chars : List Char) : IsText (encode chars) := isText_iff.mpr ⟨chars, rfl⟩

/-! ### ASCII -/

/-- A byte that is a character by itself. -/
def IsAscii (b : UInt8) : Prop := b < 0x80

instance (b : UInt8) : Decidable (IsAscii b) := inferInstanceAs (Decidable (b < 0x80))

/-- Bytes that are checked to be ASCII are. -/
theorem isAscii_of_all {bs : Bytes} (h : bs.all (· < 0x80) = true) : ∀ b ∈ bs, IsAscii b :=
  fun b hb => of_decide_eq_true (List.all_eq_true.mp h b hb)

/-- The character an ASCII byte is. -/
theorem encode_ofUInt8 {b : UInt8} (h : IsAscii b) : encode [Char.ofUInt8 b] = [b] := by
  have hall : ∀ n : Fin 128, encode [Char.ofUInt8 (UInt8.ofNat n)] = [UInt8.ofNat n] := by
    decide +kernel
  have hlt : b.toNat < 128 := by simpa [IsAscii, UInt8.lt_iff_toNat_lt] using h
  have hb := hall ⟨b.toNat, hlt⟩
  rwa [UInt8.ofNat_toNat] at hb

/-- Only the first byte of a character may be an ASCII one. -/
theorem eq_nil_of_utf8EncodeChar {ch : Char} {front back : Bytes} {b : UInt8} (hb : IsAscii b)
    (h : String.utf8EncodeChar ch = front ++ b :: back) : front = [] := by
  have hfirst : b.IsUTF8FirstByte := by
    have hall : ∀ n : Fin 128, (UInt8.ofNat n).IsUTF8FirstByte := by decide +kernel
    have hlt : b.toNat < 128 := by simpa [IsAscii, UInt8.lt_iff_toNat_lt] using hb
    have hn := hall ⟨b.toNat, hlt⟩
    rwa [UInt8.ofNat_toNat] at hn
  have hi : front.length < (String.utf8EncodeChar ch).length := by
    rw [h, List.length_append, List.length_cons]
    omega
  have hat : (String.utf8EncodeChar ch)[front.length] = b := by
    simp [h]
  rw [← hat, UInt8.isUTF8FirstByte_getElem_utf8EncodeChar] at hfirst
  exact List.eq_nil_of_length_eq_zero hfirst

/-- **A cut in front of an ASCII byte** goes through no character. -/
theorem exists_encode_of_append_cons {chars : List Char} {front back : Bytes} {b : UInt8}
    (hb : IsAscii b) (h : encode chars = front ++ b :: back) :
    ∃ charsFront charsBack, encode charsFront = front ∧ encode charsBack = b :: back := by
  induction chars generalizing front with
  | nil => exact absurd h (by simp [encode])
  | cons ch chars ih =>
      rw [encode_cons] at h
      rcases List.append_eq_append_iff.mp h with ⟨rest, hfront, hrest⟩ | ⟨rest, hch, hrest⟩
      · obtain ⟨charsFront, charsBack, hencode, hback⟩ := ih hrest
        exact ⟨ch :: charsFront, charsBack, by rw [encode_cons, hencode, hfront], hback⟩
      · rcases rest with _ | ⟨b', rest⟩
        · rw [List.append_nil] at hch
          refine ⟨[ch], chars, ?_, hrest.symm⟩
          rw [← hch]
          simp [encode]
        · obtain ⟨rfl, hrest⟩ := List.cons.inj hrest
          obtain rfl := eq_nil_of_utf8EncodeChar hb hch
          exact ⟨[], ch :: chars, rfl, by rw [encode_cons, h, List.nil_append]⟩

/-- An ASCII sign in front changes nothing. -/
theorem isText_cons_iff {b : UInt8} (hb : IsAscii b) {bs : Bytes} :
    IsText (b :: bs) ↔ IsText bs := by
  have hvalid : ∀ bs : Bytes, IsText bs ↔ bs.toByteArray.IsValidUTF8 := by
    intro bs
    unfold IsText textOf String.fromUTF8?
    split_ifs with h
    · exact iff_of_true rfl h
    · exact iff_of_false (by simp) h
  have hcons : (b :: bs).toByteArray = [Char.ofUInt8 b].utf8Encode ++ bs.toByteArray := by
    show (b :: bs).toByteArray = (encode [Char.ofUInt8 b]).toByteArray ++ bs.toByteArray
    rw [encode_ofUInt8 hb, ← List.toByteArray_append, List.singleton_append]
  rw [hvalid, hvalid, hcons, ByteArray.isValidUTF8_utf8Encode_singleton_append_iff]

/-- Neither do many of them. -/
theorem isText_ascii_append_iff {front : Bytes} (hfront : ∀ b ∈ front, IsAscii b) {back : Bytes} :
    IsText (front ++ back) ↔ IsText back := by
  induction front with
  | nil => rw [List.nil_append]
  | cons b front ih =>
      rw [List.forall_mem_cons] at hfront
      rw [List.cons_append, isText_cons_iff hfront.1, ih hfront.2]

/-- Text behind text is text. -/
theorem IsText.append {front back : Bytes} (hfront : IsText front) (hback : IsText back) :
    IsText (front ++ back) := by
  obtain ⟨charsFront, rfl⟩ := isText_iff.mp hfront
  obtain ⟨charsBack, rfl⟩ := isText_iff.mp hback
  rw [← encode_append]
  exact isText_encode _

/-- **Bytes with an ASCII sign between them are text exactly when** what is in front of it and what
is behind it are. -/
theorem isText_append_cons_iff {b : UInt8} (hb : IsAscii b) {front back : Bytes} :
    IsText (front ++ b :: back) ↔ IsText front ∧ IsText back := by
  constructor
  · intro h
    obtain ⟨chars, hchars⟩ := isText_iff.mp h
    obtain ⟨charsFront, charsBack, hfront, hback⟩ := exists_encode_of_append_cons hb hchars
    refine ⟨?_, (isText_cons_iff hb).mp ?_⟩
    · rw [← hfront]
      exact isText_encode charsFront
    · rw [← hback]
      exact isText_encode charsBack
  · rintro ⟨hfront, hback⟩
    exact hfront.append ((isText_cons_iff hb).mpr hback)

/-- No byte of another character is an ASCII one. -/
theorem not_isAscii_of_mem_utf8EncodeChar {ch : Char} (hch : 128 ≤ ch.toNat) {b : UInt8}
    (hb : b ∈ String.utf8EncodeChar ch) : ¬ IsAscii b := by
  intro hascii
  obtain ⟨front, back, hbytes⟩ := List.append_of_mem hb
  obtain rfl := eq_nil_of_utf8EncodeChar hascii hbytes
  have hencode : encode [ch] = b :: back := by
    rw [← List.nil_append (b :: back), ← hbytes]
    simp [encode]
  have hback : IsText back := by
    rw [← isText_cons_iff hascii, ← hencode]
    exact isText_encode [ch]
  obtain ⟨chars, rfl⟩ := isText_iff.mp hback
  have hone : [ch] = Char.ofUInt8 b :: chars := by
    apply encode_injective
    have hcons := encode_append [Char.ofUInt8 b] chars
    rw [encode_ofUInt8 hascii, List.singleton_append, List.singleton_append] at hcons
    rw [hencode, hcons]
  have hnat : ch.toNat = b.toNat := by
    rw [(List.cons.inj hone).1]
    rfl
  have hlt : b.toNat < 128 := by simpa [IsAscii, UInt8.lt_iff_toNat_lt] using hascii
  omega

end Found.Bytes
