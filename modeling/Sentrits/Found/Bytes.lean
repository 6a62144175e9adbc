import Mathlib.Data.List.TakeWhile

/-!
# Byte strings

A byte string is a list of bytes: what a descriptor, a request target or a C string holds before
anybody decodes it. Text that is known to be valid UTF-8 stays a `String`; `utf8` gives its bytes,
and `textOf` reads them again.
-/

namespace Found

/-- A sequence of bytes, of any length and any content. -/
abbrev Bytes := List UInt8

instance : LawfulBEq Bytes := inferInstance

namespace Bytes

/-- The bytes of a text. -/
def utf8 (s : String) : Bytes :=
  s.toList.flatMap String.utf8EncodeChar

/-- The text some bytes are, when they are valid UTF-8. -/
def textOf (bs : Bytes) : Option String :=
  String.fromUTF8? bs.toByteArray

/-- The bytes of a text are read as it. -/
theorem textOf_utf8 (s : String) : textOf (utf8 s) = some s := by
  have hbytes : (utf8 s).toByteArray = s.toByteArray := by
    show s.toList.utf8Encode = s.toByteArray
    rw [← String.toByteArray_ofList, String.ofList_toList]
  unfold textOf String.fromUTF8?
  rw [hbytes, dif_pos s.isValidUTF8]
  rfl

/-- Two texts with the same bytes are the same. -/
theorem utf8_injective {s s' : String} (h : utf8 s = utf8 s') : s = s' := by
  have htext := congrArg textOf h
  rw [textOf_utf8, textOf_utf8] at htext
  exact Option.some.inj htext

/-- Carriage return. -/
def cr : UInt8 := 13

/-- Line feed. -/
def lf : UInt8 := 10

/-- The terminator of a C string. -/
def nul : UInt8 := 0

/-- A line feed is no carriage return. -/
theorem lf_ne_cr : lf ≠ cr := by decide

/-- What a C string built from the bytes holds: everything before the first NUL. -/
def cString (bs : Bytes) : Bytes :=
  bs.takeWhile (· ≠ nul)

/-- A C string has no NUL. -/
theorem nul_notMem_cString (bs : Bytes) : nul ∉ cString bs := by
  intro hin
  have hkept := List.mem_takeWhile_imp hin
  simp at hkept

/-- Bytes without one are passed on as they are. -/
theorem cString_of_nul_notMem {bs : Bytes} (h : nul ∉ bs) : cString bs = bs := by
  unfold cString
  rw [List.takeWhile_eq_self_iff]
  intro b hb
  simpa using fun hnul : b = nul => h (hnul ▸ hb)

/-! ### Up to a sign -/

/-- Up to a sign that what is in front does not have. -/
theorem takeWhile_append_sign {front : Bytes} {sign : UInt8} (h : sign ∉ front) (rest : Bytes) :
    (front ++ sign :: rest).takeWhile (· != sign) = front := by
  rw [List.takeWhile_append_of_pos, List.takeWhile_cons_of_neg (by simp), List.append_nil]
  intro ch hch
  simpa using fun heq : ch = sign => h (heq ▸ hch)

/-- Behind a sign that what is in front does not have. -/
theorem drop_dropWhile_append_sign {front : Bytes} {sign : UInt8} (h : sign ∉ front)
    (rest : Bytes) : ((front ++ sign :: rest).dropWhile (· != sign)).drop 1 = rest := by
  rw [List.dropWhile_append_of_pos, List.dropWhile_cons_of_neg (by simp)]
  · rfl
  · intro ch hch
    simpa using fun heq : ch = sign => h (heq ▸ hch)

/-! ### Halves of a byte -/

/-- A byte is put together of its two halves. -/
theorem high_or_low (b : UInt8) : (b >>> 4) <<< 4 ||| (b &&& 0x0f) = b := by
  apply UInt8.toBitVec_inj.mp
  show b.toBitVec >>> 4 <<< 4 ||| b.toBitVec &&& 15#8 = b.toBitVec
  apply BitVec.eq_of_getElem_eq
  intro i hi
  have hcases : i = 0 ∨ i = 1 ∨ i = 2 ∨ i = 3 ∨ i = 4 ∨ i = 5 ∨ i = 6 ∨ i = 7 := by
    omega
  rcases hcases with rfl | rfl | rfl | rfl | rfl | rfl | rfl | rfl <;> simp

/-- The halves of a byte have four bits. -/
theorem halves_lt (b : UInt8) : b >>> 4 < 16 ∧ b &&& 0x0f < 16 := by
  refine ⟨UInt8.lt_iff_toNat_lt.mpr ?_, UInt8.lt_iff_toNat_lt.mpr ?_⟩
  · have hb := b.toNat_lt
    rw [UInt8.toNat_shiftRight, Nat.shiftRight_eq_div_pow]
    show b.toNat / 16 < 16
    omega
  · rw [UInt8.toNat_and]
    show _ < 2 ^ 4
    apply Nat.and_lt_two_pow
    decide

/-- What is tried for each half of a byte holds of all. -/
theorem forall_nibble {P : UInt8 → Prop} (h : ∀ n : Fin 16, P (UInt8.ofNat n)) (nibble : UInt8)
    (hlt : nibble < 16) : P nibble := by
  have hn := h ⟨nibble.toNat, UInt8.lt_iff_toNat_lt.mp hlt⟩
  rwa [UInt8.ofNat_toNat] at hn

/-- What is tried for each quarter of the bytes holds of all. -/
theorem forall_quarters {P : UInt8 → Prop} (h₀ : ∀ n : Fin 64, P (UInt8.ofNat n))
    (h₁ : ∀ n : Fin 64, P (UInt8.ofNat (64 + n))) (h₂ : ∀ n : Fin 64, P (UInt8.ofNat (128 + n)))
    (h₃ : ∀ n : Fin 64, P (UInt8.ofNat (192 + n))) (b : UInt8) : P b := by
  have hin : ∀ k, k ≤ b.toNat → b.toNat < k + 64 → (∀ n : Fin 64, P (UInt8.ofNat (k + n))) →
      P b := by
    intro k hle hbelow hquarter
    have hb := hquarter ⟨b.toNat - k, by omega⟩
    dsimp only at hb
    rwa [Nat.add_sub_cancel' hle, UInt8.ofNat_toNat] at hb
  rcases Nat.lt_or_ge b.toNat 128 with hlow | hhigh
  · rcases Nat.lt_or_ge b.toNat 64 with hfirst | hsecond
    · exact hin 0 (Nat.zero_le _) hfirst fun n => by simpa using h₀ n
    · exact hin 64 hsecond hlow h₁
  · rcases Nat.lt_or_ge b.toNat 192 with hthird | hfourth
    · exact hin 128 hhigh hthird h₂
    · exact hin 192 hfourth b.toNat_lt h₃

end Bytes

end Found
