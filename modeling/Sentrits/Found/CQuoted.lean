import Sentrits.Found.Bytes

/-!
# File names quoted as in C

How `git` shows a file name in a line of text: as it is, or, when something in it could be taken
for something else, between double quotes with escapes. Bytes above ASCII are escaped unless
`core.quotePath` is off.

* `cQuoted`: the name as it is shown.
* `le_of_mem_cQuoted`: no control character stands in it, so that it is in one line.
* `cQuoted_eq_self_iff`: **it is the name exactly when nothing in the name needs quoting.**
-/

namespace Found.CQuoted

open Bytes

/-- The double quote around a quoted name. -/
def doubleQuote : UInt8 := 34

/-- The byte that begins an escape. -/
def backslash : UInt8 := 92

/-- A byte that is escaped in a quoted name: a control character, a quote, a backslash and, with
`core.quotePath`, what is not ASCII. -/
def needsEscape (quotePath : Bool) (ch : UInt8) : Bool :=
  ch < 32 || ch == doubleQuote || ch == backslash || ch == 127 || (quotePath && 128 ≤ ch)

/-- A byte that makes the name be quoted: one that is escaped, or a space. -/
def needsQuoting (quotePath : Bool) (ch : UInt8) : Bool := needsEscape quotePath ch || ch == 32

/-- The letter of an escape, for the bytes that have one. -/
def escapeLetter (ch : UInt8) : Option UInt8 :=
  if ch = 7 then some 97
  else if ch = 8 then some 98
  else if ch = 9 then some 116
  else if ch = 10 then some 110
  else if ch = 11 then some 118
  else if ch = 12 then some 102
  else if ch = 13 then some 114
  else if ch = doubleQuote ∨ ch = backslash then some ch
  else none

/-- A byte in a quoted name: its letter, or its number in three octal digits. -/
def escapeByte (quotePath : Bool) (ch : UInt8) : Bytes :=
  if needsEscape quotePath ch then
    match escapeLetter ch with
    | some letter => [backslash, letter]
    | none => [backslash, 48 + ch / 64, 48 + ch / 8 % 8, 48 + ch % 8]
  else [ch]

/-- **The name as it is shown.** -/
def cQuoted (quotePath : Bool) (name : Bytes) : Bytes :=
  if name.any (needsQuoting quotePath) then
    doubleQuote :: name.flatMap (escapeByte quotePath) ++ [doubleQuote]
  else name

/-! ### Quoted names stand in a line -/

/-- No letter of an escape is a control character. -/
theorem le_of_escapeLetter {ch letter : UInt8} (h : escapeLetter ch = some letter) :
    32 ≤ letter := by
  unfold escapeLetter at h
  split_ifs at h with _ _ _ _ _ _ _ hself
  all_goals obtain rfl := Option.some.inj h
  all_goals first | decide | rcases hself with rfl | rfl <;> decide

/-- An octal digit is a digit. -/
theorem le_octal {digit : UInt8} (h : digit < 8) : 32 ≤ 48 + digit := by
  rw [UInt8.lt_iff_toNat_lt] at h
  rw [UInt8.le_iff_toNat_le, UInt8.toNat_add]
  have hsmall : (48 : UInt8).toNat = 48 := rfl
  have hlow : (32 : UInt8).toNat = 32 := rfl
  have hbound : (8 : UInt8).toNat = 8 := rfl
  omega

/-- No escape is a control character. -/
theorem le_of_mem_escapeByte {quotePath : Bool} {ch b : UInt8} (h : b ∈ escapeByte quotePath ch) :
    32 ≤ b := by
  unfold escapeByte at h
  split_ifs at h with hneeds
  · split at h
    next letter hletter =>
      rw [List.mem_cons, List.mem_singleton] at h
      rcases h with rfl | rfl
      · decide
      · exact le_of_escapeLetter hletter
    next =>
      have hlast : ∀ n : UInt8, n % 8 < 8 := fun n => UInt8.mod_lt n (by decide)
      have hfirst : ch / 64 < 8 := by
        rw [UInt8.lt_iff_toNat_lt, UInt8.toNat_div]
        exact Nat.div_lt_of_lt_mul (ch.toNat_lt.trans (by decide))
      simp only [List.mem_cons, List.not_mem_nil, or_false] at h
      rcases h with rfl | rfl | rfl | rfl
      · decide
      · exact le_octal hfirst
      · exact le_octal (hlast _)
      · exact le_octal (hlast _)
  · rw [List.mem_singleton] at h
    subst h
    unfold needsEscape at hneeds
    simp only [Bool.or_eq_true, not_or, decide_eq_true_eq] at hneeds
    exact UInt8.not_lt.mp hneeds.1.1.1.1

/-- No control character is shown. -/
theorem le_of_mem_cQuoted {quotePath : Bool} {name : Bytes} {ch : UInt8}
    (h : ch ∈ cQuoted quotePath name) : 32 ≤ ch := by
  unfold cQuoted at h
  split_ifs at h with hquoted
  · rw [List.mem_append, List.mem_cons, List.mem_singleton] at h
    rcases h with (rfl | hmem) | rfl
    · decide
    · obtain ⟨b, -, hb⟩ := List.mem_flatMap.mp hmem
      exact le_of_mem_escapeByte hb
    · decide
  · have hnot : needsQuoting quotePath ch = false := by
      simpa using fun hch => hquoted (List.any_eq_true.mpr ⟨ch, h, hch⟩)
    unfold needsQuoting needsEscape at hnot
    simp only [Bool.or_eq_false_iff, decide_eq_false_iff_not] at hnot
    exact UInt8.not_lt.mp hnot.1.1.1.1.1

/-! ### Quoted names are longer -/

/-- Something is shown of every byte. -/
theorem escapeByte_ne_nil (quotePath : Bool) (ch : UInt8) : escapeByte quotePath ch ≠ [] := by
  unfold escapeByte
  split_ifs
  · split <;> simp
  · simp

/-- Escaping makes nothing shorter. -/
theorem length_le_escaped (quotePath : Bool) (name : Bytes) :
    name.length ≤ (name.flatMap (escapeByte quotePath)).length := by
  induction name with
  | nil => exact Nat.le_refl 0
  | cons ch name ih =>
      have hpos := List.length_pos_iff.mpr (escapeByte_ne_nil quotePath ch)
      rw [List.flatMap_cons, List.length_append, List.length_cons]
      omega

/-- Quoting makes nothing shorter. -/
theorem length_le_cQuoted (quotePath : Bool) (name : Bytes) :
    name.length ≤ (cQuoted quotePath name).length := by
  have hescaped := length_le_escaped quotePath name
  unfold cQuoted
  split_ifs
  · rw [List.length_append, List.length_cons]
    omega
  · exact Nat.le_refl _

/-- **A name is shown as it is exactly when nothing in it needs quoting.** -/
theorem cQuoted_eq_self_iff {quotePath : Bool} {name : Bytes} :
    cQuoted quotePath name = name ↔ ∀ ch ∈ name, needsQuoting quotePath ch = false := by
  have hescaped := length_le_escaped quotePath name
  unfold cQuoted
  split_ifs with hquoted
  · refine iff_of_false (fun h => ?_) fun h => ?_
    · have hlength := congrArg List.length h
      rw [List.length_append, List.length_cons] at hlength
      omega
    · obtain ⟨ch, hch, hneeds⟩ := List.any_eq_true.mp hquoted
      rw [h ch hch] at hneeds
      exact absurd hneeds (by decide)
  · refine iff_of_true rfl fun ch hch => ?_
    simpa using fun hneeds => hquoted (List.any_eq_true.mpr ⟨ch, hch, hneeds⟩)

end Found.CQuoted
