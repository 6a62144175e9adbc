import Mathlib.Algebra.Group.Int.Defs
import Mathlib.Data.Int.Notation
import Sentrits.Found.Json

/-!
# Compact JSON text

The text of a JSON value without blanks between its parts, and a reader of such texts.

* `readString_printString`, `readInt_printInt`: strings and numbers are read back.
* `readValue_print`: **a value is read back** from in front of anything that does not go on with a
  digit.
* `compactJson`: the writer and the reader as a `JsonLibrary`.
-/

namespace Found.JsonText

/-! ### Strings -/

/-- The digit of a number below sixteen. -/
def hexDigit (n : ℕ) : Char := Char.ofNat (if n < 10 then 48 + n else 87 + n)

/-- The number of such a digit. -/
def hexValue (ch : Char) : Option ℕ :=
  if '0' ≤ ch ∧ ch ≤ '9' then some (ch.toNat - 48)
  else if 'a' ≤ ch ∧ ch ≤ 'f' then some (ch.toNat - 87)
  else none

/-- The characters that are written as a letter behind a backslash. -/
def shortEscapes : List (Char × Char) :=
  [('"', '"'), ('\\', '\\'), ('\x08', 'b'), ('\x0c', 'f'), ('\n', 'n'), ('\r', 'r'), ('\t', 't')]

/-- The letter a character is escaped with, if it has one. -/
def shortEscape (ch : Char) : Option Char := shortEscapes.lookup ch

/-- The character of such a letter. -/
def shortUnescape (letter : Char) : Option Char :=
  (shortEscapes.find? (·.2 = letter)).map Prod.fst

/-- One character of a string, as it is written. -/
def escapeChar (ch : Char) : List Char :=
  match shortEscape ch with
  | some letter => ['\\', letter]
  | none =>
      if ch.toNat < 32 then
        ['\\', 'u', '0', '0', hexDigit (ch.toNat / 16), hexDigit (ch.toNat % 16)]
      else [ch]

/-- A string's characters and its closing quote. -/
def printString (s : String) : List Char := s.toList.flatMap escapeChar ++ ['"']

/-- Reads up to the closing quote. -/
def readString : List Char → Option (List Char × List Char)
  | [] => none
  | '"' :: text => some ([], text)
  | '\\' :: 'u' :: _ :: _ :: high :: low :: text => do
      let code := 16 * (← hexValue high) + (← hexValue low)
      (readString text).map fun read => (Char.ofNat code :: read.1, read.2)
  | '\\' :: letter :: text => do
      let ch ← shortUnescape letter
      (readString text).map fun read => (ch :: read.1, read.2)
  | ch :: text => (readString text).map fun read => (ch :: read.1, read.2)

/-! ### Numbers -/

/-- The digit of a number below ten. -/
def digitChar (n : ℕ) : Char := Char.ofNat (48 + n)

/-- The number of a decimal digit. -/
def digitValue (ch : Char) : ℕ := ch.toNat - 48

/-- A decimal digit. -/
def isDigit (ch : Char) : Bool := '0' ≤ ch && ch ≤ '9'

/-- The decimal digits. -/
def printNat (n : ℕ) : List Char :=
  if n < 10 then [digitChar n] else printNat (n / 10) ++ [digitChar (n % 10)]

/-- What decimal digits stand for. -/
def ofDigits (digits : List Char) : ℕ := digits.foldl (fun n ch => 10 * n + digitValue ch) 0

/-- A number, with its sign. -/
def printInt (n : ℤ) : List Char := if n < 0 then '-' :: printNat n.natAbs else printNat n.natAbs

/-- The number as a value, if it fits. -/
def ofInt (n : ℤ) : Option Json :=
  if -2 ^ 63 ≤ n ∧ n < 2 ^ 63 then some (.int64 (Int64.ofInt n))
  else if 0 ≤ n ∧ n < 2 ^ 64 then some (.ofUInt64 (UInt64.ofNat n.toNat))
  else none

/-- Reads a number that fits. -/
def readInt (text : List Char) : Option (Json × List Char) :=
  let negative := text.head? == some '-'
  let unsigned := if negative then text.tail else text
  let digits := unsigned.takeWhile isDigit
  let magnitude : ℤ := ofDigits digits
  if digits ≠ [] then
    (ofInt (if negative then -magnitude else magnitude)).map
      fun value => (value, unsigned.dropWhile isDigit)
  else none

/-! ### Values -/

mutual

/-- The text of a value. -/
def print : Json → List Char
  | .null => ['n', 'u', 'l', 'l']
  | .bool true => ['t', 'r', 'u', 'e']
  | .bool false => ['f', 'a', 'l', 's', 'e']
  | .int64 n => printInt n.toInt
  | .uint64 n _ => printInt n.toNat
  | .string s => '"' :: printString s
  | .array [] => ['[', ']']
  | .array (value :: values) => '[' :: (print value ++ printItems values)
  | .object [] => ['{', '}']
  | .object ((key, value) :: fields) =>
      '{' :: '"' :: (printString key ++ ':' :: (print value ++ printFields fields))

/-- The rest of an array. -/
def printItems : List Json → List Char
  | [] => [']']
  | value :: values => ',' :: (print value ++ printItems values)

/-- The rest of an object. -/
def printFields : List (String × Json) → List Char
  | [] => ['}']
  | (key, value) :: fields =>
      ',' :: '"' :: (printString key ++ ':' :: (print value ++ printFields fields))

end

mutual

/-- Reads a value; `fuel` bounds the length of its text. -/
def readValue : ℕ → List Char → Option (Json × List Char)
  | 0, _ => none
  | fuel + 1, text =>
      match text with
      | 'n' :: 'u' :: 'l' :: 'l' :: text => some (.null, text)
      | 't' :: 'r' :: 'u' :: 'e' :: text => some (.bool true, text)
      | 'f' :: 'a' :: 'l' :: 's' :: 'e' :: text => some (.bool false, text)
      | '"' :: text => (readString text).map fun read => (.string (String.ofList read.1), read.2)
      | '[' :: ']' :: text => some (.array [], text)
      | '[' :: text => do
          let (value, text) ← readValue fuel text
          let (values, text) ← readItems fuel text
          some (.array (value :: values), text)
      | '{' :: '}' :: text => some (.object [], text)
      | '{' :: text => do
          let (field, text) ← readField fuel text
          let (fields, text) ← readFields fuel text
          some (.object (field :: fields), text)
      | text => readInt text

/-- Reads the rest of an array. -/
def readItems : ℕ → List Char → Option (List Json × List Char)
  | 0, _ => none
  | fuel + 1, text =>
      match text with
      | ']' :: text => some ([], text)
      | ',' :: text => do
          let (value, text) ← readValue fuel text
          let (values, text) ← readItems fuel text
          some (value :: values, text)
      | _ => none

/-- Reads a key and its value. -/
def readField : ℕ → List Char → Option ((String × Json) × List Char)
  | 0, _ => none
  | fuel + 1, text =>
      match text with
      | '"' :: text => do
          let (key, text) ← readString text
          match text with
          | ':' :: text => do
              let (value, text) ← readValue fuel text
              some ((String.ofList key, value), text)
          | _ => none
      | _ => none

/-- Reads the rest of an object. -/
def readFields : ℕ → List Char → Option (List (String × Json) × List Char)
  | 0, _ => none
  | fuel + 1, text =>
      match text with
      | '}' :: text => some ([], text)
      | ',' :: text => do
          let (field, text) ← readField fuel text
          let (fields, text) ← readFields fuel text
          some (field :: fields, text)
      | _ => none

end

/-! ### Strings are read back -/

/-- A hexadecimal digit is read as its value. -/
theorem hexValue_hexDigit {n : ℕ} (h : n < 16) : hexValue (hexDigit n) = some n := by
  have hall : ∀ n < 16, hexValue (hexDigit n) = some n := by decide
  exact hall n h

/-- Every short escape is read back. -/
theorem shortUnescape_of_mem : ∀ pair ∈ shortEscapes,
    shortUnescape pair.2 = some pair.1 ∧ pair.2 ≠ 'u' := by
  decide

/-- What is escaped so stands in the table. -/
theorem mem_shortEscapes {ch letter : Char} (h : shortEscape ch = some letter) :
    (ch, letter) ∈ shortEscapes := by
  rcases List.lookup_eq_some_iff.mp h with ⟨before, after, heq, -⟩
  rw [heq]
  exact List.mem_append_right _ List.mem_cons_self

/-- A short escape in a string is read as its character. -/
theorem readString_shortEscape {ch letter : Char} (h : shortEscape ch = some letter)
    (text : List Char) : readString ('\\' :: letter :: text) =
      (readString text).map fun read => (ch :: read.1, read.2) := by
  rcases shortUnescape_of_mem (ch, letter) (mem_shortEscapes h) with ⟨hletter, hne⟩
  dsimp only at hletter hne
  rw [readString, hletter]
  · rfl
  · exact fun _ _ _ _ _ heq => absurd heq hne

/-- Any other character is read as it stands. -/
theorem readString_plain {ch : Char} (hquote : ch ≠ '"') (hslash : ch ≠ '\\') (text : List Char) :
    readString (ch :: text) = (readString text).map fun read => (ch :: read.1, read.2) := by
  rw [readString]
  · exact hquote
  · exact fun _ _ _ _ _ heq => absurd heq hslash
  · exact fun _ _ heq => absurd heq hslash

/-- A character is read back from in front of any text. -/
theorem readString_escapeChar (ch : Char) (text : List Char) :
    readString (escapeChar ch ++ text) =
      (readString text).map fun read => (ch :: read.1, read.2) := by
  unfold escapeChar
  split
  next letter hletter => exact readString_shortEscape hletter text
  next hshort =>
    split_ifs with hcontrol
    · have hhigh := hexValue_hexDigit (n := ch.toNat / 16) (by omega)
      have hlow := hexValue_hexDigit (n := ch.toNat % 16) (by omega)
      have hchar : Char.ofNat (16 * (ch.toNat / 16) + ch.toNat % 16) = ch := by
        rw [Nat.div_add_mod, Char.ofNat_toNat]
      simp only [List.cons_append, List.nil_append, readString, hhigh, hlow, hchar,
        Option.bind_eq_bind, Option.bind_some]
    · have hquote : ch ≠ '"' := fun heq => by rw [heq] at hshort; cases hshort
      have hslash : ch ≠ '\\' := fun heq => by rw [heq] at hshort; cases hshort
      exact readString_plain hquote hslash text

/-- A string is read back. -/
theorem readString_printString (s : String) (text : List Char) :
    readString (printString s ++ text) = some (s.toList, text) := by
  unfold printString
  induction s.toList with
  | nil => rfl
  | cons ch chars ih =>
      rw [List.flatMap_cons, List.append_assoc, List.append_assoc, readString_escapeChar,
        ← List.append_assoc, ih]
      rfl

/-! ### Numbers are read back -/

/-- A decimal digit is read as its value. -/
theorem digitValue_digitChar {n : ℕ} (h : n < 10) : digitValue (digitChar n) = n := by
  have hall : ∀ n < 10, digitValue (digitChar n) = n := by decide
  exact hall n h

/-- A decimal digit is a digit. -/
theorem isDigit_digitChar {n : ℕ} (h : n < 10) : isDigit (digitChar n) = true := by
  have hall : ∀ n < 10, isDigit (digitChar n) = true := by decide
  exact hall n h

/-- A number is written with digits. -/
theorem isDigit_of_mem_printNat {n : ℕ} : ∀ ch ∈ printNat n, isDigit ch = true := by
  induction n using Nat.strongRecOn with
  | ind n ih =>
      intro ch hch
      unfold printNat at hch
      split_ifs at hch with hsmall
      · rw [List.mem_singleton.mp hch]
        exact isDigit_digitChar hsmall
      · rcases List.mem_append.mp hch with hch | hch
        · exact ih (n / 10) (by omega) ch hch
        · rw [List.mem_singleton.mp hch]
          exact isDigit_digitChar (by omega)

/-- A number is written with at least one digit. -/
theorem printNat_ne_nil (n : ℕ) : printNat n ≠ [] := by
  unfold printNat
  split_ifs
  · exact List.cons_ne_nil _ _
  · exact List.append_ne_nil_of_right_ne_nil _ (List.cons_ne_nil _ _)

/-- **A number is read back.** -/
theorem ofDigits_printNat (n : ℕ) : ofDigits (printNat n) = n := by
  induction n using Nat.strongRecOn with
  | ind n ih =>
      unfold printNat
      split_ifs with hsmall
      · show 10 * 0 + digitValue (digitChar n) = n
        rw [digitValue_digitChar hsmall]
        omega
      · have hrest := ih (n / 10) (by omega)
        unfold ofDigits at hrest ⊢
        rw [List.foldl_append, hrest, List.foldl_cons, List.foldl_nil,
          digitValue_digitChar (by omega)]
        omega

/-- The text does not go on with a digit. -/
def NoDigit (text : List Char) : Prop := ∀ ch ∈ text.head?, isDigit ch = false

/-- A number ends where the digits end. -/
theorem takeWhile_printNat (n : ℕ) {text : List Char} (h : NoDigit text) :
    (printNat n ++ text).takeWhile isDigit = printNat n ∧
      (printNat n ++ text).dropWhile isDigit = text := by
  have hstop : text.takeWhile isDigit = [] ∧ text.dropWhile isDigit = text := by
    rcases text with _ | ⟨ch, text⟩
    · exact ⟨rfl, rfl⟩
    · have hch : isDigit ch = false := h ch rfl
      exact ⟨List.takeWhile_cons_of_neg (by simp [hch]), List.dropWhile_cons_of_neg (by simp [hch])⟩
  rw [List.takeWhile_append_of_pos isDigit_of_mem_printNat,
    List.dropWhile_append_of_pos isDigit_of_mem_printNat, hstop.1, hstop.2, List.append_nil]
  exact ⟨rfl, rfl⟩

/-- A signed number is of the signed kind. -/
theorem ofInt_int64 (n : Int64) : ofInt n.toInt = some (.int64 n) := by
  unfold ofInt
  rw [if_pos ⟨n.le_toInt, n.toInt_lt⟩, Int64.ofInt_toInt]

/-- A number that is too large for the signed kind is of the other. -/
theorem ofInt_uint64 (n : UInt64) (high : 2 ^ 63 ≤ n.toNat) :
    ofInt n.toNat = some (.uint64 n high) := by
  have hlt : n.toNat < 2 ^ 64 := n.toNat_lt
  unfold ofInt
  rw [if_neg (by omega), if_pos (by omega), Int.toNat_natCast, UInt64.ofNat_toNat, Json.ofUInt64,
    dif_pos high]

/-- A number is read back when no digit follows it. -/
theorem readInt_printInt (n : ℤ) {text : List Char} (h : NoDigit text) :
    readInt (printInt n ++ text) = (ofInt n).map fun value => (value, text) := by
  rcases takeWhile_printNat n.natAbs h with ⟨htake, hdrop⟩
  have hne := printNat_ne_nil n.natAbs
  unfold readInt printInt
  split_ifs with hsign
  · have hvalue : -((n.natAbs : ℕ) : ℤ) = n := by omega
    simp only [List.cons_append, List.head?_cons, beq_self_eq_true, if_true, List.tail_cons, htake,
      hdrop, ofDigits_printNat, hvalue]
    rw [if_pos hne]
  · have hvalue : ((n.natAbs : ℕ) : ℤ) = n := by omega
    have hhead : ((printNat n.natAbs ++ text).head? == some '-') = false := by
      rcases hdigits : printNat n.natAbs with _ | ⟨ch, rest⟩
      · exact absurd hdigits hne
      · have hch : isDigit ch = true :=
          isDigit_of_mem_printNat ch (hdigits ▸ List.mem_cons_self)
        rw [List.cons_append, List.head?_cons, beq_eq_false_iff_ne]
        intro heq
        rw [Option.some.inj heq] at hch
        exact absurd hch (by decide)
    simp only [hhead, Bool.false_eq_true, if_false, htake, hdrop, ofDigits_printNat, hvalue]
    rw [if_pos hne]

/-! ### Values are read back -/

/-- What begins with something else begins with no digit. -/
theorem noDigit_cons {ch : Char} (h : isDigit ch = false) (text : List Char) :
    NoDigit (ch :: text) := by
  intro other hother
  rw [List.head?_cons, Option.mem_some_iff] at hother
  exact hother ▸ h

/-- Behind an item there is no digit. -/
theorem noDigit_printItems (values : List Json) (text : List Char) :
    NoDigit (printItems values ++ text) := by
  rcases values with _ | ⟨value, values⟩
  · exact noDigit_cons (by decide) _
  · exact noDigit_cons (by decide) _

/-- Behind a field there is no digit. -/
theorem noDigit_printFields (fields : List (String × Json)) (text : List Char) :
    NoDigit (printFields fields ++ text) := by
  rcases fields with _ | ⟨⟨key, value⟩, fields⟩
  · exact noDigit_cons (by decide) _
  · exact noDigit_cons (by decide) _

/-- What the text of a number begins with is not what another value's text begins with. -/
theorem printInt_head (n : ℤ) : ∃ ch rest, printInt n = ch :: rest ∧
    ch ≠ 'n' ∧ ch ≠ 't' ∧ ch ≠ 'f' ∧ ch ≠ '"' ∧ ch ≠ '[' ∧ ch ≠ '{' ∧ ch ≠ ']' := by
  have hdigit : ∀ ch, isDigit ch = true →
      ch ≠ 'n' ∧ ch ≠ 't' ∧ ch ≠ 'f' ∧ ch ≠ '"' ∧ ch ≠ '[' ∧ ch ≠ '{' ∧ ch ≠ ']' := by
    intro ch hch
    refine ⟨?_, ?_, ?_, ?_, ?_, ?_, ?_⟩ <;>
    · rintro rfl
      exact absurd hch (by decide)
  unfold printInt
  split_ifs
  · exact ⟨'-', _, rfl, by decide⟩
  · rcases hdigits : printNat n.natAbs with _ | ⟨ch, rest⟩
    · exact absurd hdigits (printNat_ne_nil _)
    · exact ⟨ch, rest, rfl,
        hdigit ch (isDigit_of_mem_printNat ch (hdigits ▸ List.mem_cons_self))⟩

/-- The text of a value does not begin with a closing bracket. -/
theorem print_head (value : Json) : ∃ ch rest, print value = ch :: rest ∧ ch ≠ ']' := by
  rcases value with _ | (_ | _) | n | ⟨n, high⟩ | s | (_ | ⟨value, values⟩) |
    (_ | ⟨⟨key, value⟩, fields⟩)
  case int64 =>
    rcases printInt_head n.toInt with ⟨ch, rest, heq, _, _, _, _, _, _, hne⟩
    exact ⟨ch, rest, by rw [print, heq], hne⟩
  case uint64 =>
    rcases printInt_head n.toNat with ⟨ch, rest, heq, _, _, _, _, _, _, hne⟩
    exact ⟨ch, rest, by rw [print, heq], hne⟩
  all_goals exact ⟨_, _, rfl, by decide⟩

/-- A number is read back, whatever is behind it. -/
theorem readValue_int {fuel : ℕ} {n : ℤ} {value : Json} (hvalue : ofInt n = some value)
    {text : List Char} (h : NoDigit text) :
    readValue (fuel + 1) (printInt n ++ text) = some (value, text) := by
  have hread := readInt_printInt n h
  rw [hvalue] at hread
  rcases printInt_head n with ⟨ch, rest, heq, hn, ht, hf, hquote, hbracket, hbrace, -⟩
  rw [heq, List.cons_append] at hread ⊢
  rw [readValue]
  · rw [hread]
    rfl
  all_goals intros; simp_all

mutual

/-- **A value is read back** from in front of anything that does not go on with a digit. -/
theorem readValue_print (value : Json) (fuel : ℕ) (text : List Char)
    (hfuel : (print value).length ≤ fuel) (htext : NoDigit text) :
    readValue fuel (print value ++ text) = some (value, text) := by
  match fuel, value with
  | 0, value =>
      rcases print_head value with ⟨ch, rest, heq, -⟩
      rw [heq] at hfuel
      exact absurd hfuel (Nat.not_succ_le_zero _)
  | fuel + 1, .null => rfl
  | fuel + 1, .bool true => rfl
  | fuel + 1, .bool false => rfl
  | fuel + 1, .int64 n => exact readValue_int (ofInt_int64 n) htext
  | fuel + 1, .uint64 n high => exact readValue_int (ofInt_uint64 n high) htext
  | fuel + 1, .string s =>
      rw [print, List.cons_append, readValue, readString_printString]
      simp
  | fuel + 1, .array [] => rfl
  | fuel + 1, .array (value :: values) =>
      rw [print, List.length_cons, List.length_append] at hfuel
      have hvalue := readValue_print value fuel (printItems values ++ text) (by omega)
        (noDigit_printItems values text)
      have hvalues := readItems_print values fuel text (by omega)
      rcases print_head value with ⟨ch, rest, heq, hne⟩
      rw [print, List.cons_append, List.append_assoc, readValue]
      · rw [hvalue]
        simp only [Option.bind_eq_bind, Option.bind_some, hvalues]
      · intro other hother
        rw [heq] at hother
        exact hne (List.cons.inj hother).1
  | fuel + 1, .object [] => rfl
  | fuel + 1, .object ((key, value) :: fields) =>
      rw [print, List.length_cons, List.length_cons, List.length_append, List.length_cons,
        List.length_append] at hfuel
      have hfield := readField_print key value fuel (printFields fields ++ text) (by omega)
        (noDigit_printFields fields text)
      have hfields := readFields_print fields fuel text (by omega)
      rw [print, List.cons_append, List.cons_append, List.append_assoc, List.cons_append,
        List.append_assoc, readValue]
      · rw [hfield]
        simp only [Option.bind_eq_bind, Option.bind_some, hfields]
      · intro other hother
        cases hother

/-- The items of a list are read back, whatever is behind them. -/
theorem readItems_print (values : List Json) (fuel : ℕ) (text : List Char)
    (hfuel : (printItems values).length ≤ fuel) :
    readItems fuel (printItems values ++ text) = some (values, text) := by
  match fuel, values with
  | 0, [] => exact absurd hfuel (by simp [printItems])
  | 0, _ :: _ => exact absurd hfuel (by simp [printItems])
  | fuel + 1, [] => rfl
  | fuel + 1, value :: values =>
      rw [printItems, List.length_cons, List.length_append] at hfuel
      have hvalue := readValue_print value fuel (printItems values ++ text) (by omega)
        (noDigit_printItems values text)
      have hvalues := readItems_print values fuel text (by omega)
      rw [printItems, List.cons_append, List.append_assoc, readItems, hvalue]
      simp only [Option.bind_eq_bind, Option.bind_some, hvalues]

/-- A field is read back. -/
theorem readField_print (key : String) (value : Json) (fuel : ℕ) (text : List Char)
    (hfuel : (printString key).length + (print value).length + 1 ≤ fuel) (htext : NoDigit text) :
    readField fuel ('"' :: (printString key ++ ':' :: (print value ++ text))) =
      some ((key, value), text) := by
  match fuel with
  | 0 => exact absurd hfuel (Nat.not_succ_le_zero _)
  | fuel + 1 =>
      have hvalue := readValue_print value fuel text (by omega) htext
      rw [readField, readString_printString]
      simp only [Option.bind_eq_bind, Option.bind_some, hvalue, String.ofList_toList]

/-- The fields of an object are read back. -/
theorem readFields_print (fields : List (String × Json)) (fuel : ℕ) (text : List Char)
    (hfuel : (printFields fields).length ≤ fuel) :
    readFields fuel (printFields fields ++ text) = some (fields, text) := by
  match fuel, fields with
  | 0, [] => exact absurd hfuel (by simp [printFields])
  | 0, (_, _) :: _ => exact absurd hfuel (by simp [printFields])
  | fuel + 1, [] => rfl
  | fuel + 1, (key, value) :: fields =>
      rw [printFields, List.length_cons, List.length_cons, List.length_append, List.length_cons,
        List.length_append] at hfuel
      have hfield := readField_print key value fuel (printFields fields ++ text) (by omega)
        (noDigit_printFields fields text)
      have hfields := readFields_print fields fuel text (by omega)
      rw [printFields, List.cons_append, List.cons_append, List.append_assoc, List.cons_append,
        List.append_assoc, readFields, hfield]
      simp only [Option.bind_eq_bind, Option.bind_some, hfields]

end

/-- Reads a text that is one value. -/
def parse (text : String) : Option Json :=
  match readValue text.toList.length text.toList with
  | some (value, []) => some value
  | _ => none

/-- The compact text and its reader. -/
def compactJson : JsonLibrary where
  serialize value := String.ofList (print value)
  parse := parse
  parse_serialize value := by
    have hread := readValue_print value (print value).length [] (Nat.le_refl _)
      (fun ch hch => absurd hch (Option.not_mem_none ch))
    rw [List.append_nil] at hread
    unfold parse
    rw [String.toList_ofList, hread]

end Found.JsonText
