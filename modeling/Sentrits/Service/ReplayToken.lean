import Sentrits.Found.Latin1
import Sentrits.Found.PrefixCode
import Sentrits.Found.Utf8Cuts
import Sentrits.Service.Observations
import Sentrits.Store.Base64

/-!
# What a replay token tells

A replay token is the Base64 of a JSON text with the fields that evidence was asked for by. The
numbers end with a comma and the strings with a quote; in a string, quotes are escaped.

* `base64UrlEncode_injective`: Base64 without padding can be told apart.
* `prefixFree_escapeByte`: so can the bytes of an escaped string.
* `makeReplayToken_eq_iff`: **tokens are equal exactly when all the fields are.**

Source: `src/service/evidence_response_assembler.cpp`.
-/

namespace Sentrits.Service

open Found Found.Bytes Found.PrefixCode

/-! ### Base64 without padding -/

/-- The characters of the alphabet. -/
theorem kBase64UrlAlphabet_eq :
    kBase64UrlAlphabet =
      ['A', 'B', 'C', 'D', 'E', 'F', 'G', 'H', 'I', 'J', 'K', 'L', 'M', 'N', 'O', 'P', 'Q', 'R',
        'S', 'T', 'U', 'V', 'W', 'X', 'Y', 'Z', 'a', 'b', 'c', 'd', 'e', 'f', 'g', 'h', 'i', 'j',
        'k', 'l', 'm', 'n', 'o', 'p', 'q', 'r', 's', 't', 'u', 'v', 'w', 'x', 'y', 'z', '0', '1',
        '2', '3', '4', '5', '6', '7', '8', '9', '-', '_'] :=
  String.toList_ofList

/-- Reads a digit back. -/
def base64UrlValue (ch : Char) : Option ℕ :=
  if ch = '-' then some 62 else if ch = '_' then some 63 else Store.base64Value (Store.ascii ch)

/-- A digit is read as the sextet it stands for. -/
theorem base64UrlValue_base64UrlDigit {index : ℕ} (h : index < 64) :
    base64UrlValue (base64UrlDigit index) = some index := by
  have hlength : kBase64UrlAlphabet.length = 64 := by
    rw [kBase64UrlAlphabet_eq]
    rfl
  have hvalues : kBase64UrlAlphabet.map base64UrlValue = (List.range 64).map some := by
    rw [kBase64UrlAlphabet_eq]
    decide +kernel
  have hvalue := congrArg (·[index]?) hvalues
  rw [List.getElem?_map, List.getElem?_map, List.getElem?_range h,
    List.getElem?_eq_getElem (hlength ▸ h)] at hvalue
  rw [base64UrlDigit, List.getD_eq_getElem _ _ (hlength ▸ h)]
  exact Option.some.inj hvalue

/-- Two sextets have two digits. -/
theorem base64UrlDigit_inj {i j : ℕ} (hi : i < 64) (hj : j < 64)
    (h : base64UrlDigit i = base64UrlDigit j) : i = j := by
  have hvalue := congrArg base64UrlValue h
  rw [base64UrlValue_base64UrlDigit hi, base64UrlValue_base64UrlDigit hj] at hvalue
  exact Option.some.inj hvalue

/-- The first byte is known from two digits, whatever comes behind it. -/
theorem first_inj {a a' : UInt8} {high high' : ℕ} (hhigh : high < 16) (hhigh' : high' < 16)
    (h : base64UrlDigit (a.toNat / 4) = base64UrlDigit (a'.toNat / 4))
    (h' : base64UrlDigit (a.toNat % 4 * 16 + high) = base64UrlDigit (a'.toNat % 4 * 16 + high')) :
    a = a' ∧ high = high' := by
  have hquot := base64UrlDigit_inj (Store.sextet_first_lt a) (Store.sextet_first_lt a') h
  have hrest := base64UrlDigit_inj (by omega) (by omega) h'
  obtain ⟨hmod, heq⟩ : a.toNat % 4 = a'.toNat % 4 ∧ high = high' := by omega
  refine ⟨UInt8.toNat_inj.mp ?_, heq⟩
  rw [← Nat.div_add_mod a.toNat 4, hquot, hmod, Nat.div_add_mod]

/-- The second is known from what is left of the second digit, and from the third. -/
theorem second_inj {b b' : UInt8} {high high' : ℕ} (hhigh : high < 4) (hhigh' : high' < 4)
    (h : b.toNat / 16 = b'.toNat / 16)
    (h' : base64UrlDigit (b.toNat % 16 * 4 + high) = base64UrlDigit (b'.toNat % 16 * 4 + high')) :
    b = b' ∧ high = high' := by
  have hrest := base64UrlDigit_inj (by omega) (by omega) h'
  obtain ⟨hmod, heq⟩ : b.toNat % 16 = b'.toNat % 16 ∧ high = high' := by omega
  refine ⟨UInt8.toNat_inj.mp ?_, heq⟩
  rw [← Nat.div_add_mod b.toNat 16, h, hmod, Nat.div_add_mod]

/-- Three bytes are four digits. -/
theorem base64UrlEncode_cons (a b c : UInt8) (input : Bytes) :
    base64UrlEncode (a :: b :: c :: input) =
      base64UrlDigit (a.toNat / 4) :: base64UrlDigit (a.toNat % 4 * 16 + b.toNat / 16) ::
        base64UrlDigit (b.toNat % 16 * 4 + c.toNat / 64) :: base64UrlDigit (c.toNat % 64) ::
        base64UrlEncode input := by
  rw [base64UrlEncode, Store.sextet_first, Store.sextet_second, Store.sextet_third,
    Store.sextet_fourth]

/-- The last two bytes are three digits. -/
theorem base64UrlEncode_two (a b : UInt8) :
    base64UrlEncode [a, b] =
      [base64UrlDigit (a.toNat / 4), base64UrlDigit (a.toNat % 4 * 16 + b.toNat / 16),
        base64UrlDigit (b.toNat % 16 * 4 + 0)] := by
  rw [base64UrlEncode, Store.sextet_first, Store.sextet_second, Store.sextet_third_alone,
    Nat.add_zero]

/-- The last byte alone is two. -/
theorem base64UrlEncode_one (a : UInt8) :
    base64UrlEncode [a] =
      [base64UrlDigit (a.toNat / 4), base64UrlDigit (a.toNat % 4 * 16 + 0)] := by
  rw [base64UrlEncode, Store.sextet_first, Store.sextet_second_alone, Nat.add_zero]

/-- **Base64 without padding can be told apart.** -/
theorem base64UrlEncode_injective : (left right : Bytes) →
    base64UrlEncode left = base64UrlEncode right → left = right
  | a :: b :: c :: left, a' :: b' :: c' :: right, h => by
      rw [base64UrlEncode_cons, base64UrlEncode_cons] at h
      simp only [List.cons.injEq] at h
      obtain ⟨h0, h1, h2, h3, hrest⟩ := h
      obtain ⟨rfl, hhigh⟩ := first_inj (Store.sixteenth_lt b) (Store.sixteenth_lt b') h0 h1
      obtain ⟨rfl, hhigh'⟩ :=
        second_inj (Store.sixtyFourth_lt c) (Store.sixtyFourth_lt c') hhigh h2
      have hlow := base64UrlDigit_inj (Store.sextet_fourth_lt c) (Store.sextet_fourth_lt c') h3
      obtain rfl : c = c' := by
        apply UInt8.toNat_inj.mp
        rw [← Nat.div_add_mod c.toNat 64, hhigh', hlow, Nat.div_add_mod]
      rw [base64UrlEncode_injective left right hrest]
  | [a, b], [a', b'], h => by
      rw [base64UrlEncode_two, base64UrlEncode_two] at h
      simp only [List.cons.injEq, and_true] at h
      obtain ⟨h0, h1, h2⟩ := h
      obtain ⟨rfl, hhigh⟩ := first_inj (Store.sixteenth_lt b) (Store.sixteenth_lt b') h0 h1
      obtain ⟨rfl, -⟩ := second_inj (Nat.zero_lt_succ 3) (Nat.zero_lt_succ 3) hhigh h2
      rfl
  | [a], [a'], h => by
      rw [base64UrlEncode_one, base64UrlEncode_one] at h
      simp only [List.cons.injEq, and_true] at h
      obtain ⟨rfl, -⟩ := first_inj (Nat.zero_lt_succ 15) (Nat.zero_lt_succ 15) h.1 h.2
      rfl
  | [], [], _ => rfl
  -- texts with another number of digits
  | [], [_], h | [], [_, _], h | [], _ :: _ :: _ :: _, h => by simp [base64UrlEncode] at h
  | [_], [], h | [_], [_, _], h | [_], _ :: _ :: _ :: _, h => by simp [base64UrlEncode] at h
  | [_, _], [], h | [_, _], [_], h | [_, _], _ :: _ :: _ :: _, h => by simp [base64UrlEncode] at h
  | _ :: _ :: _ :: _, [], h | _ :: _ :: _ :: _, [_], h | _ :: _ :: _ :: _, [_, _], h => by
      simp [base64UrlEncode] at h

/-! ### Escaped strings -/

/-- The sign that ends a string. -/
def quoteSign : UInt8 := 0x22

/-- The bytes that are written as a letter behind a backslash.
Source: the `switch` of `evidence_response_assembler.cpp` `JsonEscape`. -/
def escapeLetters : List (UInt8 × UInt8) :=
  [(0x22, 0x22), (0x5c, 0x5c), (0x08, 0x62), (0x0c, 0x66), (0x0a, 0x6e), (0x0d, 0x72), (0x09, 0x74)]

/-- Source: `evidence_response_assembler.cpp` `kHex`. -/
def hexByte (nibble : UInt8) : UInt8 := if nibble < 10 then 0x30 + nibble else 0x57 + nibble

/-- What a byte is written as. -/
theorem escapeByte_cases (b : UInt8) :
    (b ≠ quoteSign ∧ b ≠ 0x5c ∧ ByteJson.escapeByte b = [b]) ∨
      (∃ pair ∈ escapeLetters, pair.1 = b ∧ ByteJson.escapeByte b = [0x5c, pair.2]) ∨
      ByteJson.escapeByte b =
        [0x5c, 0x75, 0x30, 0x30, hexByte (b >>> 4), hexByte (b &&& 0x0f)] := by
  by_cases hb : IsAscii b
  · have hchar : IsAsciiChar (Char.ofUInt8 b) := UInt8.lt_iff_toNat_lt.mp hb
    rw [ByteJson.escapeByte, if_pos hb,
      encode_of_ascii (ByteJson.isAsciiChar_escapeChar hchar).2, JsonText.escapeChar]
    rcases hshort : JsonText.shortEscape (Char.ofUInt8 b) with _ | letter
    · dsimp only
      split_ifs with hcontrol
      · have hhex : ∀ n : Fin 32,
            [charByte (JsonText.hexDigit (n / 16)), charByte (JsonText.hexDigit (n % 16))] =
              [hexByte (UInt8.ofNat n >>> 4), hexByte (UInt8.ofNat n &&& 0x0f)] := by
          decide
        have hdigits := hhex ⟨b.toNat, hcontrol⟩
        rw [UInt8.ofNat_toNat] at hdigits
        exact Or.inr (Or.inr (congrArg ([0x5c, 0x75, 0x30, 0x30] ++ ·) hdigits))
      · refine Or.inl ⟨?_, ?_, congrArg (· :: []) (charByte_ofUInt8 b)⟩
        · rintro rfl
          exact absurd hshort (by decide)
        · rintro rfl
          exact absurd hshort (by decide)
    · have hall : ∀ pair ∈ JsonText.shortEscapes,
          (charByte pair.1, charByte pair.2) ∈ escapeLetters := by
        decide
      have hmem := hall _ (JsonText.mem_shortEscapes hshort)
      exact Or.inr (Or.inl ⟨_, hmem, charByte_ofUInt8 b, rfl⟩)
  · have hne : ∀ sign : UInt8, IsAscii sign → b ≠ sign := by
      rintro sign hsign rfl
      exact hb hsign
    exact Or.inl ⟨hne _ (by decide), hne _ (by decide), ByteJson.escapeByte_of_not_isAscii hb⟩

/-- Reads a byte back. -/
def readEscaped : Bytes → Option (UInt8 × Bytes)
  | 0x5c :: 0x75 :: _ :: _ :: high :: low :: rest =>
      let nibble (digit : UInt8) := if digit < 0x3a then digit - 0x30 else digit - 0x57
      some (nibble high <<< 4 ||| nibble low, rest)
  | 0x5c :: letter :: rest => (escapeLetters.find? (·.2 = letter)).map fun pair => (pair.1, rest)
  | b :: rest => some (b, rest)
  | [] => none

/-- A byte that is no backslash is read as it stands. -/
theorem readEscaped_plain {b : UInt8} (h : b ≠ 0x5c) (rest : Bytes) :
    readEscaped (b :: rest) = some (b, rest) := by
  unfold readEscaped
  split
  next heq => exact absurd (List.cons.inj heq).1 h
  next heq => exact absurd (List.cons.inj heq).1 h
  next heq =>
    obtain ⟨rfl, rfl⟩ := List.cons.inj heq
    rfl
  next heq => cases heq

/-- A byte behind a backslash is looked up. -/
theorem readEscaped_letter {letter : UInt8} (h : letter ≠ 0x75) (rest : Bytes) :
    readEscaped (0x5c :: letter :: rest) =
      (escapeLetters.find? (·.2 = letter)).map fun pair => (pair.1, rest) := by
  unfold readEscaped
  split
  next heq => exact absurd (List.cons.inj (List.cons.inj heq).2).1 h
  next heq =>
    obtain ⟨rfl, rfl⟩ := List.cons.inj (List.cons.inj heq).2
    rfl
  next hletters heq =>
    obtain ⟨rfl, rfl⟩ := List.cons.inj heq
    exact absurd rfl (hletters letter rest rfl)
  next heq => cases heq

/-- **A byte that is escaped is read back.** -/
theorem readEscaped_escapeByte (b : UInt8) (rest : Bytes) :
    readEscaped (ByteJson.escapeByte b ++ rest) = some (b, rest) := by
  rcases escapeByte_cases b with ⟨-, hbackslash, hself⟩ | ⟨pair, hpair, rfl, hletter⟩ | hhex
  · rw [hself, List.singleton_append, readEscaped_plain hbackslash]
  · have hall : escapeLetters.all (fun pair => pair.2 ≠ 0x75 ∧
        escapeLetters.find? (·.2 = pair.2) = some pair) = true := by
      decide +kernel
    obtain ⟨hne, hfind⟩ := of_decide_eq_true (List.all_eq_true.mp hall pair hpair)
    rw [hletter, List.cons_append, List.singleton_append, readEscaped_letter hne, hfind,
      Option.map_some]
  · have hnibble : ∀ nibble : UInt8, nibble < 16 → (if hexByte nibble < 0x3a then
        hexByte nibble - 0x30 else hexByte nibble - 0x57) = nibble := by
      apply forall_nibble
      decide
    obtain ⟨hhigh, hlow⟩ := halves_lt b
    rw [hhex]
    show some ((_ : UInt8) <<< 4 ||| _, rest) = some (b, rest)
    dsimp only
    rw [hnibble _ hhigh, hnibble _ hlow, high_or_low]

/-- **The bytes of an escaped string can be told apart.** -/
theorem prefixFree_escapeByte : PrefixFree ByteJson.escapeByte :=
  prefixFree_of_read readEscaped_escapeByte

/-- No byte is written with a quote at the beginning. -/
theorem escapeByte_stop (b : UInt8) :
    ∃ first rest, ByteJson.escapeByte b = first :: rest ∧ first ≠ quoteSign := by
  rcases escapeByte_cases b with ⟨hquote, -, hself⟩ | ⟨pair, -, -, hletter⟩ | hhex
  · exact ⟨_, _, hself, hquote⟩
  · exact ⟨_, _, hletter, by decide⟩
  · exact ⟨_, _, hhex, by decide⟩

/-- **A string in quotes is known**, and what follows it. -/
theorem jsonEscape_inj {left right s t : Bytes}
    (h : jsonEscape left ++ quoteSign :: s = jsonEscape right ++ quoteSign :: t) :
    left = right ∧ s = t :=
  flatMap_stop_inj prefixFree_escapeByte escapeByte_stop h

/-! ### The fields -/

/-- The sign behind a number. -/
def comma : UInt8 := 0x2c

/-- No number has a comma in it. -/
theorem comma_notMem_digits (value : ℕ) : comma ∉ utf8 (toString value) := by
  rw [Nat.toString_eq_ofList_toDigits, utf8_ofList]
  apply notMem_encode_of_ascii (by decide)
  intro hmem
  exact absurd (Nat.isDigit_of_mem_toDigits (by decide) (by decide) hmem) (by decide)

/-- Two numbers are written in two ways. -/
theorem toString_nat_injective {m n : ℕ} (h : utf8 (toString m) = utf8 (toString n)) : m = n := by
  have hdigits := utf8_injective h
  rw [Nat.toString_eq_ofList_toDigits, Nat.toString_eq_ofList_toDigits] at hdigits
  have hlists := congrArg String.toList hdigits
  rw [String.toList_ofList, String.toList_ofList] at hlists
  have hvalues := congrArg (fun digits => Nat.ofDigitChars 10 digits 0) hlists
  simpa only [Nat.ofDigitChars_ten_toDigits] using hvalues

/-- **A number with a comma behind it is known**, and what follows it. -/
theorem number_inj {m n : ℕ} {s t : Bytes}
    (h : utf8 (toString m) ++ comma :: s = utf8 (toString n) ++ comma :: t) : m = n ∧ s = t := by
  obtain ⟨hdigits, hrest⟩ := append_stop_inj (comma_notMem_digits m) (comma_notMem_digits n) h
  exact ⟨toString_nat_injective hdigits, hrest⟩

/-- No operation has a quote in its name. -/
theorem quote_notMem_operation (operation : EvidenceOperation) :
    quoteSign ∉ utf8 operation.toString := by
  cases operation <;> decide

/-- Two operations have two names. -/
theorem operation_toString_injective {left right : EvidenceOperation}
    (h : utf8 left.toString = utf8 right.toString) : left = right := by
  cases left <;> cases right <;> first | rfl | exact absurd h (by decide)

/-- **An operation in quotes is known**, and what follows it. -/
theorem operation_inj {left right : EvidenceOperation} {s t : Bytes}
    (h : utf8 left.toString ++ quoteSign :: s = utf8 right.toString ++ quoteSign :: t) :
    left = right ∧ s = t := by
  obtain ⟨hname, hrest⟩ :=
    append_stop_inj (quote_notMem_operation left) (quote_notMem_operation right) h
  exact ⟨operation_toString_injective hname, hrest⟩

/-! ### The token -/

/-- The JSON text in a token, each field with the sign that ends it. -/
def replayText (result : EvidenceResult) : Bytes :=
  utf8 "\x7b\"source_session_id\":\"" ++ (jsonEscape (utf8 result.source.sessionId) ++ quoteSign ::
    (utf8 ",\"operation\":\"" ++ (utf8 result.operation.toString ++ quoteSign ::
      (utf8 ",\"revision_start\":" ++ (utf8 (toString result.revisionStart) ++ comma ::
        (utf8 "\"revision_end\":" ++ (utf8 (toString result.revisionEnd) ++ comma ::
          (utf8 "\"limit\":" ++ (utf8 (toString result.entries.length) ++ comma ::
            (utf8 "\"query\":\"" ++ (jsonEscape result.query ++ quoteSign :: utf8 "\x7d")))))))))))

/-- The bytes of two texts, one after the other. -/
theorem utf8_append (front back : String) : utf8 (front ++ back) = utf8 front ++ utf8 back := by
  unfold utf8
  rw [String.toList_append, List.flatMap_append]

/-- The first character of a text, and what is behind it. -/
theorem utf8_of_encode {ch : Char} {sign : UInt8} (h : String.utf8EncodeChar ch = [sign])
    (chars : List Char) :
    utf8 (String.ofList (ch :: chars)) = sign :: utf8 (String.ofList chars) := by
  rw [utf8_ofList, utf8_ofList, encode_cons, h, List.singleton_append]

/-- The token is the encoded text. -/
theorem makeReplayToken_eq (result : EvidenceResult) :
    makeReplayToken result = String.ofList (base64UrlEncode (replayText result)) := by
  have hquote : String.utf8EncodeChar '"' = [quoteSign] := by
    decide
  have hcomma : String.utf8EncodeChar ',' = [comma] := by
    decide
  have hsource : utf8 "\",\"operation\":\"" = quoteSign :: utf8 ",\"operation\":\"" :=
    utf8_of_encode hquote _
  have hstart : utf8 "\",\"revision_start\":" = quoteSign :: utf8 ",\"revision_start\":" :=
    utf8_of_encode hquote _
  have hend : utf8 ",\"revision_end\":" = comma :: utf8 "\"revision_end\":" :=
    utf8_of_encode hcomma _
  have hlimit : utf8 ",\"limit\":" = comma :: utf8 "\"limit\":" :=
    utf8_of_encode hcomma _
  have hquery : utf8 ",\"query\":\"" = comma :: utf8 "\"query\":\"" :=
    utf8_of_encode hcomma _
  have hclose : utf8 "\"\x7d" = quoteSign :: utf8 "\x7d" :=
    utf8_of_encode hquote _
  unfold makeReplayToken replayText
  refine congrArg (fun text => String.ofList (base64UrlEncode text)) ?_
  simp only [utf8_append, hsource, hstart, hend, hlimit, hquery, hclose, List.append_assoc,
    List.cons_append]

/-- **Tokens are equal exactly when** the session, the operation, the revisions, the number of
entries and the query are, whatever signs are in the query. -/
theorem makeReplayToken_eq_iff (left right : EvidenceResult) :
    makeReplayToken left = makeReplayToken right ↔
      left.source.sessionId = right.source.sessionId ∧ left.operation = right.operation ∧
        left.revisionStart = right.revisionStart ∧ left.revisionEnd = right.revisionEnd ∧
        left.entries.length = right.entries.length ∧ left.query = right.query := by
  rw [makeReplayToken_eq, makeReplayToken_eq]
  constructor
  · intro h
    have htext : replayText left = replayText right := by
      apply base64UrlEncode_injective
      simpa only [String.toList_ofList] using congrArg String.toList h
    unfold replayText at htext
    obtain ⟨hsession, htext⟩ := jsonEscape_inj (List.append_cancel_left htext)
    obtain ⟨hoperation, htext⟩ := operation_inj (List.append_cancel_left htext)
    obtain ⟨hstart, htext⟩ := number_inj (List.append_cancel_left htext)
    obtain ⟨hend, htext⟩ := number_inj (List.append_cancel_left htext)
    obtain ⟨hlimit, htext⟩ := number_inj (List.append_cancel_left htext)
    obtain ⟨hquery, -⟩ := jsonEscape_inj (List.append_cancel_left htext)
    exact ⟨utf8_injective hsession, hoperation, hstart, hend, hlimit, hquery⟩
  · rintro ⟨hsession, hoperation, hstart, hend, hlimit, hquery⟩
    unfold replayText
    rw [hsession, hoperation, hstart, hend, hlimit, hquery]

end Sentrits.Service
