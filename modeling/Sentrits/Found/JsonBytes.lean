import Sentrits.Found.JsonText
import Sentrits.Found.Latin1

/-!
# JSON values with strings that are no text

A program may put bytes into the strings of a JSON value that nobody has decoded. A library that
does not look at them writes them as they are; what it has written is a JSON text only if all of
them were text.

* `ByteJson`, `ByteJson.toJson?`: such a value, and the value it is when all its strings are text.
* `isSome_toJson?_array`, `isSome_toJson?_object`: it is one when its parts are.
* `WritesBytes`: what is assumed of a library that **writes strings without looking at them**.
* `ByteJson.print`, `writesBytes_print`: the compact text, as bytes, is written so.
-/

namespace Found

open Bytes

/-- A JSON value with strings of bytes. -/
inductive ByteJson
  /-- A value in which all strings are text. -/
  | ofJson (value : Json)
  | string (value : Bytes)
  | array (items : List ByteJson)
  | object (fields : List (String × ByteJson))

namespace ByteJson

mutual

/-- The value, when all its strings are text. -/
def toJson? : ByteJson → Option Json
  | .ofJson value => some value
  | .string value => (textOf value).map .string
  | .array items => (itemsToJson? items).map .array
  | .object fields => (fieldsToJson? fields).map .object

/-- The items of an array, if all are text. -/
def itemsToJson? : List ByteJson → Option (List Json)
  | [] => some []
  | item :: items => do
      let item ← toJson? item
      let items ← itemsToJson? items
      some (item :: items)

/-- The fields of an object, if all are text. -/
def fieldsToJson? : List (String × ByteJson) → Option (List (String × Json))
  | [] => some []
  | (key, value) :: fields => do
      let value ← toJson? value
      let fields ← fieldsToJson? fields
      some ((key, value) :: fields)

end

/-- All parts of an array must be values of their own. -/
theorem isSome_itemsToJson?_iff {items : List ByteJson} :
    (itemsToJson? items).isSome = true ↔ ∀ item ∈ items, item.toJson?.isSome = true := by
  induction items with
  | nil => simp [itemsToJson?]
  | cons item items ih =>
      rw [List.forall_mem_cons, ← ih, itemsToJson?]
      rcases item.toJson? with _ | part
      · simp
      · rcases itemsToJson? items with _ | parts <;> simp

/-- Fields are JSON exactly when all their values are. -/
theorem isSome_fieldsToJson?_iff {fields : List (String × ByteJson)} :
    (fieldsToJson? fields).isSome = true ↔ ∀ field ∈ fields, field.2.toJson?.isSome = true := by
  induction fields with
  | nil => simp [fieldsToJson?]
  | cons field fields ih =>
      obtain ⟨key, value⟩ := field
      rw [List.forall_mem_cons, ← ih, fieldsToJson?]
      rcases value.toJson? with _ | part
      · simp
      · rcases fieldsToJson? fields with _ | parts <;> simp

/-- JSON is JSON. -/
@[simp]
theorem isSome_toJson?_ofJson (value : Json) : (ofJson value).toJson?.isSome = true := by rfl

/-- Bytes are a JSON string exactly when they are text. -/
@[simp]
theorem isSome_toJson?_string {value : Bytes} :
    (string value).toJson?.isSome = true ↔ IsText value := by
  rw [toJson?, Option.isSome_map]
  exact Iff.rfl

/-- An array is JSON exactly when its items are. -/
@[simp]
theorem isSome_toJson?_array {items : List ByteJson} :
    (array items).toJson?.isSome = true ↔ ∀ item ∈ items, item.toJson?.isSome = true := by
  rw [toJson?, Option.isSome_map, isSome_itemsToJson?_iff]

/-- An object is JSON exactly when the values of its fields are. -/
@[simp]
theorem isSome_toJson?_object {fields : List (String × ByteJson)} :
    (object fields).toJson?.isSome = true ↔ ∀ field ∈ fields, field.2.toJson?.isSome = true := by
  rw [toJson?, Option.isSome_map, isSome_fieldsToJson?_iff]

/-- An object is read as one. -/
theorem isSome_asObject_toJson? (fields : List (String × ByteJson)) :
    ((object fields).toJson?.bind Json.asObject).isSome =
      (object fields).toJson?.isSome := by
  rw [toJson?]
  rcases fieldsToJson? fields with _ | fields
  · rfl
  · rfl

end ByteJson

/-- What is assumed of a library that writes a value without looking at the bytes of its strings: it
writes the text of a value, and for a value that has none something that is no text either. -/
structure WritesBytes (lib : JsonLibrary) (serialize : ByteJson → Bytes) : Prop where
  nonempty : ∀ value, serialize value ≠ []
  textOf_serialize : ∀ value, textOf (serialize value) = value.toJson?.map lib.serialize

/-- **What was written is read again** exactly when all its strings are text. -/
theorem WritesBytes.parse_serialize {lib : JsonLibrary} {serialize : ByteJson → Bytes}
    (h : WritesBytes lib serialize) (value : ByteJson) :
    (textOf (serialize value)).bind lib.parse = value.toJson? := by
  rw [h.textOf_serialize]
  rcases value.toJson? with _ | json
  · rfl
  · exact lib.parse_serialize json

/-! ### The compact text as bytes -/

namespace ByteJson

open JsonText

/-- One byte of a string, as it is written. -/
def escapeByte (b : UInt8) : Bytes :=
  if IsAscii b then encode (escapeChar (Char.ofUInt8 b)) else [b]

/-- A string's bytes and its closing quote. -/
def printBytes (value : Bytes) : Bytes := value.flatMap escapeByte ++ utf8 "\""

mutual

/-- The text of a value. -/
def print : ByteJson → Bytes
  | .ofJson value => encode (JsonText.print value)
  | .string value => utf8 "\"" ++ printBytes value
  | .array [] => utf8 "[]"
  | .array (item :: items) => utf8 "[" ++ (print item ++ printItems items)
  | .object [] => utf8 "\x7b\x7d"
  | .object ((key, value) :: fields) =>
      utf8 "\x7b\"" ++ (encode (printString key) ++ (utf8 ":" ++ (print value ++ printFields fields)))

/-- The rest of an array. -/
def printItems : List ByteJson → Bytes
  | [] => utf8 "]"
  | item :: items => utf8 "," ++ (print item ++ printItems items)

/-- The rest of an object. -/
def printFields : List (String × ByteJson) → Bytes
  | [] => utf8 "\x7d"
  | (key, value) :: fields =>
      utf8 ",\"" ++ (encode (printString key) ++ (utf8 ":" ++ (print value ++ printFields fields)))

end

/-! ### What is text is written as text -/

/-- A byte above ASCII is not escaped. -/
theorem escapeByte_of_not_isAscii {b : UInt8} (h : ¬ IsAscii b) : escapeByte b = [b] := if_neg h

/-- A character is escaped byte by byte. -/
theorem flatMap_escapeByte_utf8EncodeChar (ch : Char) :
    (String.utf8EncodeChar ch).flatMap escapeByte = encode (escapeChar ch) := by
  by_cases hch : ch.toNat < 128
  · have hascii := isAscii_charByte hch
    have hchar := ofUInt8_charByte (Nat.lt_trans hch (by decide))
    have hself : String.utf8EncodeChar ch = [charByte ch] := by
      have hone := encode_ofUInt8 hascii
      rw [hchar, encode_cons] at hone
      simpa [encode] using hone
    rw [hself, List.flatMap_singleton, escapeByte, if_pos hascii, hchar]
  · have hshort : shortEscape ch = none := by
      have hascii : ∀ pair ∈ shortEscapes, pair.1.toNat < 128 := by decide
      rw [shortEscape, List.lookup_eq_none_iff]
      intro pair hpair
      have hlt := hascii pair hpair
      simp only [bne_iff_ne]
      rintro rfl
      exact hch hlt
    have hself : escapeChar ch = [ch] := by
      unfold escapeChar
      rw [hshort, if_neg (by omega)]
    have hbytes : ∀ b ∈ String.utf8EncodeChar ch, escapeByte b = [b] := fun b hb =>
      escapeByte_of_not_isAscii (not_isAscii_of_mem_utf8EncodeChar (by omega) hb)
    rw [hself, List.flatMap_congr hbytes, List.flatMap_singleton']
    simp [encode]

/-- **Escaping bytes escapes characters.** -/
theorem flatMap_escapeByte_encode (chars : List Char) :
    (encode chars).flatMap escapeByte = encode (chars.flatMap escapeChar) := by
  induction chars with
  | nil => rfl
  | cons ch chars ih =>
      rw [encode_cons, List.flatMap_append, ih, flatMap_escapeByte_utf8EncodeChar,
        List.flatMap_cons, encode_append]

/-- A string is printed as its bytes are. -/
theorem printBytes_utf8 (s : String) : printBytes (utf8 s) = encode (printString s) := by
  unfold printBytes printString
  rw [← encode_toList, flatMap_escapeByte_encode, encode_append]
  rfl

mutual

/-- What is JSON is printed as JSON. -/
theorem print_of_toJson? {value : ByteJson} {json : Json} (h : value.toJson? = some json) :
    print value = encode (JsonText.print json) := by
  match value with
  | .ofJson value =>
      obtain rfl := Option.some.inj h
      rfl
  | .string value =>
      obtain ⟨s, hs, rfl⟩ := Option.map_eq_some_iff.mp h
      rw [print, JsonText.print, ← textOf_eq_some_iff.mp hs, printBytes_utf8,
        ← List.singleton_append, encode_append]
      rfl
  | .array [] =>
      obtain rfl := Option.some.inj h
      rfl
  | .array (item :: items) =>
      obtain ⟨parts, hparts, rfl⟩ := Option.map_eq_some_iff.mp h
      obtain ⟨part, hpart, hparts⟩ := Json.exists_of_bind hparts
      obtain ⟨others, hothers, heq⟩ := Json.exists_of_bind hparts
      obtain rfl := Option.some.inj heq
      rw [print, JsonText.print, print_of_toJson? hpart, printItems_of_itemsToJson? hothers,
        ← List.singleton_append, encode_append, encode_append]
      rfl
  | .object [] =>
      obtain rfl := Option.some.inj h
      rfl
  | .object ((key, value) :: fields) =>
      obtain ⟨parts, hparts, rfl⟩ := Option.map_eq_some_iff.mp h
      obtain ⟨part, hpart, hparts⟩ := Json.exists_of_bind hparts
      obtain ⟨others, hothers, heq⟩ := Json.exists_of_bind hparts
      obtain rfl := Option.some.inj heq
      rw [print, JsonText.print, print_of_toJson? hpart, printFields_of_fieldsToJson? hothers,
        ← List.singleton_append, ← List.singleton_append (l := _ ++ _), encode_append]
      simp only [encode_append, encode_cons]
      rfl

/-- Items that are JSON are printed as JSON. -/
theorem printItems_of_itemsToJson? {items : List ByteJson} {parts : List Json}
    (h : itemsToJson? items = some parts) :
    printItems items = encode (JsonText.printItems parts) := by
  match items with
  | [] =>
      obtain rfl := Option.some.inj h
      rfl
  | item :: items =>
      obtain ⟨part, hpart, h⟩ := Json.exists_of_bind h
      obtain ⟨others, hothers, heq⟩ := Json.exists_of_bind h
      obtain rfl := Option.some.inj heq
      rw [printItems, JsonText.printItems, print_of_toJson? hpart,
        printItems_of_itemsToJson? hothers, ← List.singleton_append, encode_append, encode_append]
      rfl

/-- Fields that are JSON are printed as JSON. -/
theorem printFields_of_fieldsToJson? {fields : List (String × ByteJson)}
    {parts : List (String × Json)} (h : fieldsToJson? fields = some parts) :
    printFields fields = encode (JsonText.printFields parts) := by
  match fields with
  | [] =>
      obtain rfl := Option.some.inj h
      rfl
  | (key, value) :: fields =>
      obtain ⟨part, hpart, h⟩ := Json.exists_of_bind h
      obtain ⟨others, hothers, heq⟩ := Json.exists_of_bind h
      obtain rfl := Option.some.inj heq
      rw [printFields, JsonText.printFields, print_of_toJson? hpart,
        printFields_of_fieldsToJson? hothers]
      simp only [encode_append, encode_cons]
      rfl

end

/-! ### What is written as text is text -/

/-- An ASCII character is written as some. -/
theorem isAsciiChar_escapeChar {ch : Char} (h : IsAsciiChar ch) :
    escapeChar ch ≠ [] ∧ ∀ sign ∈ escapeChar ch, IsAsciiChar sign := by
  unfold escapeChar
  split
  next letter hletter =>
    have hall : ∀ pair ∈ shortEscapes, IsAsciiChar pair.2 := by decide
    have hsecond := hall _ (mem_shortEscapes hletter)
    simpa using ⟨by decide, hsecond⟩
  next =>
    split_ifs with hcontrol
    · have hall : ∀ n < 16, IsAsciiChar (hexDigit n) := by decide
      have hhigh := hall (ch.toNat / 16) (by omega)
      have hlow := hall (ch.toNat % 16) (by omega)
      simpa using ⟨by decide, by decide, by decide, hhigh, hlow⟩
    · simpa using h

/-- An ASCII byte is written as some. -/
theorem escapeByte_of_isAscii {b : UInt8} (hb : IsAscii b) :
    escapeByte b ≠ [] ∧ ∀ sign ∈ escapeByte b, IsAscii sign := by
  have hchar : IsAsciiChar (Char.ofUInt8 b) := UInt8.lt_iff_toNat_lt.mp hb
  obtain ⟨hne, hascii⟩ := isAsciiChar_escapeChar hchar
  rw [escapeByte, if_pos hb, encode_of_ascii hascii]
  refine ⟨fun h => hne (List.map_eq_nil_iff.mp h), fun sign hsign => ?_⟩
  obtain ⟨ch, hch, rfl⟩ := List.mem_map.mp hsign
  exact isAscii_charByte (hascii ch hch)

/-- Escaping makes no text of bytes that are none. -/
theorem isText_of_flatMap_escapeByte {front bs : Bytes}
    (h : IsText (front ++ bs.flatMap escapeByte)) : IsText (front ++ bs) := by
  induction bs generalizing front with
  | nil => exact h
  | cons b bs ih =>
      rw [List.flatMap_cons] at h
      by_cases hb : IsAscii b
      · obtain ⟨hne, hascii⟩ := escapeByte_of_isAscii hb
        obtain ⟨first, rest, hbytes⟩ := List.exists_cons_of_ne_nil hne
        rw [hbytes, List.forall_mem_cons] at hascii
        rw [hbytes, List.cons_append, isText_append_cons_iff hascii.1,
          isText_ascii_append_iff hascii.2, ← List.nil_append (bs.flatMap escapeByte)] at h
        rw [isText_append_cons_iff hb]
        exact ⟨h.1, ih h.2⟩
      · rw [escapeByte_of_not_isAscii hb, ← List.append_assoc] at h
        have hrest := ih h
        rwa [List.append_assoc, List.singleton_append] at hrest

/-- What a string's bytes are when they are written as text. -/
theorem isText_of_printBytes {value : Bytes} (h : IsText (printBytes value)) : IsText value := by
  have hquote : IsText ([] ++ value.flatMap escapeByte) ∧ IsText [] :=
    (isText_append_cons_iff (by decide)).mp h
  exact isText_of_flatMap_escapeByte hquote.1

/-- The rest of an array begins with a sign. -/
theorem exists_printItems (items : List ByteJson) :
    ∃ sign rest, IsAscii sign ∧ printItems items = sign :: rest := by
  match items with
  | [] => exact ⟨0x5D, [], by decide, rfl⟩
  | item :: items => exact ⟨0x2C, print item ++ printItems items, by decide, rfl⟩

/-- Fields begin with a sign of ASCII. -/
theorem exists_printFields (fields : List (String × ByteJson)) :
    ∃ sign rest, IsAscii sign ∧ printFields fields = sign :: rest := by
  match fields with
  | [] => exact ⟨0x7D, [], by decide, rfl⟩
  | (key, value) :: fields => exact ⟨0x2C, _, by decide, rfl⟩

/-- Text that goes on with a sign is text in front of it, and from there on. -/
theorem isText_append_of_sign {front back : Bytes}
    (hback : ∃ sign rest, IsAscii sign ∧ back = sign :: rest) (h : IsText (front ++ back)) :
    IsText front ∧ IsText back := by
  obtain ⟨sign, rest, hsign, rfl⟩ := hback
  obtain ⟨hfront, hrest⟩ := (isText_append_cons_iff hsign).mp h
  exact ⟨hfront, (isText_cons_iff hsign).mpr hrest⟩

/-- A field that is written as text has a value that is. -/
theorem isText_field {key : String} {value : ByteJson} {fields : List (String × ByteJson)}
    (h : IsText (encode (printString key) ++ (utf8 ":" ++ (print value ++ printFields fields)))) :
    IsText (print value) ∧ IsText (printFields fields) := by
  have hcolon : IsText (encode (printString key)) ∧ IsText (print value ++ printFields fields) :=
    (isText_append_cons_iff (by decide)).mp h
  exact isText_append_of_sign (exists_printFields fields) hcolon.2

mutual

/-- **What is printed as text is JSON.** -/
theorem isSome_toJson?_of_print : (value : ByteJson) → IsText (print value) →
    value.toJson?.isSome = true
  | .ofJson _ => fun _ => rfl
  | .string value => by
      intro h
      rw [print, isText_ascii_append_iff (isAscii_of_all (by decide))] at h
      rw [toJson?, Option.isSome_map]
      exact isText_of_printBytes h
  | .array [] => fun _ => rfl
  | .array (item :: items) => by
      intro h
      rw [print, isText_ascii_append_iff (isAscii_of_all (by decide))] at h
      obtain ⟨hitem, hitems⟩ := isText_append_of_sign (exists_printItems items) h
      obtain ⟨part, hpart⟩ := Option.isSome_iff_exists.mp (isSome_toJson?_of_print item hitem)
      obtain ⟨parts, hparts⟩ :=
        Option.isSome_iff_exists.mp (isSome_itemsToJson?_of_printItems items hitems)
      simp [toJson?, itemsToJson?, hpart, hparts]
  | .object [] => fun _ => rfl
  | .object ((key, value) :: fields) => by
      intro h
      rw [print, isText_ascii_append_iff (isAscii_of_all (by decide))] at h
      obtain ⟨hvalue, hfields⟩ := isText_field h
      obtain ⟨part, hpart⟩ := Option.isSome_iff_exists.mp (isSome_toJson?_of_print value hvalue)
      obtain ⟨parts, hparts⟩ :=
        Option.isSome_iff_exists.mp (isSome_fieldsToJson?_of_printFields fields hfields)
      simp [toJson?, fieldsToJson?, hpart, hparts]

/-- Items that are printed as text are JSON. -/
theorem isSome_itemsToJson?_of_printItems : (items : List ByteJson) → IsText (printItems items) →
    (itemsToJson? items).isSome = true
  | [] => fun _ => rfl
  | item :: items => by
      intro h
      rw [printItems, isText_ascii_append_iff (isAscii_of_all (by decide))] at h
      obtain ⟨hitem, hitems⟩ := isText_append_of_sign (exists_printItems items) h
      obtain ⟨part, hpart⟩ := Option.isSome_iff_exists.mp (isSome_toJson?_of_print item hitem)
      obtain ⟨parts, hparts⟩ :=
        Option.isSome_iff_exists.mp (isSome_itemsToJson?_of_printItems items hitems)
      simp [itemsToJson?, hpart, hparts]

/-- Fields that are printed as text are JSON. -/
theorem isSome_fieldsToJson?_of_printFields : (fields : List (String × ByteJson)) →
    IsText (printFields fields) → (fieldsToJson? fields).isSome = true
  | [] => fun _ => rfl
  | (key, value) :: fields => by
      intro h
      rw [printFields, isText_ascii_append_iff (isAscii_of_all (by decide))] at h
      obtain ⟨hvalue, hfields⟩ := isText_field h
      obtain ⟨part, hpart⟩ := Option.isSome_iff_exists.mp (isSome_toJson?_of_print value hvalue)
      obtain ⟨parts, hparts⟩ :=
        Option.isSome_iff_exists.mp (isSome_fieldsToJson?_of_printFields fields hfields)
      simp [fieldsToJson?, hpart, hparts]

end

/-- Something is printed. -/
theorem print_ne_nil (value : ByteJson) : print value ≠ [] := by
  match value with
  | .ofJson value =>
      obtain ⟨ch, rest, heq, -⟩ := print_head value
      rw [print, heq, encode_cons]
      exact List.append_ne_nil_of_left_ne_nil String.utf8EncodeChar_ne_nil _
  | .string value => exact List.cons_ne_nil _ _
  | .array [] => exact List.cons_ne_nil _ _
  | .array (item :: items) => exact List.cons_ne_nil _ _
  | .object [] => exact List.cons_ne_nil _ _
  | .object ((key, value) :: fields) => exact List.cons_ne_nil _ _

/-- **The compact text is written without looking at the strings.** -/
theorem writesBytes_print : WritesBytes compactJson print where
  nonempty := print_ne_nil
  textOf_serialize value := by
    rcases h : value.toJson? with _ | json
    · have hnone : ¬ IsText (print value) := fun htext => by
        have hsome := isSome_toJson?_of_print _ htext
        rw [h] at hsome
        cases hsome
      exact Option.not_isSome_iff_eq_none.mp hnone
    · rw [Option.map_some, textOf_eq_some_iff, print_of_toJson? h]
      exact utf8_ofList _

end ByteJson

end Found
