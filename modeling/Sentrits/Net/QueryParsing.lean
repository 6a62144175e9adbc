import Mathlib.Algebra.Group.Nat.Defs
import Sentrits.Found.Bytes

/-!
# Request targets

A target is a path, and behind a question mark a query: items between ampersands, each a key, an
equals sign and a value. Values are percent-encoded, numbers in them are read by the C library.

* `parseQueryValue`, `urlDecode`: the value of a key, and what it stands for.
* `stoull`, `fromChars`: the two ways in which numbers are read.

Sources: `src/net/request_parsing.cpp`, `src/net/http_shared.cpp`.
-/

namespace Sentrits.Net

open Found Found.Bytes

/-- The sign between a path and its query. -/
def questionMark : UInt8 := 0x3F

/-- The sign between two items of a query. -/
def ampersand : UInt8 := 0x26

/-- The sign between a key and its value. -/
def equalsSign : UInt8 := 0x3D

/-- The sign before an encoded byte. -/
def percentSign : UInt8 := 0x25

/-- The sign that stands for a space. -/
def plusSign : UInt8 := 0x2B

/-- The sign of a negative number. -/
def minusSign : UInt8 := 0x2D

/-! ### Values -/

/-- The value of the first item with the key; nothing when there is none.
Source: `request_parsing.cpp` `ParseQueryValue`. -/
def parseQueryValue (target : Bytes) (key : String) : Bytes :=
  let query := (target.dropWhile (· != questionMark)).drop 1
  match (query.splitOn ampersand).find? fun item => item.takeWhile (· != equalsSign) = utf8 key with
  | none => []
  | some item => (item.dropWhile (· != equalsSign)).drop 1

/-- Source: `request_parsing.cpp` the lambda `hex_value` of `UrlDecode`. -/
def hexValue (ch : UInt8) : Option UInt8 :=
  if 0x30 ≤ ch ∧ ch ≤ 0x39 then some (ch - 0x30)
  else if 0x61 ≤ ch ∧ ch ≤ 0x66 then some (10 + (ch - 0x61))
  else if 0x41 ≤ ch ∧ ch ≤ 0x46 then some (10 + (ch - 0x41))
  else none

/-- Source: `request_parsing.cpp` `UrlDecode`. -/
def urlDecode : Bytes → Option Bytes
  | [] => some []
  | [ch] => if ch = percentSign then none else some [if ch = plusSign then 0x20 else ch]
  | [ch, ch'] =>
      if ch = percentSign then none
      else (urlDecode [ch']).map ((if ch = plusSign then 0x20 else ch) :: ·)
  | ch :: ch' :: ch'' :: rest =>
      if ch = percentSign then
        match hexValue ch', hexValue ch'' with
        | some high, some low => (urlDecode rest).map ((high <<< 4 ||| low) :: ·)
        | _, _ => none
      else (urlDecode (ch' :: ch'' :: rest)).map ((if ch = plusSign then 0x20 else ch) :: ·)

/-! ### Numbers -/

/-- A decimal digit. -/
def isDigit (ch : UInt8) : Bool := 0x30 ≤ ch && ch ≤ 0x39

/-- The blanks of the C locale. -/
def isSpace (ch : UInt8) : Bool := ch == 0x20 || (0x09 ≤ ch && ch ≤ 0x0D)

/-- The number some digits write. -/
def decimalValue (digits : Bytes) : ℕ :=
  digits.foldl (fun value digit => 10 * value + (digit - 0x30).toNat) 0

/-- Blanks, then a sign, then digits, then anything; a minus sign counts down from `2 ^ 64`.
Source: the C++ standard library's `std::stoull`, which is also `std::stoul` here. -/
def stoull (text : Bytes) : Option ℕ :=
  let signed := text.dropWhile isSpace
  let negative := signed.head? == some minusSign
  let digits := (if negative || signed.head? == some plusSign then signed.drop 1
    else signed).takeWhile isDigit
  let value := decimalValue digits
  if digits.isEmpty || 2 ^ 64 ≤ value then none
  else some (if negative then (2 ^ 64 - value) % 2 ^ 64 else value)

/-- Digits and nothing else.
Source: the C++ standard library's `std::from_chars`, with the check that it read everything. -/
def fromChars (text : Bytes) : Option ℕ :=
  if text.isEmpty || !text.all isDigit || 2 ^ 64 ≤ decimalValue text then none
  else some (decimalValue text)

/-- Source: `http_shared.cpp` `ParseUnsignedQueryValue`. -/
def parseUnsignedQueryValue (target : Bytes) (key : String) : Option UInt16 := do
  let rawValue := parseQueryValue target key
  if rawValue.isEmpty then none
  else
    let parsed ← stoull rawValue
    if parsed = 0 ∨ 65535 < parsed then none else some (UInt16.ofNat parsed)

/-- Source: `http_shared.cpp` `ParseSizeQueryValue`. -/
def parseSizeQueryValue (target : Bytes) (key : String) (defaultValue : ℕ) : Option ℕ :=
  let rawValue := parseQueryValue target key
  if rawValue.isEmpty then some defaultValue else stoull rawValue

/-- Source: `http_shared.cpp` `ParseRequiredRevisionQueryValue`. -/
def parseRequiredRevisionQueryValue (target : Bytes) (key : String) : Option ℕ :=
  let rawValue := parseQueryValue target key
  if rawValue.isEmpty then none else stoull rawValue

/-- A letter of the C locale in lower case. -/
def toLower (ch : UInt8) : UInt8 := if 0x41 ≤ ch ∧ ch ≤ 0x5A then ch + 0x20 else ch

/-- Source: `http_shared.cpp` `ParseBoolQueryValue`. -/
def parseBoolQueryValue (target : Bytes) (key : String) (defaultValue : Bool) : Option Bool :=
  let rawValue := (parseQueryValue target key).map toLower
  if rawValue.isEmpty then some defaultValue
  else if rawValue = utf8 "true" ∨ rawValue = utf8 "1" then some true
  else if rawValue = utf8 "false" ∨ rawValue = utf8 "0" then some false
  else none

/-- Source: `request_parsing.cpp` `ParseByteLimit`. -/
def parseByteLimit (target : Bytes) (defaultBytes : ℕ) (maxBytes : Option ℕ) : Option ℕ :=
  let value := parseQueryValue target "bytes"
  if value.isEmpty then some defaultBytes
  else (fromChars value).map fun parsed => (maxBytes.map (min parsed)).getD parsed

/-- Source: `request_parsing.cpp` `ParseTailBytes`. -/
def parseTailBytes (target : Bytes) : Option ℕ := parseByteLimit target 65536 none

/-- Source: `request_parsing.cpp` `ParseFileBytes`. -/
def parseFileBytes (target : Bytes) : Option ℕ := parseByteLimit target 65536 (some (1024 * 1024))

end Sentrits.Net
