import Mathlib.Data.List.DropRight
import Sentrits.Found.PosixEnv

/-!
# Environment files

The lines of a `.env` file, read in order: each value may refer to the variables that were there
before the file and to those of the lines above it.

* `parseEnvFile`: the pairs of a file.
* `isKey_of_mem_parseEnvFile`: the keys are letters, digits and underscores.

Source: `src/session/env_file_parser.cpp`.
-/

namespace Sentrits.Session

open Found Found.Bytes Found.PosixEnv

/-! ### Trimming -/

/-- A blank or a tab. -/
def isBlank (ch : UInt8) : Bool := ch == 32 || ch == 9

/-- Source: `env_file_parser.cpp` `TrimLeft`. -/
def trimLeft (s : Bytes) : Bytes := s.dropWhile isBlank

/-- Source: `env_file_parser.cpp` `TrimRight`. -/
def trimRight (s : Bytes) : Bytes := s.rdropWhile isBlank

/-- What stands before a comment, if there is one: a number sign behind a blank, outside quotes. -/
def beforeComment (inSingle inDouble : Bool) (previous : Option UInt8) : Bytes → Option Bytes
  | [] => none
  | ch :: rest =>
      if ch = 39 ∧ inDouble = false then
        (beforeComment (!inSingle) inDouble (some ch) rest).map (ch :: ·)
      else if ch = 34 ∧ inSingle = false then
        (beforeComment inSingle (!inDouble) (some ch) rest).map (ch :: ·)
      else if ch = 35 ∧ inSingle = false ∧ inDouble = false ∧ previous.any isBlank then some []
      else (beforeComment inSingle inDouble (some ch) rest).map (ch :: ·)

/-- Source: `env_file_parser.cpp` `StripInlineComment`. -/
def stripInlineComment (s : Bytes) : Bytes :=
  match beforeComment false false none s with
  | some before => trimRight before
  | none => s

/-! ### Values -/

/-- Source: `env_file_parser.cpp` `ExpandVars`. -/
def expandVars (env : Environment) : Bytes → Bytes
  | [] => []
  | ch :: rest =>
      if ch ≠ 36 then ch :: expandVars env rest
      else if rest.head? = some 123 then
        -- the closing brace may be missing
        (env (rest.tail.takeWhile (· ≠ 125))).getD [] ++
          expandVars env ((rest.tail.dropWhile (· ≠ 125)).drop 1)
      else if rest.head?.any isNameStart then
        (env (rest.takeWhile isNameChar)).getD [] ++ expandVars env (rest.dropWhile isNameChar)
      else 36 :: expandVars env rest
termination_by s => s.length
decreasing_by
  · exact Nat.lt_succ_self _
  · have hdrop := (List.dropWhile_suffix (l := rest.tail) (· ≠ 125)).length_le
    rw [List.length_tail] at hdrop
    rw [List.length_drop, List.length_cons]
    omega
  · exact Nat.lt_succ_of_le (List.dropWhile_suffix isNameChar).length_le
  · exact Nat.lt_succ_self _

/-- Source: the loop of `env_file_parser.cpp` `UnquoteValue` over a double-quoted value. -/
def unescapeQuotes : Bytes → Bytes
  | [] => []
  | [ch] => [ch]
  | ch :: next :: rest =>
      if ch = 92 ∧ next = 34 then 34 :: unescapeQuotes rest
      else ch :: unescapeQuotes (next :: rest)

/-- Source: `env_file_parser.cpp` `UnquoteValue`. -/
def unquoteValue (raw : Bytes) (env : Environment) : Bytes :=
  if raw.head? = some 39 ∧ raw.getLast? = some 39 ∧ 2 ≤ raw.length then raw.tail.dropLast
  else if raw.head? = some 34 ∧ raw.getLast? = some 34 ∧ 2 ≤ raw.length then
    expandVars env (unescapeQuotes raw.tail.dropLast)
  else expandVars env (trimRight (stripInlineComment raw))

/-! ### Lines -/

/-- The pair of a line that is neither blank nor a comment, if it has one. -/
def parsePair (accumulated : Environment) (line : Bytes) : Option (Bytes × Bytes) :=
  if equals ∈ line then
    let key := trimRight (line.takeWhile (· ≠ equals))
    let rawValue := (line.dropWhile (· ≠ equals)).drop 1
    if key = [] ∨ key.all isNameChar = false then none
    else some (key, unquoteValue rawValue accumulated)
  else none

/-- The pair of a line, if it has one.
Source: the loop of `env_file_parser.cpp` `ParseEnvFile`. -/
def parseEnvLine (accumulated : Environment) (rawLine : Bytes) : Option (Bytes × Bytes) :=
  let line := trimRight (trimLeft (if rawLine.getLast? = some cr then rawLine.dropLast else rawLine))
  if line = [] ∨ line.head? = some 35 then none
  else parsePair accumulated (if utf8 "export " <+: line then trimLeft (line.drop 7) else line)

/-- The pairs of some lines. -/
def parseEnvLines (accumulated : Environment) : List Bytes → List (Bytes × Bytes)
  | [] => []
  | line :: lines =>
      match parseEnvLine accumulated line with
      | none => parseEnvLines accumulated lines
      | some (key, value) =>
          (key, value) :: parseEnvLines (Function.update accumulated key (some value)) lines

/-- Source: `env_file_parser.cpp` `ParseEnvFile`. -/
def parseEnvFile (content : Bytes) (currentEnv : Environment) : List (Bytes × Bytes) :=
  parseEnvLines currentEnv (content.splitOn lf)

/-- What a key has been checked for. -/
def IsKey (key : Bytes) : Prop := key ≠ [] ∧ key.all isNameChar = true

/-- The key of a pair is a name. -/
theorem isKey_of_parsePair {accumulated : Environment} {line key value : Bytes}
    (h : parsePair accumulated line = some (key, value)) : IsKey key := by
  unfold parsePair at h
  dsimp only at h
  split_ifs at h with hequals hkey
  cases h
  rw [not_or, Bool.not_eq_false] at hkey
  exact hkey

/-- The key of a line is a name. -/
theorem isKey_of_parseEnvLine {accumulated : Environment} {rawLine key value : Bytes}
    (h : parseEnvLine accumulated rawLine = some (key, value)) : IsKey key := by
  unfold parseEnvLine at h
  dsimp only at h
  exact isKey_of_parsePair (Option.ite_none_left_eq_some.mp h).2

/-- The keys of several lines are names. -/
theorem isKey_of_mem_parseEnvLines {accumulated : Environment} {lines : List Bytes}
    {key value : Bytes} (h : (key, value) ∈ parseEnvLines accumulated lines) : IsKey key := by
  induction lines generalizing accumulated with
  | nil => exact absurd h List.not_mem_nil
  | cons line lines ih =>
      unfold parseEnvLines at h
      split at h
      · exact ih h
      next key' value' hline =>
        rcases List.mem_cons.mp h with heq | h
        · cases heq
          exact isKey_of_parseEnvLine hline
        · exact ih h

/-- **The keys of a file** are letters, digits and underscores. -/
theorem isKey_of_mem_parseEnvFile {content : Bytes} {currentEnv : Environment} {key value : Bytes}
    (h : (key, value) ∈ parseEnvFile content currentEnv) : IsKey key := by
  exact isKey_of_mem_parseEnvLines h

end Sentrits.Session
