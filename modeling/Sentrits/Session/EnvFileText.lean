import Mathlib.Tactic.SplitIfs
import Sentrits.Session.EnvFile

/-!
# The text of an environment file

How the parser gets from line to line, and what it makes of lines that are written for it: a name,
an equals sign and a value in quotes.

* `parseLoop_eq_some`: **the loop over the positions of a file ends**, with the pairs of its lines.
* `parseEnvLine_assignment`: the line of an assignment.
* `envFile_round_trip`: **what is written in single quotes** is read back as it is.
* `quotedLine_iff`: **a quoted value is read exactly when** nothing stands around the quotes.

Source: `src/session/env_file_parser.cpp`.
-/

namespace Sentrits.Session

open Found Found.Bytes Found.PosixEnv

/-! ### The loop over positions -/

/-- Where the line that begins at some position ends. -/
def lineEnd (content : Bytes) (pos : ℕ) : ℕ :=
  pos + ((content.drop pos).takeWhile (· ≠ lf)).length

/-- The loop of `ParseEnvFile`, for at most so many rounds; `none` when they were not enough.
Source: `env_file_parser.cpp` `ParseEnvFile`. -/
def parseLoop (content : Bytes) : ℕ → ℕ → Environment → List (Bytes × Bytes) →
    Option (List (Bytes × Bytes))
  | 0, _, _, _ => none
  | fuel + 1, pos, accumulated, result =>
      if pos ≤ content.length then
        let actualEnd := lineEnd content pos
        let rawLine := (content.drop pos).take (actualEnd - pos)
        match parseEnvLine accumulated rawLine with
        | none => parseLoop content fuel (actualEnd + 1) accumulated result
        | some (key, value) =>
            if actualEnd = content.length then some (result ++ [(key, value)])
            else
              parseLoop content fuel (actualEnd + 1)
                (Function.update accumulated key (some value)) (result ++ [(key, value)])
      else some result

/-- The first line of a text, and what is behind it. -/
theorem splitOn_takeWhile (text : Bytes) :
    text.splitOn lf = text.takeWhile (· ≠ lf) ::
      match text.dropWhile (· ≠ lf) with
      | [] => []
      | _ :: rest => rest.splitOn lf := by
  have hsplit : text.takeWhile (· ≠ lf) ++ text.dropWhile (· ≠ lf) = text :=
    List.takeWhile_append_dropWhile
  have hline : lf ∉ text.takeWhile (· ≠ lf) := by
    intro hmem
    simpa using List.mem_takeWhile_imp hmem
  rcases hrest : text.dropWhile (· ≠ lf) with _ | ⟨ch, rest⟩
  · rw [hrest, List.append_nil] at hsplit
    rw [hsplit] at hline ⊢
    exact List.splitOn_eq_singleton hline
  · have hne : text.dropWhile (· ≠ lf) ≠ [] := by
      rw [hrest]
      exact List.cons_ne_nil _ _
    have hch := List.head_dropWhile_not (· ≠ lf) hne
    simp only [hrest, List.head_cons, decide_eq_false_iff_not, not_not] at hch
    rw [hrest, hch] at hsplit
    conv_lhs => rw [← hsplit]
    exact List.splitOn_append_cons_self_of_not_mem hline rest

/-- Behind what is taken stands what is dropped. -/
theorem drop_length_takeWhile (p : UInt8 → Bool) (text : Bytes) :
    text.drop (text.takeWhile p).length = text.dropWhile p := by
  have hsplit : text.takeWhile p ++ text.dropWhile p = text := List.takeWhile_append_dropWhile
  calc text.drop (text.takeWhile p).length
      = (text.takeWhile p ++ text.dropWhile p).drop (text.takeWhile p).length := by rw [hsplit]
    _ = text.dropWhile p := List.drop_left

/-- What a round reads: the line that begins at the position. -/
theorem take_lineEnd (content : Bytes) (pos : ℕ) :
    (content.drop pos).take (lineEnd content pos - pos) =
      (content.drop pos).takeWhile (· ≠ lf) := by
  unfold lineEnd
  rw [Nat.add_sub_cancel_left]
  exact (List.prefix_iff_eq_take.mp (List.takeWhile_prefix _)).symm

/-- What stands behind the end of a line. -/
theorem drop_lineEnd (content : Bytes) (pos : ℕ) :
    content.drop (lineEnd content pos) = (content.drop pos).dropWhile (· ≠ lf) := by
  unfold lineEnd
  rw [← List.drop_drop]
  exact drop_length_takeWhile _ _

/-- A line ends within the content. -/
theorem lineEnd_le {content : Bytes} {pos : ℕ} (h : pos ≤ content.length) :
    pos ≤ lineEnd content pos ∧ lineEnd content pos ≤ content.length := by
  have hle := (List.takeWhile_prefix (p := (· ≠ lf)) (l := content.drop pos)).length_le
  rw [List.length_drop] at hle
  unfold lineEnd
  omega

/-- What is left of a file from some position on: its first line, and what is behind it. -/
theorem splitOn_drop {content : Bytes} {pos : ℕ} (h : pos ≤ content.length) :
    (content.drop pos).splitOn lf =
      (content.drop pos).take (lineEnd content pos - pos) ::
        if lineEnd content pos = content.length then []
        else (content.drop (lineEnd content pos + 1)).splitOn lf := by
  have hbehind := drop_lineEnd content pos
  have hbound := (lineEnd_le h).2
  rw [splitOn_takeWhile, take_lineEnd, ← hbehind]
  congr 1
  split_ifs with hend
  · rw [hend, List.drop_length]
  · have hlt : lineEnd content pos < content.length := by omega
    rw [List.drop_eq_getElem_cons hlt]

/-- **The loop goes on** to the end of the file: so many rounds are enough as there are positions
left. -/
theorem parseLoop_spec {content : Bytes} {fuel pos : ℕ} (hfuel : content.length + 2 ≤ pos + fuel)
    (hpos : pos ≤ content.length + 1) (accumulated : Environment) (result : List (Bytes × Bytes)) :
    parseLoop content fuel pos accumulated result =
      some (result ++
        if pos ≤ content.length then parseEnvLines accumulated ((content.drop pos).splitOn lf)
        else []) := by
  induction fuel generalizing pos accumulated result with
  | zero => omega
  | succ fuel ih =>
      unfold parseLoop
      by_cases hin : pos ≤ content.length
      · obtain ⟨hstart, hend⟩ := lineEnd_le hin
        rw [if_pos hin, if_pos hin, splitOn_drop hin, parseEnvLines]
        dsimp only
        rcases parseEnvLine accumulated ((content.drop pos).take (lineEnd content pos - pos)) with
          _ | ⟨key, value⟩
        · dsimp only
          rw [ih (by omega) (by omega)]
          by_cases hlast : lineEnd content pos = content.length
          · rw [if_pos hlast, if_neg (by omega)]
            rfl
          · rw [if_neg hlast, if_pos (by omega)]
        · dsimp only
          by_cases hlast : lineEnd content pos = content.length
          · rw [if_pos hlast, if_pos hlast]
            rfl
          · rw [if_neg hlast, if_neg hlast, ih (by omega) (by omega), if_pos (by omega),
              List.append_assoc, List.singleton_append]
      · rw [if_neg hin, if_neg hin, List.append_nil]

/-- **The loop over the positions of a file ends**, with the pairs of its lines. -/
theorem parseLoop_eq_some (content : Bytes) (currentEnv : Environment) {fuel : ℕ}
    (h : content.length + 2 ≤ fuel) :
    parseLoop content fuel 0 currentEnv [] = some (parseEnvFile content currentEnv) := by
  rw [parseLoop_spec (by omega) (Nat.zero_le _), if_pos (Nat.zero_le _), List.nil_append,
    List.drop_zero]
  rfl

/-! ### The line of an assignment -/

/-- A line without the carriage return at its end. -/
def dropCr (line : Bytes) : Bytes := if line.getLast? = some cr then line.dropLast else line

/-- A carriage return is dropped at the end only. -/
theorem dropCr_append_cons (front : Bytes) {sign : UInt8} (hsign : sign ≠ cr) (back : Bytes) :
    dropCr (front ++ sign :: back) = front ++ sign :: dropCr back := by
  unfold dropCr
  rcases List.eq_nil_or_concat back with rfl | ⟨init, last, rfl⟩
  · have hlast : (front ++ [sign]).getLast? ≠ some cr := by
      rw [List.getLast?_concat]
      exact fun heq => hsign (Option.some.inj heq)
    rw [if_neg hlast]
    rfl
  · have hassoc : front ++ sign :: (init ++ [last]) = (front ++ sign :: init) ++ [last] := by simp
    rw [List.concat_eq_append, hassoc, List.getLast?_concat, List.getLast?_concat,
      List.dropLast_concat, List.dropLast_concat]
    split_ifs
    · rfl
    · exact hassoc.symm

/-- What stands before something that is no blank is not trimmed. -/
theorem trimRight_append_cons (front : Bytes) {sign : UInt8} (hsign : isBlank sign = false)
    (back : Bytes) : trimRight (front ++ sign :: back) = front ++ sign :: trimRight back := by
  unfold trimRight
  induction back using List.reverseRecOn with
  | nil =>
      rw [List.rdropWhile_concat_neg _ _ _ (by rw [hsign]; exact Bool.false_ne_true)]
      rfl
  | append_singleton back ch ih =>
      have hassoc : front ++ sign :: (back ++ [ch]) = (front ++ sign :: back) ++ [ch] := by simp
      rcases hblank : isBlank ch with _ | _
      · have hneg : ¬isBlank ch = true := by
          rw [hblank]
          exact Bool.false_ne_true
        rw [hassoc, List.rdropWhile_concat_neg _ _ _ hneg, List.rdropWhile_concat_neg _ _ _ hneg,
          hassoc]
      · rw [hassoc, List.rdropWhile_concat_pos _ _ _ hblank, ih,
          List.rdropWhile_concat_pos _ _ _ hblank]

/-- Nothing in a name is a blank. -/
theorem isBlank_of_isNameChar {ch : UInt8} (h : isNameChar ch = true) : isBlank ch = false := by
  rcases hblank : isBlank ch with _ | _
  · rfl
  · unfold isBlank at hblank
    rw [Bool.or_eq_true, beq_iff_eq, beq_iff_eq] at hblank
    rcases hblank with rfl | rfl
    · exact absurd h (by decide)
    · exact absurd h (by decide)

/-- A key is made of the bytes of names. -/
theorem isNameChar_of_isKey {key : Bytes} (h : IsKey key) {ch : UInt8} (hch : ch ∈ key) :
    isNameChar ch = true := by
  exact List.all_eq_true.mp h.2 ch hch

/-- A key ends where the equals sign is. -/
theorem ne_equals_of_isKey {key : Bytes} (h : IsKey key) :
    ∀ ch ∈ key, decide (ch ≠ equals) = true := by
  intro ch hch
  rw [decide_eq_true_iff]
  rintro rfl
  exact absurd (isNameChar_of_isKey h hch) (by decide)

/-- A key is in one line. -/
theorem lf_notMem_of_isKey {key : Bytes} (h : IsKey key) : lf ∉ key := by
  exact fun hlf => absurd (isNameChar_of_isKey h hlf) (by decide)

/-- So are blanks. -/
theorem lf_notMem_of_blanks {blanks : Bytes} (h : blanks.all isBlank = true) : lf ∉ blanks := by
  exact fun hlf => absurd (List.all_eq_true.mp h lf hlf) (by decide)

/-- Nothing is trimmed in front of a key. -/
theorem trimLeft_append_of_isKey {key : Bytes} (h : IsKey key) (rest : Bytes) :
    trimLeft (key ++ rest) = key ++ rest := by
  obtain ⟨ch, key, rfl⟩ := List.exists_cons_of_ne_nil h.1
  have hch := isBlank_of_isNameChar (isNameChar_of_isKey h List.mem_cons_self)
  unfold trimLeft
  rw [List.cons_append, List.dropWhile_cons_of_neg (by rw [hch]; exact Bool.false_ne_true)]

/-- Nothing is trimmed behind a key. -/
theorem trimRight_of_isKey {key : Bytes} (h : IsKey key) : trimRight key = key := by
  unfold trimRight
  rw [List.rdropWhile_eq_self_iff]
  intro hne hlast
  rw [isBlank_of_isNameChar (isNameChar_of_isKey h (List.getLast_mem hne))] at hlast
  cases hlast

/-- A key, an equals sign, and what is behind it. -/
theorem parsePair_assignment (accumulated : Environment) {key : Bytes} (h : IsKey key)
    (raw : Bytes) :
    parsePair accumulated (key ++ equals :: raw) = some (key, unquoteValue raw accumulated) := by
  have hequals := ne_equals_of_isKey h
  have hvalid : ¬(key = [] ∨ key.all isNameChar = false) := by
    rw [not_or, Bool.not_eq_false]
    exact h
  unfold parsePair
  dsimp only
  rw [if_pos (List.mem_append_right _ List.mem_cons_self), List.takeWhile_append_of_pos hequals,
    List.takeWhile_cons_of_neg (by simp), List.append_nil, trimRight_of_isKey h, if_neg hvalid,
    List.dropWhile_append_of_pos hequals, List.dropWhile_cons_of_neg (by simp)]
  rfl

/-- A key is no sign that it is exported. -/
theorem not_export_of_isKey {key : Bytes} (h : IsKey key) (raw : Bytes) :
    ¬utf8 "export " <+: key ++ equals :: raw := by
  rintro ⟨rest, hrest⟩
  have hfront := ne_equals_of_isKey h
  have hword : (utf8 "export ").all (fun ch => decide (ch ≠ equals)) = true := by decide
  have htake := congrArg (List.takeWhile fun ch => decide (ch ≠ equals)) hrest
  rw [List.takeWhile_append_of_pos hfront, List.takeWhile_cons_of_neg (by simp), List.append_nil,
    List.takeWhile_append_of_pos (List.all_eq_true.mp hword)] at htake
  have hblank : (32 : UInt8) ∈ key := by
    rw [← htake]
    exact List.mem_append_left _ (by decide)
  exact absurd (isNameChar_of_isKey h hblank) (by decide)

/-- The pair of a line that has been trimmed. -/
def trimmedPair (accumulated : Environment) (line : Bytes) : Option (Bytes × Bytes) :=
  if line = [] ∨ line.head? = some 35 then none
  else parsePair accumulated (if utf8 "export " <+: line then trimLeft (line.drop 7) else line)

/-- A line is read without the blanks around it. -/
theorem parseEnvLine_eq (accumulated : Environment) (rawLine : Bytes) :
    parseEnvLine accumulated rawLine =
      trimmedPair accumulated (trimRight (trimLeft (dropCr rawLine))) := by
  rfl

/-- The word that may stand in front of a key. -/
def wordBefore (exported : Bool) : Bytes := if exported then utf8 "export " else []

/-- **The line of an assignment**: the value is what is behind the equals sign, without blanks at
its end. -/
theorem parseEnvLine_assignment (accumulated : Environment) (exported : Bool) {key : Bytes}
    (h : IsKey key) (raw : Bytes) :
    parseEnvLine accumulated (wordBefore exported ++ (key ++ equals :: raw)) =
      some (key, unquoteValue (trimRight (dropCr raw)) accumulated) := by
  have hline : trimRight (trimLeft (dropCr (wordBefore exported ++ (key ++ equals :: raw)))) =
      wordBefore exported ++ (key ++ equals :: trimRight (dropCr raw)) := by
    rw [← List.append_assoc, dropCr_append_cons _ (by decide)]
    have hleft : trimLeft (wordBefore exported ++ key ++ equals :: dropCr raw) =
        wordBefore exported ++ key ++ equals :: dropCr raw := by
      rcases exported with _ | _
      · exact trimLeft_append_of_isKey h _
      · rfl
    rw [hleft, trimRight_append_cons _ (by decide), List.append_assoc]
  obtain ⟨ch, rest, hkey⟩ := List.exists_cons_of_ne_nil h.1
  have hch : isNameChar ch = true := isNameChar_of_isKey h (by rw [hkey]; exact List.mem_cons_self)
  have hhead : (wordBefore exported ++ (key ++ equals :: trimRight (dropCr raw))).head? ≠
      some 35 := by
    rcases exported with _ | _
    · rw [hkey]
      intro heq
      obtain rfl : ch = 35 := Option.some.inj heq
      exact absurd hch (by decide)
    · exact fun heq => absurd (Option.some.inj heq) (by decide)
  have hne : wordBefore exported ++ (key ++ equals :: trimRight (dropCr raw)) ≠ [] :=
    List.append_ne_nil_of_right_ne_nil _ (List.append_ne_nil_of_left_ne_nil h.1 _)
  rw [parseEnvLine_eq, hline]
  unfold trimmedPair
  rw [if_neg (not_or.mpr ⟨hne, hhead⟩)]
  rcases exported with _ | _
  · have hnone : wordBefore false ++ (key ++ equals :: trimRight (dropCr raw)) =
        key ++ equals :: trimRight (dropCr raw) := rfl
    rw [hnone, if_neg (not_export_of_isKey h _)]
    exact parsePair_assignment accumulated h _
  · have hword : utf8 "export " <+: wordBefore true ++ (key ++ equals :: trimRight (dropCr raw)) :=
      List.prefix_append _ _
    have hdrop : (wordBefore true ++ (key ++ equals :: trimRight (dropCr raw))).drop 7 =
        key ++ equals :: trimRight (dropCr raw) := rfl
    rw [if_pos hword, hdrop, trimLeft_append_of_isKey h]
    exact parsePair_assignment accumulated h _

/-! ### The round trip -/

/-- A line that is written: an assignment in single quotes, a blank line or a comment. -/
inductive EnvTextLine
  | pair (exported : Bool) (key value : Bytes)
  | blank (blanks : Bytes)
  | comment (indent text : Bytes)

namespace EnvTextLine

/-- The bytes of a line. -/
def bytes : EnvTextLine → Bytes
  | pair exported key value => wordBefore exported ++ (key ++ equals :: (39 :: value ++ [39]))
  | blank blanks => blanks
  | comment indent text => indent ++ 35 :: text

/-- The pair that was written. -/
def written : EnvTextLine → Option (Bytes × Bytes)
  | pair _ key value => some (key, value)
  | blank _ => none
  | comment _ _ => none

/-- The key of an assignment is letters, digits and underscores, a blank line has blanks only, and
nothing goes on in the next line. -/
def WellFormed : EnvTextLine → Prop
  | pair _ key value => IsKey key ∧ lf ∉ value
  | blank blanks => blanks.all isBlank = true
  | comment indent text => indent.all isBlank = true ∧ lf ∉ text

end EnvTextLine

/-- Blanks in front are trimmed. -/
theorem trimLeft_append_of_blanks {blanks : Bytes} (h : blanks.all isBlank = true) (rest : Bytes) :
    trimLeft (blanks ++ rest) = trimLeft rest := by
  exact List.dropWhile_append_of_pos (List.all_eq_true.mp h)

/-- What stands in quotes begins and ends with them, and nothing at its end is taken away. -/
structure Quoted (quote : UInt8) (raw : Bytes) : Prop where
  trimmed : trimRight (dropCr raw) = raw
  head : raw.head? = some quote
  last : raw.getLast? = some quote
  length : 2 ≤ raw.length

/-- What stands between quotes is quoted. -/
theorem quoted_cons {quote : UInt8} (hcr : quote ≠ cr) (hblank : isBlank quote = false)
    (value : Bytes) : Quoted quote (quote :: value ++ [quote]) where
  trimmed := by
    have hdrop : dropCr (quote :: value ++ [quote]) = quote :: value ++ [quote] :=
      dropCr_append_cons (quote :: value) hcr []
    rw [hdrop]
    exact trimRight_append_cons (quote :: value) hblank []
  head := rfl
  last := List.getLast?_concat
  length := by
    rw [List.length_append, List.length_cons, List.length_singleton]
    omega

/-- A value in single quotes is what stands between them. -/
theorem unquoteValue_single (value : Bytes) (env : Environment) :
    unquoteValue (trimRight (dropCr (39 :: value ++ [39]))) env = value := by
  have hquoted : Quoted 39 (39 :: value ++ [39]) := quoted_cons (by decide) rfl value
  unfold unquoteValue
  rw [hquoted.trimmed, if_pos ⟨hquoted.head, hquoted.last, hquoted.length⟩]
  exact List.dropLast_concat

/-- **Each line is read** as what was written. -/
theorem parseEnvLine_bytes (accumulated : Environment) {line : EnvTextLine} (h : line.WellFormed) :
    parseEnvLine accumulated line.bytes = line.written := by
  rcases line with ⟨exported, key, value⟩ | blanks | ⟨indent, text⟩
  · unfold EnvTextLine.bytes EnvTextLine.written
    dsimp only
    rw [parseEnvLine_assignment accumulated exported h.1, unquoteValue_single]
  · have hcr : dropCr blanks = blanks := by
      apply if_neg
      intro hlast
      have hblank := List.all_eq_true.mp h cr (List.mem_of_getLast? hlast)
      exact absurd hblank (by decide)
    have hnone := trimLeft_append_of_blanks h []
    rw [List.append_nil] at hnone
    show parseEnvLine accumulated blanks = none
    rw [parseEnvLine_eq, hcr, hnone]
    rfl
  · show parseEnvLine accumulated (indent ++ 35 :: text) = none
    have hsign : trimLeft (35 :: dropCr text) = 35 :: dropCr text := rfl
    have htrim : trimRight ([] ++ 35 :: dropCr text) = [] ++ 35 :: trimRight (dropCr text) :=
      trimRight_append_cons [] (by decide) _
    rw [List.nil_append, List.nil_append] at htrim
    rw [parseEnvLine_eq, dropCr_append_cons _ (by decide), trimLeft_append_of_blanks h.1, hsign,
      htrim]
    exact if_pos (Or.inr rfl)

/-- The lines are read one after the other as what they say. -/
theorem parseEnvLines_bytes (accumulated : Environment) {lines : List EnvTextLine}
    (h : ∀ line ∈ lines, line.WellFormed) :
    parseEnvLines accumulated (lines.map EnvTextLine.bytes) =
      lines.filterMap EnvTextLine.written := by
  induction lines generalizing accumulated with
  | nil => rfl
  | cons line lines ih =>
      rw [List.forall_mem_cons] at h
      rw [List.map_cons, parseEnvLines, parseEnvLine_bytes accumulated h.1]
      rcases hwritten : line.written with _ | ⟨key, value⟩
      · rw [List.filterMap_cons_none hwritten]
        exact ih accumulated h.2
      · rw [List.filterMap_cons_some hwritten, ← ih _ h.2]

/-- No line goes on in the next one. -/
theorem lf_notMem_bytes {line : EnvTextLine} (h : line.WellFormed) : lf ∉ line.bytes := by
  rcases line with ⟨exported, key, value⟩ | blanks | ⟨indent, text⟩
  · have hword : lf ∉ wordBefore exported := by
      rcases exported with _ | _
      · exact List.not_mem_nil
      · decide
    show lf ∉ wordBefore exported ++ (key ++ equals :: (39 :: value ++ [39]))
    simp only [List.mem_append, List.mem_cons, List.not_mem_nil, or_false, not_or]
    exact ⟨hword, lf_notMem_of_isKey h.1, by decide, ⟨by decide, h.2⟩, by decide⟩
  · exact lf_notMem_of_blanks h
  · show lf ∉ indent ++ 35 :: text
    rw [List.mem_append, List.mem_cons, not_or, not_or]
    exact ⟨lf_notMem_of_blanks h.1, by decide, h.2⟩

/-- The text of a file. -/
def envFileText (lines : List EnvTextLine) : Bytes :=
  [lf].intercalate (lines.map EnvTextLine.bytes)

/-- **A file is read as what is written in it.** -/
theorem parseEnvFile_envFileText (currentEnv : Environment) {lines : List EnvTextLine}
    (h : ∀ line ∈ lines, line.WellFormed) :
    parseEnvFile (envFileText lines) currentEnv = lines.filterMap EnvTextLine.written := by
  rcases lines with _ | ⟨line, lines⟩
  · rfl
  · have hsplit : (envFileText (line :: lines)).splitOn lf =
        (line :: lines).map EnvTextLine.bytes := by
      apply List.splitOn_intercalate
      · intro bytes hbytes
        obtain ⟨other, hother, rfl⟩ := List.mem_map.mp hbytes
        exact lf_notMem_bytes (h other hother)
      · exact List.cons_ne_nil _ _
    unfold parseEnvFile
    rw [hsplit]
    exact parseEnvLines_bytes currentEnv h

/-- **What is written in single quotes** is read back as it is, in order and with nothing else,
whatever variables there are; and the parser ends on every input. -/
theorem envFile_round_trip :
    (∀ (currentEnv : Environment) (lines : List EnvTextLine), (∀ line ∈ lines, line.WellFormed) →
      parseEnvFile (envFileText lines) currentEnv = lines.filterMap EnvTextLine.written) ∧
      ∀ (content : Bytes) (currentEnv : Environment), ∀ fuel ≥ content.length + 2,
        parseLoop content fuel 0 currentEnv [] = some (parseEnvFile content currentEnv) := by
  constructor
  · intro currentEnv lines h
    exact parseEnvFile_envFileText currentEnv h
  · intro content currentEnv fuel hfuel
    exact parseLoop_eq_some content currentEnv hfuel

/-- A value with all that counts elsewhere. -/
theorem envFile_round_trip_signs :
    parseEnvFile (envFileText [.comment [32] [39], .pair true [65] [32, 35, 36, 65, 39, 61, 92, 32],
      .blank [9]]) (fun _ => none) = [([65], [32, 35, 36, 65, 39, 61, 92, 32])] := by
  refine envFile_round_trip.1 _ _ ?_
  intro line hline
  rw [List.mem_cons, List.mem_cons, List.mem_singleton] at hline
  rcases hline with rfl | rfl | rfl
  · exact ⟨rfl, by decide⟩
  · exact ⟨⟨by decide, by decide⟩, by decide⟩
  · rfl

/-! ### What stands around quotes -/

/-- An assignment of a quoted value with blanks in front of the quotes, and perhaps blanks and a
comment behind them. -/
structure QuotedLine where
  key : Bytes
  quote : UInt8
  value : Bytes
  blanks : Bytes := []
  comment : Option (Bytes × Bytes) := none

namespace QuotedLine

/-- The blanks and the comment behind the quotes. -/
def behind (line : QuotedLine) : Bytes :=
  match line.comment with
  | none => []
  | some (blanks, text) => blanks ++ 35 :: text

/-- The bytes of the line. -/
def bytes (line : QuotedLine) : Bytes :=
  line.key ++ equals ::
    (line.blanks ++ line.quote :: (line.value ++ line.quote :: line.behind))

/-- The key is valid, the value has none of the signs that mean something in quotes, the comment is
behind a blank, and it has no quotes. -/
structure WellFormed (line : QuotedLine) : Prop where
  key : IsKey line.key
  quote : line.quote = 39 ∨ line.quote = 34
  value : line.quote ∉ line.value ∧ 92 ∉ line.value ∧ lf ∉ line.value ∧ 36 ∉ line.value
  blanks : line.blanks.all isBlank = true
  comment : ∀ blanks text, line.comment = some (blanks, text) →
    blanks ≠ [] ∧ blanks.all isBlank = true ∧ 39 ∉ text ∧ 34 ∉ text ∧ lf ∉ text

/-- Nothing stands around the quotes. -/
def Bare (line : QuotedLine) : Prop := line.blanks = [] ∧ line.comment = none

end QuotedLine

/-- Without a backslash there is nothing to unescape. -/
theorem unescapeQuotes_of_notMem {value : Bytes} (h : 92 ∉ value) :
    unescapeQuotes value = value := by
  fun_induction unescapeQuotes value with
  | case1 => rfl
  | case2 => rfl
  | case3 rest next rest' hescape => exact absurd (hescape.1 ▸ List.mem_cons_self) h
  | case4 ch next rest hplain ih =>
      rw [ih fun hmem => h (List.mem_cons_of_mem _ hmem)]

/-- Text without a dollar sign is expanded to itself, and what is behind it is expanded. -/
theorem expandVars_append {text : Bytes} (h : 36 ∉ text) (env : Environment) (rest : Bytes) :
    expandVars env (text ++ rest) = text ++ expandVars env rest := by
  induction text with
  | nil => rfl
  | cons ch text ih =>
      rw [List.mem_cons, not_or] at h
      rw [List.cons_append, expandVars, if_pos (Ne.symm h.1), ih h.2, List.cons_append]

/-- Without a dollar sign there is nothing to expand. -/
theorem expandVars_of_notMem {text : Bytes} (h : 36 ∉ text) (env : Environment) :
    expandVars env text = text := by
  have happend := expandVars_append h env []
  rw [List.append_nil, expandVars, List.append_nil] at happend
  exact happend

/-- A value in either kind of quotes is what stands between them. -/
theorem unquoteValue_quoted {quote : UInt8} (hquote : quote = 39 ∨ quote = 34) {value : Bytes}
    (hescape : 92 ∉ value) (hdollar : 36 ∉ value) (env : Environment) :
    unquoteValue (trimRight (dropCr (quote :: value ++ [quote]))) env = value := by
  rcases hquote with rfl | rfl
  · exact unquoteValue_single value env
  · have hquoted : Quoted 34 (34 :: value ++ [34]) := quoted_cons (by decide) rfl value
    have hsingle : ¬((34 :: value ++ [34]).head? = some 39 ∧
        (34 :: value ++ [34]).getLast? = some (39 : UInt8) ∧ 2 ≤ (34 :: value ++ [34]).length) :=
      fun h => absurd (Option.some.inj h.1) (by decide)
    have hinner : (34 :: value ++ [34]).tail.dropLast = value := List.dropLast_concat
    unfold unquoteValue
    rw [hquoted.trimmed, if_neg hsingle, if_pos ⟨hquoted.head, hquoted.last, hquoted.length⟩,
      hinner, unescapeQuotes_of_notMem hescape, expandVars_of_notMem hdollar]

/-- A quote behind blanks is in front of every comment. -/
theorem beforeComment_quote {quote : UInt8} (hquote : quote = 39 ∨ quote = 34) {blanks : Bytes}
    (hblanks : blanks.all isBlank = true) (previous : Option UInt8) {rest before : Bytes}
    (h : beforeComment false false previous (blanks ++ quote :: rest) = some before) :
    ∃ back, before = blanks ++ quote :: back := by
  induction blanks generalizing previous before with
  | nil =>
      rw [List.nil_append, beforeComment] at h
      rcases hquote with rfl | rfl
      · rw [if_pos ⟨rfl, rfl⟩, Option.map_eq_some_iff] at h
        obtain ⟨back, -, rfl⟩ := h
        exact ⟨back, rfl⟩
      · rw [if_neg (by decide), if_pos ⟨rfl, rfl⟩, Option.map_eq_some_iff] at h
        obtain ⟨back, -, rfl⟩ := h
        exact ⟨back, rfl⟩
  | cons ch blanks ih =>
      rw [List.all_cons, Bool.and_eq_true] at hblanks
      have hch : ∀ sign, isBlank sign = false → ch ≠ sign := by
        rintro sign hsign rfl
        rw [hblanks.1] at hsign
        cases hsign
      rw [List.cons_append, beforeComment, if_neg fun heq => hch 39 (by decide) heq.1,
        if_neg fun heq => hch 34 (by decide) heq.1, if_neg fun heq => hch 35 (by decide) heq.1,
        Option.map_eq_some_iff] at h
      obtain ⟨more, hmore, rfl⟩ := h
      obtain ⟨back, rfl⟩ := ih hblanks.2 _ hmore
      exact ⟨back, rfl⟩

/-- A quote is no blank. -/
theorem isBlank_of_quote {quote : UInt8} (h : quote = 39 ∨ quote = 34) : isBlank quote = false := by
  rcases h with rfl | rfl
  · rfl
  · rfl

/-- A quote is no carriage return. -/
theorem ne_cr_of_quote {quote : UInt8} (h : quote = 39 ∨ quote = 34) : quote ≠ cr := by
  rcases h with rfl | rfl
  · decide
  · decide

/-- A quote is no line feed. -/
theorem lf_ne_of_quote {quote : UInt8} (h : quote = 39 ∨ quote = 34) : lf ≠ quote := by
  rcases h with rfl | rfl
  · decide
  · decide

/-- **What is not taken for quoted keeps its quotes.** -/
theorem quote_mem_expandVars {quote : UInt8} (hquote : quote = 39 ∨ quote = 34) {blanks : Bytes}
    (hblanks : blanks.all isBlank = true) (rest : Bytes) (env : Environment) :
    quote ∈ expandVars env (trimRight (stripInlineComment (blanks ++ quote :: rest))) := by
  have hfront : ∃ back, trimRight (stripInlineComment (blanks ++ quote :: rest)) =
      blanks ++ quote :: back := by
    have hblank := isBlank_of_quote hquote
    unfold stripInlineComment
    rcases hbefore : beforeComment false false none (blanks ++ quote :: rest) with _ | before
    · exact ⟨_, trimRight_append_cons blanks hblank rest⟩
    · obtain ⟨back, rfl⟩ := beforeComment_quote hquote hblanks none hbefore
      dsimp only
      rw [trimRight_append_cons blanks hblank, trimRight_append_cons blanks hblank]
      exact ⟨_, rfl⟩
  obtain ⟨back, hback⟩ := hfront
  have hdollar : 36 ∉ blanks ++ [quote] := by
    rw [List.mem_append, List.mem_singleton, not_or]
    refine ⟨fun hmem => absurd (List.all_eq_true.mp hblanks 36 hmem) (by decide), ?_⟩
    rcases hquote with rfl | rfl
    · decide
    · decide
  have hassoc : blanks ++ quote :: back = (blanks ++ [quote]) ++ back := by simp
  rw [hback, hassoc, expandVars_append hdollar]
  exact List.mem_append_left _ (List.mem_append_right _ (List.mem_singleton.mpr rfl))

namespace QuotedLine

/-- What stands around the quotes leaves no quote at one of the ends. -/
theorem not_quoted {line : QuotedLine} (h : line.WellFormed) (hbare : ¬line.Bare) {sign : UInt8}
    (hsign : sign = 39 ∨ sign = 34) :
    ¬((trimRight (dropCr (line.blanks ++ line.quote :: (line.value ++ line.quote ::
        line.behind)))).head? = some sign ∧
      (trimRight (dropCr (line.blanks ++ line.quote :: (line.value ++ line.quote ::
        line.behind)))).getLast? = some sign) := by
  have hblank := isBlank_of_quote h.quote
  have hcr := ne_cr_of_quote h.quote
  rintro ⟨hhead, hlast⟩
  rcases hblanks : line.blanks with _ | ⟨ch, blanks⟩
  · -- then there is a comment, which has no quotes
    obtain ⟨⟨blanks, text⟩, hcomment⟩ := Option.ne_none_iff_exists'.mp fun hnone =>
      hbare ⟨hblanks, hnone⟩
    obtain ⟨-, -, hsingle, hdouble, -⟩ := h.comment blanks text hcomment
    have hbytes : line.blanks ++ line.quote :: (line.value ++ line.quote :: line.behind) =
        (line.quote :: (line.value ++ line.quote :: blanks)) ++ 35 :: text := by
      unfold behind
      rw [hcomment, hblanks]
      simp
    rw [hbytes, dropCr_append_cons _ (by decide), trimRight_append_cons _ (by decide)] at hlast
    have hmem : sign ∈ (35 : UInt8) :: trimRight (dropCr text) := by
      rw [List.getLast?_append_of_ne_nil _ (List.cons_ne_nil _ _)] at hlast
      exact List.mem_of_getLast? hlast
    have hcut : ∀ ch ∈ trimRight (dropCr text), ch ∈ text := by
      intro ch hch
      have hsub := (List.rdropWhile_prefix isBlank (dropCr text)).subset hch
      unfold dropCr at hsub
      split_ifs at hsub
      · exact List.dropLast_subset _ hsub
      · exact hsub
    rcases List.mem_cons.mp hmem with rfl | hmem
    · exact absurd hsign (by decide)
    · rcases hsign with rfl | rfl
      · exact hsingle (hcut _ hmem)
      · exact hdouble (hcut _ hmem)
  · have hch : isBlank ch = true := by
      have hall := h.blanks
      rw [hblanks, List.all_cons, Bool.and_eq_true] at hall
      exact hall.1
    rw [dropCr_append_cons _ hcr, trimRight_append_cons _ hblank, hblanks] at hhead
    obtain rfl : ch = sign := Option.some.inj hhead
    rw [isBlank_of_quote hsign] at hch
    cases hch

/-- What is read where nothing stands around the quotes, and what where something does. -/
theorem unquoteValue_iff {line : QuotedLine} (h : line.WellFormed) (env : Environment) :
    unquoteValue (trimRight (dropCr (line.blanks ++ line.quote :: (line.value ++ line.quote ::
        line.behind)))) env = line.value ↔ line.Bare := by
  constructor
  · intro hvalue
    by_contra hbare
    have hblank := isBlank_of_quote h.quote
    have hcr := ne_cr_of_quote h.quote
    have hsingle := not_quoted h hbare (Or.inl rfl)
    have hdouble := not_quoted h hbare (Or.inr rfl)
    unfold unquoteValue at hvalue
    rw [if_neg fun hall => hsingle ⟨hall.1, hall.2.1⟩,
      if_neg fun hall => hdouble ⟨hall.1, hall.2.1⟩, dropCr_append_cons _ hcr,
      trimRight_append_cons _ hblank] at hvalue
    have hmem := quote_mem_expandVars h.quote h.blanks
      (trimRight (dropCr (line.value ++ line.quote :: line.behind))) env
    rw [hvalue] at hmem
    exact h.value.1 hmem
  · rintro ⟨hblanks, hcomment⟩
    have hbytes : line.blanks ++ line.quote :: (line.value ++ line.quote :: line.behind) =
        line.quote :: line.value ++ [line.quote] := by
      unfold behind
      rw [hblanks, hcomment]
      rfl
    rw [hbytes]
    exact unquoteValue_quoted h.quote h.value.2.1 h.value.2.2.2 env

/-- A line with quotes is read exactly when nothing stands around them. -/
theorem parseEnvLine_iff {line : QuotedLine} (h : line.WellFormed) (accumulated : Environment) :
    parseEnvLine accumulated line.bytes = some (line.key, line.value) ↔ line.Bare := by
  have hline := parseEnvLine_assignment accumulated false h.key
    (line.blanks ++ line.quote :: (line.value ++ line.quote :: line.behind))
  have hbytes : line.bytes = wordBefore false ++ (line.key ++ equals ::
      (line.blanks ++ line.quote :: (line.value ++ line.quote :: line.behind))) := rfl
  rw [hbytes, hline, Option.some.injEq, Prod.mk.injEq, and_iff_right rfl]
  exact unquoteValue_iff h accumulated

/-- The line does not go on in the next one. -/
theorem lf_notMem_bytes {line : QuotedLine} (h : line.WellFormed) : lf ∉ line.bytes := by
  have hquote := lf_ne_of_quote h.quote
  have hbehind : lf ∉ line.behind := by
    unfold behind
    rcases hcomment : line.comment with _ | ⟨blanks, text⟩
    · exact List.not_mem_nil
    · obtain ⟨-, hall, -, -, htext⟩ := h.comment blanks text hcomment
      rw [List.mem_append, List.mem_cons, not_or, not_or]
      exact ⟨lf_notMem_of_blanks hall, by decide, htext⟩
  unfold bytes
  simp only [List.mem_append, List.mem_cons, not_or]
  exact ⟨lf_notMem_of_isKey h.key, by decide, lf_notMem_of_blanks h.blanks, hquote,
    h.value.2.2.1, hquote, hbehind⟩

/-- A file of one such line is read exactly when nothing stands around the quotes. -/
theorem parseEnvFile_iff {line : QuotedLine} (h : line.WellFormed) (currentEnv : Environment) :
    parseEnvFile line.bytes currentEnv = [(line.key, line.value)] ↔ line.Bare := by
  rw [← parseEnvLine_iff h currentEnv]
  unfold parseEnvFile
  rw [List.splitOn_eq_singleton (lf_notMem_bytes h), parseEnvLines]
  rcases parseEnvLine currentEnv line.bytes with _ | ⟨key, value⟩
  · exact iff_of_false nofun nofun
  · dsimp only
    rw [parseEnvLines, List.cons.injEq, Option.some.injEq, and_iff_left rfl]

/-- **A quoted value is read exactly when** nothing stands around the quotes: neither blanks in
front of them nor a comment behind them. -/
theorem quotedLine_iff {line : QuotedLine} (h : line.WellFormed) (currentEnv : Environment) :
    (parseEnvLine currentEnv line.bytes = some (line.key, line.value) ↔ line.Bare) ∧
      (parseEnvFile line.bytes currentEnv = [(line.key, line.value)] ↔ line.Bare) := by
  exact ⟨parseEnvLine_iff h currentEnv, parseEnvFile_iff h currentEnv⟩

/-- A number sign between double quotes is read. -/
theorem quotedLine_iff_sign :
    parseEnvLine (fun _ => none) (bytes { key := [75], quote := 34, value := [32, 35] }) =
        some ([75], [32, 35]) ∧
      parseEnvFile (bytes { key := [75], quote := 34, value := [32, 35] }) (fun _ => none) =
        [([75], [32, 35])] := by
  have hformed : WellFormed { key := [75], quote := 34, value := [32, 35] } := by
    refine ⟨⟨by decide, by decide⟩, Or.inr rfl, by decide, rfl, ?_⟩
    intro blanks text hcomment
    cases hcomment
  have hread := quotedLine_iff hformed (fun _ => none)
  exact ⟨hread.1.mpr ⟨rfl, rfl⟩, hread.2.mpr ⟨rfl, rfl⟩⟩

/-- With a blank in front of them the quotes are kept. -/
theorem blank_keeps_quotes :
    ¬∀ (line : QuotedLine) (currentEnv : Environment), line.WellFormed →
      parseEnvFile line.bytes currentEnv = [(line.key, line.value)] := by
  intro h
  have hformed : WellFormed { key := [75], quote := 39, value := [118], blanks := [32] } :=
    ⟨⟨by decide, by decide⟩, Or.inl rfl, by decide, rfl, nofun⟩
  have hbare := (parseEnvFile_iff hformed fun _ => none).mp (h _ _ hformed)
  exact absurd hbare.1 (List.cons_ne_nil _ _)

end QuotedLine

end Sentrits.Session
