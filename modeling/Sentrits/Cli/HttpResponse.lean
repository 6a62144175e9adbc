import Sentrits.Found.Occurrences
import Sentrits.Found.StreamLines
import Sentrits.Net.QueryNumbers

/-!
# Reading the response of the daemon

The client reads until what it has parses as a response. Its parser is given every prefix of the
response that the cuts between the reads make, and the first answer counts.

* `parseHttpResponse`: the parser. What the HTTP library refuses with an exception is a parameter.
* `readLoop`, `performHttpRequest`, `performHttpRequestToBaseUrl`: the two loops.
* `WellFormed`: a response with its length among the headers.
* `parse_behind_head`: what is made of the bytes behind the headers.
* `readsExactly_iff`: **when the response is read whole, however it is cut.**

Source: `src/cli/daemon_client_http.cpp`.
-/

namespace Sentrits.Cli

open Found Found.Bytes Found.Occurrences Net

/-! ### Streams -/

/-- A word, and what is behind it.
Source: the C++ standard library's `operator>>` into a string. -/
def extractWord (text : Bytes) : Option (Bytes × Bytes) :=
  let text := text.dropWhile isSpace
  if text.isEmpty then none
  else some (text.takeWhile fun ch => !isSpace ch, text.dropWhile fun ch => !isSpace ch)

/-- A number of 32 bits; a minus sign counts down from `2 ^ 32`.
Source: the C++ standard library's `operator>>` into an unsigned integer. -/
def extractUnsigned (text : Bytes) : Option ℕ :=
  let signed := text.dropWhile isSpace
  let negative := signed.head? == some minusSign
  let digits := (if negative || signed.head? == some plusSign then signed.drop 1
    else signed).takeWhile isDigit
  let value := decimalValue digits
  if digits.isEmpty || 2 ^ 32 ≤ value then none
  else some (if negative then (2 ^ 32 - value) % 2 ^ 32 else value)

/-! ### The parser -/

/-- What the HTTP library takes without an exception: a status, a header field, and a body for a
status. -/
structure ResponseLibrary where
  acceptsStatus : ℕ → Bool
  acceptsField : Bytes → Bytes → Bool
  preparesPayload : ℕ → Bytes → Bool

/-- A parsed response; the fields in the order in which they were set. -/
structure HttpResponse where
  version : ℕ
  status : ℕ
  fields : List (Bytes × Bytes)
  body : Bytes
  deriving DecidableEq

/-- Why there is no response: nothing is returned, or an exception leaves the parser. -/
inductive Stop
  | nothing
  | thrown
  deriving DecidableEq

/-- The end of a line. -/
def crlf : Bytes := [cr, lf]

/-- The end of the headers. -/
def blankLine : Bytes := [cr, lf, cr, lf]

/-- The colon behind the name of a header. -/
def colon : UInt8 := 58

/-- A line without the carriage return at its end. -/
def stripCr (line : Bytes) : Bytes := if line.getLast? = some cr then line.dropLast else line

/-- A value without the space in front of it. -/
def fieldValue (value : Bytes) : Bytes := if value.head? = some 32 then value.drop 1 else value

/-- The name of the field that gives the length of the body. -/
def contentLengthName : Bytes := utf8 "Content-Length"

/-- The loop of `ParseHttpResponse` over the lines behind the first: the fields set, and the length
of the body. -/
def headerLoop (lib : ResponseLibrary) (fields : List (Bytes × Bytes)) (contentLength : ℕ) :
    List Bytes → Except Stop (List (Bytes × Bytes) × ℕ)
  | [] => .ok (fields, contentLength)
  | line :: lines =>
      if line = [] then headerLoop lib fields contentLength lines
      else if colon ∉ line then .error .nothing
      else
        let name := line.takeWhile (· != colon)
        let value := fieldValue ((line.dropWhile (· != colon)).drop 1)
        if lib.acceptsField name value then
          if name = contentLengthName then
            match stoull value with
            | none => .error .nothing
            | some length => headerLoop lib (fields ++ [(name, value)]) length lines
          else headerLoop lib (fields ++ [(name, value)]) contentLength lines
        else .error .thrown

/-- The version and the status of the first line. -/
def parseStatusLine (line : Bytes) : Option (ℕ × ℕ) := do
  let (version, behind) ← extractWord line
  let status ← extractUnsigned behind
  some (if version = utf8 "HTTP/1.0" then 10 else 11, status)

/-- Source: `daemon_client_http.cpp` `ParseHttpResponse`. -/
def parseHttpResponse (lib : ResponseLibrary) (rawResponse : Bytes) : Except Stop HttpResponse :=
  match find blankLine rawResponse 0 with
  | none => .error .nothing
  | some headerEnd =>
      let body := rawResponse.drop (headerEnd + 4)
      match (streamLines (rawResponse.take headerEnd)).map stripCr with
      | [] => .error .nothing
      | statusLine :: lines =>
          match parseStatusLine statusLine with
          | none => .error .nothing
          | some (version, status) =>
              if lib.acceptsStatus status then
                match headerLoop lib [] body.length lines with
                | .error stop => .error stop
                | .ok (fields, contentLength) =>
                    if body.length < contentLength then .error .nothing
                    else if lib.preparesPayload status (body.take contentLength) then
                      .ok
                        { version := version
                          status := status
                          fields := fields
                          body := body.take contentLength }
                    else .error .thrown
              else .error .thrown

/-! ### The loops -/

/-- How a read ends that is not the last. -/
inductive ReadError
  | eof
  | other
  deriving DecidableEq

/-- What `select` and `read_some` answer in one round. -/
inductive ReadAnswer
  | timedOut
  | selectFailed
  | read (data : Bytes) (error : Option ReadError)
  deriving DecidableEq

/-- The read loop; nothing while it waits for another answer. -/
def readLoop (lib : ResponseLibrary) (received : Bytes) :
    List ReadAnswer → Option (Except Stop HttpResponse)
  | [] => none
  | .timedOut :: _ => some (.error .nothing)
  | .selectFailed :: _ => some (.error .nothing)
  | .read data error :: answers =>
      match if data = [] then .error .nothing else parseHttpResponse lib (received ++ data) with
      | .ok response => some (.ok response)
      | .error .thrown => some (.error .thrown)
      | .error .nothing =>
          match error with
          | some .eof => some (parseHttpResponse lib (received ++ data))
          | some .other => some (.error .nothing)
          | none => readLoop lib (received ++ data) answers

/-- What `PerformHttpRequest` returns when its request is sent and the reads answer so.
Source: `daemon_client_http.cpp` the read loop of `PerformHttpRequest`. -/
def performHttpRequest (lib : ResponseLibrary) (answers : List ReadAnswer) :
    Option (Except Stop HttpResponse) := readLoop lib [] answers

/-- The same of a request to a URL.
Source: `daemon_client_http.cpp` the read loop of `PerformHttpRequestToBaseUrl`. -/
def performHttpRequestToBaseUrl (lib : ResponseLibrary) (answers : List ReadAnswer) :
    Option (Except Stop HttpResponse) := readLoop lib [] answers

/-! ### Well-formed responses -/

/-- A header line. -/
structure Header where
  name : Bytes
  value : Bytes
  name_text : cr ∉ name ∧ lf ∉ name ∧ colon ∉ name
  value_text : cr ∉ value ∧ lf ∉ value

/-- The text of a header line. -/
def Header.line (h : Header) : Bytes := h.name ++ colon :: h.value

/-- The field that is set for it. -/
def Header.field (h : Header) : Bytes × Bytes := (h.name, fieldValue h.value)

/-- The header gives the length of the body: its name may be written in any case. -/
def Header.IsContentLength (h : Header) : Prop :=
  h.name.map toLower = contentLengthName.map toLower

/-- **A well-formed response**: a status line with three digits, header lines, among them one with
the length of the body in decimal, and the body. -/
structure WellFormed where
  code : Bytes
  /-- What is behind the code, with the space in front of it. -/
  reason : Bytes
  before : List Header
  length : Header
  after : List Header
  body : Bytes
  code_length : code.length = 3
  code_digits : ∀ ch ∈ code, isDigit ch = true
  reason_text : cr ∉ reason ∧ lf ∉ reason
  reason_space : ∀ ch ∈ reason.head?, ch = 32
  length_named : length.IsContentLength
  length_value : ∃ blanks digits trailing, length.value = blanks ++ (digits ++ trailing) ∧
    (∀ ch ∈ blanks, ch = 32 ∨ ch = 9) ∧ digits ≠ [] ∧ (∀ ch ∈ digits, isDigit ch = true) ∧
    (∀ ch ∈ trailing, ch = 32 ∨ ch = 9) ∧ decimalValue digits = body.length
  others_named : ∀ h ∈ before ++ after, ¬ h.IsContentLength
  sized : body.length < 2 ^ 64

namespace WellFormed

variable (r : WellFormed)

/-- The status, as a number. -/
def status : ℕ := decimalValue r.code

/-- All headers, in their order. -/
def headers : List Header := r.before ++ r.length :: r.after

/-- The status line. -/
def statusLine : Bytes := utf8 "HTTP/1.1 " ++ (r.code ++ r.reason)

/-- Everything in front of the blank line. -/
def head : Bytes := r.statusLine ++ r.headers.flatMap fun h => crlf ++ h.line

/-- The bytes of the response. -/
def bytes : Bytes := r.head ++ (blankLine ++ r.body)

end WellFormed

/-! ### Lines and the blank line -/

/-- A line that a header block is made of. -/
def IsLine (line : Bytes) : Prop := line ≠ [] ∧ cr ∉ line ∧ lf ∉ line

/-- A header is one line. -/
theorem Header.isLine (h : Header) : IsLine h.line := by
  have hsigns : cr ≠ colon ∧ lf ≠ colon := by decide
  refine ⟨by simp [line], ?_, ?_⟩
  · rw [line, List.mem_append, List.mem_cons]
    rintro (hin | hin | hin)
    · exact h.name_text.1 hin
    · exact hsigns.1 hin
    · exact h.value_text.1 hin
  · rw [line, List.mem_append, List.mem_cons]
    rintro (hin | hin | hin)
    · exact h.name_text.2.1 hin
    · exact hsigns.2 hin
    · exact h.value_text.2 hin

/-- The status line is one line. -/
theorem WellFormed.isLine_statusLine (r : WellFormed) : IsLine r.statusLine := by
  have hversion : cr ∉ utf8 "HTTP/1.1 " ∧ lf ∉ utf8 "HTTP/1.1 " := by decide
  have hsigns : isDigit cr = false ∧ isDigit lf = false := by decide
  have hcode : ∀ sign, isDigit sign = false → sign ∉ r.code := by
    intro sign hsign hin
    rw [r.code_digits sign hin] at hsign
    exact absurd hsign (by decide)
  refine ⟨?_, ?_, ?_⟩
  · have hne : utf8 "HTTP/1.1 " ≠ [] := by decide
    exact List.append_ne_nil_of_left_ne_nil hne _
  · rw [statusLine, List.mem_append, List.mem_append]
    rintro (hin | hin | hin)
    · exact hversion.1 hin
    · exact hcode cr hsigns.1 hin
    · exact r.reason_text.1 hin
  · rw [statusLine, List.mem_append, List.mem_append]
    rintro (hin | hin | hin)
    · exact hversion.2 hin
    · exact hcode lf hsigns.2 hin
    · exact r.reason_text.2 hin

/-- The stream of lines, each but the last with a carriage return behind it, gives the lines. -/
theorem streamLines_crlf (lines : List Bytes) {line : Bytes} (h : IsLine line)
    (hlines : ∀ next ∈ lines, IsLine next) :
    (streamLines (line ++ lines.flatMap (crlf ++ ·))).map stripCr = line :: lines := by
  have hplain : ∀ {line : Bytes}, IsLine line → stripCr line = line := by
    intro line h
    refine if_neg fun hlast => h.2.1 ?_
    exact List.mem_of_getLast? hlast
  induction lines generalizing line with
  | nil =>
      rw [List.flatMap_nil, List.append_nil, streamLines_of_notMem h.1 h.2.2, List.map_singleton,
        hplain h]
  | cons next lines ih =>
      have hcr : lf ∉ line ++ [cr] := by
        rw [List.mem_append, List.mem_singleton]
        rintro (hin | hin)
        · exact h.2.2 hin
        · exact lf_ne_cr hin
      have hsplit : line ++ (next :: lines).flatMap (crlf ++ ·) =
          (line ++ [cr]) ++ lf :: (next ++ lines.flatMap (crlf ++ ·)) := by
        simp [crlf]
      have hstrip : stripCr (line ++ [cr]) = line := by simp [stripCr]
      rw [hsplit, streamLines_append_lf hcr, List.map_cons, hstrip,
        ih (hlines next List.mem_cons_self) fun l hl => hlines l (List.mem_cons_of_mem next hl)]

/-- A text that does not begin with a carriage return does not begin with the blank line. -/
theorem not_blankLine_of_head {text : Bytes} (h : text.head? ≠ some cr) : ¬ blankLine <+: text := by
  rintro ⟨rest, rfl⟩
  exact h rfl

/-- **There is no blank line before the end of the headers.** -/
theorem not_occursAt_blankLine (lines : List Bytes) {line : Bytes} (h : IsLine line)
    (hlines : ∀ next ∈ lines, IsLine next) (tail : Bytes) {offset : ℕ}
    (hoffset : offset < (line ++ lines.flatMap (crlf ++ ·)).length) :
    ¬ OccursAt blankLine (line ++ lines.flatMap (crlf ++ ·) ++ tail) offset := by
  have hwithin : ∀ {line behind : Bytes} {offset : ℕ}, IsLine line → offset < line.length →
      ¬ blankLine <+: (line ++ behind).drop offset := by
    intro line behind offset h hlt
    refine not_blankLine_of_head fun hhead => h.2.1 ?_
    rw [List.head?_drop, List.getElem?_append_left hlt] at hhead
    exact List.mem_of_getElem? hhead
  induction lines generalizing line offset with
  | nil =>
      rw [List.flatMap_nil, List.append_nil] at hoffset ⊢
      exact hwithin h hoffset
  | cons next lines ih =>
      have hnext := hlines next List.mem_cons_self
      have hsplit : line ++ (next :: lines).flatMap (crlf ++ ·) ++ tail =
          line ++ cr :: lf :: (next ++ lines.flatMap (crlf ++ ·) ++ tail) := by
        simp [crlf]
      have hlength : (line ++ (next :: lines).flatMap (crlf ++ ·)).length =
          line.length + 2 + (next ++ lines.flatMap (crlf ++ ·)).length := by
        simp [crlf]
        omega
      rw [hlength] at hoffset
      rw [OccursAt, hsplit]
      rcases Nat.lt_or_ge offset line.length with hlt | hge
      · exact hwithin h hlt
      · obtain ⟨behind, rfl⟩ := Nat.exists_eq_add_of_le hge
        rw [List.drop_length_add_append]
        rcases behind with _ | _ | behind
        · -- behind the end of the line, the next line begins
          obtain ⟨ch, rest, rfl⟩ := List.exists_cons_of_ne_nil hnext.1
          intro hblank
          have hrest : [cr, lf] <+: ch :: (rest ++ lines.flatMap (crlf ++ ·) ++ tail) := by
            simpa [blankLine, List.cons_prefix_cons] using hblank
          have hch : cr = ch := (List.cons_prefix_cons.mp hrest).1
          exact hnext.2.1 (hch ▸ List.mem_cons_self)
        · exact not_blankLine_of_head (by simpa using fun h => lf_ne_cr h)
        · exact ih hnext (fun l hl => hlines l (List.mem_cons_of_mem next hl)) (by omega)

namespace WellFormed

variable (r : WellFormed)

/-- The head is the status line with the headers behind it. -/
theorem head_eq : r.head = r.statusLine ++ (r.headers.map Header.line).flatMap (crlf ++ ·) := by
  rw [head, List.flatMap_map]

/-- Each header of the head is one line. -/
theorem isLine_headers : ∀ line ∈ r.headers.map Header.line, IsLine line := by
  intro line hline
  obtain ⟨h, -, rfl⟩ := List.mem_map.mp hline
  exact h.isLine

/-- The headers end where the blank line is. -/
theorem find_blankLine (behind : Bytes) :
    find blankLine (r.head ++ (blankLine ++ behind)) 0 = some r.head.length := by
  rw [find_eq_some_iff (by decide)]
  refine ⟨Nat.zero_le _, ?_, fun earlier _ hearlier => ?_⟩
  · rw [OccursAt, List.drop_left]
    exact List.prefix_append _ _
  · rw [head_eq] at hearlier ⊢
    exact not_occursAt_blankLine _ r.isLine_statusLine r.isLine_headers _ hearlier

/-- A prefix in which the headers do not end has no blank line. -/
theorem find_blankLine_eq_none {part : Bytes} (hpart : part <+: r.bytes)
    (hshort : part.length < r.head.length + 4) : find blankLine part 0 = none := by
  rw [find_eq_none_iff (by decide)]
  intro offset _ hoccurs
  have hwithin : offset + 4 ≤ part.length := hoccurs.add_length_le (by decide)
  have hbytes : OccursAt blankLine r.bytes offset := by
    obtain ⟨rest, hrest⟩ := hpart
    rw [OccursAt, ← hrest, List.drop_append_of_le_length (by omega)]
    exact hoccurs.trans (List.prefix_append _ _)
  have hoffset : offset < r.head.length := by omega
  rw [bytes, head_eq] at hbytes
  rw [head_eq] at hoffset
  exact not_occursAt_blankLine _ r.isLine_statusLine r.isLine_headers _ hoffset hbytes

/-! ### The status -/

/-- A status has three digits. -/
theorem status_lt : r.status < 1000 := by
  have h := decimalValue_lt r.code_digits
  rwa [r.code_length] at h

/-- The code is read as the status. -/
theorem extractUnsigned_code : extractUnsigned (32 :: (r.code ++ r.reason)) = some r.status := by
  have hne : r.code ≠ [] := by
    intro hnil
    have h := r.code_length
    rw [hnil] at h
    exact absurd h (by decide)
  have hreason : ∀ ch ∈ r.reason.head?, isDigit ch = false := by
    intro ch hch
    rw [r.reason_space ch hch]
    decide
  have htake := takeWhile_isDigit_append r.code_digits hreason
  obtain ⟨digit, digits, hcons⟩ := List.exists_cons_of_ne_nil hne
  obtain ⟨hspace, hminus, hplus⟩ :=
    not_sign_of_isDigit (r.code_digits digit (hcons ▸ List.mem_cons_self))
  have hdrop : (32 :: (r.code ++ r.reason)).dropWhile isSpace = r.code ++ r.reason := by
    rw [List.dropWhile_cons_of_pos (by decide), hcons, List.cons_append,
      List.dropWhile_cons_of_neg (by simp [hspace])]
  have hhead : (r.code ++ r.reason).head? = some digit := by
    rw [hcons]
    rfl
  have hsmall : ¬ 2 ^ 32 ≤ decimalValue r.code := by
    have h := r.status_lt
    unfold status at h
    omega
  unfold extractUnsigned
  rw [hdrop]
  simp only [hhead, Option.some_beq_some, beq_eq_false_iff_ne.mpr hminus,
    beq_eq_false_iff_ne.mpr hplus, Bool.or_self, Bool.false_eq_true, if_false, htake]
  have hchecked : (r.code.isEmpty || decide (2 ^ 32 ≤ decimalValue r.code)) = false := by
    rw [Bool.or_eq_false_iff]
    exact ⟨by simpa using hne, decide_eq_false hsmall⟩
  rw [hchecked, if_neg (by decide), status]

/-- The status line is read. -/
theorem parseStatusLine_statusLine : parseStatusLine r.statusLine = some (11, r.status) := by
  have hversion : utf8 "HTTP/1.1 " = utf8 "HTTP/1.1" ++ [32] := by decide
  have hword : (utf8 "HTTP/1.1").all (fun ch => !isSpace ch) = true := by decide
  have hne : utf8 "HTTP/1.1" ≠ [] := by decide
  obtain ⟨first, rest, hcons⟩ := List.exists_cons_of_ne_nil hne
  have hfirst : isSpace first = false := by
    have := List.all_eq_true.mp hword first (by rw [hcons]; exact List.mem_cons_self)
    simpa using this
  have hline : r.statusLine = utf8 "HTTP/1.1" ++ 32 :: (r.code ++ r.reason) := by
    rw [statusLine, hversion, List.append_assoc]
    rfl
  have hextract : extractWord r.statusLine =
      some (utf8 "HTTP/1.1", 32 :: (r.code ++ r.reason)) := by
    have hdrop : r.statusLine.dropWhile isSpace = r.statusLine := by
      rw [hline, hcons, List.cons_append, List.dropWhile_cons_of_neg (by simp [hfirst])]
    have hspace : isSpace 32 = true := by decide
    unfold extractWord
    rw [hdrop, hline]
    simp only [List.isEmpty_iff, List.append_eq_nil_iff, hne, false_and, if_false]
    rw [List.takeWhile_append_of_pos (List.all_eq_true.mp hword),
      List.dropWhile_append_of_pos (List.all_eq_true.mp hword),
      List.takeWhile_cons_of_neg (by simp [hspace]), List.dropWhile_cons_of_neg (by simp [hspace]),
      List.append_nil]
  have hnumber := r.extractUnsigned_code
  have holder : utf8 "HTTP/1.1" ≠ utf8 "HTTP/1.0" := by decide
  rw [parseStatusLine, hextract]
  simp [hnumber, holder]

/-! ### The headers -/

/-- One header line. -/
theorem headerLoop_line (lib : ResponseLibrary) (h : Header) (fields : List (Bytes × Bytes))
    (contentLength : ℕ) (lines : List Bytes)
    (haccepts : lib.acceptsField h.name (fieldValue h.value) = true) :
    headerLoop lib fields contentLength (h.line :: lines) =
      if h.name = contentLengthName then
        match stoull (fieldValue h.value) with
        | none => .error .nothing
        | some length => headerLoop lib (fields ++ [h.field]) length lines
      else headerLoop lib (fields ++ [h.field]) contentLength lines := by
  have hname : h.line.takeWhile (· != colon) = h.name := takeWhile_append_sign h.name_text.2.2 _
  have hvalue : (h.line.dropWhile (· != colon)).drop 1 = h.value :=
    drop_dropWhile_append_sign h.name_text.2.2 _
  have hcolon : colon ∈ h.line := List.mem_append_right _ List.mem_cons_self
  rw [headerLoop, if_neg h.isLine.1, if_neg (not_not_intro hcolon)]
  dsimp only
  rw [hname, hvalue, haccepts, if_pos rfl]
  rfl

/-- Header lines that do not give the length of the body. -/
theorem headerLoop_others (lib : ResponseLibrary) {headers : List Header}
    (haccepts : ∀ h ∈ headers, lib.acceptsField h.name (fieldValue h.value) = true)
    (hothers : ∀ h ∈ headers, ¬ h.IsContentLength) (fields : List (Bytes × Bytes))
    (contentLength : ℕ) (lines : List Bytes) :
    headerLoop lib fields contentLength (headers.map Header.line ++ lines) =
      headerLoop lib (fields ++ headers.map Header.field) contentLength lines := by
  induction headers generalizing fields with
  | nil => simp
  | cons h headers ih =>
      have hname : h.name ≠ contentLengthName := fun heq =>
        hothers h List.mem_cons_self (congrArg (List.map toLower) heq)
      rw [List.map_cons, List.cons_append, headerLoop_line lib h _ _ _
          (haccepts h List.mem_cons_self), if_neg hname,
        ih (fun h' hin => haccepts h' (List.mem_cons_of_mem h hin))
          fun h' hin => hothers h' (List.mem_cons_of_mem h hin),
        List.map_cons, List.append_assoc, List.singleton_append]

/-- The length is read as it is written. -/
theorem stoull_length : stoull (fieldValue r.length.value) = some r.body.length := by
  obtain ⟨blanks, digits, trailing, hvalue, hblanks, hne, hdigits, htrailing, hlength⟩ :=
    r.length_value
  have hspaces : ∀ {blanks : Bytes}, (∀ ch ∈ blanks, ch = 32 ∨ ch = 9) →
      ∀ ch ∈ blanks, isSpace ch = true := by
    intro blanks hblanks ch hch
    rcases hblanks ch hch with rfl | rfl
    · decide
    · decide
  have hstop : ∀ ch ∈ trailing.head?, isDigit ch = false := by
    intro ch hch
    rcases htrailing ch (List.mem_of_head? hch) with rfl | rfl
    · decide
    · decide
  have hread : ∀ {blanks : Bytes}, (∀ ch ∈ blanks, ch = 32 ∨ ch = 9) →
      stoull (blanks ++ (digits ++ trailing)) = some r.body.length := by
    intro blanks hblanks
    have hsized := r.sized
    have h : stoull (blanks ++ ([] ++ (digits ++ trailing))) =
        if 2 ^ 64 ≤ decimalValue digits then none else some (counted false (decimalValue digits)) :=
      stoull_digits hne hdigits hstop List.mem_cons_self (hspaces hblanks)
    rw [List.nil_append, hlength, if_neg (by omega)] at h
    exact h
  rw [fieldValue, hvalue]
  split_ifs with hhead
  · rcases blanks with _ | ⟨ch, blanks⟩
    · -- the value begins with a digit
      obtain ⟨digit, more, rfl⟩ := List.exists_cons_of_ne_nil hne
      have hdigit := hdigits digit List.mem_cons_self
      rw [show digit = 32 from Option.some.inj hhead] at hdigit
      exact absurd hdigit (by decide)
    · exact hread fun b hb => hblanks b (List.mem_cons_of_mem ch hb)
  · exact hread hblanks

/-- The name is spelled as the parser expects it. -/
def IsSpelled : Prop := r.length.name = contentLengthName

instance : Decidable r.IsSpelled := inferInstanceAs (Decidable (_ = _))

/-- The fields of the response. -/
def fields : List (Bytes × Bytes) := r.headers.map Header.field

/-- **The headers**: the length is taken from them when it is spelled so. -/
theorem headerLoop_headers (lib : ResponseLibrary)
    (haccepts : ∀ h ∈ r.headers, lib.acceptsField h.name (fieldValue h.value) = true)
    (received : ℕ) :
    headerLoop lib [] received (r.headers.map Header.line) =
      .ok (r.fields, if r.IsSpelled then r.body.length else received) := by
  have hbefore : ∀ h ∈ r.before, h ∈ r.headers := fun h hin => List.mem_append_left _ hin
  have hafter : ∀ h ∈ r.after, h ∈ r.headers := fun h hin =>
    List.mem_append_right _ (List.mem_cons_of_mem _ hin)
  have hlength : r.length ∈ r.headers := List.mem_append_right _ List.mem_cons_self
  have hrest : ∀ fields n, headerLoop lib fields n (r.after.map Header.line) =
      .ok (fields ++ r.after.map Header.field, n) := by
    intro fields n
    have h := headerLoop_others lib (fun h hin => haccepts h (hafter h hin))
      (fun h hin => r.others_named h (List.mem_append_right _ hin)) fields n []
    rw [List.append_nil] at h
    exact h
  have hfields : r.fields =
      r.before.map Header.field ++ [r.length.field] ++ r.after.map Header.field := by
    simp [fields, headers]
  have hlines : r.headers.map Header.line =
      r.before.map Header.line ++ r.length.line :: r.after.map Header.line := by
    simp [headers]
  rw [hlines, headerLoop_others lib (fun h hin => haccepts h (hbefore h hin))
      (fun h hin => r.others_named h (List.mem_append_left _ hin)),
    headerLoop_line lib r.length _ _ _ (haccepts r.length hlength), List.nil_append,
    r.stoull_length]
  dsimp only
  rw [hrest, hrest, ← hfields]
  by_cases hspelled : r.IsSpelled
  · rw [if_pos hspelled, if_pos (show r.length.name = contentLengthName from hspelled)]
  · rw [if_neg hspelled, if_neg (show r.length.name ≠ contentLengthName from hspelled)]

/-! ### Prefixes -/

/-- The response that is made of the status, the fields and some body. -/
def response (body : Bytes) : HttpResponse where
  version := 11
  status := r.status
  fields := r.fields
  body := body

end WellFormed

/-- **What the library is known to take**: a status of three digits, the header fields, and an empty
body for any status. -/
structure ResponseLibrary.Takes (lib : ResponseLibrary) (r : WellFormed) : Prop where
  status : ∀ status < 1000, lib.acceptsStatus status = true
  headers : ∀ h ∈ r.headers, lib.acceptsField h.name (fieldValue h.value) = true
  empty : ∀ status, lib.preparesPayload status [] = true

namespace WellFormed

variable {lib : ResponseLibrary} {r : WellFormed}

/-- **What is made of the bytes behind the headers.** -/
theorem parse_behind_head (hlib : lib.Takes r) (behind : Bytes) {length : ℕ}
    (hlength : length = if r.IsSpelled then r.body.length else behind.length) :
    parseHttpResponse lib (r.head ++ (blankLine ++ behind)) =
      if behind.length < length then .error .nothing
      else if lib.preparesPayload r.status (behind.take length) then
        .ok (r.response (behind.take length))
      else .error .thrown := by
  have hbody : (r.head ++ (blankLine ++ behind)).drop (r.head.length + 4) = behind := by
    rw [List.drop_length_add_append]
    rfl
  have hlines : (streamLines r.head).map stripCr = r.statusLine :: r.headers.map Header.line := by
    rw [head_eq]
    exact streamLines_crlf _ r.isLine_statusLine r.isLine_headers
  unfold parseHttpResponse
  rw [r.find_blankLine behind]
  dsimp only
  rw [hbody, List.take_left, hlines]
  dsimp only
  rw [r.parseStatusLine_statusLine]
  dsimp only
  rw [if_pos (hlib.status r.status r.status_lt), r.headerLoop_headers lib hlib.headers, ← hlength]
  rfl

/-- Nothing is made of a prefix in which the headers do not end. -/
theorem parse_of_short {part : Bytes} (hpart : part <+: r.bytes)
    (hshort : part.length < r.head.length + 4) :
    parseHttpResponse lib part = .error .nothing := by
  unfold parseHttpResponse
  rw [r.find_blankLine_eq_none hpart hshort]

/-- A prefix in which the headers end has a prefix of the body behind them. -/
theorem exists_behind_of_long {part : Bytes} (hpart : part <+: r.bytes)
    (hlong : r.head.length + 4 ≤ part.length) :
    ∃ behind, behind <+: r.body ∧ part = r.head ++ (blankLine ++ behind) := by
  have hfront : r.head ++ blankLine <+: part := by
    refine List.prefix_of_prefix_length_le ?_ hpart ?_
    · rw [bytes, ← List.append_assoc]
      exact List.prefix_append _ _
    · rw [List.length_append]
      exact hlong
  obtain ⟨behind, rfl⟩ := hfront
  refine ⟨behind, ?_, List.append_assoc _ _ _⟩
  rw [bytes, ← List.append_assoc] at hpart
  exact (List.prefix_append_right_inj _).mp hpart

/-- **The response is read exactly**: nothing is made of a part of it, of the whole the status and
the body, and the two loops return that however the bytes are cut into reads. -/
structure ReadsExactly (lib : ResponseLibrary) (r : WellFormed) : Prop where
  part : ∀ part, part <+: r.bytes → part ≠ r.bytes →
    parseHttpResponse lib part = .error .nothing
  whole : parseHttpResponse lib r.bytes = .ok (r.response r.body)
  chunks : ∀ (pieces : List Bytes) (later : List ReadAnswer), (∀ piece ∈ pieces, piece ≠ []) →
    pieces.flatten = r.bytes →
    performHttpRequest lib (pieces.map (ReadAnswer.read · none) ++ later) =
        some (.ok (r.response r.body)) ∧
      performHttpRequestToBaseUrl lib (pieces.map (ReadAnswer.read · none) ++ later) =
        some (.ok (r.response r.body))

/-- **A loop that reads on while there is nothing** returns what the whole is. -/
theorem readLoop_chunks {response : HttpResponse} {bytes : Bytes}
    (hpart : ∀ part, part <+: bytes → part ≠ bytes → parseHttpResponse lib part = .error .nothing)
    (hwhole : parseHttpResponse lib bytes = .ok response) {pieces : List Bytes}
    (hpieces : ∀ piece ∈ pieces, piece ≠ []) (hne : pieces ≠ []) {received : Bytes}
    (hbytes : received ++ pieces.flatten = bytes) (later : List ReadAnswer) :
    readLoop lib received (pieces.map (ReadAnswer.read · none) ++ later) =
      some (.ok response) := by
  induction pieces generalizing received with
  | nil => exact absurd rfl hne
  | cons piece pieces ih =>
      have hpiece : piece ≠ [] := hpieces piece List.mem_cons_self
      have hrest : ∀ p ∈ pieces, p ≠ [] := fun p hp => hpieces p (List.mem_cons_of_mem piece hp)
      rw [List.flatten_cons, ← List.append_assoc] at hbytes
      rw [List.map_cons, List.cons_append, readLoop, if_neg hpiece]
      rcases pieces with _ | ⟨next, pieces⟩
      · rw [List.flatten_nil, List.append_nil] at hbytes
        rw [hbytes, hwhole]
      · -- something is still to come
        have hmore : (next :: pieces).flatten ≠ [] := by
          rw [List.flatten_cons]
          exact List.append_ne_nil_of_left_ne_nil (hrest next List.mem_cons_self) _
        have hproper : received ++ piece ≠ bytes := by
          rintro heq
          rw [← hbytes] at heq
          exact hmore (List.append_right_eq_self.mp heq.symm)
        rw [hpart _ ⟨_, hbytes⟩ hproper]
        exact ih hrest (List.cons_ne_nil _ _) hbytes

/-- **When the response is read exactly**: its body is empty, or the name of the length is spelled
as the parser expects it, and the library takes the body for the status. -/
theorem readsExactly_iff (hlib : lib.Takes r) :
    ReadsExactly lib r ↔
      r.body = [] ∨ (r.length.name = utf8 "Content-Length" ∧
        lib.preparesPayload r.status r.body = true) := by
  constructor
  · intro h
    by_cases hempty : r.body = []
    · exact Or.inl hempty
    · have hspelled : r.IsSpelled := by
        by_contra hspelled
        -- the part up to the blank line is taken for a response without a body
        have hpart : r.head ++ (blankLine ++ []) <+: r.bytes := by
          rw [List.append_nil, bytes, ← List.append_assoc]
          exact List.prefix_append _ _
        have hproper : r.head ++ (blankLine ++ []) ≠ r.bytes := by
          rw [bytes]
          intro heq
          exact hempty (List.append_cancel_left (List.append_cancel_left heq)).symm
        have hread := h.part _ hpart hproper
        rw [parse_behind_head hlib [] (if_neg hspelled).symm, if_neg (by simp),
          List.take_nil, if_pos (hlib.empty r.status)] at hread
        cases hread
      refine Or.inr ⟨hspelled, ?_⟩
      have hread := h.whole
      rw [bytes, parse_behind_head hlib r.body (if_pos hspelled).symm,
        if_neg (Nat.lt_irrefl _), List.take_length] at hread
      by_contra hprepares
      rw [if_neg hprepares] at hread
      cases hread
  · intro hcondition
    have hpart : ∀ part, part <+: r.bytes → part ≠ r.bytes →
        parseHttpResponse lib part = .error .nothing := by
      intro part hpart hproper
      rcases Nat.lt_or_ge part.length (r.head.length + 4) with hshort | hlong
      · exact parse_of_short hpart hshort
      · obtain ⟨behind, hbehind, rfl⟩ := exists_behind_of_long hpart hlong
        have hlt : behind.length < r.body.length := by
          refine lt_of_le_of_ne hbehind.length_le fun heq => hproper ?_
          rw [hbehind.eq_of_length heq, bytes]
        have hspelled : r.IsSpelled := by
          rcases hcondition with hempty | ⟨hspelled, -⟩
          · rw [hempty] at hlt
            exact absurd hlt (Nat.not_lt_zero _)
          · exact hspelled
        rw [parse_behind_head hlib behind (if_pos hspelled).symm, if_pos hlt]
    have hwhole : parseHttpResponse lib r.bytes = .ok (r.response r.body) := by
      have hprepares : lib.preparesPayload r.status r.body = true := by
        rcases hcondition with hempty | ⟨-, hprepares⟩
        · rw [hempty]
          exact hlib.empty r.status
        · exact hprepares
      rw [bytes, parse_behind_head hlib r.body (ite_self _).symm, if_neg (Nat.lt_irrefl _),
        List.take_length, if_pos hprepares]
    refine ⟨hpart, hwhole, fun pieces later hpieces hbytes => ?_⟩
    have hne : pieces ≠ [] := by
      rintro rfl
      rw [List.flatten_nil, bytes] at hbytes
      have hlength := congrArg List.length hbytes
      simp [blankLine] at hlength
    have hread := readLoop_chunks hpart hwhole hpieces hne
      (show [] ++ pieces.flatten = r.bytes from hbytes) later
    exact ⟨hread, hread⟩

/-! ### Another spelling -/

/-- A library that refuses bodies where there must be none. -/
def strictLibrary : ResponseLibrary where
  acceptsStatus status := status < 1000
  acceptsField _ _ := true
  preparesPayload status body :=
    body.isEmpty || !(status / 100 == 1 || status == 204 || status == 304)

/-- The length of two bytes, as it is written. -/
theorem value_two : ∃ blanks digits trailing, utf8 " 2" = blanks ++ (digits ++ trailing) ∧
    (∀ ch ∈ blanks, ch = 32 ∨ ch = 9) ∧ digits ≠ [] ∧ (∀ ch ∈ digits, isDigit ch = true) ∧
    (∀ ch ∈ trailing, ch = 32 ∨ ch = 9) ∧ decimalValue digits = (utf8 "hi").length :=
  ⟨[32], utf8 "2", [], by decide, fun _ h => Or.inl (List.mem_singleton.mp h), by decide,
    List.all_eq_true.mp (by decide), fun _ h => absurd h List.not_mem_nil, by decide⟩

/-- A response of two bytes, whose length is given under a name in small letters. -/
def smallLetters : WellFormed where
  code := utf8 "200"
  reason := utf8 " OK"
  before := []
  length :=
    { name := utf8 "content-length"
      value := utf8 " 2"
      name_text := by decide
      value_text := by decide }
  after := []
  body := utf8 "hi"
  code_length := by decide
  code_digits := List.all_eq_true.mp (by decide)
  reason_text := by decide
  reason_space := fun _ h => (Option.some.inj h).symm.trans (by decide)
  length_named := by
    show (utf8 "content-length").map toLower = contentLengthName.map toLower
    decide
  length_value := value_two
  others_named := fun _ h => absurd h List.not_mem_nil
  sized := by decide

/-- The library takes every well-formed response. -/
theorem strictLibrary_takes (r : WellFormed) : strictLibrary.Takes r where
  status := fun _ h => decide_eq_true h
  headers := fun _ _ => rfl
  empty := fun _ => rfl

/-- The same response, with the name as it is usually written. -/
def usualLetters : WellFormed where
  code := smallLetters.code
  reason := smallLetters.reason
  before := []
  length :=
    { name := utf8 "Content-Length"
      value := smallLetters.length.value
      name_text := by decide
      value_text := smallLetters.length.value_text }
  after := []
  body := smallLetters.body
  code_length := smallLetters.code_length
  code_digits := smallLetters.code_digits
  reason_text := smallLetters.reason_text
  reason_space := smallLetters.reason_space
  length_named := rfl
  length_value := value_two
  others_named := fun _ h => absurd h List.not_mem_nil
  sized := by decide

/-- The one is read exactly, and the other is not. -/
theorem readsExactly_iff_smallLetters :
    ReadsExactly strictLibrary usualLetters ∧ ¬ReadsExactly strictLibrary smallLetters := by
  constructor
  · exact (readsExactly_iff (strictLibrary_takes usualLetters)).mpr
      (Or.inr ⟨rfl, by decide⟩)
  · rw [readsExactly_iff (strictLibrary_takes smallLetters)]
    decide

/-- With the name in small letters, the response is taken to be over where its headers are. -/
theorem small_letters_truncate :
    parseHttpResponse strictLibrary (smallLetters.head ++ blankLine) =
        .ok (smallLetters.response []) ∧
      ¬ ReadsExactly strictLibrary smallLetters := by
  have hread : parseHttpResponse strictLibrary (smallLetters.head ++ blankLine) =
      .ok (smallLetters.response []) :=
    parse_behind_head (strictLibrary_takes smallLetters) [] rfl
  refine ⟨hread, fun h => ?_⟩
  have hpart : smallLetters.head ++ blankLine <+: smallLetters.bytes := by
    rw [bytes, ← List.append_assoc]
    exact List.prefix_append _ _
  have hproper : smallLetters.head ++ blankLine ≠ smallLetters.bytes := by decide +kernel
  cases hread.symm.trans (h.part _ hpart hproper)

end WellFormed

end Sentrits.Cli
