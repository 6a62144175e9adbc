import Sentrits.Found.Bytes

/-!
# How a shell reads a command

The tokens of POSIX `sh`, byte by byte, and the simple command they make. A text in which something
is expanded (`$`, a backquote, a pattern, a tilde) is not taken for words, nor is one whose quotes
are not closed.

* `step`, `tokens`: the rules by which tokens are recognised; each byte of a word is kept with
  whether it is quoted.
* `removeQuotes`, `simpleCommand`: the words and redirections of a command.
* `tokens_plainWord`: bytes without a meaning of their own are a word.
* `Escapes`, `tokens_quoted`: **a value between single quotes, in which single quotes are written
  some way that the shell reads as one, is one quoted word.**
* `command_quotedWords`: quoted words are taken for what they hold.
-/

namespace Found.ShellTokens

open Bytes

/-! ### Tokens -/

/-- The bytes of a word, each with whether it is quoted. -/
abbrev Word := List (Bool × UInt8)

/-- What a shell takes a script apart into. -/
inductive Token
  | word (word : Word)
  | operator (text : Bytes)
  | ioNumber (digits : Bytes)
  deriving DecidableEq

/-- What has been read of the next token. -/
inductive Begun
  | nothing
  | word (word : Word)
  | operator (text : Bytes)
  | comment
  deriving DecidableEq

/-- Where a byte stands with respect to quotes; behind a backslash it is escaped. -/
inductive QuoteState
  | outside
  | escaped
  | single
  | double
  | doubleEscaped
  deriving DecidableEq

/-- The quote that quotes all. -/
def singleQuote : UInt8 := 39

/-- The quote that leaves expansions. -/
def doubleQuote : UInt8 := 34

/-- The byte that quotes the next one. -/
def backslash : UInt8 := 92

/-- The byte that begins an expansion. -/
def dollar : UInt8 := 36

/-- The byte that begins a command within. -/
def backquote : UInt8 := 96

/-- The byte that begins a comment. -/
def numberSign : UInt8 := 35

/-- The byte of a redirection from a file. -/
def lessThan : UInt8 := 60

/-- The byte of a redirection to a file. -/
def greaterThan : UInt8 := 62

/-- The blanks between tokens. -/
def isBlank (ch : UInt8) : Bool := ch == 32 || ch == 9

/-- The operators; the end of a line is one of them. -/
def operators : List Bytes :=
  [[lf]] ++ ["&", "&&", "|", "||", ";", ";;", "(", ")", "<", ">", "<<", ">>", "<&", ">&", "<>",
    "<<-", ">|"].map utf8

/-- Only digits, none of them quoted. -/
def isNumber (word : Word) : Bool :=
  !word.isEmpty && word.all fun b => !b.1 && 48 ≤ b.2 && b.2 ≤ 57

/-- The word that is continued, or begun. -/
def Begun.continued : Begun → Word
  | .word w => w
  | _ => []

/-- The token that ends where `next` stands, or the text. -/
def Begun.delimited (next : Option UInt8) : Begun → List Token
  | .nothing => []
  | .comment => []
  | .operator text => [.operator text]
  | .word w =>
      if (next = some lessThan ∨ next = some greaterThan) ∧ isNumber w = true then
        [.ioNumber (w.map Prod.snd)]
      else [.word w]

/-- The token that ends where a word begins. -/
def Begun.beforeWord : Begun → List Token
  | .operator text => [.operator text]
  | _ => []

/-- What has been read after a byte: the tokens that ended there, what is begun, and the quotes. -/
abbrev After := List Token × Begun × QuoteState

/-- A byte outside quotes that does not continue an operator. -/
def plainStep (begun : Begun) (ch : UInt8) : Option After :=
  if ch = singleQuote then some (begun.beforeWord, .word begun.continued, .single)
  else if ch = doubleQuote then some (begun.beforeWord, .word begun.continued, .double)
  -- the shell would expand what follows
  else if ch = dollar ∨ ch = backquote then none
  else if [ch] ∈ operators then some (begun.delimited (some ch), .operator [ch], .outside)
  else if isBlank ch then some (begun.delimited (some ch), .nothing, .outside)
  else
    match begun with
    | .word word => some ([], .word (word ++ [(false, ch)]), .outside)
    | _ =>
        if ch = numberSign then some (begun.beforeWord, .comment, .outside)
        else some (begun.beforeWord, .word [(false, ch)], .outside)

/-- One byte; nothing when the shell would expand something. -/
def step (begun : Begun) : QuoteState → UInt8 → Option After
  | .single, ch =>
      if ch = singleQuote then some ([], begun, .outside)
      else some ([], .word (begun.continued ++ [(true, ch)]), .single)
  | .double, ch =>
      if ch = doubleQuote then some ([], begun, .outside)
      else if ch = backslash then some ([], begun, .doubleEscaped)
      else if ch = dollar ∨ ch = backquote then none
      else some ([], .word (begun.continued ++ [(true, ch)]), .double)
  | .doubleEscaped, ch =>
      -- the end of a line is joined
      if ch = lf then some ([], begun, .double)
      else if ch = dollar ∨ ch = backquote ∨ ch = doubleQuote ∨ ch = backslash then
        some ([], .word (begun.continued ++ [(true, ch)]), .double)
      else some ([], .word (begun.continued ++ [(true, backslash), (true, ch)]), .double)
  | .escaped, ch =>
      if ch = lf then some ([], begun, .outside)
      else some (begun.beforeWord, .word (begun.continued ++ [(true, ch)]), .outside)
  | .outside, ch =>
      match begun with
      | .comment =>
          if ch = lf then some ([], .operator [lf], .outside) else some ([], .comment, .outside)
      | begun =>
          if ch = backslash then some ([], begun, .escaped)
          else
            match begun with
            | .operator text =>
                if text ++ [ch] ∈ operators then some ([], .operator (text ++ [ch]), .outside)
                else (plainStep .nothing ch).map fun after => (.operator text :: after.1, after.2)
            | begun => plainStep begun ch

/-- The tokens of a text, of which the first may be begun. -/
def tokens (begun : Begun) (quoting : QuoteState) : Bytes → Option (List Token)
  | [] => if quoting = .outside then some (begun.delimited none) else none
  | ch :: text =>
      match step begun quoting ch with
      | none => none
      | some (ended, begun', quoting') => (tokens begun' quoting' text).map (ended ++ ·)

/-! ### Simple commands -/

/-- A byte that makes an unquoted word stand for other words: patterns, and a tilde. -/
def isPattern (ch : UInt8) : Bool := ch == 42 || ch == 63 || ch == 91 || ch == 126

/-- **Quote removal**, for a word that stands for itself. -/
def removeQuotes (word : Word) : Option Bytes :=
  if word.any fun b => !b.1 && isPattern b.2 then none else some (word.map Prod.snd)

/-- The words that have a meaning of their own where a command begins. -/
def reservedWords : List Bytes :=
  ["!", "\x7b", "\x7d", "case", "do", "done", "elif", "else", "esac", "fi", "for", "if", "in", "then",
    "until", "while"].map utf8

/-- A word that does not begin a command: a reserved word, or one that may be an assignment. -/
def isSpecial (word : Word) : Bool :=
  (word.all fun b => !b.1) && reservedWords.contains (word.map Prod.snd) ||
    word.any fun b => !b.1 && b.2 == 61

/-- The operators that redirect. -/
def redirections : List Bytes := ["<", ">", ">>", "<&", ">&", "<>", ">|"].map utf8

/-- A redirection; the number may be left out. -/
structure Redirection where
  number : Bytes := []
  operator : Bytes
  target : Bytes
  deriving DecidableEq

/-- The words of a command, and its redirections. -/
structure SimpleCommand where
  words : List Bytes := []
  redirections : List Redirection := []
  deriving DecidableEq

/-- Puts a redirection in front of the others. -/
def SimpleCommand.redirect (command : SimpleCommand) (number operator : Bytes) (word : Word) :
    Option SimpleCommand :=
  if operator ∈ ShellTokens.redirections then
    (removeQuotes word).map fun target =>
      { command with
        redirections :=
          { number := number, operator := operator, target := target } :: command.redirections }
  else none

/-- The command some tokens make, if they make one simple command. -/
def command (atStart : Bool) : List Token → Option SimpleCommand
  | [] => some {}
  | .word word :: rest =>
      if atStart && isSpecial word then none
      else
        match removeQuotes word, command false rest with
        | some text, some command => some { command with words := text :: command.words }
        | _, _ => none
  | .ioNumber number :: .operator operator :: .word word :: rest =>
      (command atStart rest).bind (·.redirect number operator word)
  | .operator operator :: .word word :: rest =>
      (command atStart rest).bind (·.redirect [] operator word)
  | _ => none

/-- **The simple command a text is.** -/
def simpleCommand (text : Bytes) : Option SimpleCommand :=
  (tokens .nothing .outside text).bind (command true)

/-! ### Quoted values -/

/-- The first byte, and the rest. -/
theorem tokens_cons (begun : Begun) (quoting : QuoteState) (ch : UInt8) (text : Bytes) :
    tokens begun quoting (ch :: text) =
      match step begun quoting ch with
      | none => none
      | some (ended, begun', quoting') => (tokens begun' quoting' text).map (ended ++ ·) := rfl

/-- A byte after which no token has ended. -/
theorem tokens_of_step {begun begun' : Begun} {quoting quoting' : QuoteState} {ch : UInt8}
    (h : step begun quoting ch = some ([], begun', quoting')) (text : Bytes) :
    tokens begun quoting (ch :: text) = tokens begun' quoting' text := by
  rw [tokens_cons, h]
  exact Option.map_id'

/-- A word of which every byte is quoted. -/
def quotedWord (value : Bytes) : Word := value.map (Prod.mk true)

/-- A way of writing bytes between single quotes, so that each is read as itself. -/
def Escapes (escape : UInt8 → Bytes) : Prop :=
  ∀ word ch text, tokens (.word word) .single (escape ch ++ text) =
    tokens (.word (word ++ [(true, ch)])) .single text

/-- A byte other than a single quote stands for itself between single quotes. -/
theorem tokens_single_of_ne {ch : UInt8} (h : ch ≠ singleQuote) (word : Word) (text : Bytes) :
    tokens (.word word) .single (ch :: text) =
      tokens (.word (word ++ [(true, ch)])) .single text := by
  have hstep : step (.word word) .single ch =
      some ([], .word (word ++ [(true, ch)]), .single) := if_neg h
  exact tokens_of_step hstep text

/-- What is written between single quotes is read up to the closing one. -/
theorem tokens_single {escape : UInt8 → Bytes} (h : Escapes escape) (word : Word)
    (value text : Bytes) :
    tokens (.word word) .single (value.flatMap escape ++ singleQuote :: text) =
      tokens (.word (word ++ quotedWord value)) .outside text := by
  induction value generalizing word with
  | nil =>
      have hclose : step (.word word) .single singleQuote = some ([], .word word, .outside) := by
        rw [step, if_pos rfl]
      rw [List.flatMap_nil, List.nil_append, tokens_of_step hclose, quotedWord, List.map_nil,
        List.append_nil]
  | cons ch value ih =>
      rw [List.flatMap_cons, List.append_assoc, h, ih, List.append_assoc]
      rfl

/-- **A value between single quotes is one quoted word.** -/
theorem tokens_quoted {escape : UInt8 → Bytes} (h : Escapes escape) (value text : Bytes) :
    tokens .nothing .outside (singleQuote :: (value.flatMap escape ++ singleQuote :: text)) =
      tokens (.word (quotedWord value)) .outside text := by
  have hopen : step .nothing .outside singleQuote = some ([], .word [], .single) := by decide
  rw [tokens_of_step hopen, tokens_single h, List.nil_append]

/-- A word ends at a blank. -/
theorem tokens_blank (word : Word) (text : Bytes) :
    tokens (.word word) .outside (32 :: text) =
      (tokens .nothing .outside text).map (.word word :: ·) := by
  have hstep : step (.word word) .outside 32 = some ([.word word], .nothing, .outside) := by
    have hdelimited : (Begun.word word).delimited (some 32) = [.word word] := by
      rw [Begun.delimited, if_neg (by simp [lessThan, greaterThan])]
    have hplain : step (.word word) .outside 32 = plainStep (.word word) 32 := rfl
    rw [hplain, ← hdelimited]
    rfl
  rw [tokens_cons, hstep]
  rfl

/-- The last word ends with the text. -/
theorem tokens_end (word : Word) : tokens (.word word) .outside [] = some [.word word] := by
  have hdelimited : (Begun.word word).delimited none = [.word word] := by
    rw [Begun.delimited, if_neg (by simp)]
  rw [← hdelimited]
  rfl

/-! ### Plain words -/

/-- A byte that stands for itself outside quotes. -/
def isOrdinary (ch : UInt8) : Bool :=
  ch != singleQuote && ch != doubleQuote && ch != backslash && ch != dollar && ch != backquote &&
    ch != numberSign && !isBlank ch && !operators.contains [ch]

/-- A word of which no byte is quoted. -/
def plainWord (text : Bytes) : Word := text.map (Prod.mk false)

/-- An ordinary byte goes on with a word. -/
theorem step_ordinary {begun : Begun} (hbegun : begun.beforeWord = [] ∧ begun ≠ .comment)
    {ch : UInt8} (h : isOrdinary ch = true) :
    step begun .outside ch = some ([], .word (begun.continued ++ [(false, ch)]), .outside) := by
  unfold isOrdinary at h
  simp only [Bool.and_eq_true, bne_iff_ne, Bool.not_eq_true', List.contains_eq_mem,
    decide_eq_false_iff_not] at h
  obtain ⟨⟨⟨⟨⟨⟨⟨hsingle, hdouble⟩, hbackslash⟩, hdollar⟩, hbackquote⟩, hnumber⟩, hblank⟩, hop⟩ := h
  cases begun with
  | nothing =>
      simp [step, plainStep, hsingle, hdouble, hbackslash, hdollar, hbackquote, hnumber, hblank,
        hop, Begun.beforeWord, Begun.continued]
  | word word =>
      simp [step, plainStep, hsingle, hdouble, hbackslash, hdollar, hbackquote, hblank, hop,
        Begun.continued]
  | operator text => exact absurd hbegun.1 (by simp [Begun.beforeWord])
  | comment => exact absurd rfl hbegun.2

/-- Ordinary bytes go on with a word. -/
theorem tokens_ordinary {text : Bytes} (h : ∀ ch ∈ text, isOrdinary ch = true) (word : Word)
    (rest : Bytes) :
    tokens (.word word) .outside (text ++ rest) =
      tokens (.word (word ++ plainWord text)) .outside rest := by
  induction text generalizing word with
  | nil => rw [List.nil_append, plainWord, List.map_nil, List.append_nil]
  | cons ch text ih =>
      have hstep : step (.word word) .outside ch =
          some ([], .word (word ++ [(false, ch)]), .outside) :=
        step_ordinary ⟨rfl, by simp⟩ (h ch List.mem_cons_self)
      rw [List.cons_append, tokens_of_step hstep,
        ih fun b hb => h b (List.mem_cons_of_mem ch hb)]
      exact congrArg (fun w => tokens (.word w) .outside rest) (List.append_assoc _ _ _)

/-- **Bytes that stand for themselves are one word**, up to the blank behind them. -/
theorem tokens_plainWord {text : Bytes} (hne : text ≠ []) (hall : text.all isOrdinary = true)
    (rest : Bytes) :
    tokens .nothing .outside (text ++ 32 :: rest) =
      (tokens .nothing .outside rest).map (.word (plainWord text) :: ·) := by
  have h := List.all_eq_true.mp hall
  obtain ⟨ch, text, rfl⟩ := List.exists_cons_of_ne_nil hne
  have hstep : step .nothing .outside ch = some ([], .word ([] ++ [(false, ch)]), .outside) :=
    step_ordinary ⟨rfl, by simp⟩ (h ch List.mem_cons_self)
  rw [List.cons_append, tokens_of_step hstep,
    tokens_ordinary (fun b hb => h b (List.mem_cons_of_mem ch hb)), tokens_blank]
  rfl

/-! ### Commands of quoted words -/

/-- A quoted word is what was quoted. -/
theorem removeQuotes_quotedWord (value : Bytes) : removeQuotes (quotedWord value) = some value := by
  unfold removeQuotes quotedWord
  rw [if_neg (by simp), List.map_map]
  exact congrArg some (List.map_id' value)

/-- A word behind the first is taken for what it holds. -/
theorem command_word {word : Word} {text : Bytes} (h : removeQuotes word = some text)
    (rest : List Token) :
    command false (.word word :: rest) =
      (command false rest).map fun c => { c with words := text :: c.words } := by
  rw [command, h]
  rcases command false rest with _ | c
  · rfl
  · rfl

/-- **Quoted words are taken for what they hold.** -/
theorem command_quotedWords (values : List Bytes) :
    command false (values.map fun value => .word (quotedWord value)) =
      some { words := values } := by
  induction values with
  | nil => rfl
  | cons value values ih =>
      rw [List.map_cons, command_word (removeQuotes_quotedWord value), ih]
      rfl

end Found.ShellTokens
