import Mathlib.Data.List.DropRight
import Sentrits.Found.Runs
import Sentrits.Service.LogTail

/-!
# The timestamps of a log

Every byte of a log comes with the timestamp of the call that appended it. A completed line is meant
to have the timestamp of its terminator, and a line under assembly that of its first byte.

* `StampedLine`, `stampStep`: a stream of stamped bytes, read a byte at a time with no chunks.
* `run_stampStep_read`: one turn of the code's loop is one `stampStep`, as for the texts.
* `Ready`, `Late`: the timestamp of the line under assembly in the loop of a call.
* `completedTimes_appendAll`: **completed lines** always have the right timestamp.
* `timestamped_iff`: **lines under assembly** have it exactly when no call begins such a line behind
  one that it completes.

Source: `src/service/log_buffer.cpp`.
-/

namespace Sentrits.Service

open Found Found.Bytes Found.Chunking Found.Runs

/-! ### What is meant -/

/-- A line under assembly, each byte with the timestamp of its call. -/
structure StampedLine where
  text : List (UInt8 × ℤ) := []
  pendingCr : Bool := false
  deriving DecidableEq

/-- One stamped byte of a log stream; the output is the line it completes, with its own timestamp.
-/
def stampStep (line : StampedLine) (ch : UInt8 × ℤ) : StampedLine × List (Bytes × ℤ) :=
  if ch.1 = lf then
    ({}, [(line.text.map Prod.fst, ch.2)])
  else
    let text := if line.pendingCr then [] else line.text
    if ch.1 = cr then
      ({ text := text, pendingCr := true }, [])
    else
      ({ text := text ++ [ch], pendingCr := false }, [])

/-- The bytes of one call. -/
def stamp (timestampUnixMs : ℤ) (data : Bytes) : List (UInt8 × ℤ) :=
  data.map fun ch => (ch, timestampUnixMs)

/-- No bytes, no times. -/
@[simp] theorem stamp_nil (ts : ℤ) : stamp ts [] = [] := rfl

/-- Every byte of a call has the call's time. -/
@[simp] theorem stamp_cons (ts : ℤ) (ch : UInt8) (rest : Bytes) :
    stamp ts (ch :: rest) = (ch, ts) :: stamp ts rest := rfl

/-- A line feed completes the line, at its own time. -/
@[simp] theorem stampStep_lf (line : StampedLine) (ts : ℤ) :
    stampStep line (lf, ts) = ({}, [(line.text.map Prod.fst, ts)]) := rfl

/-- A carriage return waits for the byte behind it. -/
@[simp] theorem stampStep_cr (text : List (UInt8 × ℤ)) (ts : ℤ) :
    stampStep { text := text, pendingCr := false } (cr, ts) =
      ({ text := text, pendingCr := true }, []) := rfl

/-- Any other byte is added. -/
theorem stampStep_of_ne (text : List (UInt8 × ℤ)) {ch : UInt8} (hlf : ch ≠ lf) (hcr : ch ≠ cr)
    (ts : ℤ) :
    stampStep { text := text, pendingCr := false } (ch, ts) =
      ({ text := text ++ [(ch, ts)], pendingCr := false }, []) := by
  simp [stampStep, hlf, hcr]

namespace StampedLine

/-- The line once a pending carriage return that no line feed followed has thrown its text away. -/
def resume (line : StampedLine) : StampedLine :=
  if line.pendingCr then {} else line

/-- What a byte finds: a pending carriage return has taken the text away. -/
theorem resume_eq (line : StampedLine) :
    line.resume = { text := if line.pendingCr then [] else line.text, pendingCr := false } := by
  rcases line with ⟨text, _ | _⟩
  · rfl
  · rfl

/-- `resume` is what `stampStep` does before any byte but a line feed. -/
theorem stampStep_resume (line : StampedLine) {ch : UInt8} (h : ch ≠ lf) (ts : ℤ) :
    stampStep line.resume (ch, ts) = stampStep line (ch, ts) := by
  rw [resume_eq]
  simp [stampStep, h]

/-- The code's line has the bytes of the stamped one. -/
structure Aligned (line : PartialLine) (meant : StampedLine) : Prop where
  text : meant.text.map Prod.fst = line.text
  pendingCr : meant.pendingCr = line.pendingCr

/-- A new line agrees with what is meant. -/
theorem aligned_empty (ts : ℤ) :
    Aligned { text := [], timestampUnixMs := ts, pendingCr := false } {} where
  text := rfl
  pendingCr := rfl

/-- The two agree when the next byte is looked at. -/
theorem Aligned.resume {line : PartialLine} {meant : StampedLine} (h : Aligned line meant)
    (ts : ℤ) :
    Aligned (line.resume ts) meant.resume := by
  unfold PartialLine.resume StampedLine.resume
  rw [h.pendingCr]
  split_ifs
  · exact aligned_empty ts
  · exact h

/-! ### One turn of the loop -/

/-- What one turn of the code's loop is for the stamped line; the look-ahead keeps a carriage return
before a line feed out of it. -/
def read (line : StampedLine) (timestampUnixMs : ℤ) (ch : UInt8) (next : Option UInt8) :
    StampedLine :=
  if ch = lf then {}
  else if ch = cr then
    match next with
    | none => { line.resume with pendingCr := true }
    | some next => if next = lf then line.resume else {}
  else { line.resume with text := line.resume.text ++ [(ch, timestampUnixMs)] }

/-- A line feed begins a new line. -/
@[simp] theorem read_lf (line : StampedLine) (ts : ℤ) (next : Option UInt8) :
    line.read ts lf next = {} := rfl

/-- A carriage return that ends a call is kept. -/
@[simp] theorem read_cr_none (line : StampedLine) (ts : ℤ) :
    line.read ts cr none = { line.resume with pendingCr := true } := rfl

/-- A carriage return before a line feed is left out. -/
@[simp] theorem read_cr_lf (line : StampedLine) (ts : ℤ) :
    line.read ts cr (some lf) = line.resume := rfl

/-- A carriage return before anything else takes the text away. -/
theorem read_cr_of_ne (line : StampedLine) (ts : ℤ) {next : UInt8} (h : next ≠ lf) :
    line.read ts cr (some next) = {} := by
  simp [read, h]

/-- Any other byte is put behind the text, with its time. -/
theorem read_of_ne (line : StampedLine) (ts : ℤ) {ch : UInt8} (hlf : ch ≠ lf) (hcr : ch ≠ cr)
    (next : Option UInt8) :
    line.read ts ch next =
      { line.resume with text := line.resume.text ++ [(ch, ts)] } := by
  simp [read, hlf, hcr]

/-- The turn keeps the two lines aligned. -/
theorem Aligned.read {line : PartialLine} {meant : StampedLine} (h : Aligned line meant)
    (hnoCr : line.NoCr) (ts : ℤ) (ch : UInt8) (next : Option UInt8) :
    Aligned (line.read ts ch next).1 (meant.read ts ch next) := by
  have hresume := h.resume ts
  by_cases hlf : ch = lf
  · subst hlf
    rw [PartialLine.read_lf hnoCr, read_lf]
    exact aligned_empty 0
  · by_cases hcr : ch = cr
    · subst hcr
      rcases next with _ | next
      · rw [PartialLine.read_cr_none, read_cr_none]
        exact ⟨hresume.text, rfl⟩
      · by_cases hnext : next = lf
        · rw [hnext, PartialLine.read_cr_lf, read_cr_lf]
          exact hresume
        · rw [PartialLine.read_cr_of_ne line ts hnext, read_cr_of_ne meant ts hnext]
          exact aligned_empty ts
    · rw [PartialLine.read_of_ne line ts hlf hcr, read_of_ne meant ts hlf hcr]
      refine ⟨?_, hresume.pendingCr⟩
      rw [List.map_append, hresume.text]
      rfl

/-- **One turn of the code's loop**, then any reading of the rest of the chunk, is one `stampStep`,
then the same. -/
theorem run_stampStep_read {line : PartialLine} {meant : StampedLine} (h : Aligned line meant)
    (hnoCr : line.NoCr) (ts : ℤ) (ch : UInt8) (rest : Bytes) :
    run stampStep meant (stamp ts (ch :: rest)) =
      ((run stampStep (meant.read ts ch rest.head?) (stamp ts rest)).1,
        ((line.read ts ch rest.head?).2.map fun text => (text, ts)).toList ++
          (run stampStep (meant.read ts ch rest.head?) (stamp ts rest)).2) := by
  have hplain := meant.resume_eq
  by_cases hlf : ch = lf
  · subst hlf
    rw [stamp_cons, run_cons, stampStep_lf, PartialLine.read_lf hnoCr, read_lf, h.text]
    rfl
  · rw [stamp_cons, run_cons, ← stampStep_resume meant hlf]
    by_cases hcr : ch = cr
    · subst hcr
      rw [hplain, stampStep_cr]
      rcases rest with _ | ⟨next, rest⟩
      · rw [List.head?_nil, PartialLine.read_cr_none, read_cr_none, hplain]
        rfl
      · rw [List.head?_cons]
        by_cases hnext : next = lf
        · subst hnext
          rw [PartialLine.read_cr_lf, read_cr_lf, hplain]
          simp only [stamp_cons, run_cons, stampStep_lf]
          rfl
        · rw [PartialLine.read_cr_of_ne line ts hnext, read_cr_of_ne meant ts hnext]
          -- the next byte starts the line anew
          have hanew : stampStep
              { text := if meant.pendingCr then [] else meant.text, pendingCr := true }
                (next, ts) = stampStep {} (next, ts) := by
            simp [stampStep, hnext]
          simp only [stamp_cons, run_cons, hanew]
          rfl
    · rw [PartialLine.read_of_ne line ts hlf hcr, read_of_ne meant ts hlf hcr, hplain,
        stampStep_of_ne _ hlf hcr]
      rfl

end StampedLine

/-! ### The loop of a call -/

/-- The line after the loop over some bytes. -/
def PartialLine.readAll (line : PartialLine) (timestampUnixMs : ℤ) : Bytes → PartialLine
  | [] => line
  | ch :: rest => (line.read timestampUnixMs ch rest.head?).1.readAll timestampUnixMs rest

namespace StampedLine

/-- The stamped line after it. -/
def readAll (line : StampedLine) (timestampUnixMs : ℤ) (data : Bytes) : StampedLine :=
  (run stampStep line (stamp timestampUnixMs data)).1

/-- No byte changes nothing. -/
@[simp] theorem readAll_nil (line : StampedLine) (ts : ℤ) : line.readAll ts [] = line := rfl

/-- The first byte of a call, and the rest. -/
theorem readAll_cons {line : PartialLine} {meant : StampedLine} (h : Aligned line meant)
    (hnoCr : line.NoCr) (ts : ℤ) (ch : UInt8) (rest : Bytes) :
    meant.readAll ts (ch :: rest) = (meant.read ts ch rest.head?).readAll ts rest := by
  unfold readAll
  rw [run_stampStep_read h hnoCr]

/-- The loop keeps the two lines aligned. -/
theorem Aligned.readAll {line : PartialLine} {meant : StampedLine} (h : Aligned line meant)
    (hnoCr : line.NoCr) (ts : ℤ) (data : Bytes) :
    Aligned (line.readAll ts data) (meant.readAll ts data) := by
  induction data generalizing line meant with
  | nil => exact h
  | cons ch rest ih =>
      rw [readAll_cons h hnoCr]
      exact ih (h.read hnoCr ts ch rest.head?) (PartialLine.read_noCr hnoCr ts ch rest.head?)

/-- The line has the timestamp of its first byte, and before its first byte that of the call. -/
structure Ready (timestampUnixMs : ℤ) (line : PartialLine) (meant : StampedLine) : Prop where
  first : ∀ first ∈ meant.text.head?, line.timestampUnixMs = first.2
  empty : meant.text = [] → line.timestampUnixMs = timestampUnixMs

/-- The timestamp was reset when the call completed a line, and the bytes are all behind that. -/
structure Late (timestampUnixMs : ℤ) (line : PartialLine) (meant : StampedLine) : Prop where
  reset : line.timestampUnixMs = 0
  stamped : ∀ ch ∈ meant.text, ch.2 = timestampUnixMs
  pendingCr : meant.pendingCr = false

/-- A new line is ready for a call at any time. -/
theorem ready_empty (ts : ℤ) :
    Ready ts { text := [], timestampUnixMs := ts, pendingCr := false } {} where
  first := fun _ h => absurd h (by simp)
  empty := fun _ => rfl

/-- A line is still ready when the next byte is looked at. -/
theorem Ready.resume {ts : ℤ} {line : PartialLine} {meant : StampedLine} (h : Ready ts line meant)
    (haligned : Aligned line meant) : Ready ts (line.resume ts) meant.resume := by
  unfold PartialLine.resume StampedLine.resume
  rw [haligned.pendingCr]
  split_ifs
  · exact ready_empty ts
  · exact h

/-- Until a line is completed, the timestamp stays right. -/
theorem Ready.read {ts : ℤ} {line : PartialLine} {meant : StampedLine} (h : Ready ts line meant)
    (haligned : Aligned line meant) {ch : UInt8} (hlf : ch ≠ lf) (next : Option UInt8) :
    Ready ts (line.read ts ch next).1 (meant.read ts ch next) := by
  have hresume := h.resume haligned
  by_cases hcr : ch = cr
  · subst hcr
    rcases next with _ | next
    · rw [PartialLine.read_cr_none, read_cr_none]
      exact ⟨hresume.first, hresume.empty⟩
    · by_cases hnext : next = lf
      · rw [hnext, PartialLine.read_cr_lf, read_cr_lf]
        exact hresume
      · rw [PartialLine.read_cr_of_ne line ts hnext, read_cr_of_ne meant ts hnext]
        exact ready_empty ts
  · rw [PartialLine.read_of_ne line ts hlf hcr, read_of_ne meant ts hlf hcr]
    refine ⟨?_, fun hnil => absurd hnil (by simp)⟩
    intro first hfirst
    rcases htext : meant.resume.text with _ | ⟨head, text⟩
    · -- the byte is the first of its line
      simp only [htext, List.nil_append, List.head?_cons, Option.mem_def, Option.some.injEq]
        at hfirst
      rw [← hfirst]
      exact hresume.empty htext
    · simp only [htext, List.cons_append, List.head?_cons, Option.mem_def, Option.some.injEq]
        at hfirst
      apply hresume.first
      rw [htext, ← hfirst]
      rfl

/-- A call that completes no line leaves the timestamp right. -/
theorem Ready.readAll {ts : ℤ} {line : PartialLine} {meant : StampedLine} (h : Ready ts line meant)
    (haligned : Aligned line meant) (hnoCr : line.NoCr) {data : Bytes} (hdata : lf ∉ data) :
    Ready ts (line.readAll ts data) (meant.readAll ts data) := by
  induction data generalizing line meant with
  | nil => exact h
  | cons ch rest ih =>
      rw [List.mem_cons, not_or] at hdata
      rw [readAll_cons haligned hnoCr]
      exact ih (h.read haligned (Ne.symm hdata.1) rest.head?)
        (haligned.read hnoCr ts ch rest.head?)
        (PartialLine.read_noCr hnoCr ts ch rest.head?) hdata.2

/-- What completes a line leaves nothing of what was before it. -/
theorem readAll_append_lf {line : PartialLine} {meant : StampedLine} (haligned : Aligned line meant)
    (hnoCr : line.NoCr) (ts : ℤ) (before rest : Bytes) :
    line.readAll ts (before ++ lf :: rest) = PartialLine.readAll {} ts rest ∧
      meant.readAll ts (before ++ lf :: rest) = readAll {} ts rest := by
  induction before generalizing line meant with
  | nil =>
      rw [List.nil_append, readAll_cons haligned hnoCr, read_lf]
      refine ⟨?_, rfl⟩
      rw [PartialLine.readAll, PartialLine.read_lf hnoCr]
  | cons ch before ih =>
      rw [List.cons_append, readAll_cons haligned hnoCr]
      exact ih (haligned.read hnoCr ts ch _) (PartialLine.read_noCr hnoCr ts ch _)

/-- The bytes without the carriage return at their end. -/
def withoutCr (rest : Bytes) : Bytes :=
  if rest.getLast? = some cr then rest.dropLast else rest

/-- Only the last byte can be a carriage return that is left out. -/
theorem withoutCr_cons_cons (ch next : UInt8) (rest : Bytes) :
    withoutCr (ch :: next :: rest) = ch :: withoutCr (next :: rest) := by
  unfold withoutCr
  rw [List.getLast?_cons_cons, List.dropLast_cons_cons]
  split_ifs <;> rfl

/-- Without a pending carriage return there is nothing to throw away. -/
theorem Late.resume {ts : ℤ} {line : PartialLine} {meant : StampedLine} (h : Late ts line meant)
    (haligned : Aligned line meant) : line.resume ts = line ∧ meant.resume = meant := by
  unfold PartialLine.resume StampedLine.resume
  rw [← haligned.pendingCr, h.pendingCr]
  exact ⟨rfl, rfl⟩

/-- A byte added to it has the timestamp of the call, and the line has not. -/
theorem Late.read {ts : ℤ} {line : PartialLine} {meant : StampedLine} (h : Late ts line meant)
    (haligned : Aligned line meant) {ch : UInt8} (hlf : ch ≠ lf) (hcr : ch ≠ cr)
    (next : Option UInt8) :
    Late ts (line.read ts ch next).1 (meant.read ts ch next) ∧
      (meant.read ts ch next).text = meant.text ++ [(ch, ts)] := by
  obtain ⟨hline, hmeant⟩ := h.resume haligned
  rw [PartialLine.read_of_ne line ts hlf hcr, read_of_ne meant ts hlf hcr, hline, hmeant]
  refine ⟨⟨h.reset, ?_, h.pendingCr⟩, rfl⟩
  intro b hb
  rcases List.mem_append.mp hb with hb | hb
  · exact h.stamped b hb
  · rw [List.mem_singleton.mp hb]

/-- The bytes of a line begun behind a completed one: a carriage return among them sets the
timestamp again, and otherwise it stays reset. -/
theorem Late.readAll {ts : ℤ} {line : PartialLine} {meant : StampedLine} (h : Late ts line meant)
    (haligned : Aligned line meant) (hnoCr : line.NoCr) {rest : Bytes} (hrest : lf ∉ rest) :
    (cr ∈ withoutCr rest → Ready ts (line.readAll ts rest) (meant.readAll ts rest)) ∧
      (cr ∉ withoutCr rest → (line.readAll ts rest).timestampUnixMs = 0 ∧
        (meant.readAll ts rest).text = meant.text ++ stamp ts (withoutCr rest)) := by
  induction rest generalizing line meant with
  | nil =>
      refine ⟨fun hmem => absurd hmem List.not_mem_nil, fun _ => ⟨h.reset, ?_⟩⟩
      exact (List.append_nil _).symm
  | cons ch rest ih =>
      rw [List.mem_cons, not_or] at hrest
      have hlf : ch ≠ lf := Ne.symm hrest.1
      obtain ⟨hline, hmeant⟩ := h.resume haligned
      rw [readAll_cons haligned hnoCr, PartialLine.readAll]
      by_cases hcr : ch = cr
      · subst hcr
        rcases rest with _ | ⟨next, rest⟩
        · -- the carriage return ends the call
          rw [List.head?_nil, PartialLine.read_cr_none, read_cr_none, hline, hmeant]
          refine ⟨fun hmem => absurd hmem (by simp [withoutCr]), fun _ => ⟨h.reset, ?_⟩⟩
          simp [withoutCr]
        · have hnext : next ≠ lf := by
            rintro rfl
            exact hrest.2 List.mem_cons_self
          rw [List.head?_cons, PartialLine.read_cr_of_ne line ts hnext, read_cr_of_ne meant ts hnext,
            withoutCr_cons_cons]
          refine ⟨fun _ => ?_, fun hnot => absurd List.mem_cons_self hnot⟩
          exact (ready_empty ts).readAll (aligned_empty ts) PartialLine.noCr_empty hrest.2
      · obtain ⟨hlate, htext⟩ := h.read haligned hlf hcr rest.head?
        have hrec := ih hlate (haligned.read hnoCr ts ch rest.head?)
          (PartialLine.read_noCr hnoCr ts ch rest.head?) hrest.2
        have hchop : withoutCr (ch :: rest) = ch :: withoutCr rest := by
          rcases rest with _ | ⟨next, rest⟩
          · simp [withoutCr, hcr]
          · exact withoutCr_cons_cons ch next rest
        rw [hchop, List.mem_cons, or_iff_right (Ne.symm hcr), stamp_cons]
        rw [htext, List.append_assoc, List.singleton_append] at hrec
        exact hrec

/-! ### A whole call -/

/-- The line under assembly has the timestamp of the call that appended its first byte. -/
def RightlyTimed (line : PartialLine) (meant : StampedLine) : Prop :=
  ∀ first ∈ meant.text.head?, line.timestampUnixMs = first.2

end StampedLine

/-- What a call brings behind the last line it completes. -/
def afterLastLine (data : Bytes) : Bytes := data.rtakeWhile (· ≠ lf)

/-- What is behind the last line feed. -/
theorem afterLastLine_append_lf (before : Bytes) {rest : Bytes} (h : lf ∉ rest) :
    afterLastLine (before ++ lf :: rest) = rest := by
  unfold afterLastLine List.rtakeWhile
  have hall : ∀ ch ∈ rest.reverse, decide (ch ≠ lf) = true := by
    intro ch hch
    simpa using fun heq : ch = lf => h (heq ▸ List.mem_reverse.mp hch)
  rw [List.reverse_append, List.reverse_cons, List.append_assoc,
    List.takeWhile_append_of_pos hall, List.singleton_append,
    List.takeWhile_cons_of_neg (by simp), List.append_nil, List.reverse_reverse]

/-- A line feed among the bytes has a last place. -/
theorem exists_last_lf {data : Bytes} (h : lf ∈ data) :
    ∃ before rest, data = before ++ lf :: rest ∧ lf ∉ rest := by
  obtain ⟨rest, before, heq, hrest⟩ := List.eq_append_cons_of_mem (List.mem_reverse.mpr h)
  refine ⟨before.reverse, rest.reverse, ?_, by simpa using hrest⟩
  rw [← List.reverse_reverse data, heq]
  simp

/-- The call completes a line and begins another one behind it, with no carriage return that throws
the text away. -/
def LogBuffer.AppendCall.StartsLate (c : LogBuffer.AppendCall) : Prop :=
  c.timestampUnixMs ≠ 0 ∧ lf ∈ c.data ∧ StampedLine.withoutCr (afterLastLine c.data) ≠ [] ∧
    cr ∉ StampedLine.withoutCr (afterLastLine c.data)

instance : DecidablePred LogBuffer.AppendCall.StartsLate := fun _ =>
  inferInstanceAs (Decidable (_ ∧ _))

/-- What a call does to the line of its stream. -/
def PartialLine.afterCall (line : PartialLine) (c : LogBuffer.AppendCall) : PartialLine :=
  if c.data.isEmpty then line
  else
    (if line.text.isEmpty then { line with timestampUnixMs := c.timestampUnixMs } else line).readAll
      c.timestampUnixMs c.data

namespace StampedLine

/-- At the beginning of a call. -/
theorem RightlyTimed.ready {line : PartialLine} {meant : StampedLine} (h : RightlyTimed line meant)
    (haligned : Aligned line meant) (ts : ℤ) :
    Ready ts (if line.text.isEmpty then { line with timestampUnixMs := ts } else line) meant := by
  by_cases htext : line.text = []
  · have hmeant : meant.text = [] := by
      rw [← List.map_eq_nil_iff, haligned.text, htext]
    rw [if_pos (by simp [htext])]
    exact ⟨fun _ hfirst => absurd hfirst (by simp [hmeant]), fun _ => rfl⟩
  · rw [if_neg (by simpa using htext)]
    refine ⟨h, fun hnil => absurd ?_ htext⟩
    rw [← haligned.text, hnil]
    rfl

/-- The first statement of a call sets a timestamp only. -/
theorem aligned_setTimestamp {line : PartialLine} {meant : StampedLine}
    (h : Aligned line meant) (ts : ℤ) :
    Aligned (if line.text.isEmpty then { line with timestampUnixMs := ts } else line) meant := by
  split_ifs
  · exact ⟨h.text, h.pendingCr⟩
  · exact h

/-- A new time keeps the invariant. -/
theorem noCr_setTimestamp {line : PartialLine} (h : line.NoCr) (ts : ℤ) :
    PartialLine.NoCr
      (if line.text.isEmpty then { line with timestampUnixMs := ts } else line) := by
  split_ifs
  · exact h
  · exact h

/-- A call keeps the two lines aligned. -/
theorem Aligned.afterCall {line : PartialLine} {meant : StampedLine} (h : Aligned line meant)
    (hnoCr : line.NoCr) (c : LogBuffer.AppendCall) :
    Aligned (line.afterCall c) (meant.readAll c.timestampUnixMs c.data) := by
  unfold PartialLine.afterCall
  by_cases hdata : c.data = []
  · rw [if_pos (by simp [hdata]), hdata]
    exact h
  · rw [if_neg (by simpa using hdata)]
    exact (aligned_setTimestamp h c.timestampUnixMs).readAll
      (noCr_setTimestamp hnoCr c.timestampUnixMs) c.timestampUnixMs c.data

/-- **One call** leaves the timestamp right exactly when it does not start a line late. -/
theorem RightlyTimed.afterCall_iff {line : PartialLine} {meant : StampedLine}
    (h : RightlyTimed line meant) (haligned : Aligned line meant) (hnoCr : line.NoCr)
    (c : LogBuffer.AppendCall) :
    RightlyTimed (line.afterCall c) (meant.readAll c.timestampUnixMs c.data) ↔ ¬ c.StartsLate := by
  have hready := h.ready haligned c.timestampUnixMs
  have haligned' := aligned_setTimestamp haligned c.timestampUnixMs
  have hnoCr' := noCr_setTimestamp hnoCr c.timestampUnixMs
  unfold PartialLine.afterCall LogBuffer.AppendCall.StartsLate
  by_cases hlf : lf ∈ c.data
  · have hdata : c.data ≠ [] := List.ne_nil_of_mem hlf
    rw [if_neg (by simpa using hdata)]
    obtain ⟨before, rest, hsplit, hrest⟩ := exists_last_lf hlf
    obtain ⟨hline, hmeant⟩ := readAll_append_lf haligned' hnoCr' c.timestampUnixMs before rest
    have hlate : Late c.timestampUnixMs {} {} := ⟨rfl, fun _ hb => absurd hb List.not_mem_nil, rfl⟩
    obtain ⟨hagain, hreset⟩ := hlate.readAll (aligned_empty 0) PartialLine.noCr_empty hrest
    rw [hsplit, hline, hmeant, afterLastLine_append_lf before hrest]
    by_cases hcr : cr ∈ withoutCr rest
    · exact iff_of_true (hagain hcr).first fun hstarts => hstarts.2.2.2 hcr
    · obtain ⟨htime, htext⟩ := hreset hcr
      unfold RightlyTimed
      rw [htime, htext, List.nil_append]
      rcases hbytes : withoutCr rest with _ | ⟨ch, bytes⟩
      · simp
      · rw [hbytes] at hcr
        rw [stamp_cons, List.head?_cons]
        constructor
        · intro hright hstarts
          exact hstarts.1 (hright (ch, c.timestampUnixMs) rfl).symm
        · intro hnot first hfirst
          cases hfirst
          by_contra hzero
          exact hnot ⟨Ne.symm hzero, by simp, List.cons_ne_nil ch bytes, hcr⟩
  · refine iff_of_true ?_ fun hstarts => hlf hstarts.2.1
    by_cases hdata : c.data = []
    · rw [if_pos (by simp [hdata]), hdata]
      exact h
    · rw [if_neg (by simpa using hdata)]
      exact (hready.readAll haligned' hnoCr' hlf).first

end StampedLine

namespace LogBuffer

open StampedLine

/-! ### The buffer -/

/-- A turn changes the line of its own stream. -/
theorem partialForStream_appendByte (b : LogBuffer) (s t : LogStream) (ts : ℤ) (ch : UInt8)
    (next : Option UInt8) :
    (b.appendByte s ts ch next).partialForStream t =
      if s = t then ((b.partialForStream s).read ts ch next).1 else b.partialForStream t := by
  rw [appendByte_eq]
  by_cases hst : s = t
  · subst hst
    rcases (b.partialForStream s).read ts ch next with ⟨line, _ | text⟩
    · simp
    · simp
  · rw [if_neg hst]
    rcases (b.partialForStream s).read ts ch next with ⟨line, _ | text⟩
    · simp [partialForStream_setPartialForStream_of_ne _ (Ne.symm hst)]
    · simp [partialForStream_setPartialForStream_of_ne _ (Ne.symm hst)]

/-- Some bytes are read into the line of their own stream. -/
theorem partialForStream_appendBytes (b : LogBuffer) (s t : LogStream) (ts : ℤ) (data : Bytes) :
    (appendBytes s ts b data).partialForStream t =
      if s = t then (b.partialForStream s).readAll ts data else b.partialForStream t := by
  induction data generalizing b with
  | nil =>
      split_ifs with hst
      · rw [← hst]
        rfl
      · rfl
  | cons ch rest ih =>
      rw [appendBytes, ih, partialForStream_appendByte, if_pos rfl, partialForStream_appendByte]
      by_cases hst : s = t
      · rw [if_pos hst, if_pos hst]
        rfl
      · rw [if_neg hst, if_neg hst, if_neg hst]

/-- **What a call does to the lines under assembly.** -/
theorem partialForStream_call (b : LogBuffer) (c : AppendCall) (t : LogStream) :
    (b.call c).partialForStream t =
      if c.stream = t then (b.partialForStream t).afterCall c else b.partialForStream t := by
  unfold call append PartialLine.afterCall
  by_cases hdata : c.data.isEmpty
  · rw [if_pos hdata, if_pos hdata, ite_self]
  · rw [if_neg hdata, if_neg hdata]
    dsimp only
    rw [partialForStream_appendBytes]
    by_cases hst : c.stream = t
    · subst hst
      rw [if_pos rfl, if_pos rfl]
      split_ifs
      · rw [partialForStream_setPartialForStream_self]
      · rfl
    · rw [if_neg hst, if_neg hst]
      split_ifs
      · rw [partialForStream_setPartialForStream_of_ne b (Ne.symm hst)]
      · rfl

/-- The completed lines of one stream, with their timestamps. -/
def completedTimes (b : LogBuffer) (stream : LogStream) : List (Bytes × ℤ) :=
  (b.entries.filter (·.stream = stream)).map fun entry => (entry.text, entry.timestampUnixMs)

/-- A line under assembly has not been completed. -/
theorem completedTimes_setPartialForStream (b : LogBuffer) (s t : LogStream) (p : PartialLine) :
    (b.setPartialForStream s p).completedTimes t = b.completedTimes t := by
  unfold completedTimes
  rw [entries_setPartialForStream]

/-- A turn completes a line of its own stream with the timestamp of the call. -/
theorem Complete.completedTimes_appendByte {log : LogBuffer} (h : log.Complete) (s t : LogStream)
    (ts : ℤ) (ch : UInt8) (next : Option UInt8) :
    (log.appendByte s ts ch next).completedTimes t =
      log.completedTimes t ++
        if s = t then
          (((log.partialForStream s).read ts ch next).2.map fun text => (text, ts)).toList
        else [] := by
  rw [appendByte_eq]
  rcases (log.partialForStream s).read ts ch next with ⟨line, _ | text⟩
  · rw [completedTimes_setPartialForStream]
    simp [completedTimes]
  · have hset : (log.countByte.setPartialForStream s line).Complete := by
      cases s with
      | stdout => exact { h with limits := h.limits }
      | stderr => exact { h with limits := h.limits }
    dsimp only
    rw [hset.completeLine]
    by_cases hst : s = t
    · simp [completedTimes, pushLine, completedEntry, hst]
    · simp [completedTimes, pushLine, completedEntry, hst]

/-- The loop completes the lines the stamped stream has. -/
theorem Window.completedTimes_appendBytes {log b : LogBuffer} (h : Window log b) (s t : LogStream)
    (ts : ℤ) (data : Bytes) {meant : StampedLine}
    (haligned : Aligned (log.partialForStream s) meant) (hnoCr : (log.partialForStream s).NoCr) :
    (log.appendBytes s ts data).completedTimes t =
      log.completedTimes t ++
        if s = t then (run stampStep meant (stamp ts data)).2 else [] := by
  induction data generalizing log b meant with
  | nil =>
      show log.completedTimes t = _
      simp
  | cons ch rest ih =>
      have hline := partialForStream_appendByte log s s ts ch rest.head?
      rw [if_pos rfl] at hline
      have hstep := ih (h.appendByte s ts ch rest.head?)
        (hline ▸ haligned.read hnoCr ts ch rest.head?)
        (hline ▸ PartialLine.read_noCr hnoCr ts ch rest.head?)
      rw [LogBuffer.appendBytes, hstep, h.complete.completedTimes_appendByte,
        run_stampStep_read haligned hnoCr, List.append_assoc]
      split_ifs <;> rfl

/-- **What a call adds to the completed lines.** -/
theorem Window.completedTimes_call {log b : LogBuffer} (h : Window log b) (c : AppendCall)
    (t : LogStream) {meant : StampedLine}
    (haligned : Aligned (log.partialForStream c.stream) meant)
    (hnoCr : (log.partialForStream c.stream).NoCr) :
    (log.call c).completedTimes t =
      log.completedTimes t ++
        if c.stream = t then (run stampStep meant (stamp c.timestampUnixMs c.data)).2 else [] := by
  obtain ⟨line, hline, heq⟩ := append_eq log c.stream c.data c.timestampUnixMs
  have hself := partialForStream_setPartialForStream_self log c.stream line
  have haligned' : Aligned ((log.setPartialForStream c.stream line).partialForStream c.stream)
      meant := by
    rw [hself]
    exact ⟨haligned.text.trans (congrArg LineState.text hline).symm,
      haligned.pendingCr.trans (congrArg LineState.pendingCr hline).symm⟩
  have hnoCr' : ((log.setPartialForStream c.stream line).partialForStream c.stream).NoCr := by
    rw [hself]
    exact PartialLine.noCr_of_lineState_eq hline hnoCr
  unfold LogBuffer.call
  rw [heq, (h.setPartialForStream c.stream line).completedTimes_appendBytes c.stream t
    c.timestampUnixMs c.data haligned' hnoCr', completedTimes_setPartialForStream]

/-! ### All calls -/

/-- What the calls append to one stream, each byte with the timestamp of its call. -/
def stampedData (stream : LogStream) (calls : List AppendCall) : List (UInt8 × ℤ) :=
  delivered AppendCall.stream (fun c => stamp c.timestampUnixMs c.data) stream calls

/-- The line under assembly and the completed lines the stream has by then. -/
def meantLines (stream : LogStream) (calls : List AppendCall) : StampedLine × List (Bytes × ℤ) :=
  run stampStep {} (stampedData stream calls)

/-- What is meant by one call more. -/
theorem meantLines_concat (stream : LogStream) (calls : List AppendCall) (c : AppendCall) :
    meantLines stream (calls ++ [c]) =
      if c.stream = stream then
        ((meantLines stream calls).1.readAll c.timestampUnixMs c.data,
          (meantLines stream calls).2 ++
            (run stampStep (meantLines stream calls).1 (stamp c.timestampUnixMs c.data)).2)
      else meantLines stream calls := by
  unfold meantLines stampedData
  rw [delivered_concat]
  split_ifs
  · rw [run_append]
    rfl
  · rw [List.append_nil]

/-- **The run lemma**: the lines under assembly have the bytes they are meant to have. -/
theorem aligned_appendAll (source : EvidenceSourceRef) (limits : LogBufferLimits)
    (calls : List AppendCall) (stream : LogStream) :
    Aligned (((empty source limits).appendAll calls).partialForStream stream)
      (meantLines stream calls).1 := by
  induction calls using List.reverseRecOn with
  | nil => cases stream <;> exact aligned_empty 0
  | append_singleton calls c ih =>
      have hnoCr := (inv_appendAll (inv_empty source limits) calls).noCr stream
      rw [appendAll_concat, partialForStream_call, meantLines_concat]
      split_ifs
      · exact ih.afterCall hnoCr c
      · exact ih

/-- **Completed lines have the timestamps of their terminators.** -/
theorem completedTimes_appendAll (source : EvidenceSourceRef) (calls : List AppendCall)
    (stream : LogStream) :
    ((empty source noLimits).appendAll calls).completedTimes stream =
      (meantLines stream calls).2 := by
  induction calls using List.reverseRecOn with
  | nil => rfl
  | append_singleton calls c ih =>
      have hwindow := window_appendAll (window_empty source noLimits) calls
      have hnoCr := (inv_appendAll (inv_empty source noLimits) calls).noCr c.stream
      have haligned := aligned_appendAll source noLimits calls c.stream
      rw [appendAll_concat, hwindow.completedTimes_call c stream haligned hnoCr, ih,
        meantLines_concat]
      by_cases hst : c.stream = stream
      · subst hst
        rw [if_pos rfl, if_pos rfl]
      · rw [if_neg hst, if_neg hst, List.append_nil]

/-- The retained ones are the last of them. -/
theorem completedTimes_suffix (source : EvidenceSourceRef) (limits : LogBufferLimits)
    (calls : List AppendCall) (stream : LogStream) :
    ((empty source limits).appendAll calls).completedTimes stream <:+
      (meantLines stream calls).2 := by
  have hwindow := window_appendAll (window_empty source limits) calls
  rw [← completedTimes_appendAll source]
  unfold completedTimes
  rw [hwindow.entries]
  exact ((List.drop_suffix _ _).filter _).map _

/-- What is asked of the timestamps after the calls: the retained completed lines of each stream are
its last ones, with the timestamps of their terminators; and every line under assembly that a tail
returns has the timestamp of its first byte. -/
structure Timestamped (b : LogBuffer) (calls : List AppendCall) : Prop where
  completed : ∀ stream, b.completedTimes stream <:+ (meantLines stream calls).2
  partials : ∀ limit includePartial, ∀ entry ∈ b.tail limit includePartial,
    entry.isPartial = true →
      ∃ first ∈ (meantLines entry.stream calls).1.text.head?, entry.timestampUnixMs = first.2

/-- Completed lines are not marked as partial. -/
theorem isPartial_log (source : EvidenceSourceRef) (calls : List AppendCall) :
    ∀ entry ∈ ((empty source noLimits).appendAll calls).entries, entry.isPartial = false := by
  induction calls using List.reverseRecOn with
  | nil => exact fun _ h => absurd h List.not_mem_nil
  | append_singleton calls c ih =>
      have hwindow := window_appendAll (window_empty source noLimits) calls
      obtain ⟨added, hadds⟩ := hwindow.exists_completed c
      rw [appendAll_concat, hadds.entries]
      intro entry hentry
      rcases List.mem_append.mp hentry with hentry | hentry
      · exact ih entry hentry
      · exact hadds.completed entry hentry

/-- The partial entries of a tail are the lines under assembly. -/
theorem mem_tail_partial {source : EvidenceSourceRef} {limits : LogBufferLimits}
    {calls : List AppendCall} {limit : ℕ} {includePartial : Bool} {entry : EvidenceEntry}
    (hentry : entry ∈ ((empty source limits).appendAll calls).tail limit includePartial)
    (hunfinished : entry.isPartial = true) :
    ∃ stream, entry = ((empty source limits).appendAll calls).partialEntry stream ∧
      (((empty source limits).appendAll calls).partialForStream stream).text ≠ [] := by
  have hwindow := window_appendAll (window_empty source limits) calls
  rcases Nat.eq_zero_or_pos limit with rfl | hlimit
  · exact absurd hentry List.not_mem_nil
  · rw [tail_eq _ hlimit] at hentry
    rcases List.mem_append.mp hentry with hentry | hentry
    · rw [hwindow.entries] at hentry
      have hcompleted := isPartial_log source calls entry
        (List.mem_of_mem_drop (List.mem_of_mem_drop hentry))
      rw [hunfinished] at hcompleted
      cases hcompleted
    · obtain ⟨stream, hstream, rfl⟩ := List.mem_map.mp hentry
      exact ⟨stream, rfl, (mem_partialStreams.mp (List.mem_of_mem_take hstream)).2⟩

/-- A line under assembly is in a tail that has room for both. -/
theorem partialEntry_mem_tail {b : LogBuffer} {stream : LogStream}
    (h : (b.partialForStream stream).text ≠ []) : b.partialEntry stream ∈ b.tail 2 true := by
  have hle : (b.partialStreams true).length ≤ 2 := by
    rw [length_partialStreams]
    unfold partialCount
    split_ifs <;> omega
  rw [tail_eq b (by omega), List.take_of_length_le hle]
  apply List.mem_append_right
  exact List.mem_map_of_mem (mem_partialStreams.mpr ⟨rfl, h⟩)

/-- The timestamps are right exactly when those of the lines under assembly are. -/
theorem timestamped_iff_rightlyTimed (source : EvidenceSourceRef) (limits : LogBufferLimits)
    (calls : List AppendCall) :
    Timestamped ((empty source limits).appendAll calls) calls ↔
      ∀ stream, RightlyTimed (((empty source limits).appendAll calls).partialForStream stream)
        (meantLines stream calls).1 := by
  constructor
  · intro h stream first hfirst
    have htext : (((empty source limits).appendAll calls).partialForStream stream).text ≠ [] := by
      rw [← (aligned_appendAll source limits calls stream).text, ne_eq, List.map_eq_nil_iff]
      intro hnil
      rw [hnil] at hfirst
      cases hfirst
    obtain ⟨first', hfirst', htime⟩ := h.partials 2 true _ (partialEntry_mem_tail htext) rfl
    obtain rfl : first = first' := Option.mem_unique hfirst hfirst'
    exact htime
  · intro h
    refine ⟨completedTimes_suffix source limits calls, ?_⟩
    intro limit includePartial entry hentry hunfinished
    obtain ⟨stream, rfl, htext⟩ := mem_tail_partial hentry hunfinished
    have hmeant : (meantLines stream calls).1.text ≠ [] := by
      rw [← (aligned_appendAll source limits calls stream).text, ne_eq, List.map_eq_nil_iff] at htext
      exact htext
    obtain ⟨first, rest, hcons⟩ := List.exists_cons_of_ne_nil hmeant
    have hfirst : first ∈ (meantLines stream calls).1.text.head? := by rw [hcons]; rfl
    exact ⟨first, hfirst, h stream first hfirst⟩

/-- **The step lemma.** One more call leaves the timestamps right exactly when it does not start a
line late. -/
theorem timestamped_concat_iff (source : EvidenceSourceRef) (limits : LogBufferLimits)
    (calls : List AppendCall) (c : AppendCall)
    (h : Timestamped ((empty source limits).appendAll calls) calls) :
    Timestamped ((empty source limits).appendAll (calls ++ [c])) (calls ++ [c]) ↔
      ¬ c.StartsLate := by
  have hnoCr := (inv_appendAll (inv_empty source limits) calls).noCr c.stream
  have haligned := aligned_appendAll source limits calls c.stream
  rw [timestamped_iff_rightlyTimed] at h ⊢
  rw [← (h c.stream).afterCall_iff haligned hnoCr c]
  simp only [appendAll_concat, partialForStream_call, meantLines_concat]
  constructor
  · intro hall
    simpa using hall c.stream
  · intro hcall stream
    by_cases hst : c.stream = stream
    · subst hst
      simpa using hcall
    · simpa [hst] using h stream

/-- **When the timestamps of a log are right.** For any sequence of appends to a buffer with any
limits: after every one of them, all retained completed lines and all lines under assembly that a
tail returns have the timestamps they are meant to have, exactly when no call with a timestamp
completes a line and begins another one behind it. -/
theorem timestamped_iff (source : EvidenceSourceRef) (limits : LogBufferLimits)
    (calls : List AppendCall) :
    (∀ past, past <+: calls → Timestamped ((empty source limits).appendAll past) past) ↔
      ∀ c ∈ calls, ¬ c.StartsLate := by
  refine forall_prefix_iff_forall_mem ?_ (timestamped_concat_iff source limits) calls
  rw [timestamped_iff_rightlyTimed]
  intro stream first hfirst
  exact absurd hfirst (by simp [meantLines, stampedData])

/-- The line begun behind a completed one is shown with no time at all. -/
theorem not_timestamped :
    ∃ entry ∈ ((empty { kind := .managedLogSession, sessionId := "s" } {}).appendAll
        [⟨.stdout, [97, lf, 98], 5⟩]).tail 2 true,
      entry.isPartial = true ∧ entry.timestampUnixMs = 0 ∧
        ¬ Timestamped ((empty { kind := .managedLogSession, sessionId := "s" } {}).appendAll
          [⟨.stdout, [97, lf, 98], 5⟩]) [⟨.stdout, [97, lf, 98], 5⟩] := by
  refine ⟨_, List.mem_cons_of_mem _ (List.mem_singleton_self _), rfl, rfl, ?_⟩
  intro h
  obtain ⟨first, hfirst, htime⟩ :=
    h.partials 2 true _ (List.mem_cons_of_mem _ (List.mem_singleton_self _)) rfl
  obtain rfl : first = (98, 5) := Option.some.inj hfirst.symm
  exact absurd htime (by decide)

end LogBuffer

end Sentrits.Service
