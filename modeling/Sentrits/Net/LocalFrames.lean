import Mathlib.Tactic.IntervalCases
import Sentrits.Found.Chunking
import Sentrits.Net.LocalController

/-!
# Frames of a local controller

The client of the command line packs what the terminal types into frames: a letter, a length and a
payload. The daemon reads five bytes, and then as many as the length says; the bytes arrive in
pieces that have nothing to do with frames.

* `buildLocalControllerFrame`, `buildLocalResizePayload`: the client.
* `FrameReader`, `readByte`: the daemon's reads, which take bytes until they have all they asked
  for.
* `serve`: what becomes of frames that are handled one after the other.
* `frames_dispatched`: **frames are handled as they were sent, however the bytes were cut, until a
  handler closes the connection.**

Sources: `src/cli/daemon_client.cpp`, `src/net/http_server.cpp`.
-/

namespace Sentrits.Net

open Found Found.Bytes Found.Chunking Session
open LocalControllerSession (Handler handleFrame handleHeader handlePayload maxFrameSize)

/-! ### The client -/

/-- What is sent in one piece. -/
structure LocalFrame where
  type : UInt8
  payload : Bytes
  deriving DecidableEq

/-- A number in four bytes, the highest first. -/
def bigEndian (size : UInt32) : Bytes :=
  [((size >>> 24) &&& 0xFF).toUInt8, ((size >>> 16) &&& 0xFF).toUInt8,
    ((size >>> 8) &&& 0xFF).toUInt8, (size &&& 0xFF).toUInt8]

/-- Source: `daemon_client.cpp` `BuildLocalControllerFrame`. -/
def buildLocalControllerFrame (frame : LocalFrame) : Bytes :=
  frame.type :: bigEndian (UInt32.ofNat frame.payload.length) ++ frame.payload

/-- Source: `daemon_client.cpp` `BuildLocalResizePayload`. -/
def buildLocalResizePayload (terminalSize : TerminalSize) : Bytes :=
  [((terminalSize.columns >>> 8) &&& 0xFF).toUInt8, (terminalSize.columns &&& 0xFF).toUInt8,
    ((terminalSize.rows >>> 8) &&& 0xFF).toUInt8, (terminalSize.rows &&& 0xFF).toUInt8]

/-- The lowest byte of a number. -/
theorem mask_mod (n : ℕ) : (n &&& 255) % 2 ^ 8 = n % 2 ^ 8 := by
  rw [show (255 : ℕ) = 2 ^ 8 - 1 from rfl, Nat.and_two_pow_sub_one_eq_mod, Nat.mod_mod]

/-- One more byte of a number, in front of the bytes behind it. -/
theorem byte_or (n : ℕ) {k w : ℕ} (h : k + 8 ≤ w) :
    (n / 2 ^ k % 2 ^ 8) <<< k % 2 ^ w ||| n % 2 ^ k = n % 2 ^ (k + 8) := by
  have hlow : n % 2 ^ k < 2 ^ k := Nat.mod_lt _ (Nat.two_pow_pos k)
  have hbyte : (n / 2 ^ k % 2 ^ 8) <<< k < 2 ^ w := by
    rw [Nat.shiftLeft_eq]
    calc n / 2 ^ k % 2 ^ 8 * 2 ^ k < 2 ^ 8 * 2 ^ k :=
          Nat.mul_lt_mul_of_pos_right (Nat.mod_lt _ (Nat.two_pow_pos 8)) (Nat.two_pow_pos k)
      _ = 2 ^ (k + 8) := by rw [Nat.pow_add, Nat.mul_comm]
      _ ≤ 2 ^ w := Nat.pow_le_pow_right (Nat.zero_lt_two) h
  rw [Nat.mod_eq_of_lt hbyte, ← Nat.shiftLeft_add_eq_or_of_lt hlow, Nat.shiftLeft_eq, Nat.pow_add,
    Nat.mod_mul, Nat.mul_comm, Nat.add_comm]

/-- The four bytes make the number again. -/
theorem bigEndian_size (type : UInt8) (size : UInt32) :
    (FrameHeader.mk type ((size >>> 24) &&& 0xFF).toUInt8 ((size >>> 16) &&& 0xFF).toUInt8
      ((size >>> 8) &&& 0xFF).toUInt8 (size &&& 0xFF).toUInt8).size = size.toNat := by
  unfold FrameHeader.size
  simp only [UInt32.toNat_or, UInt32.toNat_shiftLeft, UInt8.toNat_toUInt32, UInt32.toNat_toUInt8,
    UInt32.toNat_and, UInt32.toNat_shiftRight, UInt32.reduceToNat, Nat.reduceMod, mask_mod,
    Nat.shiftRight_eq_div_pow]
  rw [Nat.or_assoc, Nat.or_assoc, byte_or _ (by decide), byte_or _ (by decide),
    byte_or _ (by decide)]
  exact Nat.mod_eq_of_lt size.toNat_lt

/-- The two bytes make the number again. -/
theorem halves_toUInt16 (value : UInt16) :
    ((value >>> 8) &&& 0xFF).toUInt8.toUInt16 <<< 8 ||| (value &&& 0xFF).toUInt8.toUInt16 =
      value := by
  apply UInt16.toNat_inj.mp
  simp only [UInt16.toNat_or, UInt16.toNat_shiftLeft, UInt8.toNat_toUInt16, UInt16.toNat_toUInt8,
    UInt16.toNat_and, UInt16.toNat_shiftRight, UInt16.reduceToNat, Nat.reduceMod, mask_mod,
    Nat.shiftRight_eq_div_pow]
  rw [byte_or _ (by decide)]
  exact Nat.mod_eq_of_lt value.toNat_lt

/-- **A size is read as it was written.** -/
theorem decodeTerminalSize_buildLocalResizePayload (terminalSize : TerminalSize) :
    ∃ b₀ b₁ b₂ b₃, buildLocalResizePayload terminalSize = [b₀, b₁, b₂, b₃] ∧
      decodeTerminalSize b₀ b₁ b₂ b₃ = terminalSize := by
  refine ⟨_, _, _, _, rfl, ?_⟩
  unfold decodeTerminalSize
  rw [halves_toUInt16, halves_toUInt16]

/-! ### The reads of the daemon -/

/-- How many bytes a part of a frame has. -/
def FramePart.length : FramePart → ℕ
  | .header => 5
  | .payload _ size => size

/-- A header, out of its five bytes. -/
def headerOf : Bytes → Option FrameHeader
  | [type, size₀, size₁, size₂, size₃] => some { type, size₀, size₁, size₂, size₃ }
  | _ => none

/-- The socket between two bytes: what the read that is under way has got so far, and how many
frames were handled. -/
structure FrameReader where
  turn : Handler
  filled : Bytes := []
  handled : ℕ := 0

namespace FrameReader

/-- The part that is read; a read that was started on a closed socket gets nothing. -/
def part? (r : FrameReader) : Option FramePart :=
  if r.turn.socket.readFails then none else r.turn.socket.reading

/-- The read is over: its handler runs. -/
def readHandled (r : FrameReader) : Handler := r.turn.modify ({ · with reading := none })

/-- The handler of the read, with the frame that it hands on.
Source: `http_server.cpp` the handlers of `LocalControllerSession::ReadFrameHeader` and
`ReadFramePayload`. -/
def complete (answers : ℕ → LocalAnswers) (r : FrameReader) (filled : Bytes) :
    FramePart → FrameReader × List LocalFrame
  | .header =>
      let turn := handleHeader r.readHandled (answers r.handled) (headerOf filled)
      match headerOf filled with
      | some header =>
          if header.size = 0 then
            ({ turn, handled := r.handled + 1 }, [{ type := header.type, payload := [] }])
          else ({ turn, handled := r.handled }, [])
      | none => ({ turn, handled := r.handled }, [])
  | .payload type _ =>
      ({ turn := handlePayload r.readHandled (answers r.handled) type (some filled)
         handled := r.handled + 1 }, [{ type, payload := filled }])

/-- The read that is under way gets one more byte; when it has all it asked for, its handler runs.
Source: Boost.Asio's `async_read`, with a buffer of fixed length. -/
def readByte (answers : ℕ → LocalAnswers) (r : FrameReader) (ch : UInt8) :
    FrameReader × List LocalFrame :=
  match r.part? with
  | none => (r, [])
  | some part =>
      let filled := r.filled ++ [ch]
      if filled.length < part.length then ({ r with filled }, [])
      else r.complete answers filled part

/-- A header is read next. -/
def AwaitsHeader (t : Handler) : Prop :=
  t.socket.reading = some .header ∧ t.socket.readFails = false

instance (t : Handler) : Decidable (AwaitsHeader t) := by
  unfold AwaitsHeader
  infer_instance

/-- What becomes of frames that are handled one after the other, and which of them are: none behind
the one after which nothing is read. -/
def serve (answers : ℕ → LocalAnswers) (t : Handler) (handled : ℕ) :
    List LocalFrame → Handler × List LocalFrame
  | [] => (t, [])
  | frame :: frames =>
      let t' := handleFrame (t.modify ({ · with reading := none })) (answers handled) frame.type
        frame.payload
      if AwaitsHeader t' then
        ((serve answers t' (handled + 1) frames).1,
          frame :: (serve answers t' (handled + 1) frames).2)
      else (t', [frame])

/-! ### Bytes of one read -/

variable {answers : ℕ → LocalAnswers} {r : FrameReader} {part : FramePart}

/-- Bytes that nobody reads. -/
theorem run_of_none (h : r.part? = none) (chunk : Bytes) :
    run (readByte answers) r chunk = (r, []) := by
  induction chunk with
  | nil => rfl
  | cons ch chunk ih =>
      have hstep : readByte answers r ch = (r, []) := by
        unfold readByte
        rw [h]
      rw [run_cons, hstep, ih]
      rfl

/-- Fewer bytes than the read asks for are kept. -/
theorem run_of_short (h : r.part? = some part) {chunk : Bytes}
    (hshort : r.filled.length + chunk.length < part.length) :
    run (readByte answers) r chunk = ({ r with filled := r.filled ++ chunk }, []) := by
  induction chunk generalizing r with
  | nil => simp
  | cons ch chunk ih =>
      have hlength : (r.filled ++ [ch]).length < part.length := by
        rw [List.length_cons] at hshort
        rw [List.length_append, List.length_singleton]
        omega
      have hstep : readByte answers r ch = ({ r with filled := r.filled ++ [ch] }, []) := by
        unfold readByte
        rw [h]
        exact if_pos hlength
      have hrest : (r.filled ++ [ch]).length + chunk.length < part.length := by
        rw [List.length_cons] at hshort
        rw [List.length_append, List.length_singleton]
        omega
      rw [run_cons, hstep, ih (r := { r with filled := r.filled ++ [ch] }) h hrest]
      simp

/-- **As many bytes as the read asks for make its handler run.** -/
theorem run_of_full (h : r.part? = some part) {chunk : Bytes} (hne : chunk ≠ [])
    (hfull : r.filled.length + chunk.length = part.length) :
    run (readByte answers) r chunk = r.complete answers (r.filled ++ chunk) part := by
  obtain ⟨front, ch, rfl⟩ := List.eq_nil_or_concat chunk |>.resolve_left hne
  rw [List.concat_eq_append] at hfull ⊢
  rw [List.length_append, List.length_singleton] at hfull
  have hfront : run (readByte answers) r front =
      ({ r with filled := r.filled ++ front }, []) := run_of_short h (by omega)
  have hlast : ¬(r.filled ++ front ++ [ch]).length < part.length := by
    simp only [List.length_append, List.length_singleton]
    omega
  have hpart : ({ r with filled := r.filled ++ front } : FrameReader).part? = some part := h
  rw [run_append, hfront, run_cons, run_nil]
  unfold readByte
  rw [hpart]
  dsimp only
  rw [if_neg hlast]
  simp [complete, readHandled, List.append_assoc]

/-! ### Bytes of one frame -/

/-- A header is read next, of an open connection, and nothing of it is here. -/
structure AtStart (r : FrameReader) : Prop where
  awaits : AwaitsHeader r.turn
  isOpen : r.turn.socket.closed = false
  nothing : r.filled = []

/-- Between two frames a header is waited for. -/
theorem part?_of_awaits (h : AwaitsHeader r.turn) : r.part? = some .header := by
  unfold part?
  rw [h.2, h.1]
  rfl

/-- The header of a frame says how long its payload is. -/
theorem headerOf_build {frame : LocalFrame} (h : frame.payload.length ≤ maxFrameSize) :
    ∃ header, headerOf (frame.type :: bigEndian (UInt32.ofNat frame.payload.length)) =
        some header ∧ header.type = frame.type ∧ header.size = frame.payload.length := by
  refine ⟨_, rfl, rfl, ?_⟩
  rw [bigEndian_size, UInt32.toNat_ofNat']
  apply Nat.mod_eq_of_lt
  unfold maxFrameSize at h
  omega

/-- The five bytes of a header. -/
theorem length_header (frame : LocalFrame) :
    (frame.type :: bigEndian (UInt32.ofNat frame.payload.length)).length = 5 := rfl

/-- A frame is its type, its length and its payload. -/
theorem build_eq (frame : LocalFrame) :
    buildLocalControllerFrame frame =
      (frame.type :: bigEndian (UInt32.ofNat frame.payload.length)) ++ frame.payload := rfl

/-- The header of a frame with a payload starts the read of its payload. -/
theorem run_header (hstart : AtStart r) {frame : LocalFrame}
    (h : frame.payload.length ≤ maxFrameSize) (hne : frame.payload ≠ []) :
    run (readByte answers) r (frame.type :: bigEndian (UInt32.ofNat frame.payload.length)) =
      ({ turn := LocalControllerSession.startRead r.readHandled
          (.payload frame.type frame.payload.length)
         handled := r.handled }, []) := by
  obtain ⟨header, hheader, htype, hsize⟩ := headerOf_build h
  have hlength : header.size ≠ 0 := by
    rw [hsize]
    exact fun hzero => hne (List.length_eq_zero_iff.mp hzero)
  rw [run_of_full (part?_of_awaits hstart.awaits) (by simp)
      (by rw [hstart.nothing, length_header]; rfl), hstart.nothing, List.nil_append, complete,
    hheader]
  dsimp only
  rw [if_neg hlength, handleHeader, if_neg (by rw [hsize]; omega), if_neg hlength, htype, hsize]

/-- The read of the payload, of an open connection. -/
theorem part?_startRead (hopen : r.turn.socket.closed = false) (part : FramePart) (handled : ℕ) :
    part? { turn := LocalControllerSession.startRead r.readHandled part, handled } = some part := by
  unfold part? LocalControllerSession.startRead readHandled
  simp [hopen]

/-- The turn of the reader is as before when its next read is over. -/
theorem readHandled_startRead (hstart : AtStart r) (part : FramePart) (handled : ℕ) :
    readHandled { turn := LocalControllerSession.startRead r.readHandled part, handled } =
      r.readHandled := by
  have hfails : r.turn.socket.closed = r.turn.socket.readFails := by
    rw [hstart.isOpen, hstart.awaits.2]
  unfold readHandled LocalControllerSession.startRead Turn.modify
  simp [hfails]

/-- **The bytes of a frame make the frame be handled.** -/
theorem run_frame (hstart : AtStart r) {frame : LocalFrame}
    (h : frame.payload.length ≤ maxFrameSize) :
    run (readByte answers) r (buildLocalControllerFrame frame) =
      ({ turn := handleFrame r.readHandled (answers r.handled) frame.type frame.payload
         handled := r.handled + 1 }, [frame]) := by
  by_cases hempty : frame.payload = []
  · obtain ⟨header, hheader, htype, hsize⟩ := headerOf_build h
    have hzero : header.size = 0 := by rw [hsize, hempty, List.length_nil]
    rw [build_eq, hempty, List.append_nil, ← hempty,
      run_of_full (part?_of_awaits hstart.awaits) (by simp)
        (by rw [hstart.nothing, length_header]; rfl), hstart.nothing, List.nil_append, complete,
      hheader]
    dsimp only
    rw [if_pos hzero, handleHeader, if_neg (by rw [hzero]; simp), if_pos hzero, htype, ← hempty]
  · rw [build_eq, run_append, run_header hstart h hempty,
      run_of_full (part?_startRead hstart.isOpen _ _) hempty (by simp [FramePart.length])]
    rw [List.nil_append, List.nil_append, complete, readHandled_startRead hstart]
    rfl

/-- What is left of a frame is not handled. -/
theorem run_rest (hstart : AtStart r) {frame : LocalFrame}
    (h : frame.payload.length ≤ maxFrameSize) {rest : Bytes}
    (hpre : rest <+: buildLocalControllerFrame frame)
    (hne : rest ≠ buildLocalControllerFrame frame) :
    (run (readByte answers) r rest).2 = [] := by
  have hshort : rest.length < 5 + frame.payload.length := by
    have hlength : (buildLocalControllerFrame frame).length = 5 + frame.payload.length := by
      rw [build_eq, List.length_append, length_header]
    rw [← hlength]
    exact lt_of_le_of_ne hpre.length_le fun heq => hne (hpre.eq_of_length heq)
  by_cases hheader : rest.length < 5
  · rw [run_of_short (part?_of_awaits hstart.awaits)
      (by rw [hstart.nothing, List.length_nil, Nat.zero_add]; exact hheader)]
  · obtain ⟨tail, htail⟩ := hpre
    have hsplit : rest = (frame.type :: bigEndian (UInt32.ofNat frame.payload.length)) ++
        rest.drop 5 := by
      have htake := congrArg (List.take 5) htail
      rw [List.take_append_of_le_length (by omega), build_eq,
        List.take_left' (length_header frame)] at htake
      rw [← htake, List.take_append_drop]
    have hpayload : frame.payload ≠ [] := by
      intro hempty
      rw [hempty, List.length_nil] at hshort
      omega
    rw [hsplit, run_append, run_header hstart h hpayload,
      run_of_short (part?_startRead hstart.isOpen _ _)
        (by simp only [List.length_nil, List.length_drop, FramePart.length]; omega)]
    rfl

/-! ### Frames one after the other -/

/-- A frame is followed by the read of the next, or by the end of the connection. -/
theorem handleFrame_cases (t : Handler) (answers : LocalAnswers) (type : UInt8) (payload : Bytes) :
    (∃ t', handleFrame t answers type payload = LocalControllerSession.readFrameHeader t') ∨
      ∃ t', t'.socket.reading = t.socket.reading ∧
        handleFrame t answers type payload = LocalControllerSession.forceClose t' answers := by
  unfold handleFrame
  split_ifs
  · exact Or.inl ⟨_, rfl⟩
  · unfold LocalControllerSession.handleInputFrame
    dsimp only
    split_ifs
    · exact Or.inl ⟨_, rfl⟩
    · exact Or.inl ⟨_, rfl⟩
    · refine Or.inr ⟨_, ?_, rfl⟩
      rfl
  · unfold LocalControllerSession.handleResizeFrame
    split
    · dsimp only
      split_ifs
      · exact Or.inl ⟨_, rfl⟩
      · exact Or.inl ⟨_, rfl⟩
      · refine Or.inr ⟨_, ?_, rfl⟩
        rfl
    · exact Or.inr ⟨_, rfl, rfl⟩
  · exact Or.inr ⟨_, rfl, rfl⟩

/-- The end of a connection starts no read. -/
theorem socket_forceClose (t : Handler) (answers : LocalAnswers) :
    (LocalControllerSession.forceClose t answers).socket.reading = t.socket.reading ∧
      (LocalControllerSession.forceClose t answers).socket.closed = true := by
  unfold LocalControllerSession.forceClose LocalControllerSession.releaseControlIfHeld
  split_ifs with hclosed
  · exact ⟨rfl, hclosed⟩
  · exact ⟨rfl, rfl⟩
  · exact ⟨rfl, rfl⟩

/-- **What a handled frame leaves:** the read of a header on an open connection, or a closed one
and no read. -/
theorem handleFrame_next (t : Handler) (answers : LocalAnswers) (type : UInt8) (payload : Bytes)
    (hreading : t.socket.reading = none) :
    (AwaitsHeader (handleFrame t answers type payload) ∧
        (handleFrame t answers type payload).socket.closed = false) ∨
      (¬AwaitsHeader (handleFrame t answers type payload) ∧
        (handleFrame t answers type payload).socket.closed = true ∧
        ∀ handled, part? { turn := handleFrame t answers type payload, handled } = none) := by
  rcases handleFrame_cases t answers type payload with ⟨t', h⟩ | ⟨t', hkept, h⟩
  · rw [h]
    by_cases hclosed : t'.socket.closed
    · right
      simp [AwaitsHeader, part?, LocalControllerSession.readFrameHeader,
        LocalControllerSession.startRead, hclosed]
    · left
      simp [AwaitsHeader, LocalControllerSession.readFrameHeader,
        LocalControllerSession.startRead, hclosed]
  · have hnone : (handleFrame t answers type payload).socket.reading = none := by
      rw [h, (socket_forceClose t' answers).1, hkept, hreading]
    right
    refine ⟨fun hawaits => ?_, by rw [h]; exact (socket_forceClose t' answers).2,
      fun handled => ?_⟩
    · rw [AwaitsHeader, hnone] at hawaits
      exact absurd hawaits.1 (by simp)
    · unfold part?
      dsimp only
      rw [hnone]
      simp

/-- **Bytes of frames are served frame by frame,** and what is left of one more is not. -/
theorem run_frames (answers : ℕ → LocalAnswers) {frames : List LocalFrame}
    (h : ∀ frame ∈ frames, frame.payload.length ≤ maxFrameSize) {next : LocalFrame}
    (hnext : next.payload.length ≤ maxFrameSize) {rest : Bytes}
    (hpre : rest <+: buildLocalControllerFrame next)
    (hne : rest ≠ buildLocalControllerFrame next) {r : FrameReader} (hstart : AtStart r) :
    (run (readByte answers) r (frames.flatMap buildLocalControllerFrame ++ rest)).2 =
        (serve answers r.turn r.handled frames).2 ∧
      (AwaitsHeader (serve answers r.turn r.handled frames).1 →
        (serve answers r.turn r.handled frames).2 = frames ∧
          (rest = [] →
            run (readByte answers) r (frames.flatMap buildLocalControllerFrame ++ rest) =
              ({ turn := (serve answers r.turn r.handled frames).1
                 handled := r.handled + frames.length }, frames))) := by
  induction frames generalizing r with
  | nil =>
      rw [List.flatMap_nil, List.nil_append]
      refine ⟨run_rest hstart hnext hpre hne, fun _ => ⟨rfl, ?_⟩⟩
      rintro rfl
      cases r with
      | mk turn filled handled =>
          obtain rfl : filled = [] := hstart.nothing
          rfl
  | cons frame frames ih =>
      have hframe : run (readByte answers) r (buildLocalControllerFrame frame) =
          ({ turn := handleFrame r.readHandled (answers r.handled) frame.type frame.payload
             handled := r.handled + 1 }, [frame]) :=
        run_frame hstart (h frame List.mem_cons_self)
      rw [List.flatMap_cons, List.append_assoc, run_append, hframe]
      rcases handleFrame_next r.readHandled (answers r.handled) frame.type frame.payload rfl with
        ⟨hawaits, hopen⟩ | ⟨hnot, -, hnone⟩
      · have hserve : serve answers r.turn r.handled (frame :: frames) =
            ((serve answers (handleFrame r.readHandled (answers r.handled) frame.type
                frame.payload) (r.handled + 1) frames).1,
              frame :: (serve answers (handleFrame r.readHandled (answers r.handled) frame.type
                frame.payload) (r.handled + 1) frames).2) := if_pos hawaits
        obtain ⟨hdispatched, hall⟩ := ih
          (fun other hother => h other (List.mem_cons_of_mem frame hother))
          (r := { turn := handleFrame r.readHandled (answers r.handled) frame.type frame.payload
                  handled := r.handled + 1 }) ⟨hawaits, hopen, rfl⟩
        rw [hserve]
        dsimp only at hdispatched hall ⊢
        refine ⟨by rw [hdispatched]; rfl, fun hend => ?_⟩
        obtain ⟨hframes, hrun⟩ := hall hend
        refine ⟨by rw [hframes], fun hrest => ?_⟩
        rw [hrun hrest, List.length_cons, Nat.add_assoc, Nat.add_comm 1]
        rfl
      · have hserve : serve answers r.turn r.handled (frame :: frames) =
            (handleFrame r.readHandled (answers r.handled) frame.type frame.payload, [frame]) :=
          if_neg hnot
        rw [hserve]
        dsimp only
        rw [run_of_none (hnone (r.handled + 1))]
        exact ⟨rfl, fun hawaits => absurd hawaits hnot⟩

/-- **Frames are served from the first on,** and all of them unless the connection is closed. -/
theorem serve_spec (answers : ℕ → LocalAnswers) {t : Handler} (h : AwaitsHeader t) (handled : ℕ)
    (frames : List LocalFrame) :
    (serve answers t handled frames).2 <+: frames ∧
      (AwaitsHeader (serve answers t handled frames).1 ∨
        (serve answers t handled frames).1.socket.closed = true) := by
  induction frames generalizing t handled with
  | nil => exact ⟨List.prefix_refl [], Or.inl h⟩
  | cons frame frames ih =>
      unfold serve
      dsimp only
      split_ifs with hawaits
      · obtain ⟨hpre, hend⟩ := ih hawaits (handled + 1)
        exact ⟨(List.prefix_cons_inj frame).mpr hpre, hend⟩
      · refine ⟨⟨frames, rfl⟩, Or.inr ?_⟩
        rcases handleFrame_next (t.modify ({ · with reading := none })) (answers handled)
          frame.type frame.payload rfl with ⟨hawaits', -⟩ | ⟨-, hclosed, -⟩
        · exact absurd hawaits' hawaits
        · exact hclosed

/-- Pieces one after the other are the bytes they are cut from. -/
theorem foldl_feed (answers : ℕ → LocalAnswers) (r : FrameReader) (reads : List Bytes) :
    reads.foldl (feed (readByte answers)) (r, []) = run (readByte answers) r reads.flatten := by
  have hflat : ∀ p : FrameReader × List LocalFrame,
      reads.foldl (feed (readByte answers)) p = feed (readByte answers) p reads.flatten := by
    induction reads with
    | nil => simp
    | cons piece reads ih =>
        intro p
        rw [List.foldl_cons, ih, List.flatten_cons, feed_append]
  rw [hflat]
  rfl

/-- **Frames are handled as they were sent, however the bytes were cut into reads:** all of them
with nothing left, or those up to the one at which the handler closed the connection; a frame of
which a part is missing is not handled. A size is read as it was written. -/
theorem frames_dispatched :
    (∀ terminalSize, ∃ b₀ b₁ b₂ b₃, buildLocalResizePayload terminalSize = [b₀, b₁, b₂, b₃] ∧
        decodeTerminalSize b₀ b₁ b₂ b₃ = terminalSize) ∧
      ∀ (answers : ℕ → LocalAnswers) (r : FrameReader) (frames : List LocalFrame)
        (next : LocalFrame) (rest : Bytes) (reads : List Bytes),
        AtStart r → (∀ frame ∈ frames, frame.payload.length ≤ maxFrameSize) →
        next.payload.length ≤ maxFrameSize → rest <+: buildLocalControllerFrame next →
        rest ≠ buildLocalControllerFrame next →
        reads.flatten = frames.flatMap buildLocalControllerFrame ++ rest →
          let served := serve answers r.turn r.handled frames
          let result := reads.foldl (feed (readByte answers)) (r, [])
          result.2 = served.2 ∧ result.2 <+: frames ∧
            ((result.2 = frames ∧ (rest = [] → result.1.turn = served.1 ∧ result.1.filled = [])) ∨
              served.1.socket.closed = true) := by
  refine ⟨decodeTerminalSize_buildLocalResizePayload, ?_⟩
  intro answers r frames next rest reads hstart hsize hnext hpre hne hreads
  dsimp only
  rw [foldl_feed, hreads]
  obtain ⟨hdispatched, hall⟩ := run_frames answers hsize hnext hpre hne hstart
  obtain ⟨hserved, hend⟩ := serve_spec answers hstart.awaits r.handled frames
  refine ⟨hdispatched, by rw [hdispatched]; exact hserved, ?_⟩
  rcases hend with hawaits | hclosed
  · obtain ⟨hframes, hrun⟩ := hall hawaits
    refine Or.inl ⟨by rw [hdispatched, hframes], fun hrest => ?_⟩
    rw [hrun hrest]
    exact ⟨rfl, rfl⟩
  · exact Or.inr hclosed

/-- A socket that waits for its first frame. -/
def firstFrame : FrameReader where
  turn := { manager := {}, socket := { handshaking := false, reading := some .header } }

/-- A claim and some input, in pieces that are cut in the middle of both headers. -/
theorem frames_dispatched_cut :
    (List.foldl (feed (readByte fun _ => {})) (firstFrame, [])
        [[0x43, 0], [0, 0, 0, 0x49, 0, 0, 0], [2, 0x6C], [0x73]]).2 =
      [{ type := 0x43, payload := [] }, { type := 0x49, payload := [0x6C, 0x73] }] := by
  have hserved : (serve (fun _ => {}) firstFrame.turn 0
      [{ type := 0x43, payload := [] }, { type := 0x49, payload := [0x6C, 0x73] }]).2 =
      [{ type := 0x43, payload := [] }, { type := 0x49, payload := [0x6C, 0x73] }] := by
    decide
  have h := frames_dispatched.2 (fun _ => {}) firstFrame
    [{ type := 0x43, payload := [] }, { type := 0x49, payload := [0x6C, 0x73] }]
    { type := 0x43, payload := [] } []
    [[0x43, 0], [0, 0, 0, 0x49, 0, 0, 0], [2, 0x6C], [0x73]]
    ⟨by decide, rfl, rfl⟩ (by decide) (by decide) (by decide) (by decide) (by decide)
  exact h.1.trans hserved

/-- **Not every sequence of frames is handled to its end:** a letter that is none of the three
closes the connection, and the claim behind it is never seen. -/
theorem frames_not_dispatched_unknown :
    ¬∀ (answers : ℕ → LocalAnswers) (r : FrameReader) (frames : List LocalFrame)
        (reads : List Bytes),
        AtStart r → (∀ frame ∈ frames, frame.payload.length ≤ maxFrameSize) →
        reads.flatten = frames.flatMap buildLocalControllerFrame →
          (reads.foldl (feed (readByte answers)) (r, [])).2 = frames := by
  intro h
  have hunknown := h (fun _ => {}) firstFrame
    [{ type := 0x58, payload := [] }, { type := 0x43, payload := [] }]
    [[0x58, 0, 0, 0, 0, 0x43, 0, 0, 0, 0]] ⟨by decide, rfl, rfl⟩ (by decide) (by decide)
  exact absurd hunknown (by decide)

end FrameReader

end Sentrits.Net
