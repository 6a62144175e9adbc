import Mathlib.Logic.Function.Basic
import Sentrits.Found.Bytes
import Sentrits.Found.Runs

/-!
# The relay bridge

For a client behind the hub the daemon opens two sockets, one to the hub and one to its own
listener, and passes every message of one on to the other. For each socket one read is outstanding
at a time; its handler writes the message to the other socket and starts the next read. A socket
that fails takes the other one down.

* `Side`, `RelayBridge.step`: one socket; what happens to the two, one step at a time.
* `RelayBridge.Sound`, `sound_step`: the invariant, and that every step keeps it.
* `messages_relayed`: **over every interleaving** each socket was written what came in at the other,
  whole and in order, with no message twice and at most one under way; and neither is left open when
  the other is gone, but for a write that failed.

Source: `src/net/hub_control_channel.cpp`.
-/

namespace Sentrits.Net

open Found Found.Runs

/-! ### The two sockets -/

/-- The two sockets of a bridge. -/
inductive RelayEnd
  | hub
  | daemon
  deriving DecidableEq

/-- The other socket. -/
def RelayEnd.other : RelayEnd → RelayEnd
  | .hub => .daemon
  | .daemon => .hub

/-- The other end of the other end. -/
@[simp] theorem RelayEnd.other_other (e : RelayEnd) : e.other.other = e := by cases e <;> rfl

/-- The two ends are two. -/
@[simp] theorem RelayEnd.other_ne (e : RelayEnd) : e.other ≠ e := by cases e <;> decide

/-- There is no third one. -/
theorem RelayEnd.eq_other_of_ne {e e' : RelayEnd} (h : e' ≠ e) : e' = e.other := by
  cases e <;> cases e' <;> first | rfl | exact absurd rfl h

/-- A message of a socket: what `got_text` says of it, and its bytes. -/
structure RelayMessage where
  text : Bool
  data : Bytes
  deriving DecidableEq

/-- The read of a socket. -/
inductive ReadOperation
  /-- There is none, and there will be none. -/
  | ended
  /-- It is outstanding. -/
  | waiting
  /-- It is over, and its handler is due. -/
  | arrived (message : RelayMessage)
  | failed
  deriving DecidableEq

/-- A socket. -/
structure Side where
  /-- What has come in and was not read. -/
  inbox : List RelayMessage := []
  operation : ReadOperation := .waiting
  /-- What was written to the socket. -/
  written : List RelayMessage := []
  /-- A read of the socket has failed. -/
  broken : Bool := false
  /-- What was read here and could not be written to the other socket. -/
  dropped : Option RelayMessage := none
  deriving DecidableEq

namespace Side

/-- The outstanding read of a socket is cancelled; a handler that is due stays due. -/
def cancel (side : Side) : Side :=
  if side.operation = .waiting then { side with operation := .failed, broken := true } else side

/-- What was read and is not written. -/
def inFlight (side : Side) : List RelayMessage :=
  match side.operation with
  | .arrived message => [message]
  | _ => side.dropped.toList

/-- What is cancelled keeps its inbox. -/
@[simp] theorem inbox_cancel (side : Side) : side.cancel.inbox = side.inbox := by
  unfold cancel
  split_ifs <;> rfl

/-- What is cancelled keeps what was written to it. -/
@[simp] theorem written_cancel (side : Side) : side.cancel.written = side.written := by
  unfold cancel
  split_ifs <;> rfl

/-- What is cancelled keeps what was dropped of it. -/
@[simp] theorem dropped_cancel (side : Side) : side.cancel.dropped = side.dropped := by
  unfold cancel
  split_ifs <;> rfl

/-- What is cancelled keeps the message under way. -/
@[simp] theorem inFlight_cancel (side : Side) : side.cancel.inFlight = side.inFlight := by
  unfold cancel inFlight
  split_ifs with hwaiting
  · rw [hwaiting]
  · rfl

/-- What is cancelled does not wait. -/
theorem operation_cancel_ne (side : Side) : side.cancel.operation ≠ .waiting := by
  unfold cancel
  split_ifs with hwaiting
  · simp
  · exact hwaiting

/-- What is cancelled has ended only if it had before. -/
@[simp] theorem cancel_ended_iff (side : Side) :
    side.cancel.operation = .ended ↔ side.operation = .ended := by
  unfold cancel
  split_ifs with hwaiting
  · simp [hwaiting]
  · rfl

end Side

/-- A bridge. -/
structure RelayBridge where
  side : RelayEnd → Side

/-- What happens to a bridge. -/
inductive RelayLabel
  /-- The peer behind a socket sends a message. -/
  | send (e : RelayEnd) (message : RelayMessage)
  /-- The outstanding read of a socket ends, with a message or without one. -/
  | receive (e : RelayEnd)
  | fail (e : RelayEnd)
  /-- The handler of a read that is over runs; `written` says whether its write succeeds. -/
  | handle (e : RelayEnd) (written : Bool)
  /-- The timer finds that the channel is to stop. -/
  | stop
  deriving DecidableEq

namespace RelayBridge

/-- One side is set. -/
def set (b : RelayBridge) (e : RelayEnd) (side : Side) : RelayBridge where
  side := Function.update b.side e side

/-- A side is what it is set to. -/
@[simp] theorem side_set_self (b : RelayBridge) (e : RelayEnd) (side : Side) :
    (b.set e side).side e = side := Function.update_self ..

/-- Setting one side leaves the other. -/
@[simp] theorem side_set_other (b : RelayBridge) (e : RelayEnd) (side : Side) :
    (b.set e side).side e.other = b.side e.other := by
  exact Function.update_of_ne e.other_ne side b.side

/-- Setting the other side leaves this one. -/
@[simp] theorem side_set_other' (b : RelayBridge) (e : RelayEnd) (side : Side) :
    (b.set e.other side).side e = b.side e := by
  exact Function.update_of_ne e.other_ne.symm side b.side

/-- Both sockets are connected, and a read of each is outstanding. -/
def opened : RelayBridge where
  side := fun _ => {}

/-- `read_from_a` and `read_from_b`. A write to a socket does not succeed once the handler has run
that was told of the failed read; until then it may, also after the timer has cancelled the read.
Source: `hub_control_channel.cpp` `PipeWebSocketsAsync`. -/
def step (b : RelayBridge) : RelayLabel → Option RelayBridge
  | .send e message => some (b.set e { b.side e with inbox := (b.side e).inbox ++ [message] })
  | .receive e =>
      match (b.side e).operation, (b.side e).inbox with
      | .waiting, message :: inbox =>
          some (b.set e { b.side e with inbox := inbox, operation := .arrived message })
      | _, _ => none
  | .fail e =>
      if (b.side e).operation = .waiting then some (b.set e (b.side e).cancel) else none
  | .handle e written =>
      match (b.side e).operation with
      | .failed =>
          some ((b.set e.other (b.side e.other).cancel).set e
            { b.side e with operation := .ended })
      | .arrived message =>
          if written then
            if (b.side e.other).broken ∧ (b.side e.other).operation = .ended then none
            else
              some ((b.set e.other
                { b.side e.other with written := (b.side e.other).written ++ [message] }).set e
                { b.side e with operation := .waiting })
          else
            -- the handler cancels the socket it has just read, which has no read outstanding
            some (b.set e { b.side e with operation := .ended, dropped := some message })
      | _ => none
  | .stop => some ((b.set .hub (b.side .hub).cancel).set .daemon (b.side .daemon).cancel)

/-- All that the peer behind a socket sends in a run. -/
def sentBy (e : RelayEnd) (labels : List RelayLabel) : List RelayMessage :=
  labels.filterMap fun
    | .send e' message => if e' = e then some message else none
    | _ => none

/-- What has been sent, with one step more. -/
theorem sentBy_concat (e : RelayEnd) (labels : List RelayLabel) (label : RelayLabel) :
    sentBy e (labels ++ [label]) = sentBy e labels ++ sentBy e [label] := by
  unfold sentBy
  rw [List.filterMap_append]

/-! ### What every step keeps -/

/-- **The invariant**, of one socket, with all labels so far. -/
structure SoundAt (b : RelayBridge) (labels : List RelayLabel) (e : RelayEnd) : Prop where
  /-- What the peer has sent was written to the other socket, is under way, or waits. -/
  relayed : sentBy e labels =
    (b.side e.other).written ++ (b.side e).inFlight ++ (b.side e).inbox
  /-- A message is dropped by a handler that reads on no more. -/
  dropped : (b.side e).dropped.isSome = true → (b.side e).operation = .ended
  failed : (b.side e).operation = .failed → (b.side e).broken = true
  /-- Who reads on no more has failed, and then the other waits for nothing, or could not write. -/
  ended : (b.side e).operation = .ended →
    (b.side e).broken = true ∧ (b.side e.other).operation ≠ .waiting ∨
      (b.side e).dropped.isSome = true

/-- The invariant of both. -/
def Sound (b : RelayBridge) (labels : List RelayLabel) : Prop := ∀ e, b.SoundAt labels e

/-- Nothing has been sent when the bridge is opened. -/
theorem sound_opened : opened.Sound [] := by
  intro e
  refine ⟨rfl, ?_, ?_, ?_⟩
  all_goals exact fun h => absurd h (by simp [opened])

variable {b : RelayBridge} {labels : List RelayLabel} {label : RelayLabel} {e : RelayEnd}

/-- Both sockets are one of the two. -/
theorem sound_of (h : b.SoundAt labels e) (hother : b.SoundAt labels e.other) : b.Sound labels := by
  intro e'
  by_cases heq : e' = e
  · exact heq ▸ h
  · exact RelayEnd.eq_other_of_ne heq ▸ hother

/-- A label that sends nothing. -/
theorem sentBy_concat_of_quiet (h : ∀ e message, label ≠ .send e message) (e : RelayEnd) :
    sentBy e (labels ++ [label]) = sentBy e labels := by
  rw [sentBy_concat]
  cases label with
  | send e message => exact absurd rfl (h e message)
  | _ => exact List.append_nil _

/-- A message that comes in waits behind the others. -/
theorem Sound.send (h : b.Sound labels) (message : RelayMessage) :
    (b.set e { b.side e with inbox := (b.side e).inbox ++ [message] }).Sound
      (labels ++ [.send e message]) := by
  have hself := h e
  have hother := h e.other
  apply sound_of (e := e)
  · refine ⟨?_, ?_, ?_, ?_⟩
    · rw [sentBy_concat, hself.relayed]
      simp [sentBy, Side.inFlight]
    · simpa using hself.dropped
    · simpa using hself.failed
    · simpa using hself.ended
  · refine ⟨?_, ?_, ?_, ?_⟩
    · rw [sentBy_concat, hother.relayed]
      simp [sentBy, Side.inFlight, Ne.symm e.other_ne]
    · simpa using hother.dropped
    · simpa using hother.failed
    · simpa using hother.ended

/-- The first message that waits is the next one under way. -/
theorem Sound.receive (h : b.Sound labels) (hwaiting : (b.side e).operation = .waiting)
    {message : RelayMessage} {inbox : List RelayMessage}
    (hinbox : (b.side e).inbox = message :: inbox) :
    (b.set e { b.side e with inbox := inbox, operation := .arrived message }).Sound
      (labels ++ [.receive e]) := by
  have hself := h e
  have hother := h e.other
  have hdropped : (b.side e).dropped = none := by
    by_contra hsome
    have hended := hself.dropped (Option.isSome_iff_ne_none.mpr hsome)
    rw [hwaiting] at hended
    exact absurd hended (by simp)
  apply sound_of (e := e)
  · refine ⟨?_, ?_, ?_, ?_⟩
    · rw [sentBy_concat_of_quiet (by simp), hself.relayed, hinbox]
      simp [Side.inFlight, hwaiting, hdropped]
    · simp [hdropped]
    · simp
    · simp
  · refine ⟨?_, ?_, ?_, ?_⟩
    · rw [sentBy_concat_of_quiet (by simp), hother.relayed]
      simp [Side.inFlight]
    · simpa using hother.dropped
    · simpa using hother.failed
    · intro hended
      right
      simpa [hwaiting] using hother.ended (by simpa using hended)

/-- A label that sends nothing may be left out. -/
theorem Sound.quiet (h : b.Sound labels) (hquiet : ∀ e message, label ≠ .send e message) :
    b.Sound (labels ++ [label]) := by
  intro e
  refine ⟨?_, (h e).dropped, (h e).failed, (h e).ended⟩
  rw [sentBy_concat_of_quiet hquiet]
  exact (h e).relayed

/-- Cancelling a read loses nothing. -/
theorem Sound.cancel (h : b.Sound labels) (e : RelayEnd) :
    (b.set e (b.side e).cancel).Sound labels := by
  have hself := h e
  have hother := h e.other
  apply sound_of (e := e)
  · refine ⟨?_, ?_, ?_, ?_⟩
    · simpa using hself.relayed
    · simpa using hself.dropped
    · rw [side_set_self]
      unfold Side.cancel
      split_ifs
      · exact fun _ => rfl
      · exact hself.failed
    · rw [side_set_self, side_set_other, Side.cancel_ended_iff, Side.dropped_cancel]
      intro hended
      unfold Side.cancel
      rw [if_neg (by simp [hended])]
      exact hself.ended hended
  · refine ⟨?_, ?_, ?_, ?_⟩
    · simpa using hother.relayed
    · simpa using hother.dropped
    · simpa using hother.failed
    · rw [side_set_other, RelayEnd.other_other, side_set_self]
      intro hended
      rcases hother.ended hended with ⟨hbroken, -⟩ | hdropped
      · exact Or.inl ⟨hbroken, (b.side e).operation_cancel_ne⟩
      · exact Or.inr hdropped

/-- A socket that has failed is given up when the other waits for nothing. -/
theorem Sound.giveUp (h : b.Sound labels) (hfailed : (b.side e).operation = .failed)
    (hother : (b.side e.other).operation ≠ .waiting) :
    (b.set e { b.side e with operation := .ended }).Sound labels := by
  have hself := h e
  have hpeer := h e.other
  apply sound_of (e := e)
  · refine ⟨?_, ?_, ?_, ?_⟩
    · rw [hself.relayed]
      simp [Side.inFlight, hfailed]
    · simp
    · simp
    · intro _
      left
      simpa using ⟨hself.failed hfailed, hother⟩
  · refine ⟨?_, ?_, ?_, ?_⟩
    · simpa using hpeer.relayed
    · simpa using hpeer.dropped
    · simpa using hpeer.failed
    · intro hended
      rcases hpeer.ended (by simpa using hended) with ⟨hbroken, -⟩ | hdropped
      · exact Or.inl (by simpa using hbroken)
      · exact Or.inr (by simpa using hdropped)

/-- A message that was read is written to the other socket. -/
theorem Sound.pass (h : b.Sound labels) {message : RelayMessage}
    (harrived : (b.side e).operation = .arrived message)
    (hopen : ¬((b.side e.other).broken ∧ (b.side e.other).operation = .ended)) :
    ((b.set e.other
      { b.side e.other with written := (b.side e.other).written ++ [message] }).set e
      { b.side e with operation := .waiting }).Sound labels := by
  have hself := h e
  have hpeer := h e.other
  have hdropped : (b.side e).dropped = none := by
    by_contra hsome
    have hended := hself.dropped (Option.isSome_iff_ne_none.mpr hsome)
    rw [harrived] at hended
    exact absurd hended (by simp)
  apply sound_of (e := e)
  · refine ⟨?_, ?_, ?_, ?_⟩
    · rw [hself.relayed]
      simp [Side.inFlight, harrived, hdropped]
    · simp [hdropped]
    · simp
    · simp
  · refine ⟨?_, ?_, ?_, ?_⟩
    · rw [hpeer.relayed]
      simp [Side.inFlight]
    · simpa using hpeer.dropped
    · simpa using hpeer.failed
    · intro hended
      have hended : (b.side e.other).operation = .ended := by simpa using hended
      rcases hpeer.ended hended with ⟨hbroken, -⟩ | hdropped
      · exact absurd ⟨hbroken, hended⟩ hopen
      · exact Or.inr (by simpa using hdropped)

/-- A message that cannot be written is dropped, and nothing more is read. -/
theorem Sound.drop (h : b.Sound labels) {message : RelayMessage}
    (harrived : (b.side e).operation = .arrived message) :
    (b.set e { b.side e with operation := .ended, dropped := some message }).Sound labels := by
  have hself := h e
  have hpeer := h e.other
  apply sound_of (e := e)
  · refine ⟨?_, ?_, ?_, ?_⟩
    · rw [hself.relayed]
      simp [Side.inFlight, harrived]
    · simp
    · simp
    · simp
  · refine ⟨?_, ?_, ?_, ?_⟩
    · simpa using hpeer.relayed
    · simpa using hpeer.dropped
    · simpa using hpeer.failed
    · intro hended
      rcases hpeer.ended (by simpa using hended) with ⟨hbroken, -⟩ | hdropped
      · exact Or.inl (by simpa using hbroken)
      · exact Or.inr (by simpa using hdropped)

/-- **Every step keeps the invariant.** -/
theorem sound_step (b : RelayBridge) (label : RelayLabel) (b' : RelayBridge)
    (labels : List RelayLabel) (h : b.Sound labels) (hstep : b.step label = some b') :
    b'.Sound (labels ++ [label]) := by
  cases label with
  | send e message =>
      obtain rfl := Option.some.inj hstep
      exact h.send message
  | receive e =>
      dsimp only [step] at hstep
      split at hstep
      · obtain rfl := Option.some.inj hstep
        exact h.receive ‹_› ‹_›
      · exact absurd hstep (by simp)
  | fail e =>
      dsimp only [step] at hstep
      split_ifs at hstep
      obtain rfl := Option.some.inj hstep
      exact (h.cancel e).quiet (by simp)
  | handle e written =>
      dsimp only [step] at hstep
      split at hstep
      · obtain rfl := Option.some.inj hstep
        refine Sound.quiet ?_ (by simp)
        have hcancelled := h.cancel e.other
        have hgiven := @Sound.giveUp _ _ e hcancelled (by simpa)
          (by simpa using Side.operation_cancel_ne _)
        simpa using hgiven
      · split_ifs at hstep with hwritten hbroken
        · obtain rfl := Option.some.inj hstep
          exact (h.pass ‹_› hbroken).quiet (by simp)
        · obtain rfl := Option.some.inj hstep
          exact (h.drop ‹_›).quiet (by simp)
      · exact absurd hstep (by simp)
  | stop =>
      obtain rfl := Option.some.inj hstep
      exact ((h.cancel .hub).cancel .daemon).quiet (by simp)

/-- **Messages are relayed in order, and the bridge closes as a whole.** Over every interleaving of
what the peers send, of reads and writes that succeed or fail, and of the timer: what the peer
behind a socket has sent is what was written to the other socket, then at most one message under
way, then what was not read yet; and when a socket is given up the other waits for nothing any more,
unless it was given up because the other could not be written to. -/
theorem messages_relayed {labels : List RelayLabel} {b : RelayBridge}
    (hrun : Reaches step opened labels b) (e : RelayEnd) :
    sentBy e labels = (b.side e.other).written ++ (b.side e).inFlight ++ (b.side e).inbox ∧
      (b.side e).inFlight.length ≤ 1 ∧
      ((b.side e).operation = .ended → (b.side e).dropped = none →
        (b.side e.other).operation ≠ .waiting) := by
  have hsound : b.Sound labels := by
    have hpast := hrun.history_invariant (fun b past => b.Sound (past.map Prod.snd))
      (by
        intro b label b' past h hstep
        rw [List.map_append]
        exact sound_step b label b' _ h hstep)
      sound_opened
    rw [hrun.history_labels] at hpast
    exact hpast
  refine ⟨(hsound e).relayed, ?_, ?_⟩
  · unfold Side.inFlight
    split
    · exact le_rfl
    · rcases (b.side e).dropped with _ | message
      · exact Nat.zero_le _
      · exact le_rfl
  · intro hended hdropped
    rcases (hsound e).ended hended with ⟨-, hother⟩ | hsome
    · exact hother
    · rw [hdropped] at hsome
      exact absurd hsome (by decide)

/-- The hub sends two messages, and the socket of the daemon fails behind the first. -/
def shortRelay : List RelayLabel :=
  [.send .hub { text := true, data := [104] }, .send .hub { text := false, data := [105] },
    .receive .hub, .handle .hub true, .receive .hub, .fail .daemon, .handle .daemon true,
    .handle .hub false]

/-- The first is relayed, the second was under way. -/
theorem messages_relayed_short :
    ∃ b, Reaches step opened shortRelay b ∧
      sentBy .hub shortRelay =
        (b.side .daemon).written ++ (b.side .hub).inFlight ++ (b.side .hub).inbox := by
  have hrun : Reaches step opened shortRelay _ :=
    .cons rfl (.cons rfl (.cons rfl (.cons rfl (.cons rfl (.cons rfl (.cons rfl (.cons rfl
      (.refl _))))))))
  exact ⟨_, hrun, (messages_relayed hrun .hub).1⟩

end RelayBridge

end Sentrits.Net
