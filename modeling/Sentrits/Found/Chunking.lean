import Mathlib.Data.List.Basic

/-!
# Streams that arrive in chunks

A transducer reads a stream one symbol at a time, keeps a state and emits output. A program that
is handed the stream in pieces must not depend on where the cuts fall, and one that serves
several streams at once must keep them apart.

* `feed_append`: two chunks one after the other are the one concatenated chunk.
* `view_foldl`: **interleaving rule.** If every call feeds its chunk to the transducer of its own
  tag and leaves the other tags alone, then after any list of calls each tag has seen exactly
  the concatenation of its own chunks. `Inv` is an invariant of the calls; `Good` is the part of
  the state space in which they behave so, and a call may leave it for good.
-/

namespace Found.Chunking

variable {σ β ω : Type*}

/-! ### One stream -/

/-- The state and the output after reading `bs` from `s`. -/
def run (step : σ → β → σ × List ω) : σ → List β → σ × List ω
  | s, [] => (s, [])
  | s, b :: bs => ((run step (step s b).1 bs).1, (step s b).2 ++ (run step (step s b).1 bs).2)

variable {step : σ → β → σ × List ω}

/-- Nothing is read. -/
@[simp] theorem run_nil (s : σ) : run step s [] = (s, []) := rfl

/-- The first element is read first. -/
theorem run_cons (s : σ) (b : β) (bs : List β) :
    run step s (b :: bs) =
      ((run step (step s b).1 bs).1, (step s b).2 ++ (run step (step s b).1 bs).2) := rfl

/-- Reading on from a state that was reached with output `p.2`. -/
def feed (step : σ → β → σ × List ω) (p : σ × List ω) (bs : List β) : σ × List ω :=
  ((run step p.1 bs).1, p.2 ++ (run step p.1 bs).2)

/-- Nothing more is read. -/
@[simp] theorem feed_nil (p : σ × List ω) : feed step p [] = p := by
  simp [feed]

/-- The first element is read behind what has been read. -/
theorem feed_cons (p : σ × List ω) (b : β) (bs : List β) :
    feed step p (b :: bs) = feed step ((step p.1 b).1, p.2 ++ (step p.1 b).2) bs := by
  simp [feed, run_cons]

/-- **A stream does not notice where it was cut.** -/
theorem feed_append (p : σ × List ω) (xs ys : List β) :
    feed step p (xs ++ ys) = feed step (feed step p xs) ys := by
  induction xs generalizing p with
  | nil => simp
  | cons x xs ih => rw [List.cons_append, feed_cons, ih, ← feed_cons]

/-- Reading two pieces one after the other. -/
theorem run_append (s : σ) (xs ys : List β) :
    run step s (xs ++ ys) =
      ((run step (run step s xs).1 ys).1, (run step s xs).2 ++ (run step (run step s xs).1 ys).2) := by
  induction xs generalizing s with
  | nil => rfl
  | cons x xs ih => rw [List.cons_append, run_cons, ih, run_cons, List.append_assoc]

/-! ### Several streams, interleaved -/

section Interleaving

variable {S τ κ : Type*} [DecidableEq τ]

/-- What the calls with tag `t` deliver, concatenated in call order. -/
def delivered (tag : κ → τ) (chunk : κ → List β) (t : τ) : List κ → List β
  | [] => []
  | c :: cs => (if tag c = t then chunk c else []) ++ delivered tag chunk t cs

variable {tag : κ → τ} {chunk : κ → List β}

/-- Nothing is delivered. -/
@[simp] theorem delivered_nil (t : τ) : delivered tag chunk t [] = [] := rfl

/-- The first chunk is delivered first, if it is of that kind. -/
theorem delivered_cons (t : τ) (c : κ) (cs : List κ) :
    delivered tag chunk t (c :: cs) =
      (if tag c = t then chunk c else []) ++ delivered tag chunk t cs := rfl

/-- One more call delivers its chunk behind the others. -/
theorem delivered_concat (t : τ) (cs : List κ) (c : κ) :
    delivered tag chunk t (cs ++ [c]) =
      delivered tag chunk t cs ++ if tag c = t then chunk c else [] := by
  induction cs with
  | nil => simp [delivered]
  | cons d ds ih => rw [List.cons_append, delivered_cons, ih, delivered_cons, List.append_assoc]

/-- **Interleaving rule.** -/
theorem view_foldl {call : S → κ → S} {view : τ → S → σ × List ω} (Inv Good : S → Prop)
    (hinv : ∀ s c, Inv s → Inv (call s c))
    (hback : ∀ s c, Good (call s c) → Good s)
    (hview : ∀ s c, Inv s → Good (call s c) → ∀ t,
      view t (call s c) = feed step (view t s) (if tag c = t then chunk c else []))
    {s : S} (hs : Inv s) (cs : List κ) (h : Good (cs.foldl call s)) (t : τ) :
    view t (cs.foldl call s) = feed step (view t s) (delivered tag chunk t cs) := by
  have hgood : ∀ (cs : List κ) (s : S), Good (cs.foldl call s) → Good s := by
    intro cs
    induction cs with
    | nil => exact fun _ hs => hs
    | cons c cs ih => exact fun s hs => hback s c (ih (call s c) hs)
  induction cs generalizing s with
  | nil => simp
  | cons c cs ih =>
      rw [List.foldl_cons] at h ⊢
      rw [ih (hinv s c hs) h, hview s c hs (hgood cs _ h) t, delivered_cons, feed_append]

end Interleaving

end Found.Chunking
