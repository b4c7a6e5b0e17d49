import StorageEngine.Pool.Frame
import StorageEngine.Pool.Queue
import StorageEngine.Pool.Statistics
import StorageEngine.WaitPolicy

/-!
# Buffer pools

A pool keeps blocks in a fixed number of frames.  Whoever pins a block gets the frame that holds
it, and the frame keeps the block for as long as someone has it pinned.  A frame that nobody
has pinned keeps its block too, until it is needed for another one: then the frame that has been
without pins for the longest time is written back and given to the new block.  When all frames
are pinned, a pin of a block without a frame has to wait until one is given back.
-/

namespace StorageEngine

open Pool

/-- What a pin leaves in the hands of its caller: a frame of a pool. -/
structure Handle where
  pool : Nat
  frame : Nat
deriving DecidableEq

/-- A pool of `n` frames: its number among the pools, the frames, the frame of each block that
has one, the frames without pins, the longest without them first, and the counts. -/
structure Pool (n : Nat) where
  identity : Nat
  policy : WaitPolicy
  frames : Vector Frame n
  places : Std.ExtTreeMap BlockId (Fin n)
  unpinned : Queue (Fin n)
  statistics : Statistics

/-- What an attempt to pin a block comes to. -/
inductive Attempt (n : Nat) where
  /-- The block is in a frame, which has one more pin. -/
  | pinned (frame : Fin n)
  /-- Every frame is pinned, and none of them holds the block. -/
  | blocked
  /-- A frame could not be given to the block. -/
  | failed (cause : Failure)
  /-- The frame has as many pins as it can count. -/
  | refused (fault : Fault)
deriving DecidableEq

namespace Pool

variable {n : Nat} {σ : Type}

/-- A pool whose frames hold nothing. -/
def new (identity : Nat) (policy : WaitPolicy) (n : Nat) : Except Fault (Pool n) :=
  if n = 0 then
    .error .emptyPool
  else
    .ok {
      identity := identity
      policy := policy
      frames := .replicate n .empty
      places := ∅
      unpinned := .ofList (List.finRange n)
      statistics := {} }

/-- The frame in a place. -/
def frame (p : Pool n) (i : Fin n) : Frame :=
  p.frames[i]

/-- The number of frames without pins. -/
def available (p : Pool n) : Nat :=
  p.unpinned.length

/-- The number of pins of the frame that holds a block. -/
def pinCount? (p : Pool n) (b : BlockId) : Option UInt32 :=
  p.places[b]?.map fun i => (p.frame i).pins

/-- The pool with another frame in a place. -/
def setFrame (p : Pool n) (i : Fin n) (f : Frame) : Pool n :=
  { p with frames := p.frames.set i f }

/-- The pool with one more of what `count` adds up. -/
def tally (p : Pool n) (count : Statistics) : Pool n :=
  { p with statistics := p.statistics.add count }

theorem frame_setFrame (p : Pool n) (i j : Fin n) (f : Frame) :
  (p.setFrame i f).frame j = if i = j then f else p.frame j
  := by
  simp only [frame, setFrame, Fin.getElem_fin, Vector.getElem_set, Fin.ext_iff]

@[simp]
theorem frame_tally (p : Pool n) (count : Statistics) (i : Fin n) :
  (p.tally count).frame i = p.frame i
  := rfl

/-- The frame that a handle is of, if it is one of this pool. -/
def frame? (p : Pool n) (h : Handle) : Option (Fin n) :=
  if h.pool = p.identity then
    if hlt : h.frame < n then some ⟨h.frame, hlt⟩ else none
  else
    none

/-- The pool after the frame `i` was written back, if that was needed. -/
def flushFrame (p : Pool n) (m : Medium σ) (i : Fin n) (w : σ) :
    Except Failure Unit × Pool n × σ :=
  match (p.frame i).flush m w with
  | (.ok true, f, w) => (.ok (), (p.setFrame i f).tally { pagesWritten := 1 }, w)
  | (.ok false, f, w) => (.ok (), p.setFrame i f, w)
  | (.error cause, f, w) => (.error cause, p.setFrame i f, w)

/-- The pool without the block that a frame held before. -/
def unbind (p : Pool n) (previous : Option BlockId) : Pool n :=
  match previous with
  | some b => { p with places := p.places.erase b }.tally { reassignments := 1 }
  | none => p

/-- The pool after the block `b` was read into the frame `i`.  The block that the frame held
before loses it even if the read fails. -/
def load (p : Pool n) (m : Medium σ) (i : Fin n) (b : BlockId) (w : σ) :
    Except Failure Unit × Pool n × σ :=
  let previous := (p.frame i).block
  match (p.frame i).assign m b w with
  | (.ok (), f, w) =>
    let p := (p.setFrame i f).unbind previous
    (.ok (), { p with places := p.places.insert b i }.tally { pagesRead := 1 }, w)
  | (.error cause, f, w) => (.error cause, (p.setFrame i f).unbind previous, w)

/-- The frame that a block without one is to get, and what comes of writing it back: it is the first
in line, and leaves it. -/
def takeFirst (p : Pool n) (m : Medium σ) (w : σ) :
    Option (Fin n × Except Failure Unit × Pool n × σ) :=
  match p.unpinned.dequeue? with
  | (none, _) => none
  | (some i, unpinned) =>
    some (i, { p with unpinned := unpinned }.tally { misses := 1 } |>.flushFrame m i w)

/-- The pool with the block `b` in the frame `i`, if the frame could be written back. -/
def bind (m : Medium σ) (i : Fin n) (b : BlockId) (saved : Except Failure Unit × Pool n × σ) :
    Except Failure Unit × Pool n × σ :=
  match saved with
  | (.ok (), p, w) => p.load m i b w
  | (.error cause, p, w) => (.error cause, p, w)

/-- The pool with one more pin on the frame `i`. -/
def pinFrame (p : Pool n) (i : Fin n) : Attempt n × Pool n :=
  let p := if (p.frame i).isPinned then p else { p with unpinned := (p.unpinned.erase i).2 }
  match (p.frame i).pin with
  | (.ok _, f) => (.pinned i, p.setFrame i f)
  | (.error fault, f) => (.refused fault, p.setFrame i f)

/-- One attempt to pin the block `b`.  A frame that could not be given to the block is the next
one to be used again. -/
def attemptPin (p : Pool n) (m : Medium σ) (b : BlockId) (w : σ) : Attempt n × Pool n × σ :=
  match p.places[b]? with
  | some i =>
    let (attempt, p) := (p.tally { hits := 1 }).pinFrame i
    (attempt, p, w)
  | none =>
    match p.takeFirst m w with
    | none => (.blocked, p, w)
    | some (i, saved) =>
      match bind m i b saved with
      | (.ok (), p, w) =>
        let (attempt, p) := p.pinFrame i
        (attempt, p, w)
      | (.error cause, p, w) => (.failed cause, { p with unpinned := p.unpinned.putBack i }, w)

/-- The frame that a pin is taken from when it is given back by a handle, if there is one.  The
handle of another pool gives nothing back, nor does one of a frame that is not pinned. -/
def unpinTarget? (p : Pool n) (h : Handle) : Option (Fin n) :=
  match p.frame? h with
  | some i => if (p.frame i).isPinned then some i else none
  | none => none

/-- Whether a pin given back frees the frame, and wakes those who wait for one. -/
def wakes (p : Pool n) (h : Handle) : Bool :=
  match p.unpinTarget? h with
  | some i => (p.frame i).pins = 1
  | none => false

/-- The pool after a pin was given back.  A frame that loses its last pin stands in line behind
the others. -/
def unpin (p : Pool n) (h : Handle) : Pool n :=
  match p.unpinTarget? h with
  | none => p
  | some i =>
    let p' := p.setFrame i (p.frame i).unpin.2
    if p.wakes h then { p' with unpinned := (p'.unpinned.enqueue i).2 } else p'

/-- The pool after those of some frames that `select` selects were written back, one after the
other until one fails. -/
def flushEach (m : Medium σ) (select : Frame → Bool) :
    List (Fin n) → Pool n → σ → Except Failure Unit × Pool n × σ
  | [], p, w => (.ok (), p, w)
  | i :: is, p, w =>
    if select (p.frame i) then
      match p.flushFrame m i w with
      | (.ok (), p, w) => flushEach m select is p w
      | (.error cause, p, w) => (.error cause, p, w)
    else
      flushEach m select is p w

/-- The pool after the frames that `txn` was the last to change were written back. -/
def flushChangesOf (p : Pool n) (m : Medium σ) (txn : TxnId) (w : σ) :
    Except Failure Unit × Pool n × σ :=
  flushEach m (fun f => f.changedBy = some txn) (List.finRange n) p w

/-- The pool after all frames were written back. -/
def flushAll (p : Pool n) (m : Medium σ) (w : σ) : Except Failure Unit × Pool n × σ :=
  flushEach m (fun _ => true) (List.finRange n) p w

end Pool

end StorageEngine
