import StorageEngine.Pool.Medium
import StorageEngine.Text.Quoted

/-!
# Frames

A frame holds a page and says which block the page is of, who changed it since it was last
stored, which log record describes the latest change, and how many have it pinned.  A changed
page is written back to its block only after the log is stored up to that record.  A frame that
is given another block forgets about the change and the record; if the block cannot be read the
frame is left without a block, with a page of zeros.
-/

namespace StorageEngine.Pool

/-- A page and what is known of it. -/
@[ext]
structure Frame where
  page : Page
  block : Option BlockId
  changedBy : Option TxnId
  lsn : Option Lsn
  pins : UInt32
deriving DecidableEq

namespace Frame

/-- A frame without a block. -/
def empty : Frame :=
  ⟨.zero, none, none, none, 0⟩

instance : Inhabited Frame :=
  ⟨empty⟩

/-- Whether the page differs from what is stored of its block. -/
def isChanged (f : Frame) : Bool :=
  f.changedBy.isSome

/-- Whether someone has the frame pinned. -/
def isPinned (f : Frame) : Bool :=
  0 < f.pins

/-- The frame after a change by `txn` that the record `lsn` describes; a change that no record
describes leaves the earlier one in place. -/
def markChanged (f : Frame) (txn : TxnId) (lsn : Option Lsn) : Frame :=
  { f with changedBy := some txn, lsn := lsn <|> f.lsn }

/-- The frame with one more pin, and the number of its pins. -/
def pin (f : Frame) : Except Fault UInt32 × Frame :=
  (if f.pins + 1 = 0 then .error .pinOverflow else .ok (f.pins + 1),
    { f with pins := f.pins + 1 })

/-- The frame with one pin less, and the number of its pins. -/
def unpin (f : Frame) : Except Fault UInt32 × Frame :=
  (if f.pins = 0 then .error .pinUnderflow else .ok (f.pins - 1),
    { f with pins := f.pins - 1 })

variable {σ : Type}

/-- The frame after its page was written to the block `b`. -/
def writeBack (f : Frame) (m : Medium σ) (b : BlockId) (w : σ) :
    Except Failure Bool × Frame × σ :=
  match m.write b f.page w with
  | (.ok (), w) => (.ok true, { f with changedBy := none }, w)
  | (.error cause, w) => (.error cause, f, w)

/-- The frame without unsaved changes, and whether there was something to write. -/
def flush (f : Frame) (m : Medium σ) (w : σ) : Except Failure Bool × Frame × σ :=
  match f.changedBy, f.block with
  | some _, some b =>
    match f.lsn with
    | none => f.writeBack m b w
    | some lsn =>
      match m.flushLog lsn w with
      | (.ok (), w) => f.writeBack m b w
      | (.error cause, w) => (.error cause, f, w)
  | _, _ => (.ok false, f, w)

/-- The frame with the block `b` in it. -/
def assign (f : Frame) (m : Medium σ) (b : BlockId) (w : σ) :
    Except Failure Unit × Frame × σ :=
  match m.read b f.page w with
  | (.ok (), page, w) =>
    (.ok (), { f with page := page, block := some b, changedBy := none, lsn := none }, w)
  | (.error cause, _, w) =>
    (.error cause, { f with page := .zero, block := none, changedBy := none, lsn := none }, w)

/-- The text of something that may be absent. -/
def optionText (text : Option String) : String :=
  match text with
  | some text => s!"Some({text})"
  | none => "None"

/-- The text of a frame, without its page. -/
def text (f : Frame) (id : FrameId) : String :=
  let block := f.block.map fun b =>
    s!"BlockId \x7b file_name: {Text.quote b.file}, number: {b.number} \x7d"
  let changedBy := f.changedBy.map fun t => s!"TxnId({t.value})"
  let lsn := f.lsn.map Lsn.text
  s!"Buffer \x7b id: FrameId({id.index}), block: {optionText block}, pins: {f.pins}, "
    ++ s!"modified_by: {optionText changedBy}, lsn: {optionText lsn} \x7d"

end Frame

end StorageEngine.Pool
