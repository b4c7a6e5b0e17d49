import StorageEngine.Identifier
import StorageEngine.Text.Quoted

/-!
# Failures and faults

A call on the engine ends in one of three ways: with its answer, with a `Failure` that the
caller is expected to handle, or with a `Fault`, when the call itself was wrong and nothing
sensible can be answered.  Two of the failures ask the transaction to give up its locks and
pins and to start over.
-/

namespace StorageEngine

/-- The causes for which a call fails. -/
inductive Failure where
  /-- The lock on a block cannot be had, or not in time. -/
  | lockDenied (block : BlockId) (txn : TxnId)
  /-- No frame for a block became free in time. -/
  | poolFull (block : BlockId)
  /-- The disk refused; the text is absent when the operating system did not tell one. -/
  | disk (detail : Option String)
  /-- The block lies past the end of its file. -/
  | noSuchBlock (block : BlockId)
  /-- The name is none that a file of blocks may have. -/
  | badFileName (name : String)
  /-- The length of the record does not fit its header. -/
  | recordTooLong (length : Nat)
  /-- The record is complete, but is not the one that was written. -/
  | corruptRecord (lsn : Lsn)
deriving DecidableEq, Inhabited

namespace Failure

/-- The failures that ask the transaction to start over. -/
def asksToStartOver : Failure → Bool
  | .lockDenied _ _ | .poolFull _ => true
  | _ => false

/-- The text of a failure, where there is one. -/
def message : Failure → Option String
  | .lockDenied block txn => some s!"could not acquire lock on {block.text} for {txn.text}"
  | .poolFull block => some s!"could not pin {block.text}: no buffer available"
  | .disk detail => detail.map fun text => s!"I/O error: {text}"
  | .noSuchBlock block => some s!"{block.text} not found"
  | .badFileName name => some s!"invalid file name: {Text.quote name}"
  | .recordTooLong length => some s!"log record of {length} bytes exceeds the frame limit"
  | .corruptRecord lsn => some s!"corrupt log record at {lsn.text}"

end Failure

/-- The ways in which a call can be wrong in itself. -/
inductive Fault where
  /-- A place outside of the page, or one whose address has more than 64 bits. -/
  | outOfRange
  /-- A byte string that would reach past the end of the page. -/
  | doesNotFit (length : Nat) (offset : UInt64)
  /-- A pool without frames. -/
  | emptyPool
  /-- A pin given back that was never taken. -/
  | pinUnderflow
  /-- More pins than a frame can count. -/
  | pinOverflow
deriving DecidableEq, Inhabited

/-- The text of a fault, where there is one. -/
def Fault.message : Fault → Option String
  | .outOfRange => none
  | .doesNotFit length offset =>
    some s!"byte string of {length} bytes does not fit at offset {offset}"
  | .emptyPool => some "pool_size must be > 0"
  | .pinUnderflow => some "pin count underflow"
  | .pinOverflow => none

end StorageEngine
