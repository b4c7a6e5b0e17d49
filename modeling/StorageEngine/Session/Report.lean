import StorageEngine.Log.Record
import StorageEngine.Pool.Frame
import StorageEngine.Pool.Statistics
import StorageEngine.Session.Command

/-!
# Reports

What a session tells about each command: how the command itself ended, which of the calls that
were waiting came to an end, and how the part of the engine that the command was for looks
afterwards.
-/

namespace StorageEngine.Session

/-- A frame as it is shown. -/
structure FrameView where
  id : FrameId
  frame : Pool.Frame

/-- What a command answers. -/
inductive Value where
  | done
  /-- The call is under way. -/
  | started
  | flag (value : Bool)
  | count (value : Nat)
  | maybeCount (value : Option Nat)
  | mode (value : Option Lock.Mode)
  | policy (value : WaitPolicy)
  | txn (value : TxnId)
  | block (value : BlockId)
  | directory (isNew : Bool) (path : String)
  | page (value : Page)
  | names (value : List String)
  | content (value : Bytes)
  | bytes (value : Bytes)
  | recovered (last flushed : Option Lsn)
  | lsn (value : Lsn)
  | lsns (last flushed : Option Lsn)
  | records (value : List Bytes)
  | pool (size : Nat) (policy : WaitPolicy)
  | pinned (frame : FrameId)
  | scoped (frame : FrameId) (text : String)
  | statistics (value : Pool.Statistics)
  | answer (value : PageAnswer)
  | answers (value : List PageAnswer)
  | buffer (value : FrameView)
  | frame (value : FrameView)

/-- What is told beside a failure. -/
inductive Detail where
  | none
  /-- The page that was to be read into. -/
  | page (value : Page)
  /-- The mode that is held. -/
  | mode (value : Option Lock.Mode)

/-- How a command ends. -/
inductive Outcome where
  | value (value : Value)
  | failed (cause : Failure) (detail : Detail)
  | refused (fault : Fault)
  /-- The command makes no sense as things are, and changes nothing. -/
  | malformed

/-- The outcome of a call that answers a value or fails. -/
def Outcome.ofExcept {α : Type} (value : α → Value) : Except Failure α → Outcome
  | .ok a => .value (value a)
  | .error cause => .failed cause .none

/-- A lock table as it is shown: the number of locked blocks, and the blocks and their markers. -/
structure LockView where
  count : Nat
  blocks : List (BlockId × List Lock.Marker)

/-- A pool as it is shown. -/
structure PoolView where
  available : Nat
  unpinned : List Nat
  statistics : Pool.Statistics

/-- The call of a frame on its store or its log. -/
inductive Call where
  | read (block : BlockId)
  | write (block : BlockId)
  | log (lsn : Lsn)

/-- The kind of a call. -/
def Call.kind : Call → CallKind
  | .read _ => .read
  | .write _ => .write
  | .log _ => .log

/-- The word for a kind of call. -/
def CallKind.text : CallKind → String
  | .read => "read"
  | .write => "write"
  | .log => "log"

/-- The text of a call. -/
def Call.text : Call → String
  | .read b => s!"read {b.text}"
  | .write b => s!"write {b.text}"
  | .log lsn => s!"log {lsn.text}"

/-- What is shown after a command of the part of the engine that it was for. -/
structure View where
  locks : Option LockView
  /-- The calls of frames that have not been shown before. -/
  calls : Option (List Call)
  pool : Option PoolView
  /-- The number of pins of a frame, where the command was to unpin one. -/
  pins : Option (Option UInt32)

/-- The report on a command. -/
structure Report where
  outcome : Outcome
  /-- The calls that ended, by their names. -/
  finished : List (String × Outcome)
  view : View
  /-- The reports on the commands inside of this one. -/
  inner : List Report

end StorageEngine.Session
