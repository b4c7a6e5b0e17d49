import StorageEngine.Disk.Tree
import StorageEngine.Lock.Marker
import StorageEngine.Session.PageCommand
import StorageEngine.WaitPolicy

/-!
# Commands

What can be asked of an engine in a session, by the part of the engine that it is for.  Things
that are made in a session (managers, pools, pinned frames, calls under way) have names there.
-/

namespace StorageEngine.Session

/-- The commands on the lock table. -/
inductive LockCommand where
  /-- Takes a new table in place of the old one. -/
  | new (policy : WaitPolicy)
  | acquire (block : BlockId) (txn : TxnId) (mode : Lock.Mode)
  | release (block : BlockId) (txn : TxnId)
  | isLocked (block : BlockId)
  /-- Makes a request that may wait. -/
  | start (id : String) (block : BlockId) (txn : TxnId) (mode : Lock.Mode)

/-- The commands on the lock managers of transactions. -/
inductive ManagerCommand where
  | new (name : String) (txn : TxnId)
  | acquire (name : String) (block : BlockId) (mode : Lock.Mode)
  /-- Makes a call that may wait. -/
  | start (id name : String) (block : BlockId) (mode : Lock.Mode)
  | mode (name : String) (block : BlockId)
  | txn (name : String)
  | releaseAll (name : String)
  | drop (name : String)

/-- The commands on the block store. -/
inductive StoreCommand where
  | create (path : String)
  | append (file : String)
  | count (file : String)
  | read (block : BlockId)
  | write (block : BlockId) (page : Page)

/-- The kinds of calls that frames make. -/
inductive CallKind where
  | read
  | write
  | log
deriving DecidableEq

/-- The commands on the disk itself. -/
inductive DiskCommand where
  | list (path : String)
  | get (path : String) (whole : Bool)
  | put (path : String) (bytes : Bytes)
  | add (path : String) (bytes : Bytes)
  | flip (path : String) (place : Nat) (mask : UInt8)
  | resize (path : String) (length : Nat)
  | makeDirectory (path : String)
  | limit (bytes : Option Nat)
  /-- Lets a number of calls of a kind pass, and fails the next one. -/
  | failCall (kind : Option CallKind) (after : Nat)

/-- The commands on the log. -/
inductive LogCommand where
  | recover (path : String)
  | append (payload : Bytes) (times : Nat)
  | flush (lsn : Lsn)
  | records
  | lsns

/-- The commands on a pool. -/
inductive PoolCommand where
  | new (size : Nat) (policy : WaitPolicy)
  | pin (block : BlockId) (buffer : String)
  /-- Makes a pin call that may wait. -/
  | start (id : String) (block : BlockId) (buffer : String)
  | unpin (buffer : Option String)
  | flushChangesOf (txn : TxnId)
  | flushAll
  | pinCount (block : BlockId)
  | statistics
  | resetStatistics
  /-- Does nothing, and shows the pool. -/
  | look

/-- The commands on a frame that has a name because it was pinned. -/
inductive BufferCommand where
  | page (buffer : String) (commands : List PageCommand)
  | get (buffer : String) (command : PageCommand)
  | markChanged (buffer : String) (txn : TxnId) (lsn : Option Lsn)
  | info (buffer : String)

/-- The commands on a frame outside of any pool. -/
inductive FrameCommand where
  | new (frame : String) (id : FrameId)
  | pin (frame : String)
  | unpin (frame : String)
  | flush (frame : String)
  | assign (frame : String) (block : BlockId)
  | markChanged (frame : String) (txn : TxnId) (lsn : Option Lsn)
  | page (frame : String) (commands : List PageCommand)
  | info (frame : String)

/-- The commands of a session.  A command for a part of the engine that makes no sense is
absent. -/
inductive Command where
  | lock (command : Option LockCommand)
  | manager (command : Option ManagerCommand)
  | store (command : Option StoreCommand)
  | disk (command : Option DiskCommand)
  | log (command : Option LogCommand)
  | pool (pool : String) (command : Option PoolCommand)
  /-- Pins a block, runs commands, and gives the pin back. -/
  | scoped (pool : String) (block : BlockId) (buffer : String) (commands : List Command)
  | buffer (command : Option BufferCommand)
  | frame (command : Option FrameCommand)
  /-- Loses everything but the files and the locks. -/
  | crash
  /-- What is for no part of the engine. -/
  | malformed

instance : Inhabited Command :=
  ⟨.malformed⟩

end StorageEngine.Session
