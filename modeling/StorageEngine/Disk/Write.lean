import StorageEngine.Bytes
import StorageEngine.Failure

/-!
# Writes

A write either stores all of its bytes or fails after storing some first part of them.  A
write that fails when all of its bytes are stored is one whose success could not be made
certain.
-/

namespace StorageEngine.Disk

/-- How a write ends. -/
inductive Fate where
  /-- All bytes are stored. -/
  | stored
  /-- The write fails, after it has stored at most `kept` bytes. -/
  | cut (kept : Nat)
deriving DecidableEq, Inhabited

/-- A file after a write of `new` at `offset`, and whether the write succeeded. -/
def write (file : Bytes) (offset : Nat) (new : Bytes) : Fate → Except Failure Unit × Bytes
  | .stored => (.ok (), file.overwrite offset new)
  | .cut kept => (.error (.disk none), file.overwrite offset (new.take kept))

/-- The fate of a write of `length` bytes at `offset`, when no file may reach past `limit`. -/
def fateUnder (limit : Option Nat) (offset length : Nat) : Fate :=
  match limit with
  | none => .stored
  | some limit => if offset + length ≤ limit then .stored else .cut (limit - offset)

end StorageEngine.Disk
