import Std.Data.ExtTreeMap
import Std.Data.ExtTreeSet

/-!
# Identifiers

The names that the parts of the engine use for each other's things: blocks, transactions,
log records and frames.  A block is a place in a file, and blocks are ordered by file name,
code point by code point, and then by number.  Transactions are numbered in the order in
which they start, so the one with the lower number is the older; it is this age that the
lock table goes by.  Log records are numbered from 1 in the order of the log.
-/

namespace StorageEngine

/-- The block `number` of the file `file`. -/
structure BlockId where
  file : String
  number : UInt64
deriving DecidableEq, Inhabited

/-- The number of a transaction. -/
structure TxnId where
  value : UInt64
deriving DecidableEq, Inhabited

/-- The number of a log record. -/
structure Lsn where
  value : UInt64
deriving DecidableEq, Inhabited

/-- The place of a frame in its pool. -/
structure FrameId where
  index : UInt64
deriving DecidableEq, Inhabited

namespace BlockId

instance : Ord BlockId :=
  ⟨compareLex (compareOn BlockId.file) (compareOn BlockId.number)⟩

instance : Std.TransOrd BlockId :=
  inferInstanceAs (Std.TransCmp (compareLex (compareOn BlockId.file) (compareOn BlockId.number)))

theorem compare_eq (a b : BlockId) :
  compare a b = (compare a.file b.file).then (compare a.number b.number)
  := rfl

instance : Std.LawfulEqOrd BlockId where
  eq_of_compare {a b} h := by
    rw [compare_eq, Ordering.then_eq_eq] at h
    obtain ⟨hfile, hnumber⟩ := h
    cases a
    cases b
    simp_all

/-- The different blocks of a list, in order. -/
def inOrder (bs : List BlockId) : List BlockId :=
  (Std.ExtTreeSet.ofList bs).toList

/-- The text of a block. -/
def text (b : BlockId) : String :=
  s!"[file {b.file}, block {b.number}]"

end BlockId

namespace TxnId

/-- `a < b` when `a` is the older of the two transactions. -/
instance : LT TxnId :=
  ⟨fun a b => a.value < b.value⟩

instance (a b : TxnId) : Decidable (a < b) :=
  inferInstanceAs (Decidable (a.value < b.value))

instance : Ord TxnId :=
  ⟨compareOn TxnId.value⟩

theorem lt_iff (a b : TxnId) :
  a < b ↔ a.value.toNat < b.value.toNat
  := UInt64.lt_iff_toNat_lt

/-- The text of a transaction. -/
def text (t : TxnId) : String :=
  s!"Txn({t.value})"

end TxnId

namespace Lsn

instance : Ord Lsn :=
  ⟨compareOn Lsn.value⟩

/-- The text of a log record's number. -/
def text (l : Lsn) : String :=
  s!"Lsn({l.value})"

end Lsn

/-- The text of a frame. -/
def FrameId.text (f : FrameId) : String :=
  s!"Buffer({f.index})"

end StorageEngine
