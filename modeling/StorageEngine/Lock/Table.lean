import StorageEngine.Lock.Marker

/-!
# The lock table

The table maps each block that is locked to its markers, in the order in which they were put.
A block without markers has no entry.
-/

namespace StorageEngine.Lock

/-- The markers of the blocks that are locked. -/
@[ext]
structure Table where
  entries : Std.ExtTreeMap BlockId (List Marker)

namespace Table

/-- The table in which nothing is locked. -/
def empty : Table :=
  ⟨∅⟩

instance : Inhabited Table :=
  ⟨empty⟩

/-- The markers on a block. -/
def holders (t : Table) (b : BlockId) : List Marker :=
  t.entries[b]?.getD []

/-- Whether the table has an entry for a block. -/
def isLocked (t : Table) (b : BlockId) : Bool :=
  b ∈ t.entries

/-- The number of blocks that have an entry. -/
def lockedCount (t : Table) : Nat :=
  t.entries.size

/-- The locked blocks with their markers, in the order of the blocks. -/
def toList (t : Table) : List (BlockId × List Marker) :=
  t.entries.toList

/-- The verdict on a request. -/
def judge (t : Table) (b : BlockId) (mode : Mode) (txn : TxnId) : Verdict :=
  Lock.judge (t.holders b) mode txn

/-- The table with other markers on a block, which has no entry if there are none. -/
def put (t : Table) (b : BlockId) (markers : List Marker) : Table :=
  if markers.isEmpty then ⟨t.entries.erase b⟩ else ⟨t.entries.insert b markers⟩

/-- The table after a grant. -/
def grant (t : Table) (b : BlockId) (mode : Mode) (txn : TxnId) : Table :=
  t.put b (mark (t.holders b) mode txn)

/-- Whether a release takes a marker away; if it does, it wakes the requests that wait. -/
def wakes (t : Table) (b : BlockId) (txn : TxnId) : Bool :=
  unmark (t.holders b) txn ≠ t.holders b

/-- The table after a release.  The release of a lock that is not held changes nothing. -/
def release (t : Table) (b : BlockId) (txn : TxnId) : Table :=
  if t.wakes b txn then t.put b (unmark (t.holders b) txn) else t

/-- The table after a transaction has released some blocks, one after the other. -/
def releaseEach (t : Table) (txn : TxnId) (blocks : List BlockId) : Table :=
  blocks.foldl (fun t b => t.release b txn) t

@[simp]
theorem holders_empty (b : BlockId) :
  empty.holders b = []
  := by
  simp [holders, empty]

theorem holders_put (t : Table) (b c : BlockId) (markers : List Marker) :
  (t.put b markers).holders c = if b = c then markers else t.holders c
  := by
  cases markers with
  | nil =>
    simp only [holders, put, List.isEmpty_nil, if_true, Std.ExtTreeMap.getElem?_erase,
      Std.compare_eq_iff_eq]
    split <;> rfl
  | cons m ms =>
    simp only [holders, put, List.isEmpty_cons, Bool.false_eq_true, if_false,
      Std.ExtTreeMap.getElem?_insert, Std.compare_eq_iff_eq]
    split <;> rfl

theorem holders_grant (t : Table) (b c : BlockId) (mode : Mode) (txn : TxnId) :
  (t.grant b mode txn).holders c = if b = c then mark (t.holders b) mode txn else t.holders c
  := holders_put t b c _

theorem holders_release (t : Table) (b c : BlockId) (txn : TxnId) :
  (t.release b txn).holders c = if b = c then unmark (t.holders b) txn else t.holders c
  := by
  rw [release]
  split
  · apply holders_put
  · next hwakes =>
    split
    · next h =>
      subst h
      have hsame : unmark (t.holders b) txn = t.holders b := by
        simpa [wakes] using hwakes
      exact hsame.symm
    · rfl

end Table

end StorageEngine.Lock
