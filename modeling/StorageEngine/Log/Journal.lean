import StorageEngine.Disk.Write
import StorageEngine.Log.Record

/-!
# The journal

A journal appends records to a log file.  An appended record gets its number at once but waits
in memory until the journal is flushed.  A flush writes all the records that wait, at the end
of the file; when that fails the file is cut back to where it ended, and the records wait on.
So the record with the number `n` is the `n`-th record of the file, or waits to become it.
-/

namespace StorageEngine.Log

/-- The records that wait, in the form in which they will be written, the number of the latest
record, and that of the latest record in the file; the number 0 stands for no record. -/
@[ext]
structure Journal where
  pending : Bytes
  last : UInt64
  flushed : UInt64
deriving DecidableEq

/-- The record with a number, where 0 stands for no record. -/
def lsn? (n : UInt64) : Option Lsn :=
  if n = 0 then none else some ⟨n⟩

namespace Journal

/-- The journal on a file, and the file without a torn record at its end. -/
def recover (file : Bytes) : Except Failure (Journal × Bytes) :=
  (scan file).map fun records =>
    (⟨[], UInt64.ofNat records.length, UInt64.ofNat records.length⟩, file.take (extent records))

/-- The number of the latest record. -/
def latest? (j : Journal) : Option Lsn :=
  lsn? j.last

/-- The number of the latest record in the file. -/
def stored? (j : Journal) : Option Lsn :=
  lsn? j.flushed

/-- The journal with one more record that waits, and the number of the record. -/
def append (j : Journal) (payload : Bytes) : Except Failure (Lsn × Journal) :=
  if fitsHeader payload then
    .ok (⟨j.last + 1⟩,
      { j with pending := j.pending ++ encodeRecord payload, last := j.last + 1 })
  else
    .error (.recordTooLong payload.length)

/-- Whether a flush up to a record has something to write. -/
def mustWrite (j : Journal) (lsn : Lsn) : Bool :=
  j.flushed < lsn.value && !j.pending.isEmpty

/-- The journal and its file after a flush up to a record. -/
def flush (j : Journal) (lsn : Lsn) (file : Bytes) (fate : Disk.Fate) :
    Except Failure Unit × Journal × Bytes :=
  if j.mustWrite lsn then
    match Disk.write file file.length j.pending fate with
    | (.ok (), file) => (.ok (), { j with pending := [], flushed := j.last }, file)
    | (.error cause, partly) => (.error cause, j, partly.resize file.length)
  else
    (.ok (), j, file)

end Journal

end StorageEngine.Log
