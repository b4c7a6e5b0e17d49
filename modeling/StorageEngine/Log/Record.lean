import StorageEngine.Failure
import StorageEngine.Log.Checksum

/-!
# Log records

The form of a record in the log file: the length of the payload in four bytes, its checksum
in four more, and the payload.  A log file is a sequence of such records.  The last one may be
torn, because the engine stopped while it was being written: then the file ends inside its
header, or before as many bytes as the header announces.  A scan leaves a torn record out; it
fails at a record that is complete but does not have the checksum that it announces.
-/

namespace StorageEngine.Log

/-- The bytes that the header of a record takes. -/
def headerSize : Nat := 8

/-- The form of a record in the file. -/
def encodeRecord (payload : Bytes) : Bytes :=
  .ofNat 4 payload.length ++ .ofNat 4 (Checksum.ofBytes payload).toNat ++ payload

/-- Whether the header of a record has room for the length of a payload. -/
def fitsHeader (payload : Bytes) : Bool :=
  payload.length < UInt32.size

theorem length_encodeRecord (payload : Bytes) :
  (encodeRecord payload).length = headerSize + payload.length
  := by
  simp only [encodeRecord, List.length_append, Bytes.length_ofNat, headerSize]

/-- What stands at the beginning of a string of bytes. -/
inductive Head where
  /-- No complete record. -/
  | torn
  /-- A complete record, which fails its checksum. -/
  | corrupt
  /-- A record, and the bytes after it. -/
  | record (payload rest : Bytes)
deriving DecidableEq

/-- What stands at the beginning of the bytes `bs`. -/
def head (bs : Bytes) : Head :=
  let body := bs.drop headerSize
  let length := (bs.slice 0 4).toNat
  if bs.length < headerSize ∨ body.length < length then
    .torn
  else if (Checksum.ofBytes (body.take length)).toNat ≠ (bs.slice 4 4).toNat then
    .corrupt
  else
    .record (body.take length) (body.drop length)

theorem length_rest_lt {bs payload rest : Bytes} (h : head bs = .record payload rest) :
  rest.length < bs.length
  := by
  simp only [head] at h
  split at h
  · contradiction
  · split at h
    · contradiction
    · cases h
      simp only [List.length_drop, headerSize] at *
      omega

/-- The number of bytes that records take in the file. -/
def extent (records : List Bytes) : Nat :=
  records.foldr (fun payload n => headerSize + payload.length + n) 0

/-- The complete records at the beginning of `bs`, when `count` records come before them. -/
def scanFrom (count : Nat) (bs : Bytes) : Except Failure (List Bytes) :=
  match h : head bs with
  | .torn => .ok []
  | .corrupt => .error (.corruptRecord ⟨UInt64.ofNat (count + 1)⟩)
  | .record payload rest => (scanFrom (count + 1) rest).map (payload :: ·)
termination_by bs.length
decreasing_by exact length_rest_lt h

/-- The complete records of a log file. -/
def scan (bs : Bytes) : Except Failure (List Bytes) :=
  scanFrom 0 bs

end StorageEngine.Log
