import StorageEngine.Disk.Store
import StorageEngine.Log.Journal
import StorageEngine.Session.Report

/-!
# The backing of a session

What lies below the frames of a session: the volume with its files, and the journals that were
opened on it.  The calls that frames make on it are noted, and one of them can be made to fail.
-/

namespace StorageEngine.Session

/-- A journal and the path of its file. -/
structure OpenJournal where
  path : Disk.Path
  journal : Log.Journal

/-- The plan to fail a call of some kind after a number of others of that kind. -/
structure FailurePlan where
  kind : CallKind
  after : Nat

/-- The volume, the journals, the calls that have not been shown yet with the latest first, and
the plan to fail one. -/
structure Backing where
  volume : Disk.Volume
  journals : Array OpenJournal
  calls : List Call
  failurePlan : Option FailurePlan

namespace Backing

/-- The backing at the beginning of a session. -/
def initial : Backing :=
  ⟨.empty, #[], [], none⟩

/-- The backing after a call was made on it, and the failure of the call if it is to fail. -/
def note (w : Backing) (c : Call) : Option Failure × Backing :=
  let w := { w with calls := c :: w.calls }
  match w.failurePlan with
  | none => (none, w)
  | some plan =>
    if plan.kind ≠ c.kind then
      (none, w)
    else if plan.after = 0 then
      (some (.disk (some s!"injected {c.kind.text} failure")), { w with failurePlan := none })
    else
      (none, { w with failurePlan := some { plan with after := plan.after - 1 } })

/-- The backing after a journal was opened on the file that a text spells the path to, and the
number of the journal. -/
def openJournal (w : Backing) (text : String) :
    Except Failure (Nat × Log.Journal) × Backing :=
  match (Disk.Route.ofText? text).map w.volume.tree.openAlong with
  | none => (.error (.disk none), w)
  | some (.error cause) => (.error cause, w)
  | some (.ok (path, file, tree)) =>
    let volume := { w.volume with tree := tree }
    match Log.Journal.recover file with
    | .error cause => (.error cause, { w with volume := volume })
    | .ok (journal, file) =>
      (.ok (w.journals.size, journal),
        { w with
          volume := volume.store path file
          journals := w.journals.push ⟨path, journal⟩ })

/-- The content of the file of a journal. -/
def journalFile (w : Backing) (j : OpenJournal) : Bytes :=
  (w.volume.tree.file? j.path).getD []

/-- The backing with another state of a journal. -/
def setJournal (w : Backing) (i : Nat) (j : OpenJournal) : Backing :=
  { w with journals := w.journals.setIfInBounds i j }

/-- The backing after a journal was flushed up to a record. -/
def flushJournal (w : Backing) (i : Nat) (lsn : Lsn) : Except Failure Unit × Backing :=
  match w.journals[i]? with
  | none => (.ok (), w)
  | some j =>
    let file := w.journalFile j
    let fate := Disk.fateUnder w.volume.limit file.length j.journal.pending.length
    let (result, journal, file) := j.journal.flush lsn file fate
    (result,
      { w.setJournal i { j with journal := journal } with volume := w.volume.store j.path file })

/-- The calls of frames on a store and a journal. -/
def medium (store : Disk.Store) (journal : Nat) : Pool.Medium Backing where
  read b page w :=
    match w.note (.read b) with
    | (some cause, w) => (.error cause, page, w)
    | (none, w) =>
      let (result, page, volume) := store.read b page w.volume
      (result, page, { w with volume := volume })
  write b page w :=
    match w.note (.write b) with
    | (some cause, w) => (.error cause, w)
    | (none, w) =>
      let (result, volume) := store.write b page w.volume
      (result, { w with volume := volume })
  flushLog lsn w :=
    match w.note (.log lsn) with
    | (some cause, w) => (.error cause, w)
    | (none, w) => w.flushJournal journal lsn

end Backing

end StorageEngine.Session
