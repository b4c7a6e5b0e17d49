import StorageEngine.Session.State

/-!
# Commands on files

The effect of the commands on the block store, on the log, and on the disk below them.  The last
go past the store and the log, which then find the files as they were left.
-/

namespace StorageEngine.Session.State

/-- The state with another volume. -/
def setVolume (s : State) (v : Disk.Volume) : State :=
  { s with backing := { s.backing with volume := v } }

/-- The page into which blocks are read when they are shown: it tells whether it was filled. -/
def readTarget : Page :=
  .ofBytes [0xFF, 0xFF, 0xFF, 0xFF]

/-- The effect of a command on the block store. -/
def runStore (s : State) (c : StoreCommand) : Outcome × State :=
  match c, s.store with
  | .create path, _ =>
    match Disk.Store.create path s.backing.volume with
    | (.ok (isNew, store), v) =>
      (.value (.directory isNew path), { s.setVolume v with store := some store })
    | (.error cause, v) => (.failed cause .none, s.setVolume v)
  | .append file, some store =>
    let (result, v) := store.append file s.backing.volume
    (.ofExcept .block result, s.setVolume v)
  | .count file, some store =>
    let (result, v) := store.count file s.backing.volume
    (.ofExcept .count result, s.setVolume v)
  | .read block, some store =>
    match store.read block readTarget s.backing.volume with
    | (.ok (), page, v) => (.value (.page page), s.setVolume v)
    | (.error cause, page, v) => (.failed cause (.page page), s.setVolume v)
  | .write block page, some store =>
    let (result, v) := store.write block page s.backing.volume
    (.ofExcept (fun _ => .done) result, s.setVolume v)
  | _, none => (.malformed, s)

/-- The state with another tree of files. -/
def setTree (s : State) (t : Disk.Tree) : State :=
  s.setVolume { s.backing.volume with tree := t }

/-- The path that a text spells, if something is there. -/
def follow? (s : State) (text : String) : Option Disk.Path :=
  (Disk.Route.ofText? text).bind s.backing.volume.tree.follow?

/-- The path that a text spells and the content of the file there. -/
def file? (s : State) (text : String) : Option (Disk.Path × Bytes) :=
  (s.follow? text).bind fun path =>
    (s.backing.volume.tree.file? path).map fun bytes => (path, bytes)

/-- The effect of a change of a file that has to be there. -/
def editFile (s : State) (text : String) (edit : Bytes → Option Bytes) : Outcome × State :=
  match s.file? text with
  | none => (.malformed, s)
  | some (path, bytes) =>
    match edit bytes with
    | some bytes => (.value .done, s.setTree (s.backing.volume.tree.store path bytes))
    | none => (.malformed, s)

/-- The effect of a command on the disk itself. -/
def runDisk (s : State) (c : DiskCommand) : Outcome × State :=
  let tree := s.backing.volume.tree
  match c with
  | .list path =>
    match (s.follow? path).filter tree.isDirectory with
    | some path => (.value (.names (tree.names path)), s)
    | none => (.malformed, s)
  | .get path whole =>
    match s.file? path with
    | some (_, bytes) => (.value (if whole then .bytes bytes else .content bytes), s)
    | none => (.malformed, s)
  | .put path bytes =>
    match (Disk.Route.ofText? path).map tree.openAlong with
    | some (.ok (path, _, tree)) => (.value .done, s.setTree (tree.store path bytes))
    | _ => (.malformed, s)
  | .add path bytes => s.editFile path fun file => some (file ++ bytes)
  | .flip path place mask =>
    s.editFile path fun file =>
      file[place]?.map fun b => file.set place (b ^^^ mask)
  | .resize path length => s.editFile path fun file => some (file.resize length)
  | .makeDirectory path =>
    match (Disk.Route.ofText? path).map tree.makeDirectories with
    | some (.ok _, tree) => (.value .done, s.setTree tree)
    | _ => (.malformed, s)
  | .limit bytes => (.value .done, s.setVolume { s.backing.volume with limit := bytes })
  | .failCall kind after =>
    let plan := kind.map fun kind => FailurePlan.mk kind after
    (.value .done, { s with backing := { s.backing with failurePlan := plan } })

/-- The journal after a payload was appended a number of times, and the number of the latest
record. -/
def appendTimes (payload : Bytes) :
    Nat → Option Lsn → Log.Journal → Except Failure (Option Lsn × Log.Journal)
  | 0, lsn, j => .ok (lsn, j)
  | times + 1, _, j =>
    match j.append payload with
    | .ok (lsn, j) => appendTimes payload times (some lsn) j
    | .error cause => .error cause

/-- The effect of a command on the log. -/
def runLog (s : State) (c : LogCommand) : Outcome × State :=
  match c with
  | .recover path =>
    match s.backing.openJournal path with
    | (.ok (i, journal), backing) =>
      (.value (.recovered journal.latest? journal.stored?),
        { s with backing := backing, journal := some i })
    | (.error cause, backing) => (.failed cause .none, { s with backing := backing })
  | c =>
    match s.journal.bind fun i => s.backing.journals[i]?.map fun j => (i, j) with
    | none => (.malformed, s)
    | some (i, j) =>
      match c with
      | .append payload times =>
        match appendTimes payload times none j.journal with
        | .ok (lsn, journal) =>
          (.value ((lsn.map .lsn).getD .done),
            { s with backing := s.backing.setJournal i { j with journal := journal } })
        | .error cause => (.failed cause .none, s)
      | .flush lsn =>
        let (result, backing) := s.backing.flushJournal i lsn
        (.ofExcept (fun _ => .done) result, { s with backing := backing })
      | .records => (.ofExcept .records (Log.scan (s.backing.journalFile j)), s)
      | .lsns => (.value (.lsns j.journal.latest? j.journal.stored?), s)
      | .recover _ => (.malformed, s)

end StorageEngine.Session.State
