import StorageEngine.Session.State

/-!
# Commands on frames

The effect of the commands on the frames of pools, by the names that they were pinned under, and
on frames outside of any pool.  A name stands for its frame also after the pin was given back,
whatever block the frame may hold by then.
-/

namespace StorageEngine.Session.State

/-- The effect of a command on a frame that has a name because it was pinned. -/
def runBuffer (s : State) (c : BufferCommand) : Outcome × State :=
  let name := match c with
    | .page buffer _ | .get buffer _ | .markChanged buffer _ _ | .info buffer => buffer
  match s.buffer? name with
  | none => (.malformed, s)
  | some (h, f) =>
    match c with
    | .page _ commands =>
      let (answers, page) := PageCommand.runAll commands f.page
      (.value (.answers answers), s.setFrame h { f with page := page })
    | .get _ command =>
      match command.read f.page with
      | .refused fault => (.refused fault, s)
      | .malformed => (.malformed, s)
      | answer => (.value (.answer answer), s)
    | .markChanged _ txn lsn => (.value .done, s.setFrame h (f.markChanged txn lsn))
    | .info _ => (.value (.buffer ⟨⟨UInt64.ofNat h.frame⟩, f⟩), s)

/-- The effect of a command on a frame outside of any pool that is there. -/
def runOpenFrame (s : State) (name : String) (f : OpenFrame) (c : FrameCommand) :
    Outcome × State :=
  let set := fun (frame : Pool.Frame) =>
    { s with frames := s.frames.insert name { f with frame := frame } }
  let medium := Backing.medium f.store f.journal
  match c with
  | .new _ _ => (.malformed, s)
  | .pin _ =>
    match f.frame.pin with
    | (.ok pins, frame) => (.value (.count pins.toNat), set frame)
    | (.error fault, frame) => (.refused fault, set frame)
  | .unpin _ =>
    match f.frame.unpin with
    | (.ok pins, frame) => (.value (.count pins.toNat), set frame)
    | (.error fault, frame) => (.refused fault, set frame)
  | .flush _ =>
    let (result, frame, backing) := f.frame.flush medium s.backing
    (.ofExcept .flag result, { set frame with backing := backing })
  | .assign _ block =>
    let (result, frame, backing) := f.frame.assign medium block s.backing
    (.ofExcept (fun _ => .done) result, { set frame with backing := backing })
  | .markChanged _ txn lsn => (.value .done, set (f.frame.markChanged txn lsn))
  | .page _ commands =>
    let (answers, page) := PageCommand.runAll commands f.frame.page
    (.value (.answers answers), set { f.frame with page := page })
  | .info _ => (.value (.frame ⟨f.id, f.frame⟩), s)

/-- The effect of a command on a frame outside of any pool. -/
def runFrame (s : State) (c : FrameCommand) : Outcome × State :=
  match c with
  | .new name id =>
    match s.store, s.journal with
    | some store, some journal =>
      (.value .done, { s with frames := s.frames.insert name ⟨id, .empty, store, journal⟩ })
    | _, _ => (.malformed, s)
  | .pin name | .unpin name | .flush name | .assign name _ | .markChanged name _ _
  | .page name _ | .info name =>
    match s.frames[name]? with
    | some f => s.runOpenFrame name f c
    | none => (.malformed, s)

end StorageEngine.Session.State
