import StorageEngine.Session.Files
import StorageEngine.Session.Frames
import StorageEngine.Session.Locks
import StorageEngine.Session.Pools

/-!
# Running a session

The effect of each command on the state of a session, and the report on it.  After a command
the calls that wait look at the state once more, and only then is it shown.
-/

namespace StorageEngine.Session

namespace State

/-- The effect of a command for a part of the engine, unless it makes no sense. -/
def runSome {α : Type} (s : State) (run : State → α → Outcome × State) (c : Option α) :
    Outcome × State :=
  match c with
  | some c => run s c
  | none => (.malformed, s)

/-- The effect of a command that has no others inside. -/
def runPlain (s : State) (c : Command) : Outcome × State :=
  match c with
  | .lock c => s.runSome runLock c
  | .manager c => s.runSome runManager c
  | .store c => s.runSome runStore c
  | .disk c => s.runSome runDisk c
  | .log c => s.runSome runLog c
  | .pool name c => s.runSome (fun s c => s.runPool name c) c
  | .buffer c => s.runSome runBuffer c
  | .frame c => s.runSome runFrame c
  | .crash => (.value .done, s.crash)
  | .scoped _ _ _ _ | .malformed => (.malformed, s)

/-- The number of pins of the frame with a name. -/
def pins? (s : State) (buffer : Option String) : Option UInt32 :=
  (buffer.bind s.buffer?).map fun (_, f) => f.pins

/-- What is shown after a command. -/
def view (s : State) (c : Command) : View × State :=
  let withCalls := fun (pool : Option String) (pins : Option (Option UInt32)) =>
    let (calls, s) := s.takeCalls
    (⟨none, some calls, pool.bind s.poolView, pins⟩, s)
  match c with
  | .lock _ | .manager _ => (⟨s.lockView, none, none, none⟩, s)
  | .pool name (some (.unpin buffer)) => withCalls (some name) (some (s.pins? buffer))
  | .pool name _ | .scoped name _ _ _ => withCalls (some name) none
  | .frame _ => withCalls none none
  | _ => (⟨none, none, none, none⟩, s)

/-- The report on a command that ended in a given way, and the state after it. -/
def report (s : State) (c : Command) (outcome : Outcome) (inner : List Report) :
    Report × State :=
  let (finished, s) := s.settle
  let (view, s) := s.view c
  (⟨outcome, finished, view, inner⟩, s)

/-- The effect of the pin before some commands: the number of the pool, the handle, the frame
and its text. -/
def pinScoped (s : State) (name : String) (block : BlockId) (buffer : String) :
    (Nat × Handle × Value ⊕ Outcome) × State :=
  match s.pool? name with
  | none => (.inr .malformed, s)
  | some (i, p) =>
    match s.callAlone (s.pinCall i p block buffer) with
    | (.value (.pinned id), s) =>
      match s.buffer? buffer with
      | some (h, f) =>
        (.inl (i, h, .scoped id s!"PinnedBuffer \x7b buffer: {f.text id} \x7d"), s)
      | none => (.inr .malformed, s)
    | (outcome, s) => (.inr outcome, s)

mutual

/-- The report on a command, and the state after it. -/
def run (s : State) (c : Command) : Report × State :=
  match c with
  | .scoped name block buffer commands =>
    match s.pinScoped name block buffer with
    | (.inl (i, h, value), s) =>
      let (inner, s) := s.runAll commands
      (s.unpin i h).report (.scoped name block buffer commands) (.value value) inner
    | (.inr outcome, s) => s.report (.scoped name block buffer commands) outcome []
  | c =>
    let (outcome, s) := s.runPlain c
    s.report c outcome []

/-- The reports on some commands, and the state after them. -/
def runAll (s : State) (cs : List Command) : List Report × State :=
  match cs with
  | [] => ([], s)
  | c :: cs =>
    let (report, s) := s.run c
    let (reports, s) := s.runAll cs
    (report :: reports, s)

end

/-- The names of the calls that still wait, in order. -/
def waitingNames (s : State) : List String :=
  (s.waiting.map (·.id)).mergeSort

end State

/-- The reports on the commands of a session, and the state at its end. -/
def run (cs : List Command) : List Report × State :=
  State.initial.runAll cs

end StorageEngine.Session
