import StorageEngine.Proofs.Log.System

/-!
# What is in the log stays there

A journal that starts on a file without bytes does what the chronicle of its records says, however
many flushes fail, wherever their writes break off, and however often the engine stops.  The file
holds the durable records and nothing else at every moment, and these only get more: none of them
is lost, repeated or given another number.
-/

namespace StorageEngine.Log

namespace System

/-- From a file without bytes on, the events are answered as the chronicle says.  At the end the
file holds the durable records, they are what is read from it, their number and that of all records
are the numbers that the journal tells, and whatever happens next, the durable records stay where
they are. -/
theorem durability_of_run {start : System} (hstart : recover [] = .ok start)
    (events : List Event) (hnumbered : Chronicle.empty.Numbered events) :
  let s := start.run events
  let c := Chronicle.empty.run events
  start.answers events = Chronicle.empty.answers events
    ∧ s.file = encode c.durable
    ∧ scan s.file = .ok c.durable
    ∧ s.journal.stored? = number? c.durable.length
    ∧ s.journal.latest? = number? c.records.length
    ∧ ∀ more, c.durable <+: (Chronicle.empty.run (events ++ more)).durable
  := by
  intro s c
  have hempty : start = Chronicle.empty.image := by
    rw [Chronicle.recover_nil] at hstart
    cases hstart
    rfl
  have hs : s = c.image := by
    rw [← Chronicle.run_image hnumbered, ← hempty]
  have hroom : c.records.length < UInt64.size := hnumbered events (List.prefix_refl events)
  have hdurable : c.durable.length < UInt64.size :=
    Nat.lt_of_le_of_lt c.length_durable_le hroom
  constructor
  · rw [hempty, Chronicle.answers_image hnumbered]
  constructor
  · rw [hs]
    rfl
  constructor
  · rw [hs]
    apply scan_encode c.fits_durable
  constructor
  · rw [hs]
    apply lsn?_ofNat hdurable
  constructor
  · rw [hs]
    apply lsn?_ofNat hroom
  · intro more
    rw [Chronicle.run_append]
    apply Chronicle.durable_run

/-- Events in which a flush breaks off and is made again after another record was appended, and
the engine stops before a third one is flushed. -/
def retriedFlush : List Event :=
  [.append [7], .flush ⟨1⟩ (.cut 3), .append [], .flush ⟨1⟩ .stored, .append [9], .reopen]

theorem durability_of_retriedFlush :
  let start := Chronicle.empty.image
  recover [] = .ok start
    ∧ start.answers retriedFlush
      = [.ok (some ⟨1⟩), .error (.disk none), .ok (some ⟨2⟩), .ok none, .ok (some ⟨3⟩), .ok none]
    ∧ scan (start.run retriedFlush).file = .ok [[7], []]
  := by
  intro start
  obtain ⟨hanswers, -, hscan, -⟩ := durability_of_run Chronicle.recover_nil retriedFlush
    (.of_length_lt (by decide))
  use Chronicle.recover_nil
  constructor
  · rw [hanswers]
    rfl
  · rw [hscan]
    rfl

end System

end StorageEngine.Log
