import StorageEngine.Text.Fixed

/-!
# Pool statistics

The counts that a pool keeps of what it does.  They have 64 bits and start over from 0.
-/

namespace StorageEngine.Pool

/-- The counts of a pool. -/
@[ext]
structure Statistics where
  /-- The pins of a block that had a frame. -/
  hits : UInt64 := 0
  /-- The pins of a block that had to be given a frame. -/
  misses : UInt64 := 0
  /-- The blocks that lost their frame to another. -/
  reassignments : UInt64 := 0
  /-- The pages that were read. -/
  pagesRead : UInt64 := 0
  /-- The pages that were written. -/
  pagesWritten : UInt64 := 0
  /-- The pins that had to wait. -/
  waits : UInt64 := 0
  /-- The pins that waited in vain. -/
  aborts : UInt64 := 0
deriving DecidableEq, Inhabited

namespace Statistics

/-- The sums of two counts. -/
def add (a b : Statistics) : Statistics where
  hits := a.hits + b.hits
  misses := a.misses + b.misses
  reassignments := a.reassignments + b.reassignments
  pagesRead := a.pagesRead + b.pagesRead
  pagesWritten := a.pagesWritten + b.pagesWritten
  waits := a.waits + b.waits
  aborts := a.aborts + b.aborts

/-- The counts in a list. -/
def toList (s : Statistics) : List UInt64 :=
  [s.hits, s.misses, s.reassignments, s.pagesRead, s.pagesWritten, s.waits, s.aborts]

/-- The part of the pins that were hits. -/
def hitRate (s : Statistics) : Float :=
  let total := s.hits + s.misses
  if total = 0 then 0 else s.hits.toFloat / total.toFloat

/-- The text of some of the counts; the part of the hits is a percentage with two places. -/
def text (s : Statistics) : String :=
  s!"Stats \x7b hits: {s.hits}, misses: {s.misses}, reassignments: {s.reassignments}, "
    ++ s!"waits: {s.waits}, aborts: {s.aborts}, "
    ++ s!"hit_rate: {Text.fixed 2 (s.hitRate * 100)}% \x7d"

end Statistics

end StorageEngine.Pool
