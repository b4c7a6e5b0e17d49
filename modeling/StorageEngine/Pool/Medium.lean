import StorageEngine.Page

/-!
# Media

What frames ask of the world below them: to read and to write blocks, and to make sure that the
log is stored up to a record.  The state of that world is `σ`, and every call takes it to the
next one, whether it succeeds or fails.  A read fills the page that it is given; one that fails
may leave anything in it.
-/

namespace StorageEngine.Pool

/-- The calls that frames make on the blocks and the log below them. -/
structure Medium (σ : Type) where
  read : BlockId → Page → σ → Except Failure Unit × Page × σ
  write : BlockId → Page → σ → Except Failure Unit × σ
  flushLog : Lsn → σ → Except Failure Unit × σ

end StorageEngine.Pool
