import StorageEngine.Proofs.Lock.Accord

/-!
# Locks are kept

A client that holds an exclusive lock holds it until it begins to leave, whatever else is granted or
refused in the meantime.  A client that was leaving and is not any more holds no lock at all.
-/

namespace StorageEngine.Lock

/-- Whether a client is giving back its locks. -/
def Client.isLeaving (c : Client) : Bool :=
  match c.activity with
  | .leaving _ => true
  | _ => false

/-- What can become of a client at one moment. -/
inductive Client.Becomes (c c' : Client) : Prop where
  /-- The client is giving back its locks. -/
  | leaves (hleaving : c'.isLeaving)
  /-- The client has given back its locks. -/
  | left (hleaving : c.isLeaving) (hnone : ∀ b, c'.mode? b = none)
  /-- The client goes on, and has the exclusive locks that it had. -/
  | stays (hstays : ¬c.isLeaving)
    (hkeeps : ∀ b, c.mode? b = some .exclusive → c'.mode? b = some .exclusive)

namespace Manager

variable {m m' : Manager} {c c' : Call} {t t' : Table} {look : Look} {b : BlockId}

/-- An exclusive lock stays on record: nothing more is asked for on its block. -/
theorem StageOutcome.exclusive (h : StageOutcome m c t (look, m', t'))
    (hmode : m.mode? b = some .exclusive) :
  m'.mode? b = some .exclusive
  := by
  cases h with
  | held => apply hmode
  | granted hmissing _ =>
    rw [mode?_record, if_neg]
    · apply hmode
    · rintro rfl
      obtain ⟨-, hnone⟩ | ⟨-, hshared⟩ := mode?_of_missing hmissing
      · cases hnone.symm.trans hmode
      · cases hshared.symm.trans hmode
  | denied => apply hmode

theorem LookOutcome.exclusive (h : LookOutcome m c t (look, c', m', t'))
    (hmode : m.mode? b = some .exclusive) :
  m'.mode? b = some .exclusive
  := by
  cases h with
  | first hstage => apply hstage.exclusive hmode
  | second hfirst _ _ hsecond => apply hsecond.exclusive (hfirst.exclusive hmode)

end Manager

namespace Client

variable {c c' : Client}

theorem isLeaving_of_ne (h : ∀ blocks, c.activity ≠ .leaving blocks) :
  ¬c.isLeaving
  := by
  rw [isLeaving]
  split
  · next blocks heq => cases h blocks heq
  · apply Bool.false_ne_true

theorem Becomes.refl (c : Client) :
  c.Becomes c
  := by
  by_cases h : c.isLeaving
  · apply Becomes.leaves h
  · apply Becomes.stays h
    intro b hmode
    apply hmode

/-- A client that holds a lock, and is not leaving, was not leaving before. -/
theorem Becomes.not_isLeaving (h : c.Becomes c') (hstays : ¬c'.isLeaving) {b : BlockId}
    (hmode : c'.mode? b ≠ none) :
  ¬c.isLeaving
  := by
  cases h with
  | leaves hleaving => cases hstays hleaving
  | left _ hnone => cases hmode (hnone b)
  | stays hstays => apply hstays

/-- A client that neither was leaving nor is has the exclusive locks that it had. -/
theorem Becomes.exclusive (h : c.Becomes c') (hbefore : ¬c.isLeaving) (hafter : ¬c'.isLeaving)
    {b : BlockId} (hmode : c.mode? b = some .exclusive) :
  c'.mode? b = some .exclusive
  := by
  cases h with
  | leaves hleaving => cases hafter hleaving
  | left hleaving => cases hbefore hleaving
  | stays _ hkeeps => apply hkeeps b hmode

end Client

namespace Managed

variable {k : Nat} {txns : Fin k ↪ TxnId} {policy : WaitPolicy} {s : Managed k} {i : Fin k}

/-- When one client becomes another, all others are as they were. -/
theorem becomes_setClient {c : Client} (t : Table) (h : (s.clients i).Becomes c) (j : Fin k) :
  (s.clients j).Becomes ((s.setClient i c t).clients j)
  := by
  rw [clients_setClient]
  split
  · next heq =>
    rw [heq]
    apply h
  · apply Client.Becomes.refl

/-- A client whose call looks at the table goes on. -/
theorem becomes_of_locking {call : Call} {activity : Activity} {m : Manager}
    (hlocking : (s.clients i).activity = .locking call)
    (hactivity : ∀ blocks, activity ≠ .leaving blocks)
    (hkeeps : ∀ b, (s.clients i).manager.mode? b = some .exclusive → m.mode? b = some .exclusive) :
  (s.clients i).Becomes ⟨m, activity⟩
  := by
  apply Client.Becomes.stays
  · apply Client.isLeaving_of_ne
    intro blocks
    rw [hlocking]
    apply Activity.noConfusion
  · rw [Client.mode?_locking hlocking, Client.mode?_of_not_leaving hactivity]
    apply hkeeps

/-- Whatever happens, every client keeps its exclusive locks, or leaves. -/
theorem becomes_step (e : Event k) (j : Fin k) :
  (s.clients j).Becomes ((s.step policy txns e).2.clients j)
  := by
  cases e with
  | call i now block mode =>
    rw [step]
    split
    · next hidle =>
      apply becomes_setClient
      apply Client.Becomes.stays
      · simp [Client.isLeaving, hidle]
      · rw [Client.mode?_idle hidle, Client.mode?_locking rfl]
        intro b hmode
        apply hmode
    · apply Client.Becomes.refl
  | look i now =>
    rw [step]
    split
    · next call hlocking =>
      apply becomes_setClient
      apply becomes_of_locking hlocking (Client.after_ne_leaving _ _)
      intro b
      apply ((s.clients i).manager.look_outcome call policy now s.table).exclusive
    · apply Client.Becomes.refl
  | stage i now =>
    rw [step]
    split
    · next call hlocking =>
      have hkeeps (b : BlockId) :=
        ((s.clients i).manager.stage_outcome call policy now s.table).exclusive (b := b)
      dsimp only
      split
      · apply becomes_setClient
        apply becomes_of_locking hlocking _ hkeeps
        intro blocks
        apply Activity.noConfusion
      · apply becomes_setClient
        apply becomes_of_locking hlocking (Client.after_ne_leaving _ _) hkeeps
    · apply Client.Becomes.refl
  | leave i order =>
    rw [step]
    split
    · apply becomes_setClient
      apply Client.Becomes.leaves rfl
    · apply Client.Becomes.refl
  | giveBack i =>
    rw [step]
    split
    · apply becomes_setClient
      apply Client.Becomes.leaves rfl
    · next hleaving =>
      apply becomes_setClient
      apply Client.Becomes.left
      · rw [Client.isLeaving, hleaving]
      · intro b
        simp [Client.mode?, Manager.mode?]
    · apply Client.Becomes.refl
  | request r now =>
    rw [step]
    split
    · apply Client.Becomes.refl
    · apply Client.Becomes.refl
  | release block txn =>
    rw [step]
    split
    · apply Client.Becomes.refl
    · apply Client.Becomes.refl

end Managed

end StorageEngine.Lock
