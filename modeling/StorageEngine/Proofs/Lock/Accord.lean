import StorageEngine.Proofs.Lock.Call
import StorageEngine.Proofs.Lock.Managers

/-!
# Managers and their table agree

What a manager has on record and what the table has of its transaction are two copies of the same
thing.  Every look of a call changes both or none, also when it is granted the shared lock and not
the exclusive one, and a manager that leaves gives back exactly what it has.  So the markers of a
manager are at all times those that go with the modes that it holds.
-/

namespace StorageEngine.Lock

namespace Client

variable {c : Client}

theorem mode?_of_not_leaving (h : ∀ blocks, c.activity ≠ .leaving blocks) :
  c.mode? = c.manager.mode?
  := by
  funext b
  rw [mode?]
  split
  · next blocks heq => cases h blocks heq
  · rfl

theorem mode?_idle (h : c.activity = .idle) :
  c.mode? = c.manager.mode?
  := by
  apply mode?_of_not_leaving
  intro blocks
  rw [h]
  apply Activity.noConfusion

theorem mode?_locking {call : Call} (h : c.activity = .locking call) :
  c.mode? = c.manager.mode?
  := by
  apply mode?_of_not_leaving
  intro blocks
  rw [h]
  apply Activity.noConfusion

theorem after_ne_leaving (look : Look) (call : Call) (blocks : List BlockId) :
  Activity.after look call ≠ .leaving blocks
  := by
  cases look <;> apply Activity.noConfusion

/-- A manager that has begun to leave has all its locks still. -/
theorem mode?_leaving {m : Manager} {blocks : List BlockId} (h : blocks.Perm m.held.keys) :
  mode? ⟨m, .leaving blocks⟩ = m.mode?
  := by
  funext b
  have hmem : b ∈ blocks ↔ b ∈ m.held := by
    rw [h.mem_iff, Std.ExtTreeMap.mem_keys]
  simp only [mode?, hmem]
  split
  · rfl
  · next hnot => rw [Manager.mode?, Std.ExtTreeMap.getElem?_eq_none hnot]

/-- A manager that has given back all its locks has none. -/
theorem mode?_leaving_nil (h : c.activity = .leaving []) (b : BlockId) :
  c.mode? b = none
  := by
  rw [mode?, h]
  apply if_neg List.not_mem_nil

end Client

namespace Managed

variable {k : Nat} {txns : Fin k ↪ TxnId} {s : Managed k} {i : Fin k} {c : Client} {t : Table}
  {policy : WaitPolicy}

/-- Whether the markers of every client are those that go with the modes that it holds, in a safe
table, and each client that leaves comes to every block once. -/
structure Accords (txns : Fin k ↪ TxnId) (s : Managed k) : Prop where
  safe : s.table.Safe
  txn_eq : ∀ i, (s.clients i).manager.txn = txns i
  accords : ∀ i, s.table.Accords (txns i) (s.clients i).mode?
  nodup : ∀ i blocks, (s.clients i).activity = .leaving blocks → blocks.Nodup

theorem clients_setClient (s : Managed k) (i : Fin k) (c : Client) (t : Table) (j : Fin k) :
  (s.setClient i c t).clients j = if j = i then c else s.clients j
  := Function.update_apply s.clients i c j

namespace Accords

theorem start (txns : Fin k ↪ TxnId) :
  (start txns).Accords txns
  := by
  constructor
  · apply Table.safe_empty
  · intro i
    rfl
  · intro i b
    rw [Managed.start, Table.holders_empty]
    simp [own, markersOf, Client.mode?, Manager.new, Manager.mode?]
  · intro i blocks hleaving
    cases hleaving

/-- A client may become another one if its markers follow and those of all others stay. -/
theorem setClient (h : s.Accords txns) (hsafe : t.Safe) (htxn : c.manager.txn = txns i)
    (haccords : t.Accords (txns i) c.mode?)
    (hothers : ∀ other, txns i ≠ other →
      ∀ b, own (t.holders b) other = own (s.table.holders b) other)
    (hnodup : ∀ blocks, c.activity = .leaving blocks → blocks.Nodup) :
  (s.setClient i c t).Accords txns
  := by
  constructor
  · apply hsafe
  · intro j
    rw [clients_setClient]
    split
    · next heq =>
      rw [heq]
      apply htxn
    · apply h.txn_eq
  · intro j
    rw [clients_setClient]
    split
    · next heq =>
      rw [heq]
      apply haccords
    · next hne =>
      intro b
      apply Eq.trans (hothers (txns j) _ b)
      · apply h.accords
      · intro heq
        apply hne (txns.injective heq).symm
  · intro j
    rw [clients_setClient]
    split
    · apply hnodup
    · apply h.nodup

/-- A client may take up something else, if it has all the modes that it had. -/
theorem setActivity {activity : Activity} (h : s.Accords txns)
    (hmode : Client.mode? ⟨(s.clients i).manager, activity⟩ = (s.clients i).mode?)
    (hnodup : ∀ blocks, activity = .leaving blocks → blocks.Nodup) :
  (s.setClient i ⟨(s.clients i).manager, activity⟩ s.table).Accords txns
  := by
  apply h.setClient h.safe
  · apply h.txn_eq
  · rw [hmode]
    apply h.accords
  · intro _ _ _
    rfl
  · apply hnodup

/-- A look of a call changes the manager and the table together. -/
theorem serve {call : Call} {activity : Activity} {m : Manager} (h : s.Accords txns)
    (hlocking : (s.clients i).activity = .locking call)
    (hserves : Manager.Serves (s.clients i).manager s.table m t)
    (hactivity : ∀ blocks, activity ≠ .leaving blocks) :
  (s.setClient i ⟨m, activity⟩ t).Accords txns
  := by
  have hold : (s.clients i).mode? = (s.clients i).manager.mode? := Client.mode?_locking hlocking
  have hnew : Client.mode? ⟨m, activity⟩ = m.mode? := Client.mode?_of_not_leaving hactivity
  have haccords := h.accords i
  rw [hold, ← h.txn_eq i] at haccords
  apply h.setClient
  · apply hserves.safe h.safe
  · rw [← h.txn_eq i]
    apply hserves.txn_eq
  · rw [hnew, ← h.txn_eq i]
    apply hserves.accords haccords
  · rw [← h.txn_eq i]
    apply hserves.own_eq
  · intro blocks hleaving
    cases hactivity blocks hleaving

/-- A client that gives back a lock loses its markers on the block. -/
theorem giveBack {b : BlockId} {blocks : List BlockId} (h : s.Accords txns)
    (hleaving : (s.clients i).activity = .leaving (b :: blocks)) :
  (s.setClient i ⟨(s.clients i).manager, .leaving blocks⟩
    (s.table.release b (s.clients i).manager.txn)).Accords txns
  := by
  obtain ⟨hnew, hnodup⟩ := List.nodup_cons.mp (h.nodup i _ hleaving)
  have hold : (s.clients i).mode?
      = fun b' => if b' ∈ b :: blocks then (s.clients i).manager.mode? b' else none := by
    funext b'
    rw [Client.mode?, hleaving]
  have haccords := h.accords i
  rw [h.txn_eq i]
  apply h.setClient
  · apply h.safe.release
  · apply h.txn_eq
  · intro b'
    rw [Table.holders_release]
    split
    · next heq =>
      subst heq
      rw [own_unmark (haccords b)]
      simp [Client.mode?, hnew, markersOf]
    · next hne =>
      rw [haccords b', hold]
      simp [Client.mode?, Ne.symm hne]
  · intro other hne b'
    rw [Table.holders_release]
    split
    · next heq => rw [own_unmark_of_ne hne, heq]
    · rfl
  · intro blocks' heq
    cases heq
    apply hnodup

/-- A client that has given back all its locks may forget them. -/
theorem forget (h : s.Accords txns) (hleaving : (s.clients i).activity = .leaving []) :
  (s.setClient i ⟨{ (s.clients i).manager with held := ∅ }, .idle⟩ s.table).Accords txns
  := by
  apply h.setClient h.safe
  · apply h.txn_eq
  · intro b
    rw [h.accords i b, Client.mode?_leaving_nil hleaving]
    simp [Client.mode?, Manager.mode?]
  · intro _ _ _
    rfl
  · intro blocks heq
    cases heq

/-- What a transaction without a manager does to the table does not matter to the clients. -/
theorem setTable (h : s.Accords txns) (hsafe : t.Safe)
    (hown : ∀ i b, own (t.holders b) (txns i) = own (s.table.holders b) (txns i)) :
  { s with table := t }.Accords txns
  := by
  constructor
  · apply hsafe
  · apply h.txn_eq
  · intro i b
    apply (hown i b).trans (h.accords i b)
  · apply h.nodup

end Accords

/-- A request of a transaction without a manager leaves the markers of the clients. -/
theorem own_request {r : Request} (hne : ∀ i, txns i ≠ r.txn) (now : Instant) (t : Table)
    (i : Fin k) (b : BlockId) :
  own ((r.look policy now t).2.holders b) (txns i) = own (t.holders b) (txns i)
  := by
  rw [Request.look_table]
  split
  · rw [Table.holders_grant]
    split
    · next heq => rw [own_mark_of_ne r.mode (hne i).symm, heq]
    · rfl
  · rfl

/-- Every event leaves the clients and their table in accord. -/
theorem accords_step (e : Event k) (h : s.Accords txns) :
  (s.step policy txns e).2.Accords txns
  := by
  cases e with
  | call i now block mode =>
    rw [step]
    split
    · next hidle =>
      apply h.setActivity
      · rw [Client.mode?_idle hidle, Client.mode?_locking rfl]
      · intro blocks hleaving
        cases hleaving
    · apply h
  | look i now =>
    rw [step]
    split
    · next call hlocking =>
      apply h.serve hlocking ((s.clients i).manager.look_outcome call policy now s.table).serves
      apply Client.after_ne_leaving
    · apply h
  | stage i now =>
    rw [step]
    split
    · next call hlocking =>
      have hserves := ((s.clients i).manager.stage_outcome call policy now s.table).serves
      dsimp only
      split
      · apply h.serve hlocking hserves
        intro blocks
        apply Activity.noConfusion
      · apply h.serve hlocking hserves
        apply Client.after_ne_leaving
    · apply h
  | leave i order =>
    rw [step]
    split
    · next hleaves =>
      obtain ⟨hidle, hperm⟩ := hleaves
      apply h.setActivity
      · rw [Client.mode?_leaving hperm, Client.mode?_idle hidle]
      · intro blocks heq
        cases heq
        apply hperm.nodup_iff.mpr Std.ExtTreeMap.nodup_keys
    · apply h
  | giveBack i =>
    rw [step]
    split
    · next hleaving => apply h.giveBack hleaving
    · next hleaving => apply h.forget hleaving
    · apply h
  | request r now =>
    rw [step]
    split
    · next hne =>
      apply h.setTable
      · apply h.safe.look
      · apply own_request hne
    · apply h
  | release block txn =>
    rw [step]
    split
    · next hne =>
      apply h.setTable
      · apply h.safe.release
      · intro i b
        rw [Table.holders_release]
        split
        · next heq => rw [own_unmark_of_ne (hne i).symm, heq]
        · rfl
    · apply h

/-- The clients and their table are in accord at the end of every run. -/
theorem accords_run (policy : WaitPolicy) (txns : Fin k ↪ TxnId) (events : List (Event k)) :
  (run policy txns events).Accords txns
  := by
  rw [run]
  have hstart := Accords.start txns
  generalize Managed.start txns = s at hstart ⊢
  induction events generalizing s with
  | nil => apply hstart
  | cons e events ih => apply ih _ (accords_step e hstart)

/-! ### What follows -/

/-- A client has a marker for each lock that it holds. -/
theorem Accords.mem_holders (h : s.Accords txns) {b : BlockId} {mode : Mode}
    (hmode : (s.clients i).mode? b = some mode) :
  ⟨mode, txns i⟩ ∈ s.table.holders b
  := by
  have hmem : ⟨mode, txns i⟩ ∈ markersOf (some mode) (txns i) := by
    cases mode with
    | shared => simp [markersOf]
    | exclusive => simp [markersOf]
  rw [← hmode, ← h.accords i b] at hmem
  apply (mem_own.mp hmem).1

/-- Where a client holds an exclusive lock, no other one holds any. -/
theorem Accords.alone (h : s.Accords txns) {j : Fin k} {b : BlockId} (hne : i ≠ j)
    (hmode : (s.clients i).mode? b = some .exclusive) :
  (s.clients j).mode? b = none
  := by
  cases hother : (s.clients j).mode? b with
  | none => rfl
  | some mode =>
    have hsame := (h.safe.compatible b).alone _ (h.mem_holders hmode) rfl _ (h.mem_holders hother)
    cases hne (txns.injective hsame).symm

/-- Clients keep a mode if the one whose call looks at the table does. -/
theorem mode?_setClient {call : Call} {activity : Activity} {m : Manager} {b : BlockId} {mode : Mode}
    (hlocking : (s.clients i).activity = .locking call)
    (hactivity : ∀ blocks, activity ≠ .leaving blocks)
    (hkeeps : (s.clients i).manager.mode? b = some mode → m.mode? b = some mode)
    {j : Fin k} (hmode : (s.clients j).mode? b = some mode) :
  ((s.setClient i ⟨m, activity⟩ t).clients j).mode? b = some mode
  := by
  rw [clients_setClient]
  split
  · next heq =>
    rw [Client.mode?_of_not_leaving hactivity]
    apply hkeeps
    rw [heq, Client.mode?_locking hlocking] at hmode
    apply hmode
  · apply hmode

/-- A look that is not granted loses no lock of anybody. -/
theorem mode?_of_denied {e : Event k} {look : Look}
    (hanswer : (s.step policy txns e).1 = some look) (hlook : look ≠ .granted) {j : Fin k}
    {b : BlockId} {mode : Mode} (hmode : (s.clients j).mode? b = some mode) :
  ((s.step policy txns e).2.clients j).mode? b = some mode
  := by
  cases e with
  | call i now block mode =>
    rw [step] at hanswer
    split at hanswer
    · cases hanswer
    · cases hanswer
  | look i now =>
    rw [step] at hanswer ⊢
    split at hanswer
    · next call hlocking =>
      cases hanswer
      have houtcome := (s.clients i).manager.look_outcome call policy now s.table
      apply mode?_setClient hlocking (Client.after_ne_leaving _ _) _ hmode
      apply houtcome.keeps hlook
    · cases hanswer
  | stage i now =>
    rw [step] at hanswer ⊢
    split at hanswer
    · next call hlocking =>
      have houtcome := (s.clients i).manager.stage_outcome call policy now s.table
      dsimp only at hanswer ⊢
      split at hanswer
      · cases hanswer
      · next hdone =>
        cases hanswer
        rw [if_neg hdone]
        apply mode?_setClient hlocking (Client.after_ne_leaving _ _) _ hmode
        apply houtcome.keeps hlook
    · cases hanswer
  | leave i order =>
    rw [step] at hanswer
    split at hanswer
    · cases hanswer
    · cases hanswer
  | giveBack i =>
    rw [step] at hanswer
    split at hanswer
    · cases hanswer
    · cases hanswer
    · cases hanswer
  | request r now =>
    rw [step]
    split
    · apply hmode
    · apply hmode
  | release block txn =>
    rw [step]
    split
    · apply hmode
    · apply hmode

theorem setClient_setClient (s : Managed k) (i : Fin k) (c c' : Client) (t t' : Table) :
  (s.setClient i c t).setClient i c' t' = s.setClient i c' t'
  := by
  simp only [setClient, Function.update_idem]

/-- A client that is left alone gives back its locks one after the other, and forgets them. -/
theorem runFrom_giveBack {m : Manager} {blocks : List BlockId}
    (h : s.clients i = ⟨m, .leaving blocks⟩) :
  s.runFrom policy txns (List.replicate (blocks.length + 1) (.giveBack i))
    = s.setClient i ⟨{ m with held := ∅ }, .idle⟩ (s.table.releaseEach m.txn blocks)
  := by
  induction blocks generalizing s with
  | nil =>
    rw [List.length_nil, Nat.zero_add, List.replicate_one, runFrom, List.foldl_cons, List.foldl_nil,
      step, h]
    rfl
  | cons b blocks ih =>
    have hnext : (s.step policy txns (.giveBack i)).2
        = s.setClient i ⟨m, .leaving blocks⟩ (s.table.release b m.txn) := by
      rw [step, h]
    rw [List.length_cons, List.replicate_succ, runFrom, List.foldl_cons, hnext, ← runFrom, ih,
      setClient_setClient]
    · rfl
    · rw [clients_setClient, if_pos rfl]

/-- A departure is a release of all locks, whatever the order. -/
theorem runFrom_departure (h : s.Accords txns) {order : List BlockId}
    (hidle : (s.clients i).activity = .idle)
    (horder : order.Perm (s.clients i).manager.held.keys) :
  s.runFrom policy txns (departure i order)
    = s.setClient i ⟨((s.clients i).manager.releaseAll s.table).1, .idle⟩
      ((s.clients i).manager.releaseAll s.table).2
  := by
  have hleave : (s.step policy txns (.leave i order)).2
      = s.setClient i ⟨(s.clients i).manager, .leaving order⟩ s.table := by
    rw [step, if_pos ⟨hidle, horder⟩]
  rw [departure, runFrom, List.foldl_cons, hleave, ← runFrom, runFrom_giveBack,
    setClient_setClient]
  · rw [Manager.releaseAll]
    have hsame := h.safe.releaseEach_perm (s.clients i).manager.txn horder
      Std.ExtTreeMap.nodup_keys
    rw [← hsame]
    rfl
  · rw [clients_setClient, if_pos rfl]

/-- What is left after a client released all its locks are the markers of the others. -/
theorem holders_releaseAll (h : s.Accords txns) (hidle : (s.clients i).activity = .idle)
    (b : BlockId) :
  ((s.clients i).manager.releaseAll s.table).2.holders b = foreign (s.table.holders b) (txns i)
  := by
  have haccords := h.accords i b
  rw [Manager.releaseAll, Table.holders_releaseEach _ _ Std.ExtTreeMap.nodup_keys, h.txn_eq]
  split
  · apply unmark_eq_foreign haccords
  · next hnot =>
    rw [Std.ExtTreeMap.mem_keys] at hnot
    rw [foreign_of_own_eq_nil]
    rw [haccords, Client.mode?_idle hidle, Manager.mode?, Std.ExtTreeMap.getElem?_eq_none hnot]
    rfl

/-- After every run the markers of each client on a block are none if it holds no lock there, one
shared marker if it holds a shared one, and a shared and an exclusive marker if it holds an
exclusive one.  So beside an exclusive lock no other client holds any, no call that is not granted
loses a lock, and a client that has given back its locks has no marker left, whatever happened in
between.  If nothing did, it leaves on every block the markers of the others, in their order,
whatever the order was in which it went through the blocks. -/
theorem accord_of_run (policy : WaitPolicy) (txns : Fin k ↪ TxnId) (events : List (Event k)) :
  let s := run policy txns events
  (∀ i b, own (s.table.holders b) (txns i) = markersOf ((s.clients i).mode? b) (txns i))
    ∧ (∀ i j b, i ≠ j → (s.clients i).mode? b = some .exclusive → (s.clients j).mode? b = none)
    ∧ (∀ e look, (s.step policy txns e).1 = some look → look ≠ .granted →
      ∀ i b mode, (s.clients i).mode? b = some mode →
        ((s.step policy txns e).2.clients i).mode? b = some mode)
    ∧ (∀ i, (s.clients i).activity = .leaving [] → ∀ b, own (s.table.holders b) (txns i) = [])
    ∧ ∀ i order, (s.clients i).activity = .idle →
      order.Perm (s.clients i).manager.held.keys →
      let (m, t) := (s.clients i).manager.releaseAll s.table
      s.runFrom policy txns (departure i order) = s.setClient i ⟨m, .idle⟩ t
        ∧ ∀ b, t.holders b = foreign (s.table.holders b) (txns i)
  := by
  intro s
  have haccords : s.Accords txns := accords_run policy txns events
  constructor
  · apply haccords.accords
  constructor
  · intro i j b hne
    apply haccords.alone hne
  constructor
  · intro e look hanswer hlook i b mode
    apply mode?_of_denied hanswer hlook
  constructor
  · intro i hleaving b
    rw [haccords.accords i b, Client.mode?_leaving_nil hleaving]
    rfl
  · intro i order hidle horder
    constructor
    · apply runFrom_departure haccords hidle horder
    · apply holders_releaseAll haccords hidle

end Managed

end StorageEngine.Lock
