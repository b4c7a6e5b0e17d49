import StorageEngine.Proofs.Lock.Own

/-!
# What a call of a manager can do

A look of a call has one stage or two, and each stage grants the lock that is missing or changes
nothing.  A lock that is granted goes on record when its marker is put, so the markers of the
manager still go with its modes, and those of others stay.  A look that is not granted loses no
lock: at most the shared one was granted before the exclusive one was not.
-/

namespace StorageEngine.Lock

/-! ### Outcomes of a look -/

/-- A look grants a lock when nothing is in its way, and leaves the table as it is otherwise. -/
theorem Request.look_outcome (r : Request) (policy : WaitPolicy) (now : Instant) (t : Table) :
  t.judge r.block r.mode r.txn = .grant
      ∧ r.look policy now t = (.granted, t.grant r.block r.mode r.txn)
    ∨ ∃ look, look ≠ .granted ∧ r.look policy now t = (look, t)
  := by
  rw [look]
  split
  · next hgrant =>
    left
    use hgrant
  · right
    use .refused r.cause, Look.noConfusion
  · right
    split
    · use .refused r.cause, Look.noConfusion
    · next time _ => use .sleeping time, Look.noConfusion

namespace Manager

/-- What can come of a look for the lock that is missing. -/
inductive StageOutcome (m : Manager) (c : Call) (t : Table) : Look × Manager × Table → Prop where
  /-- No lock is missing. -/
  | held (hmissing : m.missing c.block c.mode = none) :
    StageOutcome m c t (.granted, m, t)
  /-- The lock is granted, and goes on record. -/
  | granted {mode : Mode} (hmissing : m.missing c.block c.mode = some mode)
    (hgrant : t.judge c.block mode m.txn = .grant) :
    StageOutcome m c t (.granted, m.record c.block mode, t.grant c.block mode m.txn)
  /-- The lock is not granted. -/
  | denied {look : Look} {mode : Mode} (hmissing : m.missing c.block c.mode = some mode)
    (hlook : look ≠ .granted) :
    StageOutcome m c t (look, m, t)

/-- What can come of a look of a call: it ends at its first stage, or goes on to the second. -/
inductive LookOutcome (m : Manager) (c : Call) (t : Table) :
    Look × Call × Manager × Table → Prop where
  | first {look : Look} {m' : Manager} {t' : Table}
    (hstage : StageOutcome m c t (look, m', t')) (hlook : look ≠ .granted) :
    LookOutcome m c t (look, c, m', t')
  | second {look : Look} {c' : Call} {m₁ m' : Manager} {t₁ t' : Table}
    (hfirst : StageOutcome m c t (.granted, m₁, t₁)) (hblock : c'.block = c.block)
    (hmode : c'.mode = c.mode) (hsecond : StageOutcome m₁ c' t₁ (look, m', t')) :
    LookOutcome m c t (look, c', m', t')

theorem stage_outcome (m : Manager) (c : Call) (policy : WaitPolicy) (now : Instant) (t : Table) :
  StageOutcome m c t (m.stage c policy now t)
  := by
  rw [stage]
  split
  · next hmissing => apply StageOutcome.held hmissing
  · next mode hmissing =>
    obtain ⟨hgrant, heq⟩ | ⟨look, hlook, heq⟩ :=
      Request.look_outcome ⟨c.block, m.txn, mode, c.deadline⟩ policy now t
    · rw [heq]
      apply StageOutcome.granted hmissing hgrant
    · rw [heq]
      cases look with
      | granted => cases hlook rfl
      | _ => apply StageOutcome.denied hmissing hlook

theorem look_outcome (m : Manager) (c : Call) (policy : WaitPolicy) (now : Instant) (t : Table) :
  LookOutcome m c t (m.look c policy now t)
  := by
  have hfirst := m.stage_outcome c policy now t
  rw [Manager.look]
  split
  · next m₁ t₁ heq =>
    rw [heq] at hfirst
    by_cases hmissing : (m₁.missing c.block c.mode).isSome
    · have hblock : (Call.start policy now c.block c.mode).block = c.block := rfl
      have hmode : (Call.start policy now c.block c.mode).mode = c.mode := rfl
      simp only [if_pos hmissing]
      apply LookOutcome.second hfirst hblock hmode
      apply stage_outcome
    · simp only [if_neg hmissing]
      apply LookOutcome.second hfirst rfl rfl
      apply stage_outcome
  · next look m₁ t₁ hlook heq =>
    rw [heq] at hfirst
    apply LookOutcome.first hfirst hlook

end Manager

/-! ### What a look does to a manager and its table -/

/-- Whether the markers of a transaction are those that go with some modes. -/
def Table.Accords (t : Table) (txn : TxnId) (mode? : BlockId → Option Mode) : Prop :=
  ∀ b, own (t.holders b) txn = markersOf (mode? b) txn

namespace Manager

variable {m m' m'' : Manager} {c c' : Call} {t t' t'' : Table} {b : BlockId} {mode goal : Mode}
  {look : Look}

theorem mode?_record (m : Manager) (b : BlockId) (mode : Mode) (b' : BlockId) :
  (m.record b mode).mode? b' = if b = b' then some mode else m.mode? b'
  := by
  simp only [mode?, record, Std.ExtTreeMap.getElem?_insert, Std.compare_eq_iff_eq]

/-- A shared lock is missing where nothing is held, and an exclusive one only where a shared one
is. -/
theorem mode?_of_missing (h : m.missing b goal = some mode) :
  mode = .shared ∧ m.mode? b = none ∨ mode = .exclusive ∧ m.mode? b = some .shared
  := by
  unfold missing at h
  split at h
  · next hnone =>
    cases h
    left
    use rfl
  · next hshared =>
    cases h
    right
    use rfl
  · cases h

theorem missing_record_exclusive (m : Manager) (b : BlockId) (goal : Mode) :
  (m.record b .exclusive).missing b goal = none
  := by
  have hheld : (m.record b .exclusive).mode? b = some .exclusive := by
    rw [mode?_record, if_pos rfl]
  unfold missing
  rw [hheld]

/-- What is missing goes on record when it is granted. -/
theorem accords_grant (h : t.Accords m.txn m.mode?) (hmissing : m.missing b goal = some mode) :
  (t.grant b mode m.txn).Accords m.txn (m.record b mode).mode?
  := by
  intro b'
  rw [Table.holders_grant, mode?_record]
  split
  · next heq =>
    have hown := h b
    obtain ⟨rfl, hnone⟩ | ⟨rfl, hshared⟩ := mode?_of_missing hmissing
    · rw [hnone] at hown
      rw [own_mark_shared, hown]
      rfl
    · rw [hshared] at hown
      apply own_mark_exclusive hown
  · apply h

/-- Whether a manager and a table may become others: the table stays safe, the markers of the
manager go with its modes if they did, and the markers of all others are the same. -/
structure Serves (m : Manager) (t : Table) (m' : Manager) (t' : Table) : Prop where
  txn_eq : m'.txn = m.txn
  safe : t.Safe → t'.Safe
  accords : t.Accords m.txn m.mode? → t'.Accords m.txn m'.mode?
  own_eq : ∀ other, m.txn ≠ other → ∀ b, own (t'.holders b) other = own (t.holders b) other

namespace Serves

theorem refl (m : Manager) (t : Table) :
  Serves m t m t
  := ⟨rfl, id, id, fun _ _ _ => rfl⟩

theorem trans (h : Serves m t m' t') (h' : Serves m' t' m'' t'') :
  Serves m t m'' t''
  := by
  constructor
  · rw [h'.txn_eq, h.txn_eq]
  · intro hsafe
    apply h'.safe (h.safe hsafe)
  · intro haccords
    rw [← h.txn_eq]
    apply h'.accords
    rw [h.txn_eq]
    apply h.accords haccords
  · intro other hne b
    rw [h'.own_eq other (h.txn_eq ▸ hne), h.own_eq other hne]

end Serves

theorem StageOutcome.serves (h : StageOutcome m c t (look, m', t')) :
  Serves m t m' t'
  := by
  cases h with
  | held => apply Serves.refl
  | @granted mode hmissing hgrant =>
    constructor
    · rfl
    · intro hsafe
      apply hsafe.grant hgrant
    · intro haccords
      apply accords_grant haccords hmissing
    · intro other hne b
      rw [Table.holders_grant]
      split
      · next heq => rw [own_mark_of_ne mode hne, heq]
      · rfl
  | denied => apply Serves.refl

theorem LookOutcome.serves (h : LookOutcome m c t (look, c', m', t')) :
  Serves m t m' t'
  := by
  cases h with
  | first hstage => apply hstage.serves
  | second hfirst _ _ hsecond => apply hfirst.serves.trans hsecond.serves

/-- A look that is not granted changes nothing. -/
theorem StageOutcome.eq_of_ne_granted (h : StageOutcome m c t (look, m', t'))
    (hlook : look ≠ .granted) :
  m' = m ∧ m.missing c.block c.mode ≠ none
  := by
  cases h with
  | held => cases hlook rfl
  | granted => cases hlook rfl
  | denied hmissing =>
    use rfl
    rw [hmissing]
    apply Option.some_ne_none

theorem StageOutcome.keeps (h : StageOutcome m c t (look, m', t')) (hlook : look ≠ .granted)
    (hmode : m.mode? b = some mode) :
  m'.mode? b = some mode
  := by
  rw [(h.eq_of_ne_granted hlook).1]
  apply hmode

/-- A call that is not granted loses no lock: at most it gains the shared one. -/
theorem LookOutcome.keeps (h : LookOutcome m c t (look, c', m', t')) (hlook : look ≠ .granted)
    (hmode : m.mode? b = some mode) :
  m'.mode? b = some mode
  := by
  cases h with
  | first hstage => apply hstage.keeps hlook hmode
  | @second _ _ m₁ _ _ _ hfirst hblock _ hsecond =>
    obtain ⟨rfl, hmissing'⟩ := hsecond.eq_of_ne_granted hlook
    cases hfirst with
    | held => apply hmode
    | @granted stage hmissing _ =>
      obtain ⟨rfl, hnone⟩ | ⟨rfl, -⟩ := mode?_of_missing hmissing
      · rw [mode?_record, if_neg]
        · apply hmode
        · rintro rfl
          rw [hnone] at hmode
          cases hmode
      · -- Nothing would be missing any more.
        rw [hblock, missing_record_exclusive] at hmissing'
        cases hmissing' rfl
    | denied _ hdenied => cases hdenied rfl

end Manager

end StorageEngine.Lock
