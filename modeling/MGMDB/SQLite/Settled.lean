import MGMDB.SQLite.Locks

/-!
# Locks between the steps

Between two steps the lock of a connection is one of its transaction, unless a
commit was refused: `Settled` says this, and that a connection in autocommit mode
has a write transaction only while a statement writes and a transaction only
while a statement runs.  The lock of a write transaction is RESERVED until pages
are written to the file, PENDING after a full page cache was refused to write them,
and EXCLUSIVE behind that.  A step that is not refused keeps this.  `Startable` and
`NeedsExclusive` tell which steps are refused.
-/

namespace MGMDB

namespace SQLite

/-- The locks of a transaction. -/
def Trans.Holds : Trans → Lock → Prop
  | .none, eFileLock => eFileLock = .none
  | .read, eFileLock => eFileLock = .shared
  | .write, eFileLock => eFileLock ≠ .none ∧ eFileLock ≠ .shared

namespace Handle

/-- The lock is one of the transaction. -/
structure Locked (db : Handle) : Prop where
  holds : db.inTrans.Holds db.eFileLock
  of_dbModified : db.dbModified = true → db.inTrans = .write

/-- In autocommit mode the transaction is that of the running statements. -/
structure Settled (db : Handle) : Prop extends Locked db where
  of_writeVdbeCnt : db.autoCommit = true → db.writeVdbeCnt = 0 → db.inTrans ≠ .write
  of_activeVdbeCnt : db.autoCommit = true → db.activeVdbeCnt = 0 → db.inTrans = .none

/-- One of the statements counted is read-only, or writes. -/
structure Counts (readOnly : Bool) (db : Handle) : Prop where
  active : db.writeVdbeCnt + readOnly.toNat ≤ db.activeVdbeCnt
  write : (!readOnly).toNat ≤ db.writeVdbeCnt

/-- Two connections count the same statements. -/
def SameCounts (db db' : Handle) : Prop :=
  db.activeVdbeCnt = db'.activeVdbeCnt ∧ db.writeVdbeCnt = db'.writeVdbeCnt

theorem settled_opened : opened.Settled where
  holds := rfl
  of_dbModified := nofun
  of_writeVdbeCnt := nofun
  of_activeVdbeCnt _ _ := rfl

variable {db db' o : Handle} {readOnly : Bool}

theorem Counts.pos (h : db.Counts readOnly) : 0 < db.activeVdbeCnt := by
  have hactive := h.active
  have hwrite := h.write
  cases readOnly <;> simp at hactive hwrite <;> omega

/-! ## Locks that are granted -/

theorem unixLock_shared (other : Lock) :
    unixLock .shared other = true ↔ other ≠ .pending ∧ other ≠ .exclusive := by
  cases other <;> simp [unixLock]

theorem unixLock_reserved (h : o.Locked) :
    unixLock .reserved o.eFileLock = !(o.inTrans == .write) := by
  have hholds := h.holds
  cases ht : o.inTrans <;> rw [ht] at hholds <;> cases hl : o.eFileLock <;>
    simp_all [Trans.Holds, unixLock]

theorem unixLock_exclusive (h : o.Locked) :
    unixLock .exclusive o.eFileLock = (o.inTrans == .none) := by
  have hholds := h.holds
  cases ht : o.inTrans <;> rw [ht] at hholds <;> cases hl : o.eFileLock <;>
    simp_all [Trans.Holds, unixLock]

/-- Whether a transaction can be started beside the one of `o`. -/
def Startable (o : Handle) : Option Nat → Handle → Prop
  | none, _ => True
  | some 0, db => db.inTrans = .none → o.eFileLock ≠ .pending ∧ o.eFileLock ≠ .exclusive
  | some 1, db => db.inTrans ≠ .write → o.inTrans ≠ .write
  | some _, db => db.inTrans ≠ .write → o.inTrans = .none

/-- A lock that keeps readers out is one of a write transaction. -/
theorem unixLock_shared_of_ne (h : o.Locked) (hne : o.inTrans ≠ .write) :
    unixLock .shared o.eFileLock = true := by
  have hholds := h.holds
  cases ht : o.inTrans <;> rw [ht] at hholds <;> simp_all [Trans.Holds, unixLock]

theorem sqlite3BtreeBeginTrans_eq_none {wrflag : Nat} (ho : o.Locked) :
    db.sqlite3BtreeBeginTrans o.eFileLock wrflag = none ↔ ¬ o.Startable (some wrflag) db := by
  have hshared := unixLock_shared_of_ne ho
  unfold sqlite3BtreeBeginTrans
  rw [unixLock_reserved ho, unixLock_exclusive ho]
  match wrflag with
  | 0 =>
      rw [Startable, ← unixLock_shared]
      cases ht : db.inTrans <;> simp
  | 1 =>
      cases ht : db.inTrans <;> cases hto : o.inTrans <;> simp_all [Startable]
  | n + 2 =>
      cases ht : db.inTrans <;> cases hto : o.inTrans <;> simp_all [Startable]

/-- Whether a commit has changes to write and no EXCLUSIVE lock yet. -/
def NeedsExclusive (db : Handle) : Prop :=
  db.inTrans = .write ∧ db.dbModified = true ∧ db.eFileLock ≠ .exclusive

theorem vdbeCommit_refused (ho : o.Locked) (hn : db.NeedsExclusive)
    (hne : o.inTrans ≠ .none) :
    db.vdbeCommit o.eFileLock = .error { db with eFileLock := .pending } := by
  obtain ⟨hwrite, hmodified, hlock⟩ := hn
  refine if_pos ⟨hwrite, hmodified, hlock, ?_⟩
  rw [unixLock_exclusive ho]
  simpa using hne

theorem vdbeCommit_granted (ho : o.Locked) (hn : db.NeedsExclusive → o.inTrans = .none) :
    db.vdbeCommit o.eFileLock = .ok db.btreeEndTransaction := by
  refine if_neg ?_
  rintro ⟨hwrite, hmodified, hlock, hbusy⟩
  have hnone := hn ⟨hwrite, hmodified, hlock⟩
  rw [unixLock_exclusive ho] at hbusy
  simp [hnone] at hbusy

/-- Whether a halt is refused beside `o`. -/
def HaltRefused (o : Handle) (readOnly : Bool) (halt : Halt) (db : Handle) : Prop :=
  db.endsTransaction readOnly ∧ halt.keeps = true ∧ db.NeedsExclusive ∧ o.inTrans ≠ .none

theorem sqlite3VdbeHalt_refused {halt : Halt} (ho : o.Locked)
    (hr : o.HaltRefused readOnly halt db) :
    db.sqlite3VdbeHalt o.eFileLock readOnly halt = .error { db with eFileLock := .pending } := by
  obtain ⟨hends, hkeeps, hneeds, hne⟩ := hr
  unfold sqlite3VdbeHalt
  rw [if_pos hends, vdbeCommit_refused ho hneeds hne]
  split
  · rfl
  · rfl
  next action hfail => cases action <;> simp_all [Halt.keeps]

/-! ## Steps that are not refused -/

theorem Settled.enter (h : db.Settled) (readOnly : Bool) : (db.enter readOnly).Settled where
  holds := h.holds
  of_dbModified := h.of_dbModified
  of_writeVdbeCnt hauto hzero := by
    refine h.of_writeVdbeCnt hauto ?_
    cases readOnly <;> simp_all [Handle.enter]
  of_activeVdbeCnt _ hzero := by simp [Handle.enter] at hzero

/-- The transaction of a counted statement. -/
theorem Settled.start (h : db.Settled) {eFileLock : Lock} {inTrans : Trans}
    (hlock : inTrans.Holds eFileLock) (hmodified : db.inTrans = .write → inTrans = .write)
    (hwrite : inTrans = .write → 0 < db.writeVdbeCnt) (hpos : 0 < db.activeVdbeCnt) :
    Settled { db with eFileLock := eFileLock, inTrans := inTrans } where
  holds := hlock
  of_dbModified hm := hmodified (h.of_dbModified hm)
  of_writeVdbeCnt _ hzero ht := by
    have := hwrite ht
    dsimp only at hzero
    omega
  of_activeVdbeCnt _ hzero := by
    dsimp only at hzero
    omega

/-- What starting a transaction can do: nothing, or begin to read or to write. -/
theorem sqlite3BtreeBeginTrans_eq_some {other : Lock} {wrflag : Nat}
    (hs : db.sqlite3BtreeBeginTrans other wrflag = some db') :
    (db' = db ∧ (0 < wrflag → db.inTrans = .write)) ∨
      (wrflag = 0 ∧ db.inTrans ≠ .write ∧
        db' = { db with eFileLock := .shared, inTrans := .read }) ∨
      (0 < wrflag ∧ db.inTrans ≠ .write ∧
        db' = { db with
          eFileLock := if wrflag = 1 then .reserved else .exclusive
          inTrans := .write }) := by
  unfold sqlite3BtreeBeginTrans at hs
  split at hs
  next hstarted =>
      refine .inl ⟨(Option.some.inj hs).symm, fun hpos => ?_⟩
      rcases hstarted with hwrite | ⟨_, hzero⟩
      · exact hwrite
      · omega
  next hno =>
      have hne : db.inTrans ≠ .write := fun ht => hno (.inl ht)
      split at hs
      · cases hs
      split at hs
      next hzero => exact .inr (.inl ⟨hzero, hne, (Option.some.inj hs).symm⟩)
      next hzero =>
          have hpos := Nat.pos_of_ne_zero hzero
          split at hs
          · cases hs
          split at hs
          next hle =>
              obtain rfl : wrflag = 1 := by omega
              exact .inr (.inr ⟨hpos, hne, (Option.some.inj hs).symm⟩)
          next hlt =>
              split at hs
              · cases hs
              rw [if_neg (by omega)]
              exact .inr (.inr ⟨hpos, hne, (Option.some.inj hs).symm⟩)

theorem settled_sqlite3BtreeBeginTrans {other : Lock} {wrflag : Nat}
    (h : db.Settled) (hpos : 0 < db.activeVdbeCnt) (hw : 0 < wrflag → 0 < db.writeVdbeCnt)
    (hs : db.sqlite3BtreeBeginTrans other wrflag = some db') :
    db'.Settled ∧ db'.SameCounts db := by
  rcases sqlite3BtreeBeginTrans_eq_some hs with ⟨rfl, _⟩ | ⟨_, hne, rfl⟩ | ⟨hwrite, _, rfl⟩
  · exact ⟨h, rfl, rfl⟩
  · exact ⟨h.start rfl (absurd · hne) nofun hpos, rfl, rfl⟩
  · have hlock : Trans.write.Holds (if wrflag = 1 then .reserved else .exclusive) := by
      split <;> exact ⟨nofun, nofun⟩
    exact ⟨h.start hlock (fun _ => rfl) (fun _ => hw hwrite) hpos, rfl, rfl⟩

/-- A transaction that has ended is none, or that of the other statements. -/
theorem settled_btreeEndTransaction (db : Handle) : db.btreeEndTransaction.Settled := by
  unfold btreeEndTransaction
  split
  next h =>
      exact ⟨⟨rfl, nofun⟩, nofun, fun _ hzero => by simp at hzero; omega⟩
  next => exact ⟨⟨rfl, nofun⟩, nofun, fun _ _ => rfl⟩

theorem inTrans_btreeEndTransaction_ne (db : Handle) : db.btreeEndTransaction.inTrans ≠ .write := by
  unfold btreeEndTransaction
  split <;> nofun

theorem inTrans_btreeEndTransaction_of_le (h : db.activeVdbeCnt ≤ 1) :
    db.btreeEndTransaction.inTrans = .none := by
  unfold btreeEndTransaction
  rw [if_neg (by omega)]

@[simp] theorem activeVdbeCnt_btreeEndTransaction (db : Handle) :
    db.btreeEndTransaction.activeVdbeCnt = db.activeVdbeCnt := by
  unfold btreeEndTransaction
  split <;> rfl

@[simp] theorem writeVdbeCnt_btreeEndTransaction (db : Handle) :
    db.btreeEndTransaction.writeVdbeCnt = db.writeVdbeCnt := by
  unfold btreeEndTransaction
  split <;> rfl

theorem settled_rollbackAll (db : Handle) : db.rollbackAll.Settled where
  holds := (settled_btreeEndTransaction db).holds
  of_dbModified := (settled_btreeEndTransaction db).of_dbModified
  of_writeVdbeCnt _ _ := inTrans_btreeEndTransaction_ne db
  of_activeVdbeCnt _ hzero := by
    have hactive : db.btreeEndTransaction.activeVdbeCnt = 0 := hzero
    rw [activeVdbeCnt_btreeEndTransaction] at hactive
    exact inTrans_btreeEndTransaction_of_le (by omega)

/-- The other statements account for the transaction. -/
theorem Settled.leave (h : db.Settled)
    (hw : db.inTrans ≠ .write ∨ db.autoCommit = false ∨ (db.leave readOnly).writeVdbeCnt ≠ 0)
    (ha : db.inTrans = .none ∨ db.autoCommit = false ∨ 1 < db.activeVdbeCnt) :
    (db.leave readOnly).Settled where
  holds := h.holds
  of_dbModified := h.of_dbModified
  of_writeVdbeCnt hauto hzero := by
    rcases hw with hw | hw | hw
    · exact hw
    · exact absurd hauto (by simp [Handle.leave, hw])
    · exact absurd hzero hw
  of_activeVdbeCnt hauto hzero := by
    rcases ha with ha | ha | ha
    · exact ha
    · exact absurd hauto (by simp [Handle.leave, ha])
    · simp only [Handle.leave] at hzero
      omega

theorem inTrans_none_or_lt (db : Handle) :
    db.btreeEndTransaction.inTrans = .none ∨ 1 < db.activeVdbeCnt := by
  rcases Nat.lt_or_ge 1 db.activeVdbeCnt with hlt | hle
  · exact .inr hlt
  · exact .inl (inTrans_btreeEndTransaction_of_le hle)

theorem settled_leave_btreeEndTransaction (db : Handle) (readOnly : Bool) :
    (db.btreeEndTransaction.leave readOnly).Settled := by
  refine (settled_btreeEndTransaction db).leave (.inl (inTrans_btreeEndTransaction_ne db)) ?_
  rw [activeVdbeCnt_btreeEndTransaction]
  exact (inTrans_none_or_lt db).imp_right .inr

theorem settled_leave_rollbackAll (db : Handle) (readOnly : Bool) :
    (db.rollbackAll.leave readOnly).Settled := by
  refine (settled_rollbackAll db).leave (.inl (inTrans_btreeEndTransaction_ne db)) ?_
  have hactive : db.rollbackAll.activeVdbeCnt = db.activeVdbeCnt :=
    activeVdbeCnt_btreeEndTransaction db
  rw [hactive]
  exact (inTrans_none_or_lt db).imp_right .inr

/-- A statement that does not end the transaction of an autocommit connection
leaves it to another one. -/
theorem settled_leave (h : db.Settled) (hc : db.Counts readOnly)
    (hends : ¬ db.endsTransaction readOnly) : (db.leave readOnly).Settled := by
  have hactive := hc.active
  have hwrite := hc.write
  cases hauto : db.autoCommit with
  | false => exact h.leave (.inr (.inl hauto)) (.inr (.inl hauto))
  | true =>
      have hne : db.writeVdbeCnt ≠ if readOnly then 0 else 1 := fun heq => hends ⟨hauto, heq⟩
      cases readOnly with
      | true =>
          simp only [if_true, Bool.toNat_true] at hne hactive
          exact h.leave (.inr (.inr hne)) (.inr (.inr (by omega)))
      | false =>
          simp only [Bool.false_eq_true, if_false, Bool.not_false, Bool.toNat_true,
            Bool.toNat_false] at hne hactive hwrite
          have hother : (db.leave false).writeVdbeCnt ≠ 0 := by
            simp only [Handle.leave, Bool.false_eq_true, if_false]
            omega
          exact h.leave (.inr (.inr hother)) (.inr (.inr (by omega)))

/-- A halt that is not refused. -/
theorem sqlite3VdbeHalt_granted {halt : Halt} (ho : o.Locked)
    (hc : db.Counts readOnly) (hs : ¬ db.endsTransaction readOnly → db.Settled)
    (hr : ¬ o.HaltRefused readOnly halt db) :
    ∃ db', db.sqlite3VdbeHalt o.eFileLock readOnly halt = .ok db' ∧ db'.Settled ∧
      db'.SameCounts (db.leave readOnly) := by
  have hended : (db.btreeEndTransaction.leave readOnly).SameCounts (db.leave readOnly) := by
    simp [SameCounts, Handle.leave]
  unfold sqlite3VdbeHalt
  split
  next hends =>
      have hcommit : halt.keeps = true →
          db.vdbeCommit o.eFileLock = .ok db.btreeEndTransaction := by
        intro hkeeps
        refine vdbeCommit_granted ho fun hneeds => ?_
        by_contra hne
        exact hr ⟨hends, hkeeps, hneeds, hne⟩
      cases halt with
      | ok =>
          rw [hcommit rfl]
          exact ⟨_, rfl, settled_leave_btreeEndTransaction db readOnly, hended⟩
      | error action =>
          cases action with
          | fail =>
              rw [hcommit rfl]
              exact ⟨_, rfl, settled_leave_btreeEndTransaction db readOnly, hended⟩
          | abort => exact ⟨_, rfl, settled_leave_btreeEndTransaction db readOnly, hended⟩
          | rollback => exact ⟨_, rfl, settled_leave_btreeEndTransaction db readOnly, hended⟩
  next hends =>
      cases halt with
      | ok => exact ⟨_, rfl, settled_leave (hs hends) hc hends, rfl, rfl⟩
      | error action =>
          cases action with
          | rollback => exact ⟨_, rfl, settled_leave_rollbackAll db readOnly, hended⟩
          | abort => exact ⟨_, rfl, settled_leave (hs hends) hc hends, rfl, rfl⟩
          | fail => exact ⟨_, rfl, settled_leave (hs hends) hc hends, rfl, rfl⟩

end Handle

end SQLite

end MGMDB
