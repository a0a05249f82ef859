import MGMDB.SQLite.Settled

/-!
# Steps that are refused

When `sqlite3_step` returns `SQLITE_BUSY`, by the transactions and locks of the two
connections before the step.  A step is refused if the transaction its statement
starts, or the commit of its changes, conflicts with what the other connection
holds.  As long as that does not change, the step is refused again, however often
it is repeated.
-/

namespace MGMDB

namespace SQLite

open Handle

/-- Where a statement is between two steps. -/
def Phase.Rests (sql : Sql) : Phase → Prop
  | .start => sql = .rollback
  | .running => sql = .read ∨ sql = .write ∨ ∃ writes, sql = .elsewhere writes
  | .halting _ => False
  | .fresh | .halted | .finalized => True

/-- A step that is not refused, of a statement that `db` counts. -/
structure Granted (sql : Sql) (db : Handle) (r : Status × Phase × Handle) : Prop where
  not_busy : r.1 ≠ .busy
  rests : r.2.1.Rests sql
  row : r.2.1 = .running → r.1 = .row
  settled : r.2.2.Settled
  counts : r.2.2.SameCounts (if r.2.1.active then db else db.leave sql.readOnly)

/-- Whether a step commits changes and needs EXCLUSIVE for it.  `counted` tells
whether the statement has been started. -/
def Commits (sql : Sql) (answer : Answer) (counted : Bool) (db : Handle) : Prop :=
  match sql with
  | .write =>
      db.autoCommit = true ∧ db.writeVdbeCnt = counted.toNat ∧
        (counted = true → db.inTrans = .write) ∧
        (db.dbModified = true ∨ answer.modifies = true) ∧ db.eFileLock ≠ .exclusive ∧
        answer.halt.any Halt.keeps = true
  | .elsewhere true =>
      db.autoCommit = true ∧ db.writeVdbeCnt = counted.toNat ∧ db.NeedsExclusive ∧
        answer.halt.any Halt.keeps = true
  | .commit => db.autoCommit = false ∧ db.writeVdbeCnt = 0 ∧ db.NeedsExclusive
  | .savepoint .release zName =>
      db.isTransaction zName ∧ db.writeVdbeCnt = 0 ∧ db.NeedsExclusive
  | .read | .elsewhere false | .begin _ | .rollback | .savepoint .begin _ |
    .savepoint .rollback _ => False

/-- Whether nothing that a step asks for conflicts with what `o` holds. -/
def StepFree (o : Handle) (sql : Sql) (answer : Answer) (counted : Bool) (db : Handle) : Prop :=
  (counted = false → o.Startable sql.transaction db) ∧
    (Commits sql answer counted db → o.inTrans = .none)

variable {sql : Sql} {answer : Answer} {halt : Halt} {phase phase' : Phase} {db db' o : Handle}

/-! ## Halting -/

theorem opHalt_refused (ho : o.Locked) (hr : o.HaltRefused sql.readOnly halt db) :
    (opHalt o.eFileLock sql halt db).1 = .busy := by
  unfold opHalt
  rw [sqlite3VdbeHalt_refused ho hr]

theorem opHalt_granted (h : db.Settled) (ho : o.Locked) (hc : db.Counts sql.readOnly)
    (hr : ¬ o.HaltRefused sql.readOnly halt db) :
    Granted sql db (opHalt o.eFileLock sql halt db) := by
  obtain ⟨db', heq, hsettled, hcounts⟩ := sqlite3VdbeHalt_granted ho hc (fun _ => h) hr
  unfold opHalt
  rw [heq]
  refine ⟨?_, trivial, nofun, hsettled, hcounts⟩
  dsimp only
  split <;> nofun

/-- An error that rolls back is never refused. -/
theorem opHalt_abort (h : db.Settled) (ho : o.Locked) (hc : db.Counts sql.readOnly) :
    Granted sql db (opHalt o.eFileLock sql (.error .abort) db) :=
  opHalt_granted h ho hc fun hr => nomatch hr.2.1

/-- Read-only statements never write, since their connection has no write transaction
when they would end it. -/
theorem not_haltRefused_readOnly (h : db.Settled) : ¬ o.HaltRefused true halt db :=
  fun hr => h.of_writeVdbeCnt hr.1.1 hr.1.2 hr.2.2.1.1

theorem Granted.congr {r : Status × Phase × Handle} (h : Granted sql db r)
    (hcounts : db.SameCounts db') : Granted sql db' r where
  not_busy := h.not_busy
  rests := h.rests
  row := h.row
  settled := h.settled
  counts := by
    obtain ⟨hactive, hwrite⟩ := h.counts
    obtain ⟨hactive', hwrite'⟩ := hcounts
    cases hp : r.2.1.active with
    | true =>
        simp only [hp, if_true] at hactive hwrite ⊢
        exact ⟨hactive.trans hactive', hwrite.trans hwrite'⟩
    | false =>
        simp only [hp, Bool.false_eq_true, if_false, Handle.leave] at hactive hwrite ⊢
        rw [hactive'] at hactive
        rw [hwrite'] at hwrite
        exact ⟨hactive, hwrite⟩

/-! ## Beginning and ending transactions -/

theorem locked_setAutoCommit (h : db.Locked) (autoCommit : Bool) :
    (db.setAutoCommit autoCommit).Locked :=
  ⟨h.holds, h.of_dbModified⟩

theorem settled_sqlite3CloseSavepoints (h : db.Settled) : db.sqlite3CloseSavepoints.Settled :=
  ⟨⟨h.holds, h.of_dbModified⟩, h.of_writeVdbeCnt, h.of_activeVdbeCnt⟩

theorem settled_dropSavepoints (h : db.Settled) (n : Nat) : (db.dropSavepoints n).Settled :=
  ⟨⟨h.holds, h.of_dbModified⟩, h.of_writeVdbeCnt, h.of_activeVdbeCnt⟩

theorem settled_openSavepoint (h : db.Locked) (zName : String) : (db.openSavepoint zName).Settled :=
  ⟨⟨h.holds, h.of_dbModified⟩, nofun, nofun⟩

theorem opAutoCommit_begin {mode : Mode} (h : db.Settled) (ho : o.Locked)
    (hc : db.Counts (Sql.begin mode).readOnly) :
    Granted (.begin mode) db (opAutoCommit o.eFileLock (.begin mode) false false db) := by
  cases hauto : db.autoCommit with
  | false =>
      simp only [opAutoCommit, hauto]
      exact opHalt_abort h ho hc
  | true =>
      have hmode : (db.setAutoCommit false).Settled :=
        ⟨locked_setAutoCommit h.toLocked false, nofun, nofun⟩
      have hr : ¬ o.HaltRefused (Sql.begin mode).readOnly .ok (db.setAutoCommit false) :=
        fun hr => nomatch hr.1.1
      have hcounts' : (db.setAutoCommit false).Counts (Sql.begin mode).readOnly :=
        ⟨hc.active, hc.write⟩
      obtain ⟨db', heq, hsettled, hcounts⟩ :=
        sqlite3VdbeHalt_granted ho hcounts' (fun _ => hmode) hr
      simp only [opAutoCommit, hauto, heq]
      exact ⟨nofun, trivial, nofun, settled_sqlite3CloseSavepoints hsettled, hcounts⟩

theorem opAutoCommit_rollback (h : db.Settled) (ho : o.Locked)
    (hc : db.Counts Sql.rollback.readOnly) :
    Granted .rollback db (opAutoCommit o.eFileLock .rollback true true db) := by
  simp only [opAutoCommit]
  split
  · exact opHalt_abort h ho hc
  split
  · exact opHalt_abort h ho hc
  split
  · refine ⟨nofun, rfl, nofun, settled_rollbackAll db, ?_⟩
    exact ⟨activeVdbeCnt_btreeEndTransaction db, writeVdbeCnt_btreeEndTransaction db⟩
  · exact opHalt_abort h ho hc

/-- A `COMMIT` or `RELEASE` halts in autocommit mode. -/
theorem endsTransaction_commit (hzero : db.writeVdbeCnt = 0) :
    (db.setAutoCommit true).endsTransaction true :=
  ⟨rfl, hzero⟩

/-- The commit that ends a transaction. -/
theorem commit_granted (ho : o.Locked) (hc : db.Counts true) (hzero : db.writeVdbeCnt = 0)
    (hr : db.NeedsExclusive → o.inTrans = .none) :
    ∃ db', (db.setAutoCommit true).sqlite3VdbeHalt o.eFileLock true .ok = .ok db' ∧
      db'.Settled ∧ db'.SameCounts (db.leave true) := by
  have hfree : ¬ o.HaltRefused true .ok (db.setAutoCommit true) :=
    fun hbusy => hbusy.2.2.2 (hr hbusy.2.2.1)
  exact sqlite3VdbeHalt_granted ho ⟨hc.active, hc.write⟩
    (absurd (endsTransaction_commit hzero)) hfree

theorem commit_refused (ho : o.Locked) (hzero : db.writeVdbeCnt = 0) (hneeds : db.NeedsExclusive)
    (hne : o.inTrans ≠ .none) :
    (db.setAutoCommit true).sqlite3VdbeHalt o.eFileLock true .ok =
      .error { db.setAutoCommit true with eFileLock := .pending } :=
  sqlite3VdbeHalt_refused ho ⟨endsTransaction_commit hzero, rfl, hneeds, hne⟩

theorem opAutoCommit_commit (h : db.Settled) (ho : o.Locked)
    (hc : db.Counts Sql.commit.readOnly)
    (hr : Commits .commit answer true db → o.inTrans = .none) :
    Granted .commit db (opAutoCommit o.eFileLock .commit true false db) := by
  cases hauto : db.autoCommit with
  | true =>
      simp only [opAutoCommit, hauto]
      exact opHalt_abort h ho hc
  | false =>
      rcases Nat.eq_zero_or_pos db.writeVdbeCnt with hzero | hpos
      · obtain ⟨db', heq, hsettled, hcounts⟩ :=
          commit_granted ho hc hzero fun hneeds => hr ⟨hauto, hzero, hneeds⟩
        have heq : (db.setAutoCommit true).sqlite3VdbeHalt o.eFileLock Sql.commit.readOnly .ok =
            .ok db' := heq
        simp only [opAutoCommit, hauto, hzero, heq]
        exact ⟨nofun, trivial, nofun, settled_sqlite3CloseSavepoints hsettled, hcounts⟩
      · simp only [opAutoCommit, hauto]
        rw [if_neg (by simp), if_pos (by simp [hpos])]
        exact opHalt_abort h ho hc

theorem opAutoCommit_commit_refused (ho : o.Locked) (hcm : Commits .commit answer true db)
    (hne : o.inTrans ≠ .none) :
    (opAutoCommit o.eFileLock .commit true false db).1 = .busy := by
  obtain ⟨hauto, hzero, hneeds⟩ := hcm
  have heq : (db.setAutoCommit true).sqlite3VdbeHalt o.eFileLock Sql.commit.readOnly .ok = _ :=
    commit_refused ho hzero hneeds hne
  simp only [opAutoCommit, hauto, hzero, heq]
  rfl

/-! ## Savepoints -/

theorem opSavepoint_granted {p1 : SavepointOp} {zName : String} (h : db.Settled) (ho : o.Locked)
    (hc : db.Counts true)
    (hr : Commits (.savepoint p1 zName) answer true db → o.inTrans = .none) :
    Granted (.savepoint p1 zName) db
      (opSavepoint o.eFileLock (.savepoint p1 zName) p1 zName db) := by
  have habort : Granted (.savepoint p1 zName) db
      (opHalt o.eFileLock (.savepoint p1 zName) (.error .abort) db) := opHalt_abort h ho hc
  have hdrop : ∀ n, Granted (.savepoint p1 zName) db
      (opHalt o.eFileLock (.savepoint p1 zName) .ok (db.dropSavepoints n)) := by
    intro n
    have hsettled := settled_dropSavepoints h n
    have hcounts : (db.dropSavepoints n).Counts (Sql.savepoint p1 zName).readOnly :=
      ⟨hc.active, hc.write⟩
    exact (opHalt_granted hsettled ho hcounts (not_haltRefused_readOnly hsettled)).congr ⟨rfl, rfl⟩
  cases p1 with
  | begin =>
      have hopen := settled_openSavepoint h.toLocked zName
      have hcounts : (db.openSavepoint zName).Counts (Sql.savepoint .begin zName).readOnly :=
        ⟨hc.active, hc.write⟩
      simp only [opSavepoint]
      split
      · exact habort
      · exact (opHalt_granted hopen ho hcounts (not_haltRefused_readOnly hopen)).congr ⟨rfl, rfl⟩
  | release =>
      simp only [opSavepoint]
      split
      · exact habort
      split
      · exact habort
      next hwriters =>
          have hzero : db.writeVdbeCnt = 0 := by omega
          split
          next hends =>
              obtain ⟨db', heq, hsettled, hcounts⟩ :=
                commit_granted ho hc hzero fun hneeds => hr ⟨hends, hzero, hneeds⟩
              have heq : (db.setAutoCommit true).sqlite3VdbeHalt o.eFileLock
                  (Sql.savepoint .release zName).readOnly .ok = .ok db' := heq
              rw [heq]
              exact ⟨nofun, trivial, nofun, settled_sqlite3CloseSavepoints hsettled, hcounts⟩
          next => exact hdrop _
  | rollback =>
      simp only [opSavepoint]
      split
      · exact habort
      split
      · exact habort
      · exact hdrop _

theorem opSavepoint_refused {p1 : SavepointOp} {zName : String} (ho : o.Locked)
    (hcm : Commits (.savepoint p1 zName) answer true db) (hne : o.inTrans ≠ .none) :
    (opSavepoint o.eFileLock (.savepoint p1 zName) p1 zName db).1 = .busy := by
  cases p1 with
  | begin => exact hcm.elim
  | rollback => exact hcm.elim
  | release =>
      obtain ⟨hends, hzero, hneeds⟩ := hcm
      have heq : (db.setAutoCommit true).sqlite3VdbeHalt o.eFileLock
          (Sql.savepoint .release zName).readOnly .ok = _ := commit_refused ho hzero hneeds hne
      simp only [opSavepoint, hends.2, hzero, if_pos hends, heq]
      rfl

/-! ## The instructions of a statement -/

theorem settled_modify (h : db.Settled) (sql : Sql) (answer : Answer) :
    (db.modify sql answer).Settled where
  holds := h.holds
  of_dbModified hm := by
    rcases Bool.or_eq_true_iff.mp hm with hm | hm
    · exact h.of_dbModified hm
    · simp only [Bool.and_eq_true, beq_iff_eq] at hm
      exact hm.2
  of_writeVdbeCnt := h.of_writeVdbeCnt
  of_activeVdbeCnt := h.of_activeVdbeCnt

/-- Writing a page to the file changes no more than the lock of a write transaction. -/
theorem pagerStress_eq (other : Lock) (db : Handle) :
    db.pagerStress other = db ∨
      db.inTrans = .write ∧ db.eFileLock ≠ .exclusive ∧
        db.pagerStress other =
          { db with eFileLock := if unixLock .exclusive other then .exclusive else .pending } := by
  unfold pagerStress
  split
  next h => exact .inr ⟨h.1, h.2.2, rfl⟩
  next => exact .inl rfl

theorem settled_pagerStress (h : db.Settled) (other : Lock) : (db.pagerStress other).Settled := by
  rcases pagerStress_eq other db with heq | ⟨hwrite, _, heq⟩
  · rw [heq]
    exact h
  · rw [heq]
    refine ⟨⟨?_, h.of_dbModified⟩, h.of_writeVdbeCnt, h.of_activeVdbeCnt⟩
    rw [hwrite]
    dsimp only
    split <;> exact ⟨nofun, nofun⟩

theorem sameCounts_pagerStress (other : Lock) (db : Handle) :
    (db.pagerStress other).SameCounts db := by
  rcases pagerStress_eq other db with heq | ⟨_, _, heq⟩ <;> rw [heq] <;> exact ⟨rfl, rfl⟩

/-- A halt behind a full page cache is refused as it would be without. -/
theorem haltRefused_pagerStress {readOnly : Bool} (ho : o.Locked) :
    o.HaltRefused readOnly halt (db.pagerStress o.eFileLock) ↔ o.HaltRefused readOnly halt db := by
  rcases pagerStress_eq o.eFileLock db with heq | ⟨_, hlock, heq⟩
  · rw [heq]
  · rw [heq, unixLock_exclusive ho]
    have hpending : ∀ hne : o.inTrans ≠ .none, (o.inTrans == .none) = false :=
      fun hne => beq_false_of_ne hne
    constructor
    · rintro ⟨hends, hkeeps, ⟨hwrite, hm, _⟩, hne⟩
      exact ⟨hends, hkeeps, ⟨hwrite, hm, hlock⟩, hne⟩
    · rintro ⟨hends, hkeeps, ⟨hwrite, hm, _⟩, hne⟩
      refine ⟨hends, hkeeps, ⟨hwrite, hm, ?_⟩, hne⟩
      simp [hpending hne]

theorem settled_work (h : db.Settled) (other : Lock) (sql : Sql) (answer : Answer) :
    (db.work other sql answer).Settled := by
  unfold work
  split
  · exact settled_pagerStress (settled_modify h sql answer) other
  · exact settled_modify h sql answer

theorem sameCounts_work (other : Lock) (sql : Sql) (answer : Answer) (db : Handle) :
    (db.work other sql answer).SameCounts db := by
  unfold work
  split
  · exact sameCounts_pagerStress other (db.modify sql answer)
  · exact ⟨rfl, rfl⟩

theorem haltRefused_write (h : db.Settled) (ho : o.Locked) :
    o.HaltRefused false halt (db.work o.eFileLock .write answer) ↔
      Commits .write { answer with halt := some halt } true db ∧ o.inTrans ≠ .none := by
  have hwork : o.HaltRefused false halt (db.work o.eFileLock .write answer) ↔
      o.HaltRefused false halt (db.modify .write answer) := by
    unfold work
    split
    · exact haltRefused_pagerStress ho
    · exact Iff.rfl
  have hmod := h.of_dbModified
  rw [hwork]
  simp only [HaltRefused, endsTransaction, NeedsExclusive, Commits, Handle.modify]
  constructor
  · rintro ⟨⟨hauto, hcnt⟩, hkeeps, ⟨hwrite, hm, hlock⟩, hne⟩
    refine ⟨⟨hauto, hcnt, fun _ => hwrite, ?_, hlock, hkeeps⟩, hne⟩
    rcases Bool.or_eq_true_iff.mp hm with hm | hm
    · exact .inl hm
    · simp only [Bool.and_eq_true] at hm
      exact .inr hm.1.1
  · rintro ⟨⟨hauto, hcnt, hwrite, hm, hlock, hkeeps⟩, hne⟩
    refine ⟨⟨hauto, hcnt⟩, hkeeps, ⟨hwrite trivial, ?_, hlock⟩, hne⟩
    rcases hm with hm | hm
    · simp [hm]
    · simp [hm, hwrite trivial, Sql.readOnly, Sql.transaction]

/-- A statement that writes elsewhere commits what others have changed, if anything. -/
theorem haltRefused_elsewhere (answer : Answer) :
    o.HaltRefused false halt db ↔
      Commits (.elsewhere true) { answer with halt := some halt } true db ∧ o.inTrans ≠ .none := by
  constructor
  · rintro ⟨⟨hauto, hcnt⟩, hkeeps, hneeds, hne⟩
    exact ⟨⟨hauto, hcnt, hneeds, hkeeps⟩, hne⟩
  · rintro ⟨⟨hauto, hcnt, hneeds, hkeeps⟩, hne⟩
    exact ⟨⟨hauto, hcnt⟩, hkeeps, hneeds, hne⟩

/-- A row leaves a statement running, and a halt is refused or not. -/
theorem opRow_granted (h : db.Settled) (ho : o.Locked) (hc : db.Counts sql.readOnly)
    (hrests : Phase.running.Rests sql)
    (hr : ∀ halt, answer.halt = some halt → ¬ o.HaltRefused sql.readOnly halt db) :
    Granted sql db (opRow o.eFileLock sql answer db) := by
  cases hh : answer.halt with
  | none =>
      simp only [opRow, hh]
      exact ⟨nofun, hrests, fun _ => rfl, h, rfl, rfl⟩
  | some halt =>
      simp only [opRow, hh]
      exact opHalt_granted h ho hc (hr halt hh)

theorem opRow_refused (ho : o.Locked) (hh : answer.halt = some halt)
    (hr : o.HaltRefused sql.readOnly halt db) : (opRow o.eFileLock sql answer db).1 = .busy := by
  simp only [opRow, hh]
  exact opHalt_refused ho hr

theorem counts_congr {readOnly : Bool} (hc : db.Counts readOnly) (hsame : db'.SameCounts db) :
    db'.Counts readOnly := by
  constructor
  · rw [hsame.1, hsame.2]
    exact hc.active
  · rw [hsame.2]
    exact hc.write

theorem opBody_granted (h : db.Settled) (ho : o.Locked) (hc : db.Counts sql.readOnly)
    (hr : Commits sql answer true db → o.inTrans = .none) :
    Granted sql db (opBody o.eFileLock sql answer db) := by
  have hsame := sameCounts_work o.eFileLock sql answer db
  have hwork := settled_work h o.eFileLock sql answer
  have hcounts : (db.work o.eFileLock sql answer).Counts sql.readOnly := counts_congr hc hsame
  cases sql with
  | read =>
      exact (opRow_granted hwork ho hcounts (.inl rfl) fun _ _ =>
        not_haltRefused_readOnly hwork).congr hsame
  | write =>
      refine (opRow_granted hwork ho hcounts (.inr (.inl rfl)) fun halt hh hbusy => ?_).congr hsame
      obtain ⟨hcm, hne⟩ := (haltRefused_write h ho).mp hbusy
      rw [← hh] at hcm
      exact hne (hr hcm)
  | elsewhere writes =>
      refine opRow_granted h ho hc (.inr (.inr ⟨writes, rfl⟩)) fun halt hh hbusy => ?_
      cases writes with
      | false => exact not_haltRefused_readOnly h hbusy
      | true =>
          obtain ⟨hcm, hne⟩ := (haltRefused_elsewhere answer).mp hbusy
          rw [← hh] at hcm
          exact hne (hr hcm)
  | begin mode =>
      exact (opAutoCommit_begin (settled_modify h (.begin mode) answer) ho
        ⟨hc.active, hc.write⟩).congr ⟨rfl, rfl⟩
  | commit => exact opAutoCommit_commit h ho hc hr
  | rollback => exact opAutoCommit_rollback h ho hc
  | savepoint p1 zName => exact opSavepoint_granted h ho hc hr

theorem opBody_refused (h : db.Settled) (ho : o.Locked) (hcm : Commits sql answer true db)
    (hne : o.inTrans ≠ .none) : (opBody o.eFileLock sql answer db).1 = .busy := by
  have hhalts : answer.halt.any Halt.keeps = true → ∃ halt, answer.halt = some halt := by
    intro hkeeps
    cases hh : answer.halt with
    | none => simp [hh] at hkeeps
    | some halt => exact ⟨halt, rfl⟩
  cases sql with
  | write =>
      obtain ⟨halt, hh⟩ := hhalts hcm.2.2.2.2.2
      rw [show answer = { answer with halt := some halt } by rw [← hh]] at hcm
      exact opRow_refused ho hh ((haltRefused_write h ho).mpr ⟨hcm, hne⟩)
  | elsewhere writes =>
      cases writes with
      | false => exact hcm.elim
      | true =>
          obtain ⟨halt, hh⟩ := hhalts hcm.2.2.2
          rw [show answer = { answer with halt := some halt } by rw [← hh]] at hcm
          exact opRow_refused ho hh ((haltRefused_elsewhere _).mpr ⟨hcm, hne⟩)
  | commit => exact opAutoCommit_commit_refused ho hcm hne
  | savepoint p1 zName => exact opSavepoint_refused ho hcm hne
  | read => exact hcm.elim
  | begin mode => exact hcm.elim
  | rollback => exact hcm.elim

/-! ## Steps -/

theorem counts_enter (hle : db.writeVdbeCnt ≤ db.activeVdbeCnt) (readOnly : Bool) :
    (db.enter readOnly).Counts readOnly := by
  cases readOnly <;> constructor <;> simp [Handle.enter] <;> omega

theorem readOnly_of_transaction {wrflag : Nat} (ht : sql.transaction = some wrflag)
    (hpos : 0 < wrflag) : sql.readOnly = false := by
  cases sql with
  | elsewhere writes => cases ht
  | read =>
      obtain rfl := Option.some.inj ht
      cases hpos
  | write => rfl
  | begin mode => cases mode <;> first | rfl | cases ht
  | commit => cases ht
  | rollback => cases ht
  | savepoint p1 zName => cases ht

/-- The transaction of a statement that is counted. -/
theorem settled_begun {other : Lock} {wrflag : Nat} (h : db.Settled)
    (hc : db.Counts sql.readOnly) (ht : sql.transaction = some wrflag)
    (hs : db.sqlite3BtreeBeginTrans other wrflag = some db') :
    db'.Settled ∧ db'.SameCounts db := by
  refine settled_sqlite3BtreeBeginTrans h hc.pos (fun hpos => ?_) hs
  have hwrite := hc.write
  rw [readOnly_of_transaction ht hpos] at hwrite
  exact hwrite

/-- A statement that writes commits, if it does, what it finds and what it adds. -/
theorem commits_write {other : Lock} (h : db.Locked)
    (hs : (db.enter false).sqlite3BtreeBeginTrans other 1 = some db') :
    Commits .write answer true db' ↔ Commits .write answer false db := by
  rcases sqlite3BtreeBeginTrans_eq_some hs with
    ⟨rfl, hwrite⟩ | ⟨hzero, _⟩ | ⟨_, hne, rfl⟩
  · have hwrite : db.inTrans = .write := hwrite Nat.one_pos
    simp [Commits, Handle.enter, hwrite]
  · cases hzero
  · have hlock : db.eFileLock ≠ .exclusive := by
      intro hlock
      have hholds := h.holds
      have hne : db.inTrans ≠ .write := hne
      cases ht : db.inTrans <;> rw [ht, hlock] at hholds <;> simp_all [Trans.Holds]
    simp [Commits, Handle.enter, hlock]

/-- Starting the transaction of a statement does not change what it commits. -/
theorem commits_start {other : Lock} {wrflag : Nat} (h : db.Locked)
    (ht : sql.transaction = some wrflag)
    (hs : (db.enter sql.readOnly).sqlite3BtreeBeginTrans other wrflag = some db') :
    Commits sql answer true db' ↔ Commits sql answer false db := by
  cases sql with
  | write =>
      obtain rfl := Option.some.inj ht
      exact commits_write h hs
  | read => exact Iff.rfl
  | begin mode => exact Iff.rfl
  | elsewhere writes => cases ht
  | commit => cases ht
  | rollback => cases ht
  | savepoint p1 zName => cases ht

theorem commits_of_transaction_none (ht : sql.transaction = none) :
    Commits sql answer true (db.enter sql.readOnly) ↔ Commits sql answer false db := by
  cases sql with
  | elsewhere writes =>
      cases writes with
      | false => exact Iff.rfl
      | true => simp [Commits, Handle.enter, Sql.readOnly, NeedsExclusive]
  | commit => exact Iff.rfl
  | write => cases ht
  | read => cases ht
  | begin mode => exact Iff.rfl
  | rollback => exact Iff.rfl
  | savepoint p1 zName => cases p1 <;> exact Iff.rfl

theorem startable_enter (wrflag : Option Nat) (readOnly : Bool) :
    o.Startable wrflag (db.enter readOnly) ↔ o.Startable wrflag db := by
  rcases wrflag with _ | _ | _ | n <;> exact Iff.rfl

theorem opTransaction_granted (h : db.Settled) (ho : o.Locked)
    (hle : db.writeVdbeCnt ≤ db.activeVdbeCnt) (hf : StepFree o sql answer false db) :
    Granted sql (db.enter sql.readOnly)
      (opTransaction o.eFileLock sql answer (db.enter sql.readOnly)) := by
  obtain ⟨hstart, hcm⟩ := hf
  have hcounts := counts_enter hle sql.readOnly
  have henter := h.enter sql.readOnly
  unfold opTransaction
  split
  next ht =>
      exact opBody_granted henter ho hcounts fun hc => hcm ((commits_of_transaction_none ht).mp hc)
  next wrflag ht =>
      rw [ht] at hstart
      split
      next hnone =>
          have hno := (sqlite3BtreeBeginTrans_eq_none ho).mp hnone
          exact absurd ((startable_enter _ _).mpr (hstart rfl)) hno
      next db' hsome =>
          obtain ⟨hsettled, hsame⟩ := settled_begun henter hcounts ht hsome
          have hcounts' : db'.Counts sql.readOnly := counts_congr hcounts hsame
          refine (opBody_granted hsettled ho hcounts' fun hc => hcm ?_).congr hsame
          exact (commits_start h.toLocked ht hsome).mp hc

theorem opTransaction_refused (h : db.Settled) (ho : o.Locked)
    (hle : db.writeVdbeCnt ≤ db.activeVdbeCnt) (hf : ¬ StepFree o sql answer false db) :
    (opTransaction o.eFileLock sql answer (db.enter sql.readOnly)).1 = .busy := by
  have hcounts := counts_enter hle sql.readOnly
  have henter := h.enter sql.readOnly
  have hcm : o.Startable sql.transaction db → Commits sql answer false db ∧ o.inTrans ≠ .none := by
    intro hstart
    by_contra hno
    exact hf ⟨fun _ => hstart, fun hc => by_contra fun hne => hno ⟨hc, hne⟩⟩
  unfold opTransaction
  split
  next ht =>
      rw [ht] at hcm
      obtain ⟨hcm, hne⟩ := hcm trivial
      exact opBody_refused henter ho ((commits_of_transaction_none ht).mpr hcm) hne
  next wrflag ht =>
      rw [ht] at hcm
      split
      next => rfl
      next db' hsome =>
          have hstart : o.Startable (some wrflag) (db.enter sql.readOnly) := by
            by_contra hno
            rw [(sqlite3BtreeBeginTrans_eq_none ho).mpr hno] at hsome
            cases hsome
          obtain ⟨hcm, hne⟩ := hcm ((startable_enter _ _).mp hstart)
          have hsettled := (settled_begun henter hcounts ht hsome).1
          exact opBody_refused hsettled ho ((commits_start h.toLocked ht hsome).mpr hcm) hne

/-- The handle that counts a statement while it takes a step. -/
def counting (sql : Sql) (phase : Phase) (db : Handle) : Handle :=
  if phase.active then db else db.enter sql.readOnly

/-- A step is refused exactly if something it asks for conflicts with the
transaction of the other connection. -/
theorem sqlite3_step_granted (h : db.Settled) (ho : o.Locked)
    (hle : db.writeVdbeCnt ≤ db.activeVdbeCnt) (hlive : phase ≠ .finalized)
    (hrests : phase.Rests sql) (hc : phase.active = true → db.Counts sql.readOnly)
    (hf : StepFree o sql answer phase.active db) :
    Granted sql (counting sql phase db) (sqlite3_step o.eFileLock sql answer phase db) := by
  cases phase with
  | fresh => exact opTransaction_granted h ho hle hf
  | halted => exact opTransaction_granted h ho hle hf
  | start =>
      obtain rfl : sql = .rollback := hrests
      exact opBody_granted h ho (hc rfl) hf.2
  | running =>
      exact opBody_granted h ho (hc rfl) hf.2
  | halting halt => exact hrests.elim
  | finalized => exact absurd rfl hlive

theorem sqlite3_step_refused (h : db.Settled) (ho : o.Locked)
    (hle : db.writeVdbeCnt ≤ db.activeVdbeCnt) (hrests : phase.Rests sql)
    (hlive : phase ≠ .finalized)
    (hf : ¬ StepFree o sql answer phase.active db) :
    (sqlite3_step o.eFileLock sql answer phase db).1 = .busy := by
  cases phase with
  | fresh => exact opTransaction_refused h ho hle hf
  | halted => exact opTransaction_refused h ho hle hf
  | start =>
      obtain rfl : sql = .rollback := hrests
      exact absurd ⟨nofun, nofun⟩ hf
  | running =>
      have hcm : Commits sql answer true db ∧ o.inTrans ≠ .none := by
        by_contra hno
        exact hf ⟨nofun, fun hc => by_contra fun hne => hno ⟨hc, hne⟩⟩
      exact opBody_refused h ho hcm.1 hcm.2
  | halting halt => exact hrests.elim
  | finalized => exact absurd rfl hlive

/-! ## Resetting -/

/-- Resetting never fails, but a commit that it makes may be refused. -/
theorem sqlite3_reset_granted (h : db.Settled) (ho : o.Locked) (hrests : phase.Rests sql)
    (hc : phase.active = true → db.Counts sql.readOnly)
    (hf : phase.active = true → Commits sql .ends true db → o.inTrans = .none) :
    (sqlite3_reset o.eFileLock sql phase db).Settled ∧
      (sqlite3_reset o.eFileLock sql phase db).SameCounts
        (if phase.active then db.leave sql.readOnly else db) := by
  unfold sqlite3_reset
  split
  next hactive =>
      have hfree : ¬ o.HaltRefused sql.readOnly .ok db := by
        intro hbusy
        cases phase with
        | start =>
            obtain rfl : sql = .rollback := hrests
            exact not_haltRefused_readOnly h hbusy
        | running =>
            rcases hrests with rfl | rfl | ⟨writes, rfl⟩
            · exact not_haltRefused_readOnly h hbusy
            · have hwork : db.work o.eFileLock .write .ends = db := by
                simp [work, Handle.modify, Answer.ends]
              rw [← hwork] at hbusy
              obtain ⟨hcm, hne⟩ := (haltRefused_write h ho).mp hbusy
              exact hne (hf rfl hcm)
            cases writes with
            | false => exact not_haltRefused_readOnly h hbusy
            | true =>
                obtain ⟨hcm, hne⟩ := (haltRefused_elsewhere .ends).mp hbusy
                exact hne (hf rfl hcm)
        | halting halt => exact hrests
        | fresh => cases hactive
        | halted => cases hactive
        | finalized => cases hactive
      obtain ⟨db', heq, hsettled, hcounts⟩ :=
        sqlite3VdbeHalt_granted ho (hc hactive) (fun _ => h) hfree
      rw [heq]
      exact ⟨hsettled, hcounts⟩
  next => exact ⟨h, rfl, rfl⟩

theorem opHalt_ne_row {other : Lock} (h : (opHalt other sql halt db).1 = .row) : False := by
  simp only [opHalt] at h
  split at h
  · cases h
  · dsimp only at h
    split at h <;> cases h

theorem opAutoCommit_ne_row {other : Lock} {desired iRollback : Bool}
    (h : (opAutoCommit other sql desired iRollback db).1 = .row) : False := by
  simp only [opAutoCommit] at h
  split at h
  · exact opHalt_ne_row h
  split at h
  · exact opHalt_ne_row h
  split at h
  · split at h
    · cases h
    · split at h <;> cases h
  · exact opHalt_ne_row h

theorem opSavepoint_ne_row {other : Lock} {p1 : SavepointOp} {zName : String}
    (h : (opSavepoint other sql p1 zName db).1 = .row) : False := by
  cases p1 with
  | begin =>
      simp only [opSavepoint] at h
      split at h <;> exact opHalt_ne_row h
  | release =>
      simp only [opSavepoint] at h
      split at h
      · exact opHalt_ne_row h
      split at h
      · exact opHalt_ne_row h
      split at h
      · split at h <;> cases h
      · exact opHalt_ne_row h
  | rollback =>
      simp only [opSavepoint] at h
      split at h
      · exact opHalt_ne_row h
      split at h <;> exact opHalt_ne_row h

theorem opRow_eq_row {other : Lock} (h : opRow other sql answer db = (.row, phase, db')) :
    answer.halt = none ∧ db' = db := by
  unfold opRow at h
  split at h
  next hnone =>
      obtain ⟨_, _, rfl⟩ := h
      exact ⟨hnone, rfl⟩
  next halt _ => exact (opHalt_ne_row (congrArg Prod.fst h)).elim

theorem commits_work {other : Lock} (h : Commits .write .ends true (db.work other .write answer)) :
    Commits .write { answer with halt := some .ok } true db := by
  have hmodify : Commits .write .ends true (db.modify .write answer) := by
    unfold work at h
    split at h
    · rcases pagerStress_eq other (db.modify .write answer) with heq | ⟨_, hlock, heq⟩
      · rw [heq] at h
        exact h
      · rw [heq] at h
        exact ⟨h.1, h.2.1, h.2.2.1, h.2.2.2.1, hlock, h.2.2.2.2.2⟩
    · exact h
  obtain ⟨hauto, hcnt, hwrite, hm, hlock, hkeeps⟩ := hmodify
  refine ⟨hauto, hcnt, hwrite, ?_, hlock, hkeeps⟩
  rcases hm with hm | hm
  · rcases Bool.or_eq_true_iff.mp hm with hm | hm
    · exact .inl hm
    · simp only [Bool.and_eq_true] at hm
      exact .inr hm.1.1
  · cases hm

/-- A statement that is reset after its first row commits what it has changed. -/
theorem commits_of_row {other : Lock} (h : db.Locked)
    (hrow : sqlite3_step other sql answer .fresh db = (.row, phase, db'))
    (hcm : Commits sql .ends true db') :
    answer.halt = none ∧ Commits sql { answer with halt := some .ok } false db := by
  cases sql with
  | write =>
      simp only [sqlite3_step, opTransaction] at hrow
      split at hrow
      next ht => cases ht
      next wrflag ht =>
          split at hrow
          next => cases hrow
          next db₁ hsome =>
              obtain ⟨hnone, rfl⟩ := opRow_eq_row hrow
              exact ⟨hnone, (commits_start h ht hsome).mp (commits_work hcm)⟩
  | elsewhere writes =>
      obtain ⟨hnone, rfl⟩ := opRow_eq_row hrow
      refine ⟨hnone, (commits_of_transaction_none rfl).mp ?_⟩
      cases writes <;> exact hcm
  | commit => exact (opAutoCommit_ne_row (congrArg Prod.fst hrow)).elim
  | savepoint p1 zName => exact (opSavepoint_ne_row (congrArg Prod.fst hrow)).elim
  | read => exact hcm.elim
  | begin mode => exact hcm.elim
  | rollback => exact hcm.elim

/-! ## Counting -/

/-- The connection counts a statement that goes from one place to another. -/
structure Accounts (sql : Sql) (phase : Phase) (db : Handle) (phase' : Phase) (db' : Handle) :
    Prop where
  active : db'.activeVdbeCnt + phase.active.toNat = db.activeVdbeCnt + phase'.active.toNat
  write : db'.writeVdbeCnt + (phase.active && !sql.readOnly).toNat =
    db.writeVdbeCnt + (phase'.active && !sql.readOnly).toNat

theorem Accounts.trans {phase'' : Phase} {db'' : Handle} (h : Accounts sql phase db phase' db')
    (h' : Accounts sql phase' db' phase'' db'') : Accounts sql phase db phase'' db'' := by
  have hactive := h.active
  have hactive' := h'.active
  have hwrite := h.write
  have hwrite' := h'.write
  constructor <;> omega

theorem Accounts.counts (h : Accounts sql .fresh db phase db')
    (hle : db.writeVdbeCnt ≤ db.activeVdbeCnt) (hactive : phase.active = true) :
    db'.Counts sql.readOnly := by
  obtain ⟨ha, hw⟩ := h
  constructor <;> cases ho : sql.readOnly <;> simp [hactive, ho] at ha hw ⊢ <;> omega

theorem Accounts.sameCounts (h : Accounts sql .fresh db phase db')
    (hhalted : phase.active = false) :
    db'.SameCounts db := by
  obtain ⟨ha, hw⟩ := h
  simp only [hhalted, Phase.active_fresh, Bool.false_and, Bool.toNat_false] at ha hw
  exact ⟨ha, hw⟩

theorem Granted.accounts {r : Status × Phase × Handle} (h : Granted sql (counting sql phase db) r)
    (hc : phase.active = true → db.Counts sql.readOnly) :
    Accounts sql phase db r.2.1 r.2.2 := by
  obtain ⟨hactive, hwrite⟩ := h.counts
  unfold counting at hactive hwrite
  cases hp : phase.active with
  | false =>
      constructor <;> cases hr : r.2.1.active <;> cases ho : sql.readOnly <;>
        simp [hp, hr, ho, Handle.enter, Handle.leave] at hactive hwrite ⊢ <;> omega
  | true =>
      obtain ⟨hle, hpos⟩ := hc hp
      constructor <;> cases hr : r.2.1.active <;> cases ho : sql.readOnly <;>
        simp [hp, hr, ho, Handle.leave] at hactive hwrite hle hpos ⊢ <;> omega

theorem accounts_reset {phase' : Phase} (hhalted : phase'.active = false)
    (hc : phase.active = true → db.Counts sql.readOnly)
    (hsame : db'.SameCounts (if phase.active then db.leave sql.readOnly else db)) :
    Accounts sql phase db phase' db' := by
  obtain ⟨hactive, hwrite⟩ := hsame
  cases hp : phase.active with
  | false =>
      simp only [hp, Bool.false_eq_true, if_false] at hactive hwrite
      constructor <;> simp [hp, hhalted, hactive, hwrite]
  | true =>
      obtain ⟨hle, hpos⟩ := hc hp
      constructor <;> cases ho : sql.readOnly <;>
        simp [hp, hhalted, ho, Handle.leave] at hactive hwrite hle hpos ⊢ <;> omega

/-! ## Refused steps are refused again -/

/-- A refused halt only changes the lock. -/
theorem sqlite3VdbeHalt_eq_error {other : Lock} {readOnly : Bool}
    (h : db.sqlite3VdbeHalt other readOnly halt = .error db') :
    db.autoCommit = true ∧ halt.keeps = true ∧ db' = { db with eFileLock := .pending } ∧
      db'.sqlite3VdbeHalt other readOnly halt = .error db' := by
  simp only [sqlite3VdbeHalt] at h
  split at h
  next hends =>
      have hcommit : halt.keeps = true ∧
          (db.vdbeCommit other).map (leave readOnly) = .error db' := by
        split at h
        · exact ⟨rfl, h⟩
        · exact ⟨rfl, h⟩
        · cases h
      obtain ⟨hkeeps, hcommit⟩ := hcommit
      unfold vdbeCommit at hcommit
      split at hcommit
      next hbusy =>
          obtain ⟨hwrite, hmodified, _, hlock⟩ := hbusy
          obtain rfl : { db with eFileLock := .pending } = db' := Except.error.inj hcommit
          refine ⟨hends.1, hkeeps, rfl, ?_⟩
          have hends' : endsTransaction readOnly { db with eFileLock := .pending } := hends
          have hagain : vdbeCommit other { db with eFileLock := .pending } =
              .error { db with eFileLock := .pending } := if_pos ⟨hwrite, hmodified, nofun, hlock⟩
          simp only [sqlite3VdbeHalt, if_pos hends', hagain]
          split
          · rfl
          · rfl
          next action hfail => cases action <;> simp_all [Halt.keeps]
      next => cases hcommit
  next => split at h <;> cases h

theorem opHalt_again {other : Lock} (h : opHalt other sql halt db = (.busy, phase, db')) :
    halt.keeps = true ∧ phase = .halting halt ∧
      opHalt other sql halt db' = (.busy, phase, db') := by
  unfold opHalt at h
  split at h
  next db₁ heq =>
      obtain ⟨_, hphase, rfl⟩ : Status.busy = .busy ∧ Phase.halting halt = phase ∧ db₁ = db' := by
        simpa using h
      obtain ⟨_, hkeeps, _, hagain⟩ := sqlite3VdbeHalt_eq_error heq
      refine ⟨hkeeps, hphase.symm, ?_⟩
      rw [opHalt, hagain, ← hphase]
  next db₁ heq =>
      simp only [Prod.mk.injEq] at h
      split at h <;> cases h.1

theorem opHalt_abort_ne_busy {other : Lock}
    (h : opHalt other sql (.error .abort) db = (.busy, phase, db')) : False := by
  cases (opHalt_again h).1

/-- Only a `COMMIT` is refused when it sets the mode. -/
theorem opAutoCommit_again {other : Lock} {desired iRollback : Bool}
    (h : opAutoCommit other sql desired iRollback db = (.busy, phase, db')) :
    desired = true ∧ iRollback = false ∧ phase = .start ∧
      opAutoCommit other sql desired iRollback db' = (.busy, phase, db') := by
  simp only [opAutoCommit] at h
  split at h
  · exact (opHalt_abort_ne_busy h).elim
  split at h
  · exact (opHalt_abort_ne_busy h).elim
  next hwriters =>
      split at h
      next hne =>
          split at h
          · cases h
          next hcommit =>
              split at h
              next db₁ heq =>
                  obtain ⟨hauto, _, rfl, hagain⟩ := sqlite3VdbeHalt_eq_error heq
                  obtain rfl : desired = true := hauto
                  have hoff : db.autoCommit = false := by simpa using hne
                  have hzero : db.writeVdbeCnt = 0 := by simpa [hoff, hcommit] using hwriters
                  obtain ⟨_, rfl, rfl⟩ := h
                  refine ⟨rfl, by simpa using hcommit, rfl, ?_⟩
                  simp [opAutoCommit, setAutoCommit, hcommit, hzero] at hagain ⊢
                  rw [hagain]
              next => cases h
      next => exact (opHalt_abort_ne_busy h).elim

/-- Only a `RELEASE` that commits is refused, and it has its savepoint still. -/
theorem opSavepoint_again {other : Lock} {p1 : SavepointOp} {zName : String}
    (h : opSavepoint other (.savepoint p1 zName) p1 zName db = (.busy, phase, db')) :
    sqlite3_step other (.savepoint p1 zName) answer phase db' = (.busy, phase, db') := by
  have hhalt : ∀ halt db, opHalt other (.savepoint p1 zName) halt db = (.busy, phase, db') →
      sqlite3_step other (.savepoint p1 zName) answer phase db' = (.busy, phase, db') := by
    intro halt db hh
    obtain ⟨_, rfl, hagain⟩ := opHalt_again hh
    exact hagain
  cases p1 with
  | begin =>
      simp only [opSavepoint] at h
      split at h <;> exact hhalt _ _ h
  | release =>
      simp only [opSavepoint] at h
      split at h
      · exact hhalt _ _ h
      next iSavepoint hfind =>
          split at h
          · exact hhalt _ _ h
          next hwriters =>
              split at h
              next hends =>
                  split at h
                  next db₁ heq =>
                      obtain ⟨_, _, hdb, hagain⟩ := sqlite3VdbeHalt_eq_error heq
                      obtain ⟨_, rfl, rfl⟩ := h
                      have hfind' : (db₁.setAutoCommit false).findSavepoint zName =
                          some iSavepoint := by
                        rw [hdb]
                        exact hfind
                      have hwriters' : ¬ 0 < (db₁.setAutoCommit false).writeVdbeCnt := by
                        rw [hdb]
                        exact hwriters
                      have hends' : (db₁.setAutoCommit false).isTransaction zName := by
                        rw [hdb]
                        exact hends
                      have hback : (db₁.setAutoCommit false).setAutoCommit true = db₁ := by
                        rw [hdb]
                        rfl
                      simp only [sqlite3_step, opTransaction, Sql.transaction, opBody, opSavepoint,
                        hfind', if_neg hwriters', if_pos hends', hback, hagain]
                  next => cases h
              next => exact hhalt _ _ h
  | rollback =>
      simp only [opSavepoint] at h
      split at h
      · exact hhalt _ _ h
      split at h <;> exact hhalt _ _ h

theorem opRow_again {other : Lock} (h : opRow other sql answer db = (.busy, phase, db')) :
    sqlite3_step other sql answer phase db' = (.busy, phase, db') := by
  unfold opRow at h
  split at h
  · cases h
  · obtain ⟨_, rfl, hagain⟩ := opHalt_again h
    exact hagain

theorem opBody_again {other : Lock} (h : opBody other sql answer db = (.busy, phase, db')) :
    sqlite3_step other sql answer phase db' = (.busy, phase, db') := by
  cases sql with
  | read => exact opRow_again h
  | write => exact opRow_again h
  | elsewhere writes => exact opRow_again h
  | begin mode =>
      simp only [opBody] at h
      cases (opAutoCommit_again h).1
  | commit =>
      simp only [opBody] at h
      obtain ⟨_, _, rfl, hagain⟩ := opAutoCommit_again h
      exact hagain
  | rollback =>
      simp only [opBody] at h
      cases (opAutoCommit_again h).2.1
  | savepoint p1 zName => exact opSavepoint_again h

theorem opTransaction_again {other : Lock}
    (h : opTransaction other sql answer db = (.busy, phase, db')) :
    sqlite3_step other sql answer phase db' = (.busy, phase, db') := by
  have hrefused := h
  unfold opTransaction at h
  split at h
  · exact opBody_again h
  next wrflag ht =>
      split at h
      next hnone =>
          obtain ⟨_, rfl, rfl⟩ := h
          exact hrefused
      next => exact opBody_again h

/-- A refused step changes nothing that would help to repeat it. -/
theorem sqlite3_step_again {other : Lock}
    (h : sqlite3_step other sql answer phase db = (.busy, phase', db')) :
    sqlite3_step other sql answer phase' db' = (.busy, phase', db') := by
  cases phase with
  | fresh => exact opTransaction_again h
  | halted => exact opTransaction_again h
  | start => exact opTransaction_again h
  | running => exact opBody_again h
  | halting halt =>
      obtain ⟨_, rfl, hagain⟩ := opHalt_again h
      exact hagain
  | finalized => cases h

end SQLite

end MGMDB
