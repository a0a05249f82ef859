import MGMDB.SQLite.Vdbe

/-!
# Locks of a database file

What a statement does to the lock its connection has on the file, while another
connection to the same file has the lock `other`.  Reading takes SHARED, writing
RESERVED, and committing changes EXCLUSIVE, as does a page cache that is full and
writes changed pages to the file before the commit (`pagerStress`).  A request that
conflicts with `other` is refused with `SQLITE_BUSY`, and `sqlite3_step` may be
called again to repeat it; only the page cache goes on without its lock.

What a program does between two returns of `sqlite3_step` is an `Answer`.  Of a
statement only its kind matters: whether it reads or changes tables of the file or
none of them, or begins or ends a transaction or a savepoint.
-/

namespace MGMDB

namespace SQLite

/-- The locks of `unixLock`. -/
inductive Lock where
  | none
  | shared
  | reserved
  | pending
  | exclusive
deriving DecidableEq, Repr

/-- Whether `unixLock` grants a lock. -/
def unixLock : (eFileLock other : Lock) → Bool
  | .shared, .none | .shared, .shared | .shared, .reserved => true
  | .reserved, .none | .reserved, .shared => true
  | .exclusive, .none => true
  | _, _ => false

/-- `TRANS_NONE`, `TRANS_READ` and `TRANS_WRITE`. -/
inductive Trans where
  | none
  | read
  | write
deriving DecidableEq, Repr

/-- A connection, with its B-tree and pager. -/
structure Handle where
  eFileLock : Lock
  inTrans : Trans
  dbModified : Bool
  autoCommit : Bool
  savepoints : List String
  isTransactionSavepoint : Bool
  activeVdbeCnt : Nat
  writeVdbeCnt : Nat
deriving DecidableEq, Repr

/-- A connection that was just opened. -/
def Handle.opened : Handle where
  eFileLock := .none
  inTrans := .none
  dbModified := false
  autoCommit := true
  savepoints := []
  isTransactionSavepoint := false
  activeVdbeCnt := 0
  writeVdbeCnt := 0

/-! ## Statements -/

/-- The forms of `BEGIN`. -/
inductive Mode where
  | deferred
  | immediate
  | exclusive
deriving DecidableEq, Repr

/-- `SAVEPOINT`, `RELEASE` and `ROLLBACK TO`. -/
inductive SavepointOp where
  | begin
  | release
  | rollback
deriving DecidableEq, Repr

/-- The kinds of statements.  One that works `elsewhere` uses no table of the file:
its query has no table at all, or what it reads or writes are temporary tables. -/
inductive Sql where
  | read
  | write
  | elsewhere (writes : Bool)
  | begin (mode : Mode)
  | commit
  | rollback
  | savepoint (p1 : SavepointOp) (zName : String)
deriving DecidableEq, Repr

/-- The operand `P2` of the `OP_Transaction` for the file, in a program that has
one. -/
def Sql.transaction : Sql → Option Nat
  | .read => some 0
  | .write | .begin .immediate => some 1
  | .begin .exclusive => some 2
  | .elsewhere _ | .begin .deferred | .commit | .rollback | .savepoint _ _ => none

/-- A program is read-only unless it starts a write transaction. -/
def Sql.readOnly : Sql → Bool
  | .elsewhere writes => !writes
  | sql => sql.transaction.getD 0 == 0

/-- `OE_Abort`, `OE_Fail` and `OE_Rollback`. -/
inductive ErrorAction where
  | abort
  | fail
  | rollback
deriving DecidableEq, Repr

/-- How a program halts. -/
inductive Halt where
  | ok
  | error (action : ErrorAction)
deriving DecidableEq, Repr

/-- Whether the changes are kept. -/
def Halt.keeps : Halt → Bool
  | .ok | .error .fail => true
  | .error _ => false

/-- What a program does until it delivers a row or halts: whether it changes pages,
and whether the page cache is full and has to write changed ones.  Without `halt`
it delivers a row. -/
structure Answer where
  modifies : Bool
  spills : Bool
  halt : Option Halt
deriving DecidableEq, Repr

/-- Nothing more is done, as when a statement is reset. -/
def Answer.ends : Answer where
  modifies := false
  spills := false
  halt := some .ok

/-- The place in a program: before its first step, at the first instruction,
after a row, at the halt that was refused, and after it. -/
inductive Phase where
  | fresh
  | start
  | running
  | halting (halt : Halt)
  | halted
  | finalized
deriving DecidableEq, Repr

/-- Whether `activeVdbeCnt` counts a statement. -/
def Phase.active : Phase → Bool
  | .start | .running | .halting _ => true
  | .fresh | .halted | .finalized => false

@[simp] theorem Phase.active_fresh : Phase.fresh.active = false := rfl

@[simp] theorem Phase.active_halted : Phase.halted.active = false := rfl

@[simp] theorem Phase.active_finalized : Phase.finalized.active = false := rfl

/-! ## Transactions -/

namespace Handle

/-- `sqlite3BtreeBeginTrans`, unless it is refused.  A lock that was taken for a
request that is then refused is given back, by `pager_end_transaction` and
`unlockBtreeIfUnused`. -/
def sqlite3BtreeBeginTrans (other : Lock) (wrflag : Nat) (db : Handle) : Option Handle :=
  if db.inTrans = .write ∨ (db.inTrans = .read ∧ wrflag = 0) then some db
  else if db.inTrans = .none ∧ unixLock .shared other = false then none
  else if wrflag = 0 then some { db with eFileLock := .shared, inTrans := .read }
  else if unixLock .reserved other = false then none
  else if wrflag ≤ 1 then some { db with eFileLock := .reserved, inTrans := .write }
  else if unixLock .exclusive other = false then none
  else some { db with eFileLock := .exclusive, inTrans := .write }

/-- `btreeEndTransaction`, with the locks that the pager gives back.  Other
statements of the connection keep reading. -/
def btreeEndTransaction (db : Handle) : Handle :=
  if db.inTrans ≠ .none ∧ 1 < db.activeVdbeCnt then
    { db with eFileLock := .shared, inTrans := .read, dbModified := false }
  else { db with eFileLock := .none, inTrans := .none, dbModified := false }

def setAutoCommit (autoCommit : Bool) (db : Handle) : Handle :=
  { db with autoCommit := autoCommit }

def sqlite3CloseSavepoints (db : Handle) : Handle :=
  { db with savepoints := [], isTransactionSavepoint := false }

/-- `sqlite3RollbackAll`, and autocommit mode again. -/
def rollbackAll (db : Handle) : Handle :=
  (db.btreeEndTransaction.setAutoCommit true).sqlite3CloseSavepoints

/-- `vdbeCommit`.  The error is `SQLITE_BUSY`, which leaves the lock PENDING. -/
def vdbeCommit (other : Lock) (db : Handle) : Except Handle Handle :=
  if db.inTrans = .write ∧ db.dbModified ∧ db.eFileLock ≠ .exclusive ∧
      unixLock .exclusive other = false then
    .error { db with eFileLock := .pending }
  else .ok db.btreeEndTransaction

/-- How `sqlite3Step` counts a statement that starts. -/
def enter (readOnly : Bool) (db : Handle) : Handle :=
  { db with
    activeVdbeCnt := db.activeVdbeCnt + 1
    writeVdbeCnt := if readOnly then db.writeVdbeCnt else db.writeVdbeCnt + 1 }

/-- How `sqlite3VdbeHalt` counts a statement that has halted. -/
def leave (readOnly : Bool) (db : Handle) : Handle :=
  { db with
    activeVdbeCnt := db.activeVdbeCnt - 1
    writeVdbeCnt := if readOnly then db.writeVdbeCnt else db.writeVdbeCnt - 1 }

/-- Whether a statement that halts ends the transaction: no other one writes. -/
def endsTransaction (readOnly : Bool) (db : Handle) : Prop :=
  db.autoCommit ∧ db.writeVdbeCnt = if readOnly then 0 else 1

instance (readOnly : Bool) (db : Handle) : Decidable (db.endsTransaction readOnly) :=
  inferInstanceAs (Decidable (_ ∧ _))

/-- `sqlite3VdbeHalt`, for a statement that is counted.  One that is refused stays
counted. -/
def sqlite3VdbeHalt (other : Lock) (readOnly : Bool) (halt : Halt) (db : Handle) :
    Except Handle Handle :=
  if db.endsTransaction readOnly then
    match halt with
    | .ok | .error .fail => (db.vdbeCommit other).map (leave readOnly)
    | .error _ => .ok (db.btreeEndTransaction.leave readOnly)
  else
    match halt with
    | .error .rollback => .ok (db.rollbackAll.leave readOnly)
    | _ => .ok (db.leave readOnly)

end Handle

/-! ## The page cache -/

namespace Handle

/-- What the instructions of a statement change. -/
def modify (sql : Sql) (answer : Answer) (db : Handle) : Handle :=
  { db with
    dbModified := db.dbModified || (answer.modifies && !sql.readOnly && db.inTrans == .write) }

/-- A full page cache writes changed pages to the file.  `sqlite3PcacheFetch` ignores
that it is refused, but the lock stays PENDING. -/
def pagerStress (other : Lock) (db : Handle) : Handle :=
  if db.inTrans = .write ∧ db.dbModified ∧ db.eFileLock ≠ .exclusive then
    { db with eFileLock := if unixLock .exclusive other then .exclusive else .pending }
  else db

/-- What the instructions of a statement on tables of the file do to its pages. -/
def work (other : Lock) (sql : Sql) (answer : Answer) (db : Handle) : Handle :=
  if answer.spills then (db.modify sql answer).pagerStress other else db.modify sql answer

end Handle

/-! ## Savepoints -/

namespace Handle

/-- Savepoints are found by name, without regard to case. -/
def findSavepoint (zName : String) (db : Handle) : Option Nat :=
  db.savepoints.findIdx? fun name => name.toLower == zName.toLower

/-- A savepoint outside of a transaction begins one. -/
def openSavepoint (zName : String) (db : Handle) : Handle :=
  { db with
    savepoints := zName :: db.savepoints
    isTransactionSavepoint := db.isTransactionSavepoint || db.autoCommit
    autoCommit := false }

/-- The savepoints from a place on. -/
def dropSavepoints (n : Nat) (db : Handle) : Handle :=
  { db with savepoints := db.savepoints.drop n }

/-- Whether to release a savepoint is to commit. -/
def isTransaction (zName : String) (db : Handle) : Prop :=
  db.isTransactionSavepoint ∧ db.findSavepoint zName = some (db.savepoints.length - 1)

instance (zName : String) (db : Handle) : Decidable (db.isTransaction zName) :=
  inferInstanceAs (Decidable (_ ∧ _))

end Handle

/-! ## Steps of a statement -/

/-- `OP_Halt`. -/
def opHalt (other : Lock) (sql : Sql) (halt : Halt) (db : Handle) : Status × Phase × Handle :=
  match db.sqlite3VdbeHalt other sql.readOnly halt with
  | .error db => (.busy, .halting halt, db)
  | .ok db => (if halt = .ok then .done else .error, .halted, db)

/-- `OP_AutoCommit`.  A `ROLLBACK` does not halt its statement. -/
def opAutoCommit (other : Lock) (sql : Sql) (desiredAutoCommit iRollback : Bool) (db : Handle) :
    Status × Phase × Handle :=
  let turnOnAC := desiredAutoCommit && !db.autoCommit
  if turnOnAC ∧ iRollback ∧ 1 < db.activeVdbeCnt then opHalt other sql (.error .abort) db
  else if turnOnAC ∧ iRollback = false ∧ 0 < db.writeVdbeCnt then
    opHalt other sql (.error .abort) db
  else if desiredAutoCommit ≠ db.autoCommit then
    if iRollback then (.done, .start, db.rollbackAll)
    else
      match (db.setAutoCommit desiredAutoCommit).sqlite3VdbeHalt other sql.readOnly .ok with
      | .error db => (.busy, .start, db.setAutoCommit !desiredAutoCommit)
      | .ok db => (.done, .halted, db.sqlite3CloseSavepoints)
  else opHalt other sql (.error .abort) db

/-- `OP_Savepoint`, with the `OP_Halt` behind it. -/
def opSavepoint (other : Lock) (sql : Sql) (p1 : SavepointOp) (zName : String) (db : Handle) :
    Status × Phase × Handle :=
  match p1 with
  | .begin =>
      if 0 < db.writeVdbeCnt then opHalt other sql (.error .abort) db
      else opHalt other sql .ok (db.openSavepoint zName)
  | .release =>
      match db.findSavepoint zName with
      | none => opHalt other sql (.error .abort) db
      | some iSavepoint =>
          if 0 < db.writeVdbeCnt then opHalt other sql (.error .abort) db
          else if db.isTransaction zName then
            match (db.setAutoCommit true).sqlite3VdbeHalt other sql.readOnly .ok with
            | .error db => (.busy, .start, db.setAutoCommit false)
            | .ok db => (.done, .halted, db.sqlite3CloseSavepoints)
          else opHalt other sql .ok (db.dropSavepoints (iSavepoint + 1))
  | .rollback =>
      match db.findSavepoint zName with
      | none => opHalt other sql (.error .abort) db
      | some iSavepoint =>
          if 0 < db.writeVdbeCnt ∨ 1 < db.activeVdbeCnt then opHalt other sql (.error .abort) db
          else opHalt other sql .ok (db.dropSavepoints iSavepoint)

/-- A row, or the halt. -/
def opRow (other : Lock) (sql : Sql) (answer : Answer) (db : Handle) : Status × Phase × Handle :=
  match answer.halt with
  | none => (.row, .running, db)
  | some halt => opHalt other sql halt db

/-- The instructions after `OP_Transaction`, which itself writes the first page of an
empty file. -/
def opBody (other : Lock) (sql : Sql) (answer : Answer) (db : Handle) : Status × Phase × Handle :=
  match sql with
  | .read | .write => opRow other sql answer (db.work other sql answer)
  | .elsewhere _ => opRow other sql answer db
  | .begin _ => opAutoCommit other sql false false (db.modify sql answer)
  | .commit => opAutoCommit other sql true false db
  | .rollback => opAutoCommit other sql true true db
  | .savepoint p1 zName => opSavepoint other sql p1 zName db

/-- A program from its first instruction on. -/
def opTransaction (other : Lock) (sql : Sql) (answer : Answer) (db : Handle) :
    Status × Phase × Handle :=
  match sql.transaction with
  | none => opBody other sql answer db
  | some wrflag =>
      match db.sqlite3BtreeBeginTrans other wrflag with
      | none => (.busy, .start, db)
      | some db => opBody other sql answer db

/-- `sqlite3_step`. -/
def sqlite3_step (other : Lock) (sql : Sql) (answer : Answer) :
    Phase → Handle → Status × Phase × Handle
  | .fresh, db | .halted, db => opTransaction other sql answer (db.enter sql.readOnly)
  | .start, db => opTransaction other sql answer db
  | .running, db => opBody other sql answer db
  | .halting halt, db => opHalt other sql halt db
  | .finalized, db => (.error, .finalized, db)

/-- `sqlite3_reset`, and `sqlite3_finalize` as far as the connection goes.  A
refusal is ignored. -/
def sqlite3_reset (other : Lock) (sql : Sql) (phase : Phase) (db : Handle) : Handle :=
  if phase.active then
    match db.sqlite3VdbeHalt other sql.readOnly .ok with
    | .error db | .ok db => db
  else db

end SQLite

end MGMDB
