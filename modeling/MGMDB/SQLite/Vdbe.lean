import MGMDB.Foundation

/-!
# Prepared statements of SQLite

A prepared statement is a program and the state of a virtual machine that runs
it.  What one execution of the program does is a `Run`: it is refused for a
lock, changes the database, delivers a row, or ends.  Later executions may do
something else, since the database is another one then.

`sqlite3_step` starts an execution or goes on with the current one.  A statement
that has halted is reset first.  `sqlite3VdbeHalt` commits the changes of an
execution that did not fail, or failed under `OR FAIL`, and rolls back the
others.  `changes` lists what was kept, with the number of the execution each
show comes from, and `pending` what the current execution has done so far.
-/

namespace MGMDB

namespace SQLite

/-- What `sqlite3_step` returns for a statement of `sqlite3_prepare`. -/
inductive Status where
  | row
  | done
  | busy
  | error
deriving DecidableEq, Repr

/-- A value of a row. -/
inductive Value where
  | null
  | integer (v : Int64)
  | float (bits : UInt64)
  | text (bytes : List UInt8)
  | blob (bytes : List UInt8)
deriving DecidableEq

/-! ## Executions -/

/-- What an execution does from here on.  `fail` tells an error under `OR FAIL`. -/
inductive Run (ω : Type) where
  | busy (rest : Run ω)
  | write (change : ω) (rest : Run ω)
  | row (values : List Value) (rest : Run ω)
  | done
  | error (fail : Bool)

namespace Run

variable {ω : Type}

/-- How often an execution is refused. -/
def busies : Run ω → Nat
  | .busy rest => rest.busies + 1
  | .write _ rest | .row _ rest => rest.busies
  | .done | .error _ => 0

/-- The changes of an execution. -/
def writes : Run ω → List ω
  | .busy rest | .row _ rest => rest.writes
  | .write change rest => change :: rest.writes
  | .done | .error _ => []

/-- The rows of an execution. -/
def rows : Run ω → List (List Value)
  | .busy rest | .write _ rest => rest.rows
  | .row values rest => values :: rest.rows
  | .done | .error _ => []

/-- Whether an execution ends without an error. -/
def succeeds : Run ω → Bool
  | .busy rest | .write _ rest | .row _ rest => rest.succeeds
  | .done => true
  | .error _ => false

/-- Whether the changes of an execution that is not cut short are kept. -/
def keeps : Run ω → Bool
  | .busy rest | .write _ rest | .row _ rest => rest.keeps
  | .done => true
  | .error fail => fail

end Run

/-- A compiled statement.  A row has a value for every column, and a program that
may run again and delivers rows has columns. -/
structure Program (ω : Type) where
  columnNames : List CString
  runOnlyOnce : Bool
  run : Nat → Run ω
  row_length : ∀ k, ∀ row ∈ (run k).rows, row.length = columnNames.length
  has_columns : runOnlyOnce = false → ∀ k, (run k).rows ≠ [] → columnNames ≠ []

/-! ## The virtual machine -/

/-- `VDBE_MAGIC_RUN` and `VDBE_MAGIC_HALT`. -/
inductive Magic where
  | run
  | halt
deriving DecidableEq, Repr

/-- The error code of the last step, as far as `sqlite3VdbeHalt` reads it, and
the `OR FAIL` of the program. -/
inductive Rc where
  | ok
  | busy
  | error (fail : Bool)
deriving DecidableEq, Repr

/-- A prepared statement.  `pc` is the execution from here on, and `none` before
the first step of it. -/
structure Vdbe (ω : Type) where
  program : Program ω
  magic : Magic
  pc : Option (Run ω)
  rc : Rc
  expired : Bool
  resultSet : Option (List Value)
  executions : Nat
  pending : List ω
  changes : List (Nat × ω)

namespace Vdbe

variable {ω : Type}

/-- A statement as `sqlite3_prepare` leaves it. -/
def prepared (program : Program ω) : Vdbe ω where
  program := program
  magic := .run
  pc := none
  rc := .ok
  expired := false
  resultSet := none
  executions := 0
  pending := []
  changes := []

/-- The changes so far, kept or not yet, with the execution each comes from. -/
def effects (v : Vdbe ω) : List (Nat × ω) :=
  v.changes ++ v.pending.map fun change => (v.executions - 1, change)

/-- `sqlite3VdbeHalt`, when the commit is not refused. -/
def sqlite3VdbeHalt (v : Vdbe ω) : Vdbe ω :=
  match v.magic with
  | .halt => v
  | .run =>
      { v with
        magic := .halt
        pending := []
        changes := if v.rc = .ok ∨ v.rc = .error true then v.effects else v.changes }

/-- `sqlite3_reset`. -/
def sqlite3_reset (v : Vdbe ω) : Vdbe ω :=
  let v := v.sqlite3VdbeHalt
  { v with
    magic := .run
    pc := none
    rc := .ok
    expired := v.expired || (v.pc.isSome && v.program.runOnlyOnce)
    resultSet := none }

/-- `sqlite3_finalize`, which halts the statement before it is deleted. -/
def sqlite3_finalize (v : Vdbe ω) : Vdbe ω := v.sqlite3_reset

/-- `sqlite3VdbeExec`, from the given place of the program on. -/
def sqlite3VdbeExec : Run ω → Vdbe ω → Status × Vdbe ω
  | .busy rest, v => (.busy, { v with pc := some rest, rc := .busy, resultSet := none })
  | .write change rest, v => sqlite3VdbeExec rest { v with pending := v.pending ++ [change] }
  | .row values rest, v =>
      (.row, { v with pc := some rest, rc := .ok, resultSet := some values })
  | .done, v =>
      (.done, sqlite3VdbeHalt { v with pc := some .done, rc := .ok, resultSet := none })
  | .error fail, v =>
      (.error, sqlite3VdbeHalt
        { v with pc := some (.error fail), rc := .error fail, resultSet := none })

/-- What `sqlite3_step` does first: a statement that has halted is reset. -/
def ready (v : Vdbe ω) : Vdbe ω :=
  match v.magic with
  | .run => v
  | .halt => v.sqlite3_reset

/-- `sqlite3_step`, for a statement of the legacy `sqlite3_prepare`. -/
def sqlite3_step (v : Vdbe ω) : Status × Vdbe ω :=
  let v := v.ready
  match v.pc with
  | none =>
      if v.expired then (.error, { v with rc := .error false })
      else sqlite3VdbeExec (v.program.run v.executions) { v with executions := v.executions + 1 }
  | some rest => sqlite3VdbeExec rest v

/-- `sqlite3_column_count`. -/
def sqlite3_column_count (v : Vdbe ω) : Nat := v.program.columnNames.length

/-- `sqlite3_data_count`. -/
def sqlite3_data_count (v : Vdbe ω) : Nat :=
  match v.resultSet with
  | none => 0
  | some _ => v.program.columnNames.length

/-! ## Frame lemmas -/

@[simp] theorem sqlite3VdbeHalt_program (v : Vdbe ω) : v.sqlite3VdbeHalt.program = v.program := by
  unfold sqlite3VdbeHalt
  split <;> rfl

@[simp] theorem sqlite3VdbeHalt_pc (v : Vdbe ω) : v.sqlite3VdbeHalt.pc = v.pc := by
  unfold sqlite3VdbeHalt
  split <;> rfl

@[simp] theorem sqlite3VdbeHalt_expired (v : Vdbe ω) : v.sqlite3VdbeHalt.expired = v.expired := by
  unfold sqlite3VdbeHalt
  split <;> rfl

@[simp] theorem sqlite3VdbeHalt_executions (v : Vdbe ω) :
    v.sqlite3VdbeHalt.executions = v.executions := by
  unfold sqlite3VdbeHalt
  split <;> rfl

@[simp] theorem sqlite3VdbeHalt_magic (v : Vdbe ω) : v.sqlite3VdbeHalt.magic = .halt := by
  unfold sqlite3VdbeHalt
  split
  next h => exact h
  next => rfl

/-- Halting keeps the changes of an execution that did not fail, or may keep
them. -/
theorem effects_sqlite3VdbeHalt {v : Vdbe ω} (hm : v.magic = .run)
    (hrc : v.rc = .ok ∨ v.rc = .error true) : v.sqlite3VdbeHalt.effects = v.effects := by
  simp [sqlite3VdbeHalt, hm, hrc, effects]

theorem effects_sqlite3VdbeHalt_error {v : Vdbe ω} (hm : v.magic = .run)
    (hrc : v.rc = .error false) : v.sqlite3VdbeHalt.effects = v.changes := by
  simp [sqlite3VdbeHalt, hm, hrc, effects]

@[simp] theorem sqlite3VdbeHalt_rc (v : Vdbe ω) : v.sqlite3VdbeHalt.rc = v.rc := by
  unfold sqlite3VdbeHalt
  split <;> rfl

@[simp] theorem sqlite3_reset_program (v : Vdbe ω) : v.sqlite3_reset.program = v.program := by
  simp [sqlite3_reset]

@[simp] theorem sqlite3_reset_executions (v : Vdbe ω) :
    v.sqlite3_reset.executions = v.executions := by
  simp [sqlite3_reset]

@[simp] theorem sqlite3_reset_expired (v : Vdbe ω) :
    v.sqlite3_reset.expired = (v.expired || (v.pc.isSome && v.program.runOnlyOnce)) := by
  simp [sqlite3_reset]

@[simp] theorem sqlite3_reset_pc (v : Vdbe ω) : v.sqlite3_reset.pc = none := rfl

@[simp] theorem sqlite3_reset_magic (v : Vdbe ω) : v.sqlite3_reset.magic = .run := rfl

/-! ## A step, up to refusals -/

@[simp] theorem ready_magic (v : Vdbe ω) : v.ready.magic = .run := by
  unfold ready
  split
  next h => exact h
  next => rfl

@[simp] theorem ready_program (v : Vdbe ω) : v.ready.program = v.program := by
  unfold ready
  split
  · rfl
  · exact sqlite3_reset_program v

@[simp] theorem ready_executions (v : Vdbe ω) : v.ready.executions = v.executions := by
  unfold ready
  split
  · rfl
  · exact sqlite3_reset_executions v

theorem sqlite3_step_none {v : Vdbe ω} (h : v.ready.pc = none) (he : v.ready.expired = false) :
    v.sqlite3_step =
      sqlite3VdbeExec (v.program.run v.executions)
        { v.ready with executions := v.executions + 1 } := by
  unfold sqlite3_step
  dsimp only
  split
  · rw [if_neg (by simp [he]), ready_program, ready_executions]
  next rest hrest => simp [h] at hrest

theorem sqlite3_step_expired {v : Vdbe ω} (h : v.ready.pc = none) (he : v.ready.expired = true) :
    v.sqlite3_step = (.error, { v.ready with rc := .error false }) := by
  unfold sqlite3_step
  dsimp only
  split
  · rw [if_pos he]
  next rest hrest => simp [h] at hrest

theorem sqlite3_step_some {v : Vdbe ω} {rest : Run ω} (h : v.ready.pc = some rest) :
    v.sqlite3_step = sqlite3VdbeExec rest v.ready := by
  unfold sqlite3_step
  dsimp only
  split
  next hnone => simp [h] at hnone
  next rest' hrest =>
    rw [h, Option.some.injEq] at hrest
    rw [hrest]

/-- The execution the next `sqlite3_step` goes on with. -/
def remaining (v : Vdbe ω) : Run ω :=
  match v.ready.pc with
  | none => v.program.run v.executions
  | some rest => rest

theorem ready_of_running {v : Vdbe ω} (hm : v.magic = .run) : v.ready = v := by
  simp only [ready, hm]

theorem ready_of_halted {v : Vdbe ω} (hm : v.magic = .halt) : v.ready = v.sqlite3_reset := by
  simp only [ready, hm]

theorem expired_of_ready {v : Vdbe ω} (h : v.ready.expired = false) : v.expired = false := by
  unfold ready at h
  split at h
  · exact h
  · rw [sqlite3_reset_expired, Bool.or_eq_false_iff] at h
    exact h.1

theorem remaining_of_running {v : Vdbe ω} {rest : Run ω} (hm : v.magic = .run)
    (hpc : v.pc = some rest) : v.remaining = rest := by
  simp only [remaining, ready_of_running hm, hpc]

theorem remaining_of_not_started {v : Vdbe ω} (hm : v.magic = .run) (hpc : v.pc = none) :
    v.remaining = v.program.run v.executions := by
  simp only [remaining, ready_of_running hm, hpc]

theorem remaining_of_halted {v : Vdbe ω} (hm : v.magic = .halt) :
    v.remaining = v.program.run v.executions := by
  simp only [remaining, ready_of_halted hm, sqlite3_reset_pc]

theorem remaining_reset (v : Vdbe ω) : v.sqlite3_reset.remaining = v.program.run v.executions := by
  simp only [remaining, ready_of_running (sqlite3_reset_magic v), sqlite3_reset_pc,
    sqlite3_reset_program, sqlite3_reset_executions]

theorem sqlite3VdbeExec_busy : ∀ (r : Run ω) (v v' : Vdbe ω),
    v.magic = .run → sqlite3VdbeExec r v = (.busy, v') → v'.remaining.busies < r.busies := by
  intro r v v' hm h
  induction r generalizing v with
  | busy rest =>
      obtain rfl := (Prod.mk.inj h).2
      simp [remaining, ready, hm, Run.busies]
  | write change rest ih => exact ih { v with pending := v.pending ++ [change] } hm h
  | row values rest => cases h
  | done => cases h
  | error fail => cases h

/-- Every refusal is one of the execution the step goes on with. -/
theorem busies_sqlite3_step {v v' : Vdbe ω} (h : v.sqlite3_step = (.busy, v')) :
    v'.remaining.busies < v.remaining.busies := by
  cases hpc : v.ready.pc with
  | none =>
      cases he : v.ready.expired with
      | true =>
          rw [sqlite3_step_expired hpc he] at h
          cases h
      | false =>
          rw [sqlite3_step_none hpc he] at h
          simpa [remaining, hpc] using sqlite3VdbeExec_busy _ _ v' (by exact ready_magic v) h
  | some rest =>
      rw [sqlite3_step_some hpc] at h
      simpa [remaining, hpc] using sqlite3VdbeExec_busy _ _ v' (ready_magic v) h

end Vdbe

end SQLite

end MGMDB
