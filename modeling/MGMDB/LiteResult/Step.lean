import MGMDB.LiteResult.Rows

/-!
# One step of a result

`step` waits until the statement is no longer refused, so what it does is
settled by the execution the statement goes on with, up to its next row or its
end.  `Run.advance` reads that off the execution: the changes on the way, and
where the execution stops.  `step_eq` says that `step` does just this.
-/

namespace MGMDB

namespace SQLite

variable {ω : Type}

/-- Where an execution stops next. -/
inductive Stop (ω : Type) where
  | row (values : List Value) (rest : Run ω)
  | done
  | error (fail : Bool)

namespace Stop

/-- The changes that come after the stop. -/
def writes : Stop ω → List ω
  | .row _ rest => rest.writes
  | .done | .error _ => []

/-- The rows from the stop on. -/
def rows : Stop ω → List (List Value)
  | .row values rest => values :: rest.rows
  | .done | .error _ => []

def succeeds : Stop ω → Bool
  | .row _ rest => rest.succeeds
  | .done => true
  | .error _ => false

def keeps : Stop ω → Bool
  | .row _ rest => rest.keeps
  | .done => true
  | .error fail => fail

end Stop

namespace Run

/-- The changes up to the next stop, and the stop. -/
def advance : Run ω → List ω × Stop ω
  | .busy rest => rest.advance
  | .write change rest => (change :: rest.advance.1, rest.advance.2)
  | .row values rest => ([], .row values rest)
  | .done => ([], .done)
  | .error fail => ([], .error fail)

theorem writes_advance (r : Run ω) : r.writes = r.advance.1 ++ r.advance.2.writes := by
  induction r with
  | busy rest ih => exact ih
  | write change rest ih => exact congrArg (change :: ·) ih
  | _ => rfl

theorem rows_advance (r : Run ω) : r.rows = r.advance.2.rows := by
  induction r with
  | busy rest ih => exact ih
  | write change rest ih => exact ih
  | _ => rfl

theorem succeeds_advance (r : Run ω) : r.succeeds = r.advance.2.succeeds := by
  induction r with
  | busy rest ih => exact ih
  | write change rest ih => exact ih
  | _ => rfl

theorem keeps_advance (r : Run ω) : r.keeps = r.advance.2.keeps := by
  induction r with
  | busy rest ih => exact ih
  | write change rest ih => exact ih
  | _ => rfl

end Run

namespace Vdbe

/-- The statement at a stop of the current execution. -/
def stopped (v : Vdbe ω) : List ω × Stop ω → Status × Vdbe ω
  | (ws, .row values rest) =>
      (.row, { v with
        pc := some rest, rc := .ok, resultSet := some values, pending := v.pending ++ ws })
  | (ws, .done) =>
      (.done, sqlite3VdbeHalt { v with
        pc := some .done, rc := .ok, resultSet := none, pending := v.pending ++ ws })
  | (ws, .error fail) =>
      (.error, sqlite3VdbeHalt { v with
        pc := some (.error fail), rc := .error fail, resultSet := none
        pending := v.pending ++ ws })

/-- The statement when a step goes on with it: a new execution is counted. -/
def started (v : Vdbe ω) : Vdbe ω :=
  match v.ready.pc with
  | none => { v.ready with executions := v.executions + 1 }
  | some _ => v.ready

@[simp] theorem started_program (v : Vdbe ω) : v.started.program = v.program := by
  unfold started
  split <;> exact ready_program v

@[simp] theorem started_magic (v : Vdbe ω) : v.started.magic = .run := by
  unfold started
  split <;> exact ready_magic v

@[simp] theorem started_expired (v : Vdbe ω) : v.started.expired = v.ready.expired := by
  unfold started
  split <;> rfl

theorem started_of_running {v : Vdbe ω} {rest : Run ω} (hm : v.magic = .run)
    (hpc : v.pc = some rest) : v.started = v := by
  simp only [started, ready_of_running hm, hpc]

/-- A step does not go on with a statement that has expired and not started. -/
def Expired (v : Vdbe ω) : Prop := v.ready.pc = none ∧ v.ready.expired = true

end Vdbe

end SQLite

namespace MGMLiteResult

open SQLite

variable {ω : Type}

/-- The loop of `step`, behind a call of `sqlite3_step`. -/
def resume : Status × Vdbe ω → Status × Vdbe ω
  | (.busy, result) => step result
  | (status, result) => (status, result)

theorem step_eq_resume (v : Vdbe ω) : step v = resume v.sqlite3_step := by
  rw [step]
  split
  next h => rw [h]; rfl
  next status v' hne h =>
    rw [h]
    cases status with
    | busy => exact (hne rfl).elim
    | _ => rfl

/-- A statement that is running goes on at its place. -/
theorem step_of_running {v : Vdbe ω} {rest : Run ω} (hm : v.magic = .run)
    (hpc : v.pc = some rest) : step v = resume (Vdbe.sqlite3VdbeExec rest v) := by
  have hready : v.ready = v := by simp [Vdbe.ready, hm]
  rw [← hready] at hpc
  rw [step_eq_resume, Vdbe.sqlite3_step_some hpc, hready]

/-- Refusals change nothing but the waiting. -/
theorem resume_exec : ∀ (r : Run ω) (v : Vdbe ω), v.magic = .run →
    resume (Vdbe.sqlite3VdbeExec r v) = v.stopped r.advance := by
  intro r v hm
  induction r generalizing v with
  | busy rest ih =>
      have hstep :=
        step_of_running (v := { v with pc := some rest, rc := .busy, resultSet := none }) hm rfl
      show step _ = _
      rw [hstep, ih { v with pc := some rest, rc := .busy, resultSet := none } hm]
      show Vdbe.stopped _ rest.advance = v.stopped rest.advance
      rcases rest.advance with ⟨ws, stop⟩
      cases stop <;> rfl
  | write change rest ih =>
      show resume (Vdbe.sqlite3VdbeExec rest _) = _
      rw [ih { v with pending := v.pending ++ [change] } hm, Run.advance]
      rcases rest.advance with ⟨ws, stop⟩
      cases stop <;> simp [Vdbe.stopped]
  | row values rest => simp [Vdbe.sqlite3VdbeExec, resume, Run.advance, Vdbe.stopped]
  | done => simp [Vdbe.sqlite3VdbeExec, resume, Run.advance, Vdbe.stopped]
  | error fail => simp [Vdbe.sqlite3VdbeExec, resume, Run.advance, Vdbe.stopped]

/-- `step` takes a statement that has not expired to the next stop of the
execution it goes on with. -/
theorem step_eq {v : Vdbe ω} (h : ¬ v.Expired) :
    step v = v.started.stopped v.remaining.advance := by
  cases hpc : v.ready.pc with
  | none =>
      have hexp : v.ready.expired = false := by
        simpa [Vdbe.Expired, hpc] using h
      have hstarted : v.started = { v.ready with executions := v.executions + 1 } := by
        simp only [Vdbe.started, hpc]
      have hremaining : v.remaining = v.program.run v.executions := by
        simp only [Vdbe.remaining, hpc]
      rw [step_eq_resume, Vdbe.sqlite3_step_none hpc hexp, hstarted, hremaining]
      exact resume_exec _ _ (Vdbe.ready_magic v)
  | some rest =>
      have hstarted : v.started = v.ready := by simp only [Vdbe.started, hpc]
      have hremaining : v.remaining = rest := by simp only [Vdbe.remaining, hpc]
      rw [step_eq_resume, Vdbe.sqlite3_step_some hpc, hstarted, hremaining]
      exact resume_exec rest _ (Vdbe.ready_magic v)

theorem step_expired {v : Vdbe ω} (h : v.Expired) :
    step v = (.error, { v.ready with rc := .error false }) := by
  rw [step_eq_resume, Vdbe.sqlite3_step_expired h.1 h.2]
  rfl

end MGMLiteResult

end MGMDB
