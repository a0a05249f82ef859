import MGMDB.Systems.Machine
import MGMDB.LiteResult.Step

/-!
# The cursor of a result

For its caller an `MGMLiteResult` on a statement that may run again is a cursor
on the rows: both row methods take the next one, and after the end, or after
`reset`, the first one comes next.  `At` says where the cursor is.  It speaks
about the execution the next step goes on with, which is a new one at the start,
after the end and after a reset, so refusals and the step of the constructor
leave no trace in it.
-/

namespace MGMDB

namespace MGMLiteResult

open SQLite Systems

variable {ω : Type}

/-- A statement that may run again and gives the same rows each time. -/
structure Delivers (program : Program ω) (rows : List (List Value)) : Prop where
  rerunnable : program.runOnlyOnce = false
  rows_eq : ∀ k, (program.run k).rows = rows
  succeeds : ∀ k, (program.run k).succeeds = true

/-- The row methods and `reset`, as a machine. -/
def cursor : Machine (Vdbe ω) (Cursor.Input Method) (Option RowObject) where
  step
    | result, .next method => call method result
    | result, .rewind => (none, reset result)

/-- The statement is `program`, and its next row is the one at place `p`. -/
structure At (program : Program ω) (rows : List (List Value)) (v : Vdbe ω) (p : Nat) :
    Prop where
  program_eq : v.program = program
  not_expired : v.ready.expired = false
  rows_eq : v.remaining.rows = rows.drop p
  succeeds : v.remaining.succeeds = true
  le_length : p ≤ rows.length

section
variable {program : Program ω} {rows : List (List Value)} {v : Vdbe ω} {p : Nat}

/-- A statement whose next step starts an execution is at the first row. -/
theorem at_zero (hd : Delivers program rows) (hp : v.program = program)
    (he : v.ready.expired = false) (hr : v.remaining = v.program.run v.executions) :
    At program rows v 0 where
  program_eq := hp
  not_expired := he
  rows_eq := by rw [hr, hp, hd.rows_eq, List.drop_zero]
  succeeds := by rw [hr, hp, hd.succeeds]
  le_length := Nat.zero_le _

theorem at_reset (hd : Delivers program rows) (h : At program rows v p) :
    At program rows (reset v) 0 := by
  refine at_zero hd ?_ ?_ ?_
  · exact (Vdbe.sqlite3_reset_program v).trans h.program_eq
  · have hexp := Vdbe.expired_of_ready h.not_expired
    rw [reset, Vdbe.ready_of_running (Vdbe.sqlite3_reset_magic v), Vdbe.sqlite3_reset_expired, hexp,
      h.program_eq, hd.rerunnable, Bool.and_false, Bool.or_false]
  · rw [reset, Vdbe.remaining_reset, Vdbe.sqlite3_reset_program, Vdbe.sqlite3_reset_executions]

/-- A statement that has just halted begins again. -/
theorem at_halted (hd : Delivers program rows) (hp : v.program = program)
    (he : v.expired = false) : At program rows v.sqlite3VdbeHalt 0 := by
  have hm := Vdbe.sqlite3VdbeHalt_magic v
  refine at_zero hd ?_ ?_ ?_
  · exact (Vdbe.sqlite3VdbeHalt_program v).trans hp
  · rw [Vdbe.ready_of_halted hm, Vdbe.sqlite3_reset_expired, Vdbe.sqlite3VdbeHalt_expired, he,
      Vdbe.sqlite3VdbeHalt_program, hp, hd.rerunnable, Bool.and_false, Bool.or_false]
  · exact Vdbe.remaining_of_halted hm

/-- One step at a place of the cursor: the row there, or the end. -/
theorem step_at (hd : Delivers program rows) (h : At program rows v p) :
    (∃ (hp : p < rows.length) (v' : Vdbe ω), step v = (.row, v') ∧
        v'.resultSet = some rows[p] ∧ At program rows v' (p + 1)) ∨
      (p = rows.length ∧ ∃ v', step v = (.done, v') ∧ At program rows v' 0) := by
  have hne : ¬ v.Expired := fun he => Bool.false_ne_true (h.not_expired.symm.trans he.2)
  have hexp := (Vdbe.started_expired v).trans h.not_expired
  have hprog := (Vdbe.started_program v).trans h.program_eq
  have hrows := h.rows_eq
  have hsucc := h.succeeds
  rw [Run.rows_advance] at hrows
  rw [Run.succeeds_advance] at hsucc
  rw [step_eq hne]
  cases hadv : v.remaining.advance with
  | mk ws stop =>
    rw [hadv] at hrows hsucc
    cases stop with
    | row values rest =>
        left
        have hp : p < rows.length := by
          by_contra hge
          rw [List.drop_eq_nil_of_le (by omega)] at hrows
          cases hrows
        rw [List.drop_eq_getElem_cons hp] at hrows
        obtain ⟨rfl, hrest⟩ := List.cons.inj hrows
        refine ⟨hp, _, rfl, rfl, ?_⟩
        have hm := Vdbe.started_magic v
        exact
          { program_eq := hprog
            not_expired := by rw [Vdbe.ready_of_running (by exact hm)]; exact hexp
            rows_eq := by rw [Vdbe.remaining_of_running (by exact hm) rfl]; exact hrest
            succeeds := by rw [Vdbe.remaining_of_running (by exact hm) rfl]; exact hsucc
            le_length := hp }
    | done =>
        right
        refine ⟨?_, _, rfl, at_halted hd hprog hexp⟩
        have hlen := congrArg List.length hrows
        rw [List.length_drop] at hlen
        exact Nat.le_antisymm h.le_length (Nat.sub_eq_zero_iff_le.mp hlen.symm)
    | error fail => cases hsucc

/-- A row method answers as the cursor does. -/
theorem call_at (hd : Delivers program rows) (h : At program rows v p) (method : Method) :
    (call method v).1 =
        ((Cursor.cyclic rows (rowObject program.columnNames)).step p (.next method)).1 ∧
      At program rows (call method v).2
        ((Cursor.cyclic rows (rowObject program.columnNames)).step p (.next method)).2 := by
  rcases step_at hd h with ⟨hp, v', hstep, hset, hat⟩ | ⟨rfl, v', hstep, hat⟩
  · have hcols : 1 ≤ v'.sqlite3_data_count := by
      have hrows : (program.run 0).rows ≠ [] := by
        rw [hd.rows_eq]
        exact List.ne_nil_of_length_pos (Nat.zero_lt_of_lt hp)
      rw [Vdbe.sqlite3_data_count, hset, hat.program_eq]
      exact List.length_pos_iff.mpr (program.has_columns hd.rerunnable 0 hrows)
    rw [Cursor.cyclic_next_lt hp, call, hstep]
    simp only [if_pos hcols, hset, hat.program_eq, Option.map_some, true_and]
    exact hat
  · rw [Cursor.cyclic_next_end, call, hstep]
    exact ⟨rfl, hat⟩

/-- Every run of row methods and resets is one of the cursor. -/
theorem run_at (hd : Delivers program rows) (h : At program rows v p)
    (inputs : List (Cursor.Input Method)) :
    (cursor.run v inputs).1 =
        ((Cursor.cyclic rows (rowObject program.columnNames)).run p inputs).1 ∧
      At program rows (cursor.run v inputs).2
        ((Cursor.cyclic rows (rowObject program.columnNames)).run p inputs).2 := by
  refine Machine.run_sim ?_ v p inputs h
  intro v p input h
  cases input with
  | next method => exact call_at hd h method
  | rewind => exact ⟨rfl, at_reset hd h⟩

/-- The step of the constructor and its reset leave the cursor on the first
row. -/
theorem query_at (hd : Delivers program rows) (hne : rows ≠ []) :
    ∃ result, MGMLiteConnection.query (.statement program) = some result ∧
      At program rows result 0 := by
  have h0 : At program rows (Vdbe.prepared program) 0 := at_zero hd rfl rfl rfl
  rcases step_at hd h0 with ⟨hp, v', hstep, -, hat⟩ | ⟨hlen, -⟩
  · refine ⟨reset v', ?_, at_reset hd hat⟩
    rw [MGMLiteConnection.query, initWithConnection, hstep]
  · exact absurd (List.length_eq_zero_iff.mp hlen.symm) hne

/-- After a query and after every reset, the calls give the rows in order, each in
the form of its method, and then nil. -/
theorem query_rows (hd : Delivers program rows) (hne : rows ≠ []) :
    ∃ result, MGMLiteConnection.query (.statement program) = some result ∧
      ∀ before : List (Cursor.Input Method),
        (before = [] ∨ ∃ calls, before = calls ++ [.rewind]) →
        ∀ (methods : List Method) (last : Method), methods.length = rows.length →
          (cursor.run (cursor.run result before).2 (methods.map .next ++ [.next last])).1 =
            List.zipWith (fun method row => some (rowObject program.columnNames method row))
              methods rows ++ [none] := by
  obtain ⟨result, hquery, hat⟩ := query_at hd hne
  refine ⟨result, hquery, ?_⟩
  intro before hbefore methods last hlen
  have hstart : At program rows (cursor.run result before).2 0 := by
    rcases hbefore with rfl | ⟨calls, rfl⟩
    · exact hat
    · rw [Machine.run_append]
      exact at_reset hd (run_at hd hat calls).2
  rw [(run_at hd hstart _).1, Machine.run_append,
    Cursor.cyclic_run_next 0 methods (by omega), Nat.zero_add, hlen, Machine.run_cons,
    Cursor.cyclic_next_end]
  rfl

end

/-! ## Statements of one row and of two -/

/-- `SELECT 7`, refused once each time it is run. -/
def select7 : Program ω where
  columnNames := [cString [0x37]]
  runOnlyOnce := false
  run _ := .busy (.row [.integer 7] .done)
  row_length := by simp [Run.rows]
  has_columns := by simp

/-- `SELECT 7 UNION ALL SELECT 8`, refused once before each row. -/
def select78 : Program ω where
  columnNames := [cString [0x37]]
  runOnlyOnce := false
  run _ := .busy (.row [.integer 7] (.busy (.row [.integer 8] .done)))
  row_length := by simp [Run.rows]
  has_columns := by simp

theorem query_rows_select78 :
    ∃ result, MGMLiteConnection.query (.statement (select78 : Program Unit)) = some result ∧
      ∀ before : List (Cursor.Input Method),
        (before = [] ∨ ∃ calls, before = calls ++ [.rewind]) →
        ∀ (methods : List Method) (last : Method), methods.length = 2 →
          (cursor.run (cursor.run result before).2 (methods.map .next ++ [.next last])).1 =
            List.zipWith (fun method row => some (rowObject [cString [0x37]] method row))
              methods [[.integer 7], [.integer 8]] ++ [none] :=
  have hd : Delivers (select78 : Program Unit) [[.integer 7], [.integer 8]] :=
    { rerunnable := rfl, rows_eq := fun _ => rfl, succeeds := fun _ => rfl }
  query_rows hd (List.cons_ne_nil _ _)

end MGMLiteResult

end MGMDB
