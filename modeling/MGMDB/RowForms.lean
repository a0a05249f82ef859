import MGMDB.LiteResult.Cursor
import MGMDB.MyResult.Rows

/-!
# A row in two forms

Both result classes give a row as an array or as a dictionary.  The array has a
value for every column.  The dictionary is filled column by column under the
names of the columns, so of two columns with one name only the later one is left
in it.  A column without a name is called by its number, which may be the name of
another one.

`sameRow_nextRow` says of both classes and of every state of an object that the
two methods would give the same row, and that the dictionary has an entry for
each column exactly if the names are different.
-/

namespace MGMDB

/-- What `nextRowAsArray` and `nextRow` give for one row, or for none. -/
inductive SameRow (names : List NSString) : Option (List Obj) → Option NSDictionary → Prop where
  | end : SameRow names none none
  | row {os : List Obj} {d : NSDictionary} : os.length = names.length →
      LastOfEachName names os d → (OneOfEachColumn names os d ↔ names.Nodup) →
      SameRow names (some os) (some d)

theorem sameRow_setObjects {names : List NSString} {os : List Obj}
    (hlen : os.length = names.length) :
    SameRow names (some os) (some (setObjects names os ∅)) := by
  have hlast : LastOfEachName names os (setObjects names os ∅) :=
    lastOfEachName_setObjects hlen.symm
  exact .row hlen hlast hlast.oneOfEachColumn_iff

/-! ## MySQL -/

namespace MGMMyResult

theorem length_of_mapM {α β ε : Type} {f : α → Except ε β} :
    ∀ {l : List α} {l' : List β}, l.mapM f = .ok l' → l'.length = l.length := by
  intro l
  induction l with
  | nil =>
      intro l' h
      cases h
      rfl
  | cons a l ih =>
      intro l' h
      rw [List.mapM_cons] at h
      cases hb : f a with
      | error e =>
          rw [hb] at h
          cases h
      | ok b =>
          cases hl : l.mapM f with
          | error e =>
              rw [hb, hl] at h
              cases h
          | ok bs =>
              rw [hb, hl] at h
              cases h
              rw [List.length_cons, List.length_cons, ih hl]

theorem length_names (r : MGMMyResult) : r.names.length = r.result.fields.length := by
  have hlen := length_of_mapM r.names_eq
  rwa [List.length_zipIdx] at hlen

theorem length_rowObjects (F : Foundation) (timeZone : NSTimeZone) (r : MGMMyResult)
    {row : MYSQL_ROW} (hrow : r.result.data_cursor.head? = some row) :
    (r.rowObjects F timeZone row).length = r.names.length := by
  rw [rowObjects, List.length_zipWith, r.result.cursor_row_length hrow, length_names, Nat.min_self]

theorem nextRow_sameRow (F : Foundation) (timeZone : NSTimeZone) (r : MGMMyResult) :
    SameRow r.names (r.nextRowAsArray F timeZone).1 (r.nextRow F timeZone).1 := by
  cases hrow : r.result.data_cursor.head? with
  | none =>
      have harray : (r.nextRowAsArray F timeZone).1 = none := by
        simp [nextRowAsArray, fetchRow, MYSQL_RES.mysql_fetch_row, hrow]
      have hdictionary : (r.nextRow F timeZone).1 = none := by
        simp [nextRow, fetchRow, MYSQL_RES.mysql_fetch_row, hrow]
      rw [harray, hdictionary]
      exact .end
  | some row =>
      rw [nextRowAsArray_fst hrow, nextRow_fst hrow]
      exact sameRow_setObjects (length_rowObjects F timeZone r hrow)

end MGMMyResult

/-! ## SQLite -/

namespace MGMLiteResult

open SQLite

variable {ω : Type}

/-- The statement of an object, whatever was called on the object before. -/
inductive Reached (program : Program ω) : Vdbe ω → Prop where
  | query {v : Vdbe ω} : MGMLiteConnection.query (.statement program) = some v →
      Reached program v
  | step {v : Vdbe ω} : Reached program v → Reached program (step v).2
  | reset {v : Vdbe ω} : Reached program v → Reached program (reset v)
  | call {v : Vdbe ω} (method : Method) : Reached program v →
      Reached program (call method v).2

/-- The rows to come have a value for every column. -/
structure Fits (program : Program ω) (v : Vdbe ω) : Prop where
  program_eq : v.program = program
  row_length : ∀ row ∈ v.remaining.rows, row.length = program.columnNames.length

section
variable {program : Program ω} {v : Vdbe ω}

/-- An execution that begins has the rows of the program. -/
theorem fits_of_remaining (k : Nat) (hp : v.program = program)
    (hr : v.remaining = program.run k) : Fits program v where
  program_eq := hp
  row_length row hrow := by
    rw [hr] at hrow
    exact program.row_length k row hrow

theorem fits_prepared (program : Program ω) : Fits program (Vdbe.prepared program) :=
  fits_of_remaining 0 rfl rfl

theorem fits_reset (h : Fits program v) : Fits program (reset v) := by
  refine fits_of_remaining v.executions ((Vdbe.sqlite3_reset_program v).trans h.program_eq) ?_
  rw [reset, Vdbe.remaining_reset, h.program_eq]

theorem fits_halted (hp : v.program = program) : Fits program v.sqlite3VdbeHalt := by
  refine fits_of_remaining v.sqlite3VdbeHalt.executions
    ((Vdbe.sqlite3VdbeHalt_program v).trans hp) ?_
  rw [Vdbe.remaining_of_halted (Vdbe.sqlite3VdbeHalt_magic v), Vdbe.sqlite3VdbeHalt_program, hp]

/-- A step delivers a row that fits, and the rest still does. -/
theorem fits_step (h : Fits program v) :
    Fits program (step v).2 ∧ ∀ v', step v = (.row, v') →
      ∃ values, v'.resultSet = some values ∧ values.length = program.columnNames.length := by
  by_cases hexp : v.Expired
  · rw [step_expired hexp]
    refine ⟨?_, by simp⟩
    have hprog : v.ready.program = program := (Vdbe.ready_program v).trans h.program_eq
    refine fits_of_remaining v.executions hprog ?_
    rw [Vdbe.remaining_of_not_started (by exact Vdbe.ready_magic v) (by exact hexp.1), hprog,
      Vdbe.ready_executions]
  · have hprog : v.started.program = program := (Vdbe.started_program v).trans h.program_eq
    have hrows := h.row_length
    rw [Run.rows_advance] at hrows
    rw [step_eq hexp]
    cases hadv : v.remaining.advance with
    | mk ws stop =>
      rw [hadv] at hrows
      cases stop with
      | row values rest =>
          refine ⟨⟨hprog, ?_⟩, ?_⟩
          · intro row hrow
            have hm := Vdbe.started_magic v
            rw [Vdbe.stopped, Vdbe.remaining_of_running (by exact hm) rfl] at hrow
            exact hrows row (List.mem_cons_of_mem _ hrow)
          · intro v' hv'
            cases hv'
            exact ⟨values, rfl, hrows values List.mem_cons_self⟩
      | done => exact ⟨fits_halted hprog, by simp [Vdbe.stopped]⟩
      | error fail => exact ⟨fits_halted hprog, by simp [Vdbe.stopped]⟩

/-- A row method leaves the statement as its step does. -/
theorem call_snd (method : Method) (v : Vdbe ω) : (call method v).2 = (step v).2 := by
  rw [call]
  split
  next v' hstep => split <;> rw [hstep]
  next hstep => rw [hstep]

theorem fits_of_reached (h : Reached program v) : Fits program v := by
  induction h with
  | query hquery =>
      have hfits : Fits program (step (Vdbe.prepared program)).2 :=
        (fits_step (fits_prepared program)).1
      rw [MGMLiteConnection.query, initWithConnection] at hquery
      cases hstep : step (Vdbe.prepared program) with
      | mk status v =>
        rw [hstep] at hquery hfits
        cases status with
        | row =>
            cases hquery
            exact fits_reset hfits
        | done => cases hquery
        | busy =>
            cases hquery
            exact hfits
        | error =>
            cases hquery
            exact hfits
  | step _ ih => exact (fits_step ih).1
  | reset _ ih => exact fits_reset ih
  | call method _ ih =>
      rw [call_snd]
      exact (fits_step ih).1

theorem length_columnNames (names : List CString) : (columnNames names).length = names.length := by
  rw [columnNames, List.length_map, List.length_zipIdx]

theorem nextRow_sameRow (h : Reached program v) :
    ∃ array dictionary, (call .nextRowAsArray v).1 = array.map .array ∧
      (call .nextRow v).1 = dictionary.map .dictionary ∧
      SameRow (columnNames program.columnNames) array dictionary := by
  have hnone : ∀ status v', step v = (status, v') → status ≠ .row → ∀ method,
      (call method v).1 = none := by
    intro status v' hstep hne method
    rw [call, hstep]
    cases status with
    | row => exact (hne rfl).elim
    | _ => rfl
  cases hstep : step v with
  | mk status v' =>
    by_cases hrow : status = .row
    · subst hrow
      obtain ⟨values, hset, hlen⟩ := (fits_step (fits_of_reached h)).2 v' hstep
      have hprog : v'.program = program := by
        have hfits := (fits_step (fits_of_reached h)).1
        rw [hstep] at hfits
        exact hfits.program_eq
      by_cases hcount : 1 ≤ v'.sqlite3_data_count
      · refine ⟨some (values.map objectAtColumn),
          some (setObjects (columnNames program.columnNames) (values.map objectAtColumn) ∅),
          ?_, ?_, sameRow_setObjects ?_⟩
        · simp only [call, hstep, if_pos hcount, hset, Option.map_some, rowObject]
        · simp only [call, hstep, if_pos hcount, hset, Option.map_some, rowObject, hprog]
        · rw [List.length_map, length_columnNames, hlen]
      · refine ⟨none, none, ?_, ?_, .end⟩
        · simp only [call, hstep, if_neg hcount, Option.map_none]
        · simp only [call, hstep, if_neg hcount, Option.map_none]
    · exact ⟨none, none, hnone status v' hstep hrow _, hnone status v' hstep hrow _, .end⟩

end

end MGMLiteResult

/-! ## Both -/

/-- In every state of an object the two methods give the same row, or none.  The
array has it by columns.  The dictionary has it by names, with the last column of
each name, and so with every column if no two have the same name. -/
theorem sameRow_nextRow {ω : Type} (F : Foundation) (timeZone : NSTimeZone) (r : MGMMyResult)
    {program : SQLite.Program ω} {v : SQLite.Vdbe ω} (h : MGMLiteResult.Reached program v) :
    SameRow r.names (r.nextRowAsArray F timeZone).1 (r.nextRow F timeZone).1 ∧
      ∃ array dictionary, (MGMLiteResult.call .nextRowAsArray v).1 = array.map .array ∧
        (MGMLiteResult.call .nextRow v).1 = dictionary.map .dictionary ∧
        SameRow (MGMLiteResult.columnNames program.columnNames) array dictionary :=
  ⟨r.nextRow_sameRow F timeZone, MGMLiteResult.nextRow_sameRow h⟩

theorem sameRow_nextRow_select7 :
    ∃ v,
      MGMLiteConnection.query (.statement (MGMLiteResult.select7 : SQLite.Program Unit)) = some v ∧
      SameRow [lit "0"] ((MGMMyResult.singleRow .blob 0 [0x61]).nextRowAsArray default ⟨[]⟩).1
        ((MGMMyResult.singleRow .blob 0 [0x61]).nextRow default ⟨[]⟩).1 ∧
      ∃ array dictionary, (MGMLiteResult.call .nextRowAsArray v).1 = array.map .array ∧
        (MGMLiteResult.call .nextRow v).1 = dictionary.map .dictionary ∧
        SameRow [lit "7"] array dictionary := by
  have hd : MGMLiteResult.Delivers (MGMLiteResult.select7 : SQLite.Program Unit) [[.integer 7]] :=
    { rerunnable := rfl, rows_eq := fun _ => rfl, succeeds := fun _ => rfl }
  obtain ⟨v, hquery, -⟩ := MGMLiteResult.query_at hd (List.cons_ne_nil _ _)
  exact ⟨v, hquery, sameRow_nextRow default ⟨[]⟩ (MGMMyResult.singleRow .blob 0 [0x61])
    (.query hquery)⟩

/-! ## Two columns of one name -/

/-- `SELECT 1 AS a, 2 AS a`. -/
def selectTwice : MGMMyResult where
  result := .stored [⟨cString [0x61], .longlong, 0⟩, ⟨cString [0x61], .longlong, 0⟩]
    [[some [0x31], some [0x32]]] (by simp)
  names := [lit "a", lit "a"]
  names_eq := by decide +kernel

/-- A column called `1`, and behind it one without a name. -/
def selectUnnamed : SQLite.Program Unit where
  columnNames := [cString [0x31], cString []]
  runOnlyOnce := false
  run _ := .row [.integer 7, .integer 8] .done
  row_length := by simp [SQLite.Run.rows]
  has_columns := by simp

/-- Either way the first column is missing in the dictionary. -/
theorem not_oneOfEachColumn :
    (¬ ∀ (F : Foundation) (timeZone : NSTimeZone) (r : MGMMyResult) (os : List Obj)
        (d : NSDictionary), (r.nextRowAsArray F timeZone).1 = some os →
        (r.nextRow F timeZone).1 = some d → OneOfEachColumn r.names os d) ∧
      ¬ ∀ (program : SQLite.Program Unit) (v : SQLite.Vdbe Unit) (os : List Obj)
        (d : NSDictionary), MGMLiteResult.Reached program v →
        (MGMLiteResult.call .nextRowAsArray v).1 = some (.array os) →
        (MGMLiteResult.call .nextRow v).1 = some (.dictionary d) →
        OneOfEachColumn (MGMLiteResult.columnNames program.columnNames) os d := by
  constructor
  · intro h
    have hone := h default ⟨[]⟩ selectTwice _ _ rfl rfl
    have hkeys := hone.length_keys
    revert hkeys
    decide +kernel
  · intro h
    have hd : MGMLiteResult.Delivers selectUnnamed [[.integer 7, .integer 8]] :=
      { rerunnable := rfl, rows_eq := fun _ => rfl, succeeds := fun _ => rfl }
    obtain ⟨v, hquery, hat⟩ := MGMLiteResult.query_at hd (List.cons_ne_nil _ _)
    have hone := h selectUnnamed v _ _ (.query hquery)
      (MGMLiteResult.call_at hd hat .nextRowAsArray).1 (MGMLiteResult.call_at hd hat .nextRow).1
    have hkeys := hone.length_keys
    revert hkeys
    decide +kernel

end MGMDB
