import MGMDB.LiteConnection.Session
import MGMDB.LiteResult.Once
import MGMDB.Outcome
import MGMDB.RowForms

/-!
# Where the rows of a SQLite result end

A result has no state of its own for the end of its rows.  A row method steps the
statement, and what that does is up to the statement.

One that may run again begins its next execution behind the end.  `Before` says that
this is where a statement is, and `endIsSticky_iff` for which statements no call
behind the end gives a row.  One that runs only once has expired by the time the
caller gets it, because the constructor has stepped and reset it, and
`not_deliversRows` says that none of its rows is ever delivered.
-/

namespace MGMDB

namespace MGMLiteResult

open SQLite Systems

variable {ω : Type}

/-! ## The end -/

/-- Once a step has found the statement finished, no row method gives a row before the
next reset. -/
def EndIsSticky (program : Program ω) : Prop :=
  ∀ v, Reached program v → (step v).1 = .done → ∀ (last : Method) (later : List Method),
    (cursor.run (call last v).2 (later.map .next)).1 = later.map fun _ => none

/-- No execution from `k` on has a row. -/
def NoRowsFrom (program : Program ω) (k : Nat) : Prop := ∀ j, k ≤ j → (program.run j).rows = []

/-! ## Executions -/

/-- The statement before its execution `k`. -/
structure Before (program : Program ω) (k : Nat) (v : Vdbe ω) : Prop where
  program_eq : v.program = program
  not_expired : v.ready.expired = false
  pc_eq : v.ready.pc = none
  executions_eq : v.executions = k

/-- The statement before its execution `k` or in it. -/
structure Within (program : Program ω) (k : Nat) (v : Vdbe ω) : Prop where
  program_eq : v.program = program
  not_expired : v.ready.expired = false
  executions_eq : v.started.executions = k + 1
  succeeds_eq : v.remaining.succeeds = (program.run k).succeeds
  rows_suffix : v.remaining.rows <:+ (program.run k).rows

section
variable {program : Program ω} {k : Nat} {v : Vdbe ω}

theorem Before.remaining_eq (h : Before program k v) : v.remaining = program.run k := by
  simp only [Vdbe.remaining, h.pc_eq, h.program_eq, h.executions_eq]

theorem Before.within (h : Before program k v) : Within program k v where
  program_eq := h.program_eq
  not_expired := h.not_expired
  executions_eq := by
    have hstarted : v.started = { v.ready with executions := v.executions + 1 } := by
      simp only [Vdbe.started, h.pc_eq]
    rw [hstarted, h.executions_eq]
  succeeds_eq := by rw [h.remaining_eq]
  rows_suffix := by rw [h.remaining_eq]

theorem before_reset (hr : program.runOnlyOnce = false) (hp : v.program = program)
    (he : v.expired = false) : Before program v.executions (reset v) where
  program_eq := (Vdbe.sqlite3_reset_program v).trans hp
  not_expired := by
    rw [reset, Vdbe.ready_of_running (Vdbe.sqlite3_reset_magic v), Vdbe.sqlite3_reset_expired, he,
      hp, hr, Bool.and_false, Bool.or_false]
  pc_eq := by
    rw [reset, Vdbe.ready_of_running (Vdbe.sqlite3_reset_magic v), Vdbe.sqlite3_reset_pc]
  executions_eq := Vdbe.sqlite3_reset_executions v

theorem before_halted (hr : program.runOnlyOnce = false) (hp : v.program = program)
    (he : v.expired = false) : Before program v.executions v.sqlite3VdbeHalt := by
  have hm := Vdbe.sqlite3VdbeHalt_magic v
  exact
    { program_eq := (Vdbe.sqlite3VdbeHalt_program v).trans hp
      not_expired := by
        rw [Vdbe.ready_of_halted hm, Vdbe.sqlite3_reset_expired, Vdbe.sqlite3VdbeHalt_expired, he,
          Vdbe.sqlite3VdbeHalt_program, hp, hr, Bool.and_false, Bool.or_false]
      pc_eq := by rw [Vdbe.ready_of_halted hm, Vdbe.sqlite3_reset_pc]
      executions_eq := Vdbe.sqlite3VdbeHalt_executions v }

/-- A step gives the next row of the execution, or ends it and stands before the next. -/
theorem step_within (hr : program.runOnlyOnce = false) (h : Within program k v) :
    (∃ values v', step v = (.row, v') ∧ v'.resultSet = some values ∧ v'.executions = k + 1 ∧
        v.remaining.rows = values :: v'.remaining.rows ∧ Within program k v') ∨
      (v.remaining.rows = [] ∧ (step v).1 ≠ .row ∧
        ((step v).1 = .done ↔ v.remaining.succeeds = true) ∧ Before program (k + 1) (step v).2) := by
  have hne : ¬ v.Expired := fun he => Bool.false_ne_true (h.not_expired.symm.trans he.2)
  have hexp : v.started.expired = false := (Vdbe.started_expired v).trans h.not_expired
  have hprog : v.started.program = program := (Vdbe.started_program v).trans h.program_eq
  have hhalt : ∀ w : Vdbe ω, w.program = v.started.program → w.expired = v.started.expired →
      w.executions = v.started.executions → Before program (k + 1) w.sqlite3VdbeHalt := by
    intro w hwprog hwexp hwexec
    rw [← h.executions_eq, ← hwexec]
    exact before_halted hr (hwprog.trans hprog) (hwexp.trans hexp)
  have hsucc := h.succeeds_eq
  have hrows := h.rows_suffix
  rw [Run.succeeds_advance] at hsucc
  rw [Run.rows_advance v.remaining] at hrows
  rw [Run.rows_advance v.remaining, Run.succeeds_advance v.remaining, step_eq hne]
  cases hadv : v.remaining.advance with
  | mk ws stop =>
    rw [hadv] at hsucc hrows
    cases stop with
    | row values rest =>
        left
        have hm := Vdbe.started_magic v
        refine ⟨values, _, rfl, rfl, h.executions_eq, ?_, ?_⟩
        · rw [Vdbe.remaining_of_running (by exact hm) rfl]
          rfl
        · exact
            { program_eq := hprog
              not_expired := by
                rw [Vdbe.ready_of_running (by exact hm)]
                exact hexp
              executions_eq := by
                rw [Vdbe.started_of_running (by exact hm) rfl]
                exact h.executions_eq
              succeeds_eq := by
                rw [Vdbe.remaining_of_running (by exact hm) rfl]
                exact hsucc
              rows_suffix := by
                rw [Vdbe.remaining_of_running (by exact hm) rfl]
                exact (List.suffix_cons _ _).trans hrows }
    | done =>
        right
        exact ⟨rfl, Status.noConfusion, iff_of_true rfl rfl, hhalt _ rfl rfl rfl⟩
    | error fail =>
        right
        exact ⟨rfl, Status.noConfusion, iff_of_false Status.noConfusion Bool.false_ne_true,
          hhalt _ rfl rfl rfl⟩

end

/-! ## Calls of the row methods -/

section
variable {program : Program ω} {k : Nat} {v v' : Vdbe ω}

/-- A step without a row is a call that gives nil. -/
theorem call_of_ne_row (h : (step v).1 ≠ .row) (method : Method) : (call method v).1 = none := by
  rw [call]
  split
  next v' hstep => exact absurd (congrArg Prod.fst hstep) h
  next => rfl

/-- A step to a row is a call that gives an object. -/
theorem call_of_row {values : List Value} (hstep : step v = (.row, v'))
    (hset : v'.resultSet = some values) (hcols : v'.program.columnNames ≠ []) (method : Method) :
    (call method v).1 = some (rowObject v'.program.columnNames method values) := by
  have hcount : 1 ≤ v'.sqlite3_data_count := by
    rw [Vdbe.sqlite3_data_count, hset]
    exact List.length_pos_iff.mpr hcols
  rw [call, hstep]
  simp only [if_pos hcount, hset, Option.map_some]

theorem call_before (hr : program.runOnlyOnce = false) (h : Before program k v)
    (method : Method) :
    ((program.run k).rows = [] ∧ (call method v).1 = none ∧
        Before program (k + 1) (call method v).2) ∨
      ((program.run k).rows ≠ [] ∧ (call method v).1 ≠ none) := by
  rw [call_snd]
  rcases step_within hr h.within with ⟨values, v', hstep, hset, -, hrows, hin⟩ | ⟨hrows, hne, -, hb⟩
  · right
    have hsome : (program.run k).rows ≠ [] := by
      rw [← h.remaining_eq, hrows]
      exact List.cons_ne_nil _ _
    have hcols : v'.program.columnNames ≠ [] := by
      rw [hin.program_eq]
      exact program.has_columns hr k hsome
    rw [call_of_row hstep hset hcols]
    exact ⟨hsome, Option.some_ne_none _⟩
  · rw [h.remaining_eq] at hrows
    exact .inl ⟨hrows, call_of_ne_row hne method, hb⟩

/-- Executions without rows answer every call with nil. -/
theorem run_of_noRowsFrom (hr : program.runOnlyOnce = false) (h : Before program k v)
    (hnone : NoRowsFrom program k) (methods : List Method) :
    (cursor.run v (methods.map .next)).1 = methods.map fun _ => none := by
  induction methods generalizing k v with
  | nil => rfl
  | cons method methods ih =>
      rcases call_before hr h method with ⟨-, hcall, hb⟩ | ⟨hsome, -⟩
      · have hrest := ih hb fun j hj => hnone j (Nat.le_of_succ_le hj)
        exact congrArg₂ List.cons hcall hrest
      · exact absurd (hnone k (Nat.le_refl k)) hsome

/-- The first later execution with rows gives one. -/
theorem exists_run_row (hr : program.runOnlyOnce = false) {j : Nat} (hkj : k ≤ j)
    (hrows : (program.run j).rows ≠ []) (h : Before program k v) :
    ∃ methods : List Method,
      (cursor.run v (methods.map .next)).1 ≠ methods.map fun _ => none := by
  induction hn : j - k generalizing k v with
  | zero =>
      obtain rfl : k = j := by omega
      rcases call_before hr h .nextRow with ⟨hnone, -⟩ | ⟨-, hsome⟩
      · exact absurd hnone hrows
      · exact ⟨[.nextRow], fun hall => hsome (List.cons.inj hall).1⟩
  | succ n ih =>
      rcases call_before hr h .nextRow with ⟨-, -, hb⟩ | ⟨-, hsome⟩
      · obtain ⟨methods, hmethods⟩ := ih (by omega) hb (by omega)
        exact ⟨.nextRow :: methods, fun hall => hmethods (List.cons.inj hall).2⟩
      · exact ⟨[.nextRow], fun hall => hsome (List.cons.inj hall).1⟩

end

/-! ## What a result can reach -/

section
variable {program : Program ω} {k : Nat} {v : Vdbe ω}

theorem Probed.before (hr : program.runOnlyOnce = false) (h : Probed program v) :
    Before program 1 v :=
  ⟨h.program_eq, h.expired_eq.trans hr, h.pc_eq, h.executions_eq⟩

/-- The object of a query is before the second execution. -/
theorem probed_of_query (h : MGMLiteConnection.query (.statement program) = some v) :
    Probed program v := by
  rw [MGMLiteConnection.query] at h
  rcases initWithConnection_prepared program with ⟨-, w, hinit, hprobed⟩ | ⟨-, w, hinit, -⟩
  · rw [hinit] at h
    cases h
    exact hprobed
  · rw [hinit] at h
    cases h

/-- A result is in one of the executions behind the first, or before it. -/
theorem within_of_reached (hr : program.runOnlyOnce = false) (h : Reached program v) :
    ∃ k, 1 ≤ k ∧ Within program k v := by
  have hstep : ∀ {v : Vdbe ω} {k : Nat}, 1 ≤ k → Within program k v →
      ∃ k, 1 ≤ k ∧ Within program k (step v).2 := by
    intro v k hk hin
    rcases step_within hr hin with ⟨values, v', hstep, -, -, -, hin'⟩ | ⟨-, -, -, hb⟩
    · rw [hstep]
      exact ⟨k, hk, hin'⟩
    · exact ⟨k + 1, Nat.le_succ_of_le hk, hb.within⟩
  induction h with
  | query hquery => exact ⟨1, Nat.le_refl 1, ((probed_of_query hquery).before hr).within⟩
  | step _ ih =>
      obtain ⟨k, hk, hin⟩ := ih
      exact hstep hk hin
  | @reset v _ ih =>
      obtain ⟨k, hk, hin⟩ := ih
      have hreset := before_reset hr hin.program_eq (Vdbe.expired_of_ready hin.not_expired)
      refine ⟨_, ?_, hreset.within⟩
      -- the execution may have begun or not
      have hexec := hin.executions_eq
      rw [Vdbe.started] at hexec
      split at hexec
      · have hsucc : v.executions + 1 = k + 1 := hexec
        omega
      · rw [Vdbe.ready_executions] at hexec
        omega
  | call method _ ih =>
      obtain ⟨k, hk, hin⟩ := ih
      rw [call_snd]
      exact hstep hk hin

/-- Steps and resets lead to every later execution. -/
theorem exists_reached_before (hr : program.runOnlyOnce = false)
    (hends : (program.run 0).endsAtOnce = false) (n : Nat) :
    ∃ v, Reached program v ∧ Before program (n + 1) v := by
  induction n with
  | zero =>
      obtain ⟨v, hquery⟩ := (MGMLiteConnection.returnsResult_statement program).mpr hends
      exact ⟨v, .query hquery, (probed_of_query hquery).before hr⟩
  | succ n ih =>
      obtain ⟨v, hreached, hb⟩ := ih
      refine ⟨reset (step v).2, .reset (.step hreached), ?_⟩
      rcases step_within hr hb.within with ⟨values, v', hstep, -, hexec, -, hin⟩ | ⟨-, -, -, hb'⟩
      · rw [hstep]
        have hreset := before_reset hr hin.program_eq (Vdbe.expired_of_ready hin.not_expired)
        rwa [hexec] at hreset
      · have hreset := before_reset hr hb'.program_eq (Vdbe.expired_of_ready hb'.not_expired)
        rwa [hb'.executions_eq] at hreset

/-- An execution that succeeds comes to its end. -/
theorem exists_reached_done (hr : program.runOnlyOnce = false) (h : Within program k v)
    (hreached : Reached program v) (hsucc : (program.run k).succeeds = true) :
    ∃ w, Reached program w ∧ (step w).1 = .done ∧ Before program (k + 1) (step w).2 := by
  induction hn : v.remaining.rows.length generalizing v with
  | zero =>
      rcases step_within hr h with ⟨values, v', -, -, -, hrows, -⟩ | ⟨-, -, hdone, hb⟩
      · rw [hrows] at hn
        cases hn
      · exact ⟨v, hreached, hdone.mpr (h.succeeds_eq.trans hsucc), hb⟩
  | succ n ih =>
      rcases step_within hr h with ⟨values, v', hstep, -, -, hrows, hin⟩ | ⟨hrows, -⟩
      · rw [hrows] at hn
        have hreached' := Reached.step hreached
        rw [hstep] at hreached'
        exact ih hin hreached' (Nat.succ.inj hn)
      · rw [hrows] at hn
        cases hn

/-- A statement that runs only once has expired. -/
theorem expired_of_reached (hr : program.runOnlyOnce = true) (h : Reached program v) :
    v.Expired := by
  have hstep : ∀ {v : Vdbe ω}, v.Expired → (step v).2.Expired := by
    intro v hv
    rw [step_expired hv]
    have hm : ({ v.ready with rc := .error false } : Vdbe ω).magic = .run := Vdbe.ready_magic v
    rw [Vdbe.Expired, Vdbe.ready_of_running hm]
    exact hv
  induction h with
  | query hquery =>
      have hprobed := probed_of_query hquery
      exact ⟨hprobed.pc_eq, hprobed.expired_eq.trans hr⟩
  | step _ ih => exact hstep ih
  | @reset v _ ih =>
      rw [Vdbe.Expired, reset, Vdbe.ready_of_running (Vdbe.sqlite3_reset_magic v)]
      refine ⟨rfl, ?_⟩
      have hexpired := ih.2
      rw [Vdbe.ready] at hexpired
      split at hexpired
      · rw [Vdbe.sqlite3_reset_expired, hexpired, Bool.true_or]
      · exact hexpired
  | call method _ ih =>
      rw [call_snd]
      exact hstep ih

end

/-! ## Sticky ends -/

/-- The end is sticky for the statements that finish at once, for which there is no
result, for those that run only once, whose end is an error, and for those without rows in
any execution behind a completed one. -/
theorem endIsSticky_iff (program : Program ω) :
    EndIsSticky program ↔
      (program.run 0).endsAtOnce = true ∨ program.runOnlyOnce = true ∨
        ∀ k, 1 ≤ k → (program.run k).succeeds = true → NoRowsFrom program (k + 1) := by
  cases hr : program.runOnlyOnce with
  | true =>
      refine iff_of_true ?_ (.inr (.inl rfl))
      intro v hreached hdone
      rw [step_expired (expired_of_reached hr hreached)] at hdone
      cases hdone
  | false =>
      constructor
      · intro hsticky
        cases hends : (program.run 0).endsAtOnce with
        | true => exact .inl rfl
        | false =>
            refine .inr (.inr ?_)
            intro k hk hsucc j hj
            by_contra hrows
            obtain ⟨n, rfl⟩ := Nat.exists_eq_add_of_le' hk
            obtain ⟨v, hv, hb⟩ := exists_reached_before hr hends n
            obtain ⟨w, hw, hdone, hnext⟩ := exists_reached_done hr hb.within hv hsucc
            obtain ⟨methods, hmethods⟩ := exists_run_row hr hj hrows hnext
            have hnone := hsticky w hw hdone .nextRow methods
            rw [call_snd] at hnone
            exact hmethods hnone
      · rintro (hends | hfalse | hnone) v hreached hdone last later
        · have hquery : ∃ v, MGMLiteConnection.query (.statement program) = some v := by
            clear hdone
            induction hreached with
            | query hquery => exact ⟨_, hquery⟩
            | step _ ih => exact ih
            | reset _ ih => exact ih
            | call _ _ ih => exact ih
          have hnot := (MGMLiteConnection.returnsResult_statement program).mp hquery
          rw [hends] at hnot
          cases hnot
        · cases hfalse
        · obtain ⟨k, hk, hin⟩ := within_of_reached hr hreached
          rcases step_within hr hin with ⟨values, v', hstep, -⟩ | ⟨-, -, hends, hb⟩
          · rw [hstep] at hdone
            cases hdone
          · have hsucc := hends.mp hdone
            rw [hin.succeeds_eq] at hsucc
            rw [call_snd]
            exact run_of_noRowsFrom hr hb (hnone k hk hsucc) later

/-- A statement of one row gives it again behind its end. -/
theorem not_endIsSticky : ¬ ∀ program : Program Unit, EndIsSticky program := by
  intro h
  obtain ⟨v, hv, hb⟩ : ∃ v, Reached select7 v ∧ Before (select7 : Program Unit) 1 v :=
    exists_reached_before rfl rfl 0
  obtain ⟨w, hw, hdone, hnext⟩ := exists_reached_done rfl hb.within hv rfl
  have hsticky := h select7 w hw hdone .nextRow [.nextRow]
  rcases call_before rfl hnext .nextRow with ⟨hrows, -⟩ | ⟨-, hsome⟩
  · cases hrows
  · rw [call_snd] at hsticky
    exact hsome (List.cons.inj hsticky).1

/-! ## Statements that run only once -/

/-- Row calls give these rows in order, each in the form of its method, and then nil. -/
def Gives (names : List CString) (v : Vdbe ω) (rows : List (List Value)) : Prop :=
  ∀ (methods : List Method) (last : Method), methods.length = rows.length →
    (cursor.run v (methods.map .next ++ [.next last])).1 =
      List.zipWith (fun method row => some (rowObject names method row)) methods rows ++ [none]

/-- `query:` returns an object that gives these rows. -/
def DeliversRows (program : Program ω) (rows : List (List Value)) : Prop :=
  ∃ v, MGMLiteConnection.query (.statement program) = some v ∧ Gives program.columnNames v rows

/-- `columnsFromTable:` returns an object that gives these rows. -/
def EnumeratesColumns (E : LiteSession.Environment ω) (s : LiteSession.State ω)
    (theTable : Option NSString) (program : Program ω) (rows : List (List Value)) : Prop :=
  ∃ i t v, LiteSession.columnsFromTable E theTable s = (.ok (some i), t) ∧
    t.results i = some v ∧ Gives program.columnNames v rows

section
variable {program : Program ω} {v : Vdbe ω}

/-- A statement that has expired gives no row. -/
theorem not_gives_of_expired (h : v.Expired) (names : List CString) {rows : List (List Value)}
    (hrows : rows ≠ []) : ¬ Gives names v rows := by
  intro hgives
  obtain ⟨row, rows, rfl⟩ := List.exists_cons_of_ne_nil hrows
  have hcalls := hgives (List.replicate (rows.length + 1) .nextRow) .nextRow List.length_replicate
  have hnone : (call .nextRow v).1 = none := by
    refine call_of_ne_row ?_ .nextRow
    rw [step_expired h]
    exact Status.noConfusion
  have hfirst : (call .nextRow v).1 = some (rowObject names .nextRow row) :=
    (List.cons.inj hcalls).1
  rw [hnone] at hfirst
  cases hfirst

theorem expired_of_query (hr : program.runOnlyOnce = true)
    (h : MGMLiteConnection.query (.statement program) = some v) : v.Expired :=
  expired_of_reached hr (.query h)

/-- The constructor of a session makes the same object. -/
theorem initWithConnection_session (E : LiteSession.Environment ω) (program : Program ω)
    (s : LiteSession.State ω) :
    (LiteSession.initWithConnection E (.prepared program) s).1 =
      MGMLiteConnection.query (.statement program) := by
  have hfresh : ¬ (Vdbe.prepared program).Expired := fun h => Bool.false_ne_true h.2
  have hstep := (LiteSession.step_spec E (.prepared program) s hfresh).1
  rw [LiteSession.initWithConnection, MGMLiteConnection.query, initWithConnection, ← hstep]
  rcases LiteSession.step E (.prepared program) s with ⟨⟨status, v⟩, t⟩
  cases status with
  | row => rfl
  | done => rfl
  | busy => rfl
  | error => rfl

theorem sendQuery_session {E : LiteSession.Environment ω} {s : LiteSession.State ω} {i : Nat}
    (hprepare : E.sqlite3_prepare s.clock = .statement program)
    (h : (LiteSession.sendQuery E s).1 = some i) :
    ∃ v, MGMLiteConnection.query (.statement program) = some v ∧
      (LiteSession.sendQuery E s).2.results i = some v := by
  have hinit := initWithConnection_session E program
    { s with clock := s.clock + 1, errCode := LiteSession.SQLITE_OK }
  rw [LiteSession.sendQuery, hprepare] at h ⊢
  dsimp only at h ⊢
  split at h
  next hnone => cases h
  next v t hsome =>
    rw [hsome] at hinit
    obtain rfl := Option.some.inj h
    exact ⟨v, hinit.symm, Function.update_self _ _ _⟩

/-- `columnsFromTable:` makes its object as a query does. -/
theorem columnsFromTable_session {E : LiteSession.Environment ω} {s t : LiteSession.State ω}
    {theTable : Option NSString} {i : Nat}
    (hprepare : E.sqlite3_prepare s.clock = .statement program)
    (h : LiteSession.columnsFromTable E theTable s = (.ok (some i), t)) :
    ∃ v, MGMLiteConnection.query (.statement program) = some v ∧ t.results i = some v := by
  rw [LiteSession.columnsFromTable, LiteSession.query] at h
  split at h
  next => cases h
  next => cases h
  next => cases h
  next => cases h
  next text _ =>
    split at h
    next => cases h
    next =>
      cases htext : UTF8String text with
      | none =>
          rw [htext] at h
          cases h
      | some bytes =>
          rw [htext] at h
          obtain ⟨hsome, rfl⟩ := Prod.mk.inj h
          exact sendQuery_session hprepare (Except.ok.inj hsome)

end

/-- No row of a statement that runs only once is delivered, and no column of a table is
enumerated, because the engine compiles every `PRAGMA` so. -/
theorem not_deliversRows {program : Program ω} (hr : program.runOnlyOnce = true) {k : Nat}
    (hrows : (program.run k).rows ≠ []) :
    ¬ DeliversRows program (program.run k).rows ∧
      ∀ (E : LiteSession.Environment ω) (s : LiteSession.State ω) (theTable : Option NSString),
        E.sqlite3_prepare s.clock = .statement program →
        ¬ EnumeratesColumns E s theTable program (program.run k).rows := by
  constructor
  · rintro ⟨v, hquery, hgives⟩
    exact not_gives_of_expired (expired_of_query hr hquery) _ hrows hgives
  · rintro E s theTable hprepare ⟨i, t, v, hcall, hresult, hgives⟩
    obtain ⟨w, hquery, hw⟩ := columnsFromTable_session hprepare hcall
    obtain rfl := Option.some.inj (hresult.symm.trans hw)
    exact not_gives_of_expired (expired_of_query hr hquery) _ hrows hgives

/-- `PRAGMA table_info('t')` of a table with the column `a`. -/
def tableInfo : Program Unit where
  columnNames := [cString [0x63, 0x69, 0x64], cString [0x6E, 0x61, 0x6D, 0x65]]
  runOnlyOnce := true
  run _ := .row [.integer 0, .text [0x61]] .done
  row_length := by simp [Run.rows]
  has_columns h := by cases h

/-- A database with that table. -/
def describing : LiteSession.Environment Unit where
  foundation := default
  sqlite3_prepare _ := .statement tableInfo
  rc _ := ⟨LiteSession.SQLITE_ERROR, Nat.one_ne_zero⟩

theorem not_deliversRows_tableInfo :
    ¬ DeliversRows tableInfo (tableInfo.run 0).rows ∧
      ∀ (E : LiteSession.Environment Unit) (s : LiteSession.State Unit)
        (theTable : Option NSString), E.sqlite3_prepare s.clock = .statement tableInfo →
        ¬ EnumeratesColumns E s theTable tableInfo (tableInfo.run 0).rows :=
  @not_deliversRows Unit tableInfo rfl 0 (List.cons_ne_nil _ _)

/-- The columns of a table are not enumerated. -/
theorem not_enumeratesColumns :
    ¬ ∀ (program : Program Unit) (E : LiteSession.Environment Unit) (s : LiteSession.State Unit)
      (theTable : Option NSString), program.runOnlyOnce = true →
      E.sqlite3_prepare s.clock = .statement program → (program.run 0).rows ≠ [] →
      DeliversRows program (program.run 0).rows ∧
        EnumeratesColumns E s theTable program (program.run 0).rows := by
  intro h
  obtain ⟨⟨v, hquery, hgives⟩, -⟩ := h tableInfo describing LiteSession.opened (some (lit "t")) rfl
    rfl (List.cons_ne_nil _ _)
  exact not_gives_of_expired (expired_of_query rfl hquery) _ (List.cons_ne_nil _ _) hgives

end MGMLiteResult

end MGMDB
