import Mathlib.Data.Prod.Basic
import MGMDB.LiteResult.Step

/-!
# How often a statement is executed

`query:` steps a statement once to see whether it has rows, and resets it if it
has.  The row methods then execute it from the start.  So a statement may be
executed twice, and the changes of the first execution are kept when it stopped
at a row, or failed under `OR FAIL`.

`Finished` lists the states a statement can be in after a query and the row
calls up to the first nil, and `executedOnce_iff` says for which statements all
of them have the changes of one execution only.
-/

namespace MGMDB

namespace SQLite

variable {ω : Type}

namespace Run

/-- The changes that stay when an execution is ended at its first stop. -/
def leftAtStop (r : Run ω) : List ω :=
  match r.advance with
  | (_, .error false) => []
  | (ws, _) => ws

/-- Whether an execution has no stop but its successful end. -/
def endsAtOnce (r : Run ω) : Bool :=
  match r.advance.2 with
  | .done => true
  | _ => false

/-- The changes of an execution that is not cut short and that are kept. -/
def kept (r : Run ω) : List ω := if r.keeps then r.writes else []

end Run

end SQLite

namespace MGMLiteResult

open SQLite

variable {ω : Type}

/-! ## The states after a query -/

/-- Row calls up to the first that returns nil. -/
inductive Exhausts : Vdbe ω → Vdbe ω → Prop where
  | last {method : Method} {v v' : Vdbe ω} : call method v = (none, v') → Exhausts v v'
  | next {method : Method} {o : RowObject} {v v' v'' : Vdbe ω} :
      call method v = (some o, v') → Exhausts v' v'' → Exhausts v v''

/-- A query, and if it returned an object, row calls up to the first nil. -/
inductive Finished (program : Program ω) : Vdbe ω → Prop where
  | nil {v : Vdbe ω} : initWithConnection (.prepared program) = (false, v) → Finished program v
  | rows {v v' : Vdbe ω} : initWithConnection (.prepared program) = (true, v) → Exhausts v v' →
      Finished program v'

/-- The changes a statement made are those of one of its executions, or there are
none and it failed. -/
def ExecutedOnce (program : Program ω) (v : Vdbe ω) : Prop :=
  (∃ k < v.executions, v.effects = (program.run k).writes.map (k, ·)) ∨
    (v.effects = [] ∧ v.rc ≠ .ok)

/-- The first step of the statement ends it, or leaves no changes, or leaves all
changes of the execution and no second execution keeps any. -/
def ProbedSafely (program : Program ω) : Prop :=
  (program.run 0).endsAtOnce = true ∨ (program.run 0).leftAtStop = [] ∨
    ((program.run 0).leftAtStop = (program.run 0).writes ∧
      (program.runOnlyOnce = true ∨ (program.run 1).kept = []))

/-! ## The first execution -/

/-- The statement behind an object: the next step starts the second execution,
unless the statement runs only once. -/
structure Probed (program : Program ω) (v : Vdbe ω) : Prop where
  program_eq : v.program = program
  pc_eq : v.ready.pc = none
  executions_eq : v.executions = 1
  expired_eq : v.ready.expired = program.runOnlyOnce
  pending_eq : v.ready.pending = []
  changes_eq : v.ready.changes = (program.run 0).leftAtStop.map (0, ·)

theorem step_prepared (program : Program ω) :
    step (.prepared program) = (Vdbe.prepared program).started.stopped (program.run 0).advance :=
  step_eq fun h => Bool.false_ne_true h.2

/-- The constructor executes the statement up to its first stop. -/
theorem initWithConnection_prepared (program : Program ω) :
    ((program.run 0).endsAtOnce = false ∧
      ∃ v, initWithConnection (.prepared program) = (true, v) ∧ Probed program v) ∨
    ((program.run 0).endsAtOnce = true ∧
      ∃ v, initWithConnection (.prepared program) = (false, v) ∧ v.executions = 1 ∧
        v.effects = (program.run 0).writes.map (0, ·)) := by
  have hwrites := Run.writes_advance (program.run 0)
  rw [initWithConnection, step_prepared]
  cases hadv : (program.run 0).advance with
  | mk ws stop =>
    rw [hadv] at hwrites
    cases stop with
    | row values rest =>
        refine Or.inl ⟨by simp [Run.endsAtOnce, hadv], _, rfl, ?_⟩
        have hleft : (program.run 0).leftAtStop = ws := by simp [Run.leftAtStop, hadv]
        exact ⟨rfl, rfl, rfl, by rfl, rfl, by rw [hleft]; rfl⟩
    | done =>
        refine Or.inr ⟨by simp [Run.endsAtOnce, hadv], _, rfl, rfl, ?_⟩
        rw [hwrites]
        simp [Vdbe.started, Vdbe.prepared, Vdbe.sqlite3_finalize, Vdbe.effects,
          Vdbe.sqlite3_reset, Vdbe.sqlite3VdbeHalt, Vdbe.ready, Stop.writes]
    | error fail =>
        refine Or.inl ⟨by simp [Run.endsAtOnce, hadv], _, rfl, ?_⟩
        have hleft : (program.run 0).leftAtStop = if fail then ws else [] := by
          cases fail <;> simp [Run.leftAtStop, hadv]
        refine ⟨rfl, rfl, rfl, rfl, rfl, ?_⟩
        rw [hleft]
        cases fail <;> rfl

/-! ## The second execution -/

/-- The statement in its execution `k`, with the changes `K` kept before. -/
structure Iterating (program : Program ω) (k : Nat) (K : List (Nat × ω)) (v : Vdbe ω) : Prop where
  program_eq : v.program = program
  not_expired : v.ready.expired = false
  executions_eq : v.started.executions = k + 1
  changes_eq : v.started.changes = K
  writes_eq : (program.run k).writes = v.started.pending ++ v.remaining.writes
  keeps_eq : (program.run k).keeps = v.remaining.keeps
  has_columns : v.remaining.rows ≠ [] → program.columnNames ≠ []

/-- The statement after its execution `k`. -/
structure Ended (program : Program ω) (k : Nat) (K : List (Nat × ω)) (v : Vdbe ω) : Prop where
  executions_eq : v.executions = k + 1
  effects_eq : v.effects = K ++ (program.run k).kept.map (k, ·)
  failed : (program.run k).keeps = false → v.rc ≠ .ok

section
variable {program : Program ω} {k : Nat} {K : List (Nat × ω)} {v : Vdbe ω}

theorem Probed.iterating (h : Probed program v) (hr : program.runOnlyOnce = false) :
    Iterating program 1 ((program.run 0).leftAtStop.map (0, ·)) v := by
  have hstarted : v.started = { v.ready with executions := v.executions + 1 } := by
    simp only [Vdbe.started, h.pc_eq]
  have hremaining : v.remaining = program.run 1 := by
    simp only [Vdbe.remaining, h.pc_eq, h.program_eq, h.executions_eq]
  exact
    { program_eq := h.program_eq
      not_expired := h.expired_eq.trans hr
      executions_eq := by rw [hstarted, h.executions_eq]
      changes_eq := by rw [hstarted, ← h.changes_eq]
      writes_eq := by simp only [hstarted, hremaining, h.pending_eq, List.nil_append]
      keeps_eq := by rw [hremaining]
      has_columns := by rw [hremaining]; exact program.has_columns hr 1 }

/-- A call goes on to the next row of the execution, or ends it. -/
theorem call_iterating (h : Iterating program k K v) (method : Method) :
    (∃ o v', call method v = (some o, v') ∧ Iterating program k K v' ∧
        v'.remaining.rows.length < v.remaining.rows.length) ∨
      ∃ v', call method v = (none, v') ∧ Ended program k K v' := by
  have hne : ¬ v.Expired := fun he => Bool.false_ne_true (h.not_expired.symm.trans he.2)
  have hwrites := h.writes_eq
  have hkeeps := h.keeps_eq
  have hcols := h.has_columns
  have hm := Vdbe.started_magic v
  rw [Run.writes_advance v.remaining] at hwrites
  rw [Run.keeps_advance v.remaining] at hkeeps
  rw [Run.rows_advance] at hcols
  rw [Run.rows_advance v.remaining, call, step_eq hne]
  cases hadv : v.remaining.advance with
  | mk ws stop =>
    rw [hadv] at hwrites hkeeps hcols
    cases stop with
    | row values rest =>
        left
        have hnames : 1 ≤ v.started.program.columnNames.length := by
          rw [Vdbe.started_program, h.program_eq]
          exact List.length_pos_iff.mpr (hcols (List.cons_ne_nil _ _))
        simp only [Vdbe.stopped, Vdbe.sqlite3_data_count, Option.map_some]
        refine ⟨_, _, if_pos hnames, ?_, ?_⟩
        · exact
            { program_eq := (Vdbe.started_program v).trans h.program_eq
              not_expired := by
                rw [Vdbe.ready_of_running (by exact hm)]
                exact (Vdbe.started_expired v).trans h.not_expired
              executions_eq := by
                rw [Vdbe.started_of_running (by exact hm) rfl]
                exact h.executions_eq
              changes_eq := by
                rw [Vdbe.started_of_running (by exact hm) rfl]
                exact h.changes_eq
              writes_eq := by
                rw [Vdbe.started_of_running (by exact hm) rfl,
                  Vdbe.remaining_of_running (by exact hm) rfl, hwrites]
                exact (List.append_assoc _ _ _).symm
              keeps_eq := by
                rw [Vdbe.remaining_of_running (by exact hm) rfl]
                exact hkeeps
              has_columns := fun _ => hcols (List.cons_ne_nil _ _) }
        · rw [Vdbe.remaining_of_running (by exact hm) rfl]
          exact Nat.lt_succ_self _
    | done =>
        right
        refine ⟨_, rfl, (Vdbe.sqlite3VdbeHalt_executions _).trans h.executions_eq, ?_, ?_⟩
        · rw [Vdbe.effects_sqlite3VdbeHalt (by exact hm) (.inl rfl), Run.kept, hkeeps, hwrites]
          simp [Vdbe.effects, h.changes_eq, h.executions_eq, Stop.keeps, Stop.writes]
        · intro hk
          rw [hkeeps] at hk
          cases hk
    | error fail =>
        right
        refine ⟨_, rfl, (Vdbe.sqlite3VdbeHalt_executions _).trans h.executions_eq, ?_, ?_⟩
        · rw [Run.kept, hkeeps, hwrites]
          cases fail with
          | true =>
              rw [Vdbe.effects_sqlite3VdbeHalt (by exact hm) (.inr rfl)]
              simp [Vdbe.effects, h.changes_eq, h.executions_eq, Stop.keeps, Stop.writes]
          | false =>
              rw [Vdbe.effects_sqlite3VdbeHalt_error (by exact hm) rfl]
              simp [h.changes_eq, Stop.keeps]
        · intro _
          rw [Vdbe.sqlite3VdbeHalt_rc]
          exact Rc.noConfusion

/-- Whatever calls are made, the execution ends and keeps what it may keep. -/
theorem Exhausts.ended {v' : Vdbe ω} (hx : Exhausts v v') (h : Iterating program k K v) :
    Ended program k K v' := by
  induction hx with
  | @last method v v' hcall =>
      rcases call_iterating h method with ⟨o, w, hw, -, -⟩ | ⟨w, hw, hended⟩
      · rw [hcall] at hw
        cases hw
      · rw [hcall] at hw
        cases hw
        exact hended
  | @next method o v v' v'' hcall _ ih =>
      rcases call_iterating h method with ⟨o', w, hw, hnext, -⟩ | ⟨w, hw, -⟩
      · rw [hcall] at hw
        cases hw
        exact ih hnext
      · rw [hcall] at hw
        cases hw

/-- Calls of `nextRow` come to an end. -/
theorem exists_exhausts (h : Iterating program k K v) : ∃ v', Exhausts v v' := by
  generalize hn : v.remaining.rows.length = n
  induction n using Nat.strong_induction_on generalizing v with
  | _ n ih =>
      rcases call_iterating h .nextRow with ⟨o, w, hw, hnext, hlt⟩ | ⟨w, hw, -⟩
      · obtain ⟨v', hv'⟩ := ih _ (hn ▸ hlt) hnext rfl
        exact ⟨v', .next hw hv'⟩
      · exact ⟨w, .last hw⟩

/-- A call on a statement that runs only once, after the constructor. -/
theorem call_expired (h : Probed program v) (hr : program.runOnlyOnce = true) (method : Method) :
    call method v = (none, { v.ready with rc := .error false }) := by
  rw [call, step_expired ⟨h.pc_eq, h.expired_eq.trans hr⟩]

/-- A statement that runs only once is not executed again. -/
theorem Exhausts.expired {v' : Vdbe ω} (hx : Exhausts v v') (h : Probed program v)
    (hr : program.runOnlyOnce = true) :
    v'.effects = (program.run 0).leftAtStop.map (0, ·) ∧ v'.executions = 1 ∧ v'.rc ≠ .ok := by
  cases hx with
  | last hcall =>
      rw [call_expired h hr] at hcall
      cases hcall
      refine ⟨?_, ?_, Rc.noConfusion⟩
      · simp [Vdbe.effects, h.pending_eq, h.changes_eq]
      · exact (Vdbe.ready_executions v).trans h.executions_eq
  | next hcall _ =>
      rw [call_expired h hr] at hcall
      cases hcall

end

/-! ## The condition -/

/-- Changes of two executions are those of one only if the second made none. -/
theorem tagged_append_eq {a b c : List ω} {k : Nat} (ha : a ≠ [])
    (h : a.map (0, ·) ++ b.map (1, ·) = c.map (k, ·)) : k = 0 ∧ a = c ∧ b = [] := by
  have htag : ∀ x ∈ a.map (Prod.mk 0) ++ b.map (1, ·), x.1 = k := by
    rw [h]
    intro x hx
    obtain ⟨y, -, rfl⟩ := List.mem_map.mp hx
    rfl
  obtain ⟨x, a, rfl⟩ := List.exists_cons_of_ne_nil ha
  obtain rfl : 0 = k := htag (0, x) (by simp)
  have hb : b = [] := by
    cases b with
    | nil => rfl
    | cons y b => exact absurd (htag (1, y) (by simp)) Nat.one_ne_zero
  subst hb
  rw [List.map_nil, List.append_nil] at h
  exact ⟨rfl, List.map_injective_iff.mpr (Prod.mk_right_injective 0) h, rfl⟩

section
variable {program : Program ω} {v w : Vdbe ω}

/-- Behind an object the states are those that row calls end in. -/
theorem finished_iff (hinit : initWithConnection (.prepared program) = (true, v)) :
    Finished program w ↔ Exhausts v w := by
  constructor
  · intro hw
    cases hw with
    | nil h =>
        rw [hinit] at h
        cases h
    | rows h hx =>
        rw [hinit] at h
        cases h
        exact hx
  · exact .rows hinit

/-- The second execution of a statement that may run again adds its changes to
those of the first. -/
theorem executedOnce_iff_rerun (h : Probed program v)
    (hinit : initWithConnection (.prepared program) = (true, v))
    (hr : program.runOnlyOnce = false) :
    (∀ w, Finished program w → ExecutedOnce program w) ↔
      (program.run 0).leftAtStop = [] ∨
        ((program.run 0).leftAtStop = (program.run 0).writes ∧ (program.run 1).kept = []) := by
  have hiter := h.iterating hr
  constructor
  · intro hall
    obtain ⟨w, hx⟩ := exists_exhausts hiter
    have hended := hx.ended hiter
    by_cases hleft : (program.run 0).leftAtStop = []
    · exact .inl hleft
    · right
      rcases hall w ((finished_iff hinit).mpr hx) with ⟨k, -, hk⟩ | ⟨hnil, -⟩
      · rw [hended.effects_eq] at hk
        obtain ⟨rfl, hwrites, hkept⟩ := tagged_append_eq hleft hk
        exact ⟨hwrites, hkept⟩
      · rw [hended.effects_eq, List.append_eq_nil_iff, List.map_eq_nil_iff] at hnil
        exact absurd hnil.1 hleft
  · intro hsafe w hw
    have hended := ((finished_iff hinit).mp hw).ended hiter
    have heffects := hended.effects_eq
    rcases hsafe with hleft | ⟨hleft, hkept⟩
    · rw [hleft, List.map_nil, List.nil_append] at heffects
      cases hk : (program.run 1).keeps with
      | true =>
          rw [Run.kept, if_pos hk] at heffects
          exact .inl ⟨1, by rw [hended.executions_eq]; omega, heffects⟩
      | false =>
          rw [Run.kept, hk] at heffects
          exact .inr ⟨heffects, hended.failed hk⟩
    · rw [hleft, hkept, List.map_nil, List.append_nil] at heffects
      exact .inl ⟨0, by rw [hended.executions_eq]; omega, heffects⟩

/-- A statement that runs only once leaves what its first stop left. -/
theorem executedOnce_iff_runOnlyOnce (h : Probed program v)
    (hinit : initWithConnection (.prepared program) = (true, v))
    (hr : program.runOnlyOnce = true) :
    (∀ w, Finished program w → ExecutedOnce program w) ↔
      (program.run 0).leftAtStop = [] ∨
        (program.run 0).leftAtStop = (program.run 0).writes := by
  constructor
  · intro hall
    have hx : Exhausts v _ := .last (call_expired h hr .nextRow)
    obtain ⟨heffects, hexec, -⟩ := hx.expired h hr
    rcases hall _ ((finished_iff hinit).mpr hx) with ⟨k, hk, heq⟩ | ⟨hnil, -⟩
    · obtain rfl : k = 0 := by omega
      rw [heffects] at heq
      exact .inr (List.map_injective_iff.mpr (Prod.mk_right_injective 0) heq)
    · rw [heffects, List.map_eq_nil_iff] at hnil
      exact .inl hnil
  · intro hsafe w hw
    obtain ⟨heffects, hexec, hrc⟩ := ((finished_iff hinit).mp hw).expired h hr
    rcases hsafe with hleft | hleft
    · rw [hleft] at heffects
      exact .inr ⟨heffects, hrc⟩
    · rw [hleft] at heffects
      exact .inl ⟨0, by omega, heffects⟩

end

/-- Both executions keep their changes, so they are kept once only if one of the
two has none to keep. -/
theorem executedOnce_iff (program : Program ω) :
    (∀ v, Finished program v → ExecutedOnce program v) ↔ ProbedSafely program := by
  rcases initWithConnection_prepared program with
    ⟨hends, v, hinit, hprobed⟩ | ⟨hends, v, hinit, hexec, heffects⟩
  · cases hr : program.runOnlyOnce with
    | true =>
        rw [executedOnce_iff_runOnlyOnce hprobed hinit hr, ProbedSafely]
        simp [hends, hr]
    | false =>
        rw [executedOnce_iff_rerun hprobed hinit hr, ProbedSafely]
        simp [hends, hr]
  · refine iff_of_true ?_ (.inl hends)
    intro w hw
    cases hw with
    | nil h =>
        rw [hinit] at h
        cases h
        exact .inl ⟨0, by omega, heffects⟩
    | rows h _ =>
        rw [hinit] at h
        cases h

/-! ## An insertion that returns a row -/

/-- `INSERT INTO t VALUES (7)` with `count_changes` on. -/
def insert7 : Program Int where
  columnNames := [cString []]
  runOnlyOnce := false
  run _ := .write 7 (.row [.integer 1] .done)
  row_length := by simp [Run.rows]
  has_columns := by simp

/-- The row is inserted twice. -/
theorem not_executedOnce :
    ¬ ∀ (program : Program Int) (v : Vdbe Int), Finished program v → ExecutedOnce program v := by
  intro h
  rcases initWithConnection_prepared insert7 with ⟨-, v, hinit, hprobed⟩ | ⟨hends, -⟩
  · rcases (executedOnce_iff_rerun hprobed hinit rfl).mp (h insert7) with hleft | ⟨-, hkept⟩
    · cases hleft
    · cases hkept
  · cases hends

end MGMLiteResult

end MGMDB
