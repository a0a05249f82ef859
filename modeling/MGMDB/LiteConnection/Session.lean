import MGMDB.LiteResult.Step
import MGMDB.Query.Format
import MGMDB.Systems.Machine

/-!
# The error code of a SQLite connection

`errorID` of an `MGMLiteConnection` is the code the engine keeps for the
connection.  Compiling a text sets it, and so does every step, reset and finalize
of a statement, also those that the results of earlier queries make.  A query
that does not get to the engine leaves it alone, and a text without a statement
sets it to 0.  `errorID_ne_zero_iff` says when the code after a query that
executed nothing is not 0.

What the engine does is the `Environment`, by the number of the call.  Methods
that only read the connection are left out.
-/

namespace MGMDB

namespace LiteSession

open SQLite Systems

variable {ω : Type}

def SQLITE_OK : Nat := 0
def SQLITE_ERROR : Nat := 1
def SQLITE_BUSY : Nat := 5
def SQLITE_SCHEMA : Nat := 17
def SQLITE_RANGE : Nat := 25
def SQLITE_ROW : Nat := 100
def SQLITE_DONE : Nat := 101

/-- The code of an error. -/
def ErrorCode : Type := { rc : Nat // rc ≠ SQLITE_OK }

/-- Foundation, what compiling a text gives, and the code an error has. -/
structure Environment (ω : Type) where
  foundation : Foundation
  sqlite3_prepare : Nat → Prepared ω
  rc : Nat → ErrorCode

/-- A connection with the statements of its results.  `statuses` has the answers of
`sqlite3_step`, the last one first. -/
structure State (ω : Type) where
  alive : Bool
  errCode : Nat
  results : Nat → Option (Vdbe ω)
  allocated : Nat
  clock : Nat
  statuses : List Status

/-- A connection that was just opened. -/
def opened : State ω where
  alive := true
  errCode := SQLITE_OK
  results _ := none
  allocated := 0
  clock := 0
  statuses := []

/-- How a method ends early. -/
inductive Halt where
  | crashed
  | raised
deriving DecidableEq, Repr

/-! ## The engine -/

/-- The code of a status, which a step leaves unless the statement has expired. -/
def code : Status → Nat
  | .row => SQLITE_ROW
  | .done => SQLITE_DONE
  | .busy => SQLITE_BUSY
  | .error => SQLITE_ERROR

/-- The code after `sqlite3VdbeReset`.  A statement that has not started leaves the
code, unless it was found to have expired. -/
def resetCode (rc : ErrorCode) (v : Vdbe ω) (errCode : Nat) : Nat :=
  if v.pc.isSome then
    match v.rc with
    | .ok => SQLITE_OK
    | .busy => SQLITE_BUSY
    | .error _ => rc.val
  else if v.rc ≠ .ok ∧ v.expired then SQLITE_SCHEMA
  else errCode

/-- The code after `sqlite3_step`.  One that finds the statement expired does not set
it. -/
def stepCode (rc : ErrorCode) (v : Vdbe ω) (errCode : Nat) : Nat :=
  if v.ready.pc = none ∧ v.ready.expired = true then
    match v.magic with
    | .run => errCode
    | .halt => resetCode rc v errCode
  else code v.sqlite3_step.1

/-- The connection after `sqlite3_step`. -/
def stepped (E : Environment ω) (v : Vdbe ω) (s : State ω) : State ω :=
  { s with
    errCode := stepCode (E.rc s.clock) v s.errCode
    clock := s.clock + 1
    statuses := v.sqlite3_step.1 :: s.statuses }

/-- The connection after `sqlite3_reset` or `sqlite3_finalize`. -/
def wasReset (E : Environment ω) (v : Vdbe ω) (s : State ω) : State ω :=
  { s with errCode := resetCode (E.rc s.clock) v s.errCode, clock := s.clock + 1 }

/-! ## The methods -/

/-- `step` of a result. -/
def step (E : Environment ω) (result : Vdbe ω) (s : State ω) : (Status × Vdbe ω) × State ω :=
  match _h : result.sqlite3_step with
  | (.busy, result') => step E result' (stepped E result s)
  | (status, result') => ((status, result'), stepped E result s)
termination_by result.remaining.busies
decreasing_by exact Vdbe.busies_sqlite3_step _h

/-- `initWithConnection:result:` for a statement that is not NULL. -/
def initWithConnection (E : Environment ω) (result : Vdbe ω) (s : State ω) :
    Option (Vdbe ω) × State ω :=
  match step E result s with
  | ((.row, result), s) => (some result.sqlite3_reset, wasReset E result s)
  | ((.done, result), s) => (none, wasReset E result s)
  | ((_, result), s) => (some result, s)

/-- `query:`, from the call of `sqlite3_prepare` on.  The answer is the number of the
result. -/
def sendQuery (E : Environment ω) (s : State ω) : Option Nat × State ω :=
  let called := { s with clock := s.clock + 1 }
  match E.sqlite3_prepare s.clock with
  | .error => (none, { called with errCode := (E.rc s.clock).val })
  | .empty => (none, { called with errCode := SQLITE_OK })
  | .statement program =>
      match initWithConnection E (.prepared program) { called with errCode := SQLITE_OK } with
      | (none, s) => (none, s)
      | (some result, s) =>
          (some s.allocated,
            { s with
              results := Function.update s.results s.allocated (some result)
              allocated := s.allocated + 1 })

/-- `query:`. -/
def query (E : Environment ω) (format : NSString) (ap : List Arg) (s : State ω) :
    Except Halt (Option Nat) × State ω :=
  match MGMLiteConnection.queryText E.foundation format ap with
  | .error .invalidFormat => (.ok none, s)
  | .error .badArgument => (.error .crashed, s)
  | .error .rangeException => (.error .raised, s)
  | .error .nilArgument => (.error .raised, s)
  | .ok query =>
      if query = [] then (.ok none, s)
      else
        match UTF8String query with
        | none => (.error .crashed, s)
        | some _ => (.ok (sendQuery E s).1, (sendQuery E s).2)

/-- `tablesLike:`. -/
def tablesLike (E : Environment ω) (theName : Option NSString) (s : State ω) :
    Except Halt (Option Nat) × State ω :=
  if theName.getD [] = [] then
    query E (lit "SELECT name FROM sqlite_master WHERE type='table'") [] s
  else
    query E (lit "SELECT name FROM sqlite_master WHERE type='table' AND name LIKE %@")
      [.object (theName.map .string)] s

/-- `columnsFromTable:`. -/
def columnsFromTable (E : Environment ω) (theTable : Option NSString) (s : State ω) :
    Except Halt (Option Nat) × State ω :=
  query E (lit "PRAGMA table_info(%@)") [.object (theTable.map .string)] s

/-- `errorID`. -/
def errorID (s : State ω) : Nat := s.errCode

/-- The methods of the connection and of its results.  `nextRow` stands for both row
methods, which only differ in what they build, and `release` for the last one. -/
inductive Op where
  | query (format : NSString) (ap : List Arg)
  | tablesLike (theName : Option NSString)
  | columnsFromTable (theTable : Option NSString)
  | errorID
  | nextRow (result : Nat)
  | step (result : Nat)
  | reset (result : Nat)
  | objectAtColumn (result : Nat) (theColumn : Int)
  | release (result : Nat)

/-- What a method returns, as far as it is about the connection. -/
inductive Answer where
  | void
  | number (n : Nat)
  | result (r : Option Nat)
deriving DecidableEq

/-- A message to a result, which nobody gets who is gone. -/
def onResult (s : State ω) (result : Nat) (f : Vdbe ω → State ω) : State ω :=
  match s.results result with
  | none => s
  | some v => f v

/-- `step`, with which the row methods begin.  Reading the columns of a row leaves the
code. -/
def stepResult (E : Environment ω) (s : State ω) (result : Nat) : State ω :=
  onResult s result fun v =>
    { (step E v s).2 with
      results := Function.update s.results result (some (step E v s).1.2) }

/-- `reset` of a result. -/
def resetResult (E : Environment ω) (s : State ω) (result : Nat) : State ω :=
  onResult s result fun v =>
    { wasReset E v s with results := Function.update s.results result (some v.sqlite3_reset) }

/-- `objectAtColumn:` and the methods like it. -/
def objectAtColumn (s : State ω) (result : Nat) (theColumn : Int) : State ω :=
  onResult s result fun v =>
    if v.resultSet.isSome ∧ 0 ≤ theColumn ∧ theColumn < v.sqlite3_column_count then s
    else { s with errCode := SQLITE_RANGE }

/-- `dealloc` of a result. -/
def releaseResult (E : Environment ω) (s : State ω) (result : Nat) : State ω :=
  onResult s result fun v =>
    { wasReset E v s with results := Function.update s.results result none }

/-- A method that makes a query. -/
def answered (outcome : Except Halt (Option Nat) × State ω) : Except Halt Answer × State ω :=
  match outcome with
  | (.ok r, s) => (.ok (.result r), s)
  | (.error e, s) => (.error e, s)

/-- A method by its name. -/
def perform (E : Environment ω) (s : State ω) : Op → Except Halt Answer × State ω
  | .query format ap => answered (query E format ap s)
  | .tablesLike theName => answered (tablesLike E theName s)
  | .columnsFromTable theTable => answered (columnsFromTable E theTable s)
  | .errorID => (.ok (.number (errorID s)), s)
  | .nextRow result | .step result => (.ok .void, stepResult E s result)
  | .reset result => (.ok .void, resetResult E s result)
  | .objectAtColumn result theColumn => (.ok .void, objectAtColumn s result theColumn)
  | .release result => (.ok .void, releaseResult E s result)

/-- A crash ends the program. -/
def survived (outcome : Except Halt Answer × State ω) : State ω :=
  match outcome with
  | (.error .crashed, s) => { s with alive := false }
  | (_, s) => s

/-- The connection as a machine. -/
def connection (E : Environment ω) : Machine (State ω) Op (Option (Except Halt Answer)) where
  step s op :=
    if s.alive then (some (perform E s op).1, survived (perform E s op)) else (none, s)

/-- The states of a connection after any calls. -/
def after (E : Environment ω) (ops : List Op) : State ω := ((connection E).run opened ops).2

/-! ## The code after a query -/

/-- The answers of `sqlite3_step` between two states, the last one first. -/
def during (s t : State ω) : List Status := t.statuses.take (t.statuses.length - s.statuses.length)

/-- No statement was executed between two states, to its first row or its end. -/
def Unexecuted (s t : State ω) : Prop := .row ∉ during s t ∧ .done ∉ during s t

instance (s t : State ω) : Decidable (Unexecuted s t) :=
  inferInstanceAs (Decidable (.row ∉ during s t ∧ .done ∉ during s t))

/-- The text has a statement, or it is not compiled and an error is left. -/
def Reports (E : Environment ω) (s : State ω) (format : NSString) (ap : List Arg) : Prop :=
  match MGMLiteConnection.queryText E.foundation format ap with
  | .ok text => if text = [] then s.errCode ≠ SQLITE_OK else E.sqlite3_prepare s.clock ≠ .empty
  | .error _ => s.errCode ≠ SQLITE_OK

section
variable {E : Environment ω} {s t : State ω}

theorem during_eq {l : List Status} (h : t.statuses = l ++ s.statuses) : during s t = l := by
  rw [during, h, List.length_append, Nat.add_sub_cancel, List.take_left]

/-- A refused execution goes on with the next step. -/
theorem sqlite3VdbeExec_busy_running : ∀ (r : Run ω) (v v' : Vdbe ω), v.magic = .run →
    Vdbe.sqlite3VdbeExec r v = (.busy, v') → v'.magic = .run ∧ v'.pc ≠ none := by
  intro r v v' hm h
  induction r generalizing v with
  | busy rest =>
      obtain rfl := (Prod.mk.inj h).2
      exact ⟨hm, Option.some_ne_none rest⟩
  | write change rest ih => exact ih { v with pending := v.pending ++ [change] } hm h
  | row _ _ => cases h
  | done => cases h
  | error _ => cases h

theorem not_expired_of_busy {v v' : Vdbe ω} (h : v.sqlite3_step = (.busy, v')) : ¬ v'.Expired := by
  have hrunning : v'.magic = .run ∧ v'.pc ≠ none := by
    cases hpc : v.ready.pc with
    | none =>
        cases he : v.ready.expired with
        | true =>
            rw [Vdbe.sqlite3_step_expired hpc he] at h
            cases h
        | false =>
            rw [Vdbe.sqlite3_step_none hpc he] at h
            exact sqlite3VdbeExec_busy_running _ _ v' (by exact Vdbe.ready_magic v) h
    | some rest =>
        rw [Vdbe.sqlite3_step_some hpc] at h
        exact sqlite3VdbeExec_busy_running _ _ v' (by exact Vdbe.ready_magic v) h
  rintro ⟨hpc, -⟩
  rw [Vdbe.ready_of_running hrunning.1] at hpc
  exact hrunning.2 hpc

theorem stepped_errCode {v : Vdbe ω} (h : ¬ v.Expired) (s : State ω) :
    (stepped E v s).errCode = code v.sqlite3_step.1 := by
  rw [stepped, stepCode, if_neg (by exact h)]

/-- The loop of `step` leaves the code of its answer, which is the last of the answers
of `sqlite3_step`. -/
theorem step_spec (E : Environment ω) (v : Vdbe ω) (s : State ω) (h : ¬ v.Expired) :
    (step E v s).1 = MGMLiteResult.step v ∧
      (step E v s).2.errCode = code (step E v s).1.1 ∧
      ∃ l, (step E v s).2.statuses = (step E v s).1.1 :: (l ++ s.statuses) := by
  induction v, s using step.induct (E := E) with
  | case1 v s v' hbusy ih =>
      have hstep : step E v s = step E v' (stepped E v s) := by
        rw [step]
        split
        next h' =>
          obtain rfl := (Prod.mk.inj (hbusy.symm.trans h')).2
          rfl
        next hne h' =>
          rw [hbusy] at h'
          exact absurd (Prod.mk.inj h').1.symm hne
      have hloop : MGMLiteResult.step v = MGMLiteResult.step v' := by
        rw [MGMLiteResult.step_eq_resume, hbusy]
        rfl
      obtain ⟨hresult, hcode, l, hl⟩ := ih (not_expired_of_busy hbusy)
      rw [hstep, hloop]
      refine ⟨hresult, hcode, l ++ [.busy], ?_⟩
      rw [hl, stepped, hbusy, List.append_assoc]
      rfl
  | case2 v s status v' hne hstep' =>
      have hstep : step E v s = ((status, v'), stepped E v s) := by
        rw [step]
        split
        next h' =>
          rw [hstep'] at h'
          exact absurd (Prod.mk.inj h').1 hne
        next h' =>
          rw [hstep'] at h'
          cases h'
          rfl
      have hloop : MGMLiteResult.step v = (status, v') := by
        rw [MGMLiteResult.step_eq_resume, hstep']
        cases status with
        | busy => exact absurd rfl hne
        | row => rfl
        | done => rfl
        | error => rfl
      rw [hstep, hloop]
      refine ⟨rfl, ?_, [], ?_⟩
      · rw [stepped_errCode h, hstep']
      · rw [stepped, hstep']
        rfl

/-- The first step of a statement executes it, or leaves the code of its failure. -/
theorem initWithConnection_spec (E : Environment ω) (program : Program ω) (s : State ω) :
    (∃ status l, (status = .row ∨ status = .done) ∧
        (initWithConnection E (.prepared program) s).2.statuses = status :: (l ++ s.statuses)) ∨
      (initWithConnection E (.prepared program) s).2.errCode ≠ SQLITE_OK := by
  have hfresh : ¬ (Vdbe.prepared program).Expired := fun h => Bool.false_ne_true h.2
  obtain ⟨-, hcode, l, hl⟩ := step_spec E (.prepared program) s hfresh
  rw [initWithConnection]
  split
  next hstep =>
    rw [hstep] at hl
    exact .inl ⟨.row, l, .inl rfl, hl⟩
  next hstep =>
    rw [hstep] at hl
    exact .inl ⟨.done, l, .inr rfl, hl⟩
  next status v s' hrow hdone hstep =>
    rw [hstep] at hcode
    refine .inr ?_
    rw [hcode]
    cases status with
    | row => exact absurd rfl hrow
    | done => exact absurd rfl hdone
    | busy => exact Nat.succ_ne_zero _
    | error => exact Nat.succ_ne_zero _

/-- What is read after a text that was compiled and executed nothing is 0 only if there
is no statement in the text. -/
theorem sendQuery_errCode_iff (hunexecuted : Unexecuted s (sendQuery E s).2) :
    (sendQuery E s).2.errCode ≠ SQLITE_OK ↔ E.sqlite3_prepare s.clock ≠ .empty := by
  cases hprepared : E.sqlite3_prepare s.clock with
  | error =>
      rw [sendQuery, hprepared]
      exact iff_of_true (E.rc s.clock).property (by simp)
  | empty =>
      rw [sendQuery, hprepared]
      exact iff_of_false (fun h => h rfl) (fun h => h rfl)
  | statement program =>
      have hspec := initWithConnection_spec E program
        { s with clock := s.clock + 1, errCode := SQLITE_OK }
      have hsend : (sendQuery E s).2.statuses =
            (initWithConnection E (.prepared program)
              { s with clock := s.clock + 1, errCode := SQLITE_OK }).2.statuses ∧
          (sendQuery E s).2.errCode =
            (initWithConnection E (.prepared program)
              { s with clock := s.clock + 1, errCode := SQLITE_OK }).2.errCode := by
        rw [sendQuery, hprepared]
        dsimp only
        split
        next h => rw [h]; exact ⟨rfl, rfl⟩
        next h => rw [h]; exact ⟨rfl, rfl⟩
      rw [← hsend.1, ← hsend.2] at hspec
      refine iff_of_true (hspec.resolve_left ?_) (by simp)
      rintro ⟨status, l, hstatus, hl⟩
      have hmem : status ∈ during s (sendQuery E s).2 := by
        rw [during_eq (l := status :: l) (by rw [hl]; rfl)]
        exact List.mem_cons_self
      rcases hstatus with rfl | rfl
      · exact hunexecuted.1 hmem
      · exact hunexecuted.2 hmem

theorem errorID_ne_zero_iff {format : NSString} {ap : List Arg} {result : Except Halt (Option Nat)}
    (hrun : query E format ap s = (result, t)) (hcrash : result ≠ .error .crashed)
    (hunexecuted : Unexecuted s t) : errorID t ≠ SQLITE_OK ↔ Reports E s format ap := by
  rw [query] at hrun
  rw [Reports, errorID]
  cases htext : MGMLiteConnection.queryText E.foundation format ap with
  | error failure =>
      rw [htext] at hrun
      cases failure with
      | badArgument =>
          cases hrun
          exact absurd rfl hcrash
      | invalidFormat =>
          cases hrun
          exact Iff.rfl
      | rangeException =>
          cases hrun
          exact Iff.rfl
      | nilArgument =>
          cases hrun
          exact Iff.rfl
  | ok text =>
      rw [htext] at hrun
      dsimp only at hrun ⊢
      split at hrun
      next hempty =>
        cases hrun
        rw [if_pos hempty]
      next hne =>
        rw [if_neg hne]
        cases hbytes : UTF8String text with
        | none =>
            rw [hbytes] at hrun
            cases hrun
            exact absurd rfl hcrash
        | some bytes =>
            rw [hbytes] at hrun
            cases hrun
            exact sendQuery_errCode_iff hunexecuted

end

/-! ## Runs -/

/-- Whether a call ended the program. -/
def crashes : Option (Except Halt Answer) → Bool
  | some (.error .crashed) => true
  | _ => false

/-- `query:` does not crash and executes nothing, and right after it `errorID` is
`n`. -/
structure LeavesNumber (E : Environment ω) (s : State ω) (format : NSString) (ap : List Arg)
    (n : Nat) : Prop where
  alive : s.alive = true
  crashes : crashes ((connection E).step s (.query format ap)).1 = false
  unexecuted : Unexecuted s ((connection E).step s (.query format ap)).2
  number : ((connection E).step ((connection E).step s (.query format ap)).2 .errorID).1 =
    some (.ok (.number n))

theorem LeavesNumber.ne_zero_iff {E : Environment ω} {s : State ω} {format : NSString}
    {ap : List Arg} {n : Nat} (h : LeavesNumber E s format ap n) :
    n ≠ 0 ↔ Reports E s format ap := by
  obtain ⟨halive, hcrashes, hunexecuted, hnumber⟩ := h
  have hstep : (connection E).step s (.query format ap) =
      (some (answered (query E format ap s)).1, survived (answered (query E format ap s))) := by
    simp [connection, halive, perform]
  rw [hstep] at hcrashes hunexecuted hnumber
  have hread : ∀ t : State ω,
      ((connection E).step t .errorID).1 = some (.ok (.number n)) → errorID t = n := by
    intro t hid
    cases halive' : t.alive with
    | false => simp [connection, halive'] at hid
    | true => simpa [connection, halive', perform] using hid
  cases hrun : query E format ap s with
  | mk result t =>
    rw [hrun] at hcrashes hunexecuted hnumber
    cases result with
    | ok r =>
        rw [← hread t hnumber]
        exact errorID_ne_zero_iff hrun nofun hunexecuted
    | error e =>
        cases e with
        | crashed => cases hcrashes
        | raised =>
            rw [← hread t hnumber]
            exact errorID_ne_zero_iff hrun nofun hunexecuted

end LiteSession

end MGMDB
