import MGMDB.SQLite.Refused
import MGMDB.Systems.Transition

/-!
# Waiting for a lock

Two connections to one database file, in one thread.  The method `step` of a
result repeats `sqlite3_step` until it is not refused.  Nothing else runs
meanwhile, so a refusal that is due to the other connection is final and the call
never returns.

Calls return in every run that keeps a discipline: a statement does not start to
read or write tables of the file, and no changes are committed, beside what the
other connection holds and this conflicts with.  A page cache that spills may take
EXCLUSIVE before the commit, or leave PENDING behind; either keeps new readers out.
-/

namespace MGMDB

namespace TwoConnections

open Systems SQLite Handle

/-- The two connections. -/
inductive Side where
  | left
  | right
deriving DecidableEq, Repr

def Side.other : Side → Side
  | .left => .right
  | .right => .left

/-- An `MGMLiteResult`. -/
structure Result where
  side : Side
  sql : Sql
  phase : Phase
deriving DecidableEq, Repr

/-- A result whose statement is at another place. -/
def Result.at (r : Result) (phase : Phase) : Result := { r with phase := phase }

/-- The connections, whether the program still has them, and the results that
were made. -/
structure State where
  handle : Side → Handle
  owned : Side → Bool
  results : List Result

/-- Two connections that were just opened. -/
def initial : State where
  handle _ := .opened
  owned _ := true
  results := []

/-! ## The operations -/

/-- What the program calls.  A query whose text `sqlite3_prepare` refuses has no
statement.  `nextRow` stands for both row methods. -/
inductive Op where
  | query (side : Side) (statement : Option Sql) (answer : Answer)
  | nextRow (i : Nat) (answer : Answer)
  | reset (i : Nat)
  | release (i : Nat)
  | releaseConnection (side : Side)
deriving DecidableEq, Repr

/-- The loop of `-[MGMLiteResult step]`, as far as a number of turns. -/
def step (other : Lock) (sql : Sql) (answer : Answer) :
    Nat → Phase → Handle → Option (Status × Phase × Handle)
  | 0, _, _ => none
  | turns + 1, phase, db =>
      match sqlite3_step other sql answer phase db with
      | (.busy, phase, db) => step other sql answer turns phase db
      | result => some result

namespace State

/-- The result with a number, until its dealloc. -/
def live (s : State) (i : Nat) : Option Result :=
  s.results[i]?.filter fun r => r.phase ≠ .finalized

/-- The lock of the other connection. -/
def otherLock (s : State) (side : Side) : Lock := (s.handle side.other).eFileLock

def setHandle (s : State) (side : Side) (db : Handle) : State :=
  { s with handle := Function.update s.handle side db }

/-- A result and its connection after a step, `reset` or dealloc. -/
def setResult (s : State) (i : Nat) (r : Result) (phase : Phase) (db : Handle) : State :=
  let s := s.setHandle r.side db
  { s with results := s.results.set i (r.at phase) }

/-- A new result and its connection. -/
def addResult (s : State) (side : Side) (sql : Sql) (phase : Phase) (db : Handle) : State :=
  let s := s.setHandle side db
  { s with results := s.results ++ [⟨side, sql, phase⟩] }

/-- `initWithConnection:result:`, after its step.  Without a row or an error there
is no object. -/
def initWithConnection (s : State) (side : Side) (sql : Sql) :
    Status × Phase × Handle → State
  | (.row, phase, db) =>
      s.addResult side sql .fresh (sqlite3_reset (s.otherLock side) sql phase db)
  | (.done, phase, db) => s.setHandle side (sqlite3_reset (s.otherLock side) sql phase db)
  | (_, phase, db) => s.addResult side sql phase db

/-- The connection closes when its last holder is not a result. -/
def closes (s : State) (side : Side) : Bool :=
  s.results.all fun r => r.side ≠ side ∨ r.phase = .finalized

end State

/-- One operation, with a bound on the turns of the loop. -/
def perform (turns : Nat) (s : State) : Op → Option State
  | .query side none _ => if s.owned side then some s else none
  | .query side (some sql) answer =>
      if s.owned side then
        (step (s.otherLock side) sql answer turns .fresh (s.handle side)).map
          (s.initWithConnection side sql)
      else none
  | .nextRow i answer =>
      (s.live i).bind fun r =>
        (step (s.otherLock r.side) r.sql answer turns r.phase (s.handle r.side)).map
          fun (_, phase, db) => s.setResult i r phase db
  | .reset i =>
      (s.live i).map fun r =>
        s.setResult i r .fresh
          (sqlite3_reset (s.otherLock r.side) r.sql r.phase (s.handle r.side))
  | .release i =>
      (s.live i).map fun r =>
        s.setResult i r .finalized
          (sqlite3_reset (s.otherLock r.side) r.sql r.phase (s.handle r.side))
  | .releaseConnection side =>
      if s.owned side then
        let s := { s with owned := Function.update s.owned side false }
        some (if s.closes side then s.setHandle side .opened else s)
      else none

/-- A call that returns. -/
def Performs (s : State) (op : Op) (s' : State) : Prop := ∃ turns, perform turns s op = some s'

/-- The program as a transition system. -/
def program : Transitions State Op := ⟨Performs⟩

/-- What the program may call: methods of the objects it has. -/
def Enabled (s : State) : Op → Prop
  | .query side _ _ | .releaseConnection side => s.owned side = true
  | .nextRow i _ | .reset i | .release i => (s.live i).isSome = true

/-- The call returns. -/
def Returns (s : State) (op : Op) : Prop := ∃ s', Performs s op s'

/-! ## The discipline -/

/-- No step of the call conflicts with what the other connection holds. -/
def Unblocked (s : State) : Op → Prop
  | .query side (some sql) answer =>
      StepFree (s.handle side.other) sql answer false (s.handle side)
  | .nextRow i answer => ∀ r, s.live i = some r →
      StepFree (s.handle r.side.other) r.sql answer r.phase.active (s.handle r.side)
  | .query _ none _ | .reset _ | .release _ | .releaseConnection _ => True

/-- Nor does a commit when a statement is reset or finalized. -/
def ResetsFree (s : State) : Op → Prop
  | .query side (some sql) answer => answer.halt = none →
      Commits sql { answer with halt := some .ok } false (s.handle side) →
        (s.handle side.other).inTrans = .none
  | .reset i | .release i => ∀ r, s.live i = some r → r.phase.active = true →
      Commits r.sql .ends true (s.handle r.side) →
        (s.handle r.side.other).inTrans = .none
  | .query _ none _ | .nextRow _ _ | .releaseConnection _ => True

/-- What the program keeps to. -/
def Allowed (s : State) (op : Op) : Prop := Unblocked s op ∧ ResetsFree s op

/-! ## The loop -/

variable {other : Lock} {sql : Sql} {answer : Answer} {phase phase' : Phase} {db db' : Handle}

theorem step_of_granted (h : (sqlite3_step other sql answer phase db).1 ≠ .busy) (turns : Nat) :
    step other sql answer (turns + 1) phase db = some (sqlite3_step other sql answer phase db) := by
  rw [step]
  split
  next heq => exact absurd (congrArg Prod.fst heq) h
  next => rfl

/-- A call that is refused once is refused in every turn. -/
theorem step_of_refused (h : (sqlite3_step other sql answer phase db).1 = .busy) :
    ∀ turns, step other sql answer turns phase db = none := by
  obtain ⟨phase', db', heq⟩ : ∃ phase' db',
      sqlite3_step other sql answer phase db = (.busy, phase', db') := ⟨_, _, Prod.ext h rfl⟩
  have hagain := sqlite3_step_again heq
  have hloop : ∀ turns, step other sql answer turns phase' db' = none := by
    intro turns
    induction turns with
    | zero => rfl
    | succ turns ih =>
        rw [step, hagain]
        exact ih
  intro turns
  cases turns with
  | zero => rfl
  | succ turns =>
      rw [step, heq]
      exact hloop turns

theorem step_eq_some {turns : Nat} {result : Status × Phase × Handle}
    (h : step other sql answer turns phase db = some result) :
    (sqlite3_step other sql answer phase db).1 ≠ .busy ∧
      result = sqlite3_step other sql answer phase db := by
  have hgranted : (sqlite3_step other sql answer phase db).1 ≠ .busy := by
    intro hbusy
    rw [step_of_refused hbusy turns] at h
    cases h
  cases turns with
  | zero => cases h
  | succ turns =>
      rw [step_of_granted hgranted turns] at h
      exact ⟨hgranted, (Option.some.inj h).symm⟩

/-! ## The invariant -/

/-- Whether a connection counts the statement of a result. -/
def Result.runs (side : Side) (r : Result) : Bool := r.side == side && r.phase.active

/-- Whether it counts it as one that writes. -/
def Result.writes (side : Side) (r : Result) : Bool := r.runs side && !r.sql.readOnly

/-- The locks are those of the transactions, and the connections count the
statements of the results. -/
structure Inv (s : State) : Prop where
  settled : ∀ side, (s.handle side).Settled
  active : ∀ side, (s.handle side).activeVdbeCnt = s.results.countP (Result.runs side)
  write : ∀ side, (s.handle side).writeVdbeCnt = s.results.countP (Result.writes side)
  rests : ∀ r ∈ s.results, r.phase.Rests r.sql

theorem inv_initial : Inv initial where
  settled _ := settled_opened
  active _ := rfl
  write _ := rfl
  rests := nofun

theorem countP_set_add {α : Type} {p : α → Bool} {a b : α} : ∀ {l : List α} {i : Nat},
    l[i]? = some a → (l.set i b).countP p + (p a).toNat = l.countP p + (p b).toNat := by
  intro l i h
  induction l generalizing i with
  | nil => cases h
  | cons c l ih =>
      cases i with
      | zero =>
          obtain rfl : c = a := by simpa using h
          cases hb : p b <;> cases hc : p c <;> simp [hb, hc]
      | succ i =>
          have hrest : l[i]? = some a := by simpa using h
          have hset := ih hrest
          simp only [List.set_cons_succ, List.countP_cons]
          omega

variable {s s' : State} {i : Nat} {r : Result} {side : Side}

theorem live_iff : s.live i = some r ↔ s.results[i]? = some r ∧ r.phase ≠ .finalized := by
  simp [State.live, Option.filter_eq_some_iff]

theorem Inv.write_le_active (h : Inv s) (side : Side) :
    (s.handle side).writeVdbeCnt ≤ (s.handle side).activeVdbeCnt := by
  rw [h.active, h.write]
  refine List.countP_mono_left fun r _ hr => ?_
  simp only [Result.writes, Bool.and_eq_true] at hr
  exact hr.1

/-- The connection counts a statement that runs, beside the others. -/
theorem Inv.counts (h : Inv s) (hl : s.live i = some r) (hactive : r.phase.active = true) :
    (s.handle r.side).Counts r.sql.readOnly := by
  obtain ⟨hget, _⟩ := live_iff.mp hl
  have hruns := countP_set_add (p := Result.runs r.side) (b := r.at .halted) hget
  have hwrites := countP_set_add (p := Result.writes r.side) (b := r.at .halted) hget
  have hle : (s.results.set i (r.at .halted)).countP (Result.writes r.side) ≤
      (s.results.set i (r.at .halted)).countP (Result.runs r.side) := by
    refine List.countP_mono_left fun r _ hr => ?_
    simp only [Result.writes, Bool.and_eq_true] at hr
    exact hr.1
  rw [← h.active] at hruns
  rw [← h.write] at hwrites
  simp only [Result.runs, Result.writes, Result.at, hactive, Phase.active_halted, beq_self_eq_true,
    Bool.and_true, Bool.and_false, Bool.true_and, Bool.false_and, Bool.toNat_true,
    Bool.toNat_false] at hruns hwrites hle
  constructor <;> cases hro : r.sql.readOnly <;> simp [hro] at hruns hwrites ⊢ <;> omega

theorem inv_setHandle (h : Inv s) (hsettled : db.Settled)
    (hcounts : db.SameCounts (s.handle side)) : Inv (s.setHandle side db) where
  settled side' := by
    rcases eq_or_ne side' side with rfl | hne
    · simpa [State.setHandle] using hsettled
    · simpa [State.setHandle, hne] using h.settled side'
  active side' := by
    rcases eq_or_ne side' side with rfl | hne
    · simpa [State.setHandle, ← h.active side'] using hcounts.1
    · simpa [State.setHandle, hne] using h.active side'
  write side' := by
    rcases eq_or_ne side' side with rfl | hne
    · simpa [State.setHandle, ← h.write side'] using hcounts.2
    · simpa [State.setHandle, hne] using h.write side'
  rests := h.rests

/-- A new result is one more that the connection counts, if it runs. -/
theorem inv_addResult (h : Inv s) (hsettled : db.Settled) (hrests : phase.Rests sql)
    (hacc : Accounts sql .fresh (s.handle side) phase db) :
    Inv (s.addResult side sql phase db) where
  settled side' := by
    rcases eq_or_ne side' side with rfl | hne
    · simpa [State.addResult, State.setHandle] using hsettled
    · simpa [State.addResult, State.setHandle, hne] using h.settled side'
  active side' := by
    have hactive := hacc.active
    rcases eq_or_ne side' side with rfl | hne
    · rw [h.active] at hactive
      cases hp : phase.active <;>
        simpa [State.addResult, State.setHandle, Result.runs, hp] using hactive
    · simpa [State.addResult, State.setHandle, hne, hne.symm, Result.runs] using h.active side'
  write side' := by
    have hwrite := hacc.write
    rcases eq_or_ne side' side with rfl | hne
    · rw [h.write] at hwrite
      cases hp : phase.active <;> cases ho : sql.readOnly <;>
        simpa [State.addResult, State.setHandle, Result.writes, Result.runs, hp, ho] using hwrite
    · simpa [State.addResult, State.setHandle, hne, hne.symm, Result.writes, Result.runs]
        using h.write side'
  rests r hr := by
    rcases List.mem_append.mp hr with hr | hr
    · exact h.rests r hr
    · obtain rfl := List.mem_singleton.mp hr
      exact hrests

/-- A result whose statement moves. -/
theorem inv_setResult (h : Inv s) (hl : s.live i = some r) (hsettled : db.Settled)
    (hrests : phase.Rests r.sql)
    (hacc : Accounts r.sql r.phase (s.handle r.side) phase db) :
    Inv (s.setResult i r phase db) where
  settled side := by
    rcases eq_or_ne side r.side with rfl | hne
    · simpa [State.setResult, State.setHandle] using hsettled
    · simpa [State.setResult, State.setHandle, hne] using h.settled side
  active side := by
    have hactive := hacc.active
    have hset := countP_set_add (p := Result.runs side) (b := r.at phase) (live_iff.mp hl).1
    rcases eq_or_ne side r.side with rfl | hne
    · rw [h.active] at hactive
      simp only [Result.runs, Result.at, beq_self_eq_true, Bool.true_and] at hset
      simp only [State.setResult, State.setHandle, Function.update_self, Result.at]
      omega
    · have hother : (r.side == side) = false := beq_false_of_ne hne.symm
      simpa [State.setResult, State.setHandle, hne, hother, Result.runs, Result.at, h.active side]
        using hset.symm
  write side := by
    have hwrite := hacc.write
    have hset := countP_set_add (p := Result.writes side) (b := r.at phase) (live_iff.mp hl).1
    rcases eq_or_ne side r.side with rfl | hne
    · rw [h.write] at hwrite
      simp only [Result.writes, Result.runs, Result.at, beq_self_eq_true, Bool.true_and] at hset
      simp only [State.setResult, State.setHandle, Function.update_self, Result.at]
      omega
    · have hother : (r.side == side) = false := beq_false_of_ne hne.symm
      simpa [State.setResult, State.setHandle, hne, hother, Result.writes, Result.runs,
        Result.at, h.write side] using hset.symm
  rests r' hr' := by
    rcases List.mem_or_eq_of_mem_set hr' with hr' | rfl
    · exact h.rests r' hr'
    · exact hrests

/-- A connection closes when none of its results has a statement. -/
theorem inv_close (h : Inv s) (hc : s.closes side = true) : Inv (s.setHandle side .opened) := by
  have hnone : ∀ r ∈ s.results, r.runs side = false := by
    intro r hr
    rcases of_decide_eq_true (List.all_eq_true.mp hc r hr) with hne | hfinal
    · simp [Result.runs, hne]
    · simp [Result.runs, hfinal]
  have hactive : s.results.countP (Result.runs side) = 0 :=
    List.countP_eq_zero.mpr fun r hr => by simp [hnone r hr]
  have hwrite : s.results.countP (Result.writes side) = 0 :=
    List.countP_eq_zero.mpr fun r hr => by simp [Result.writes, hnone r hr]
  refine inv_setHandle h settled_opened ⟨?_, ?_⟩
  · rw [h.active, hactive]
    rfl
  · rw [h.write, hwrite]
    rfl

/-! ## Calls -/

theorem Inv.live_rests (h : Inv s) (hl : s.live i = some r) : r.phase.Rests r.sql :=
  h.rests r (List.mem_of_getElem? (live_iff.mp hl).1)

/-- A step of a result whose connection does not wait. -/
theorem Inv.granted (h : Inv s) (hl : s.live i = some r)
    (hf : StepFree (s.handle r.side.other) r.sql answer r.phase.active (s.handle r.side)) :
    Granted r.sql (counting r.sql r.phase (s.handle r.side))
      (sqlite3_step (s.otherLock r.side) r.sql answer r.phase (s.handle r.side)) :=
  sqlite3_step_granted (h.settled r.side) (h.settled r.side.other).toLocked
    (h.write_le_active r.side) (live_iff.mp hl).2 (h.live_rests hl) (h.counts hl) hf

/-- The first step of a query. -/
theorem Inv.granted_query (h : Inv s)
    (hf : StepFree (s.handle side.other) sql answer false (s.handle side)) :
    Granted sql (counting sql .fresh (s.handle side))
      (sqlite3_step (s.otherLock side) sql answer .fresh (s.handle side)) :=
  sqlite3_step_granted (h.settled side) (h.settled side.other).toLocked (h.write_le_active side)
    nofun trivial nofun hf

theorem inv_reset (h : Inv s) (hl : s.live i = some r) (hrests : phase.Rests r.sql)
    (hhalted : phase.active = false)
    (hf : r.phase.active = true → Commits r.sql .ends true (s.handle r.side) →
      (s.handle r.side.other).inTrans = .none) :
    Inv (s.setResult i r phase
      (sqlite3_reset (s.otherLock r.side) r.sql r.phase (s.handle r.side))) := by
  obtain ⟨hsettled, hsame⟩ := sqlite3_reset_granted (h.settled r.side)
    (h.settled r.side.other).toLocked (h.live_rests hl) (h.counts hl) hf
  exact inv_setResult h hl hsettled hrests (accounts_reset hhalted (h.counts hl) hsame)

theorem inv_query (h : Inv s) {result : Status × Phase × Handle}
    (hgranted : Granted sql (counting sql .fresh (s.handle side)) result)
    (hrow : ∀ phase db, result = (.row, phase, db) → Commits sql .ends true db →
      (s.handle side.other).inTrans = .none) :
    Inv (s.initWithConnection side sql result) := by
  obtain ⟨status, phase, db⟩ := result
  have hacc := hgranted.accounts nofun
  have hreset : (phase.active = true → Commits sql .ends true db →
      (s.handle side.other).inTrans = .none) →
      (sqlite3_reset (s.otherLock side) sql phase db).Settled ∧
        Accounts sql .fresh (s.handle side) .fresh
          (sqlite3_reset (s.otherLock side) sql phase db) := by
    intro hf
    have hcounts := hacc.counts (h.write_le_active side)
    obtain ⟨hsettled, hsame⟩ := sqlite3_reset_granted hgranted.settled
      (h.settled side.other).toLocked hgranted.rests hcounts hf
    exact ⟨hsettled, hacc.trans (accounts_reset rfl hcounts hsame)⟩
  cases status with
  | row =>
      obtain ⟨hsettled, hacc⟩ := hreset fun _ => hrow phase db rfl
      exact inv_addResult h hsettled trivial hacc
  | done =>
      -- only a ROLLBACK is still running then, and it has nothing to commit
      have hdone : phase.active = true → Commits sql .ends true db →
          (s.handle side.other).inTrans = .none := by
        intro hactive hcm
        have hrests := hgranted.rests
        cases phase with
        | start =>
            obtain rfl : sql = .rollback := hrests
            exact hcm.elim
        | running => cases hgranted.row rfl
        | halting halt => exact hrests.elim
        | fresh => cases hactive
        | halted => cases hactive
        | finalized => cases hactive
      obtain ⟨hsettled, hacc⟩ := hreset hdone
      exact inv_setHandle h hsettled (hacc.sameCounts rfl)
  | busy => exact inv_addResult h hgranted.settled hgranted.rests hacc
  | error => exact inv_addResult h hgranted.settled hgranted.rests hacc

/-- Every allowed call keeps the invariant. -/
theorem inv_performs {op : Op} (h : Inv s) (ha : Allowed s op) (hs : Performs s op s') :
    Inv s' := by
  obtain ⟨turns, hs⟩ := hs
  obtain ⟨hfree, hreset⟩ := ha
  cases op with
  | query side statement answer =>
      cases statement with
      | none =>
          obtain ⟨_, hs⟩ := Option.ite_none_right_eq_some.mp hs
          obtain rfl := Option.some.inj hs
          exact h
      | some sql =>
          obtain ⟨_, hs⟩ := Option.ite_none_right_eq_some.mp hs
          obtain ⟨result, hstep, rfl⟩ := Option.map_eq_some_iff.mp hs
          obtain ⟨_, rfl⟩ := step_eq_some hstep
          refine inv_query h (h.granted_query hfree) fun phase db hrow hcm => ?_
          obtain ⟨hnone, hcm⟩ := commits_of_row (h.settled side).toLocked hrow hcm
          exact hreset hnone hcm
  | nextRow i answer =>
      obtain ⟨r, hl, hs⟩ := Option.bind_eq_some_iff.mp hs
      obtain ⟨result, hstep, rfl⟩ := Option.map_eq_some_iff.mp hs
      obtain ⟨_, rfl⟩ := step_eq_some hstep
      have hgranted := h.granted hl (hfree r hl)
      exact inv_setResult h hl hgranted.settled hgranted.rests (hgranted.accounts (h.counts hl))
  | reset i =>
      obtain ⟨r, hl, rfl⟩ := Option.map_eq_some_iff.mp hs
      exact inv_reset h hl trivial rfl (hreset r hl)
  | release i =>
      obtain ⟨r, hl, rfl⟩ := Option.map_eq_some_iff.mp hs
      exact inv_reset h hl trivial rfl (hreset r hl)
  | releaseConnection side =>
      obtain ⟨_, hs⟩ := Option.ite_none_right_eq_some.mp hs
      obtain rfl := Option.some.inj hs
      have howned : Inv { s with owned := Function.update s.owned side false } :=
        ⟨h.settled, h.active, h.write, h.rests⟩
      split
      next hc => exact inv_close howned hc
      next => exact howned

/-- A query that is refused does not return. -/
theorem not_returns_query
    (h : (sqlite3_step (s.otherLock side) sql answer .fresh (s.handle side)).1 = .busy) :
    ¬ Returns s (.query side (some sql) answer) := by
  rintro ⟨s', turns, hs⟩
  obtain ⟨_, hs⟩ := Option.ite_none_right_eq_some.mp hs
  rw [step_of_refused h turns] at hs
  cases hs

/-- A call returns exactly if none of its steps conflicts with the other
connection. -/
theorem returns_iff_unblocked {op : Op} (h : Inv s) (he : Enabled s op) :
    Returns s op ↔ Unblocked s op := by
  cases op with
  | query side statement answer =>
      cases statement with
      | none => exact iff_of_true ⟨s, 0, if_pos he⟩ trivial
      | some sql =>
          constructor
          · intro hreturns
            by_contra hno
            exact not_returns_query (sqlite3_step_refused (h.settled side)
              (h.settled side.other).toLocked (h.write_le_active side) trivial nofun hno) hreturns
          · intro hfree
            have hgranted := h.granted_query hfree
            have hstep := step_of_granted hgranted.not_busy 0
            have howned : s.owned side = true := he
            exact ⟨_, 1, by rw [perform, if_pos howned, hstep]; rfl⟩
  | nextRow i answer =>
      obtain ⟨r, hl⟩ := Option.isSome_iff_exists.mp he
      constructor
      · rintro ⟨s', turns, hs⟩ r' hl'
        obtain ⟨r'', hl'', hs⟩ := Option.bind_eq_some_iff.mp hs
        obtain rfl : r'' = r' := Option.some.inj (hl''.symm.trans hl')
        obtain ⟨result, hstep, _⟩ := Option.map_eq_some_iff.mp hs
        by_contra hno
        exact (step_eq_some hstep).1 (sqlite3_step_refused (h.settled r''.side)
          (h.settled r''.side.other).toLocked (h.write_le_active r''.side) (h.live_rests hl'')
          (live_iff.mp hl'').2 hno)
      · intro hfree
        have hgranted := h.granted hl (hfree r hl)
        have hstep := step_of_granted hgranted.not_busy 0
        exact ⟨_, 1, by rw [perform, hl, Option.bind_some, hstep]; rfl⟩
  | reset i =>
      obtain ⟨r, hl⟩ := Option.isSome_iff_exists.mp he
      exact iff_of_true ⟨_, 0, by rw [perform, hl]; rfl⟩ trivial
  | release i =>
      obtain ⟨r, hl⟩ := Option.isSome_iff_exists.mp he
      exact iff_of_true ⟨_, 0, by rw [perform, hl]; rfl⟩ trivial
  | releaseConnection side => exact iff_of_true ⟨_, 0, if_pos he⟩ trivial

/-! ## All runs -/

theorem inv_of_reaches (h : program.Reaches Allowed initial s) : Inv s :=
  h.invariant (fun _ _ _ hi ha hs => inv_performs hi ha hs) inv_initial

end TwoConnections

end MGMDB
