import Mathlib.Data.Finset.Card
import MGMDB.Systems.Transition

/-!
# Closing a SQLite connection

A connection object is held by its owners and by every result made from it, and
closes the database when nobody holds it any more.  SQLite refuses to close
while a statement is not finalized.  The dealloc of a result releases the
connection before it finalizes its own statement, so the order in which owners
let go decides whether the refusal happens.
-/

namespace MGMDB

namespace LiteConnection

open Systems

/-- The handle: open, closed, or left open by a refused `sqlite3_close` of which
only a log line is left. -/
inductive Database where
  | open
  | closed
  | leaked
deriving DecidableEq, Repr

/-- A connection, its results by their statements, and the handle.  `owners`
counts the references to the connection that are not those of results. -/
structure State where
  retainCount : Nat
  owners : Nat
  results : Nat → Nat
  pVdbe : Finset Nat
  database : Database

/-- A connection that was just opened. -/
def initial : State where
  retainCount := 1
  owners := 1
  results _ := 0
  pVdbe := ∅
  database := .open

/-! ## The operations -/

/-- How a query ends: nil without a statement, nil after the first step, or an
object. -/
inductive Answer where
  | rejected
  | finished
  | object
deriving DecidableEq, Repr

/-- What the program does with its references. -/
inductive Op where
  | retain
  | release
  | query (statement : Nat) (answer : Answer)
  | retainResult (statement : Nat)
  | releaseResult (statement : Nat)
deriving DecidableEq, Repr

/-- `sqlite3_close`, which is refused with `SQLITE_BUSY` while there are
statements. -/
def sqlite3_close (pVdbe : Finset Nat) : Database := if pVdbe = ∅ then .closed else .leaked

/-- `release` of the connection, and its `dealloc`. -/
def releaseConnection (s : State) : State :=
  let s := { s with retainCount := s.retainCount - 1 }
  if s.retainCount = 0 then { s with database := sqlite3_close s.pVdbe } else s

/-- `sqlite3_finalize`. -/
def sqlite3_finalize (s : State) (statement : Nat) : State :=
  { s with pVdbe := s.pVdbe.erase statement }

/-- `-[MGMLiteResult dealloc]`: the connection first, then the statement. -/
def deallocResult (s : State) (statement : Nat) : State :=
  sqlite3_finalize (releaseConnection s) statement

/-- `sqlite3_prepare` and `initWithConnection:result:`. -/
def makeResult (s : State) (statement : Nat) : State :=
  { s with
    retainCount := s.retainCount + 1
    results := Function.update s.results statement 1
    pVdbe := insert statement s.pVdbe }

/-- One operation.  Only who has a reference may use it or give it up, and a new
statement is none of the old ones. -/
def step (s : State) : Op → Option State
  | .retain =>
      if 0 < s.owners then
        some { s with retainCount := s.retainCount + 1, owners := s.owners + 1 }
      else none
  | .release =>
      if 0 < s.owners then some (releaseConnection { s with owners := s.owners - 1 }) else none
  | .query statement answer =>
      if 0 < s.owners ∧ statement ∉ s.pVdbe then
        match answer with
        | .rejected => some s
        | .finished =>
            let s := makeResult s statement
            some (deallocResult { s with results := Function.update s.results statement 0 }
              statement)
        | .object => some (makeResult s statement)
      else none
  | .retainResult statement =>
      if 0 < s.results statement then
        some { s with
          results := Function.update s.results statement (s.results statement + 1) }
      else none
  | .releaseResult statement =>
      if 0 < s.results statement then
        let s := { s with
          results := Function.update s.results statement (s.results statement - 1) }
        if s.results statement = 0 then some (deallocResult s statement) else some s
      else none

/-- The connection as a transition system. -/
def connection : Transitions State Op := .ofStep step

/-- No result goes that is the last holder of its connection. -/
def Allowed (s : State) (op : Op) : Prop :=
  ∀ statement, op = .releaseResult statement → s.results statement = 1 → s.retainCount ≠ 1

/-! ## The invariant -/

/-- The references add up, every live result has a statement, and the handle is
closed exactly when nobody holds the connection. -/
structure Inv (s : State) : Prop where
  retainCount_eq : s.retainCount = s.owners + s.pVdbe.card
  mem_pVdbe : ∀ statement, statement ∈ s.pVdbe ↔ 0 < s.results statement
  database_eq : s.database = if s.retainCount = 0 then .closed else .open

theorem inv_initial : Inv initial :=
  ⟨rfl, fun _ => by simp [initial], rfl⟩

theorem Inv.retainCount_pos {s : State} (h : Inv s) (ho : 0 < s.owners) : 0 < s.retainCount := by
  rw [h.retainCount_eq]
  omega

/-- Somebody else holds the connection. -/
theorem releaseConnection_of_one_lt {s : State} (h : 1 < s.retainCount) :
    releaseConnection s = { s with retainCount := s.retainCount - 1 } := by
  have hne : s.retainCount - 1 ≠ 0 := by omega
  simp only [releaseConnection, if_neg hne]

/-- Nobody else does. -/
theorem releaseConnection_of_one {s : State} (h : s.retainCount = 1) :
    releaseConnection s =
      { s with retainCount := 0, database := sqlite3_close s.pVdbe } := by
  simp only [releaseConnection, h, Nat.sub_self, if_true]

theorem inv_retain {s : State} (h : Inv s) (ho : 0 < s.owners) :
    Inv { s with retainCount := s.retainCount + 1, owners := s.owners + 1 } where
  retainCount_eq := by
    have := h.retainCount_eq
    dsimp only
    omega
  mem_pVdbe := h.mem_pVdbe
  database_eq := by
    have hpos := h.retainCount_pos ho
    have hdb := h.database_eq
    rw [if_neg (by omega)] at hdb
    simp [hdb]

/-- The last owner leaves no statement behind, since each would be held by a
result. -/
theorem inv_release {s : State} (h : Inv s) (ho : 0 < s.owners) :
    Inv (releaseConnection { s with owners := s.owners - 1 }) := by
  have hcount := h.retainCount_eq
  have hpos := h.retainCount_pos ho
  have hdb := h.database_eq
  rw [if_neg (by omega)] at hdb
  rcases Nat.lt_or_ge 1 s.retainCount with hlt | hle
  · rw [releaseConnection_of_one_lt (by exact hlt)]
    refine ⟨by dsimp only; omega, h.mem_pVdbe, ?_⟩
    dsimp only
    rw [if_neg (by omega), hdb]
  · have hone : s.retainCount = 1 := by omega
    have hempty : s.pVdbe = ∅ := Finset.card_eq_zero.mp (by omega)
    rw [releaseConnection_of_one (by exact hone)]
    refine ⟨?_, h.mem_pVdbe, ?_⟩
    · simp [hempty]
      omega
    · simp [hempty, sqlite3_close]

theorem inv_makeResult {s : State} {statement : Nat} (h : Inv s) (ho : 0 < s.owners)
    (hfresh : statement ∉ s.pVdbe) : Inv (makeResult s statement) where
  retainCount_eq := by
    have := h.retainCount_eq
    simp only [makeResult, Finset.card_insert_of_notMem hfresh]
    omega
  mem_pVdbe := by
    intro i
    by_cases hi : i = statement
    · simp [makeResult, hi]
    · simp [makeResult, hi, h.mem_pVdbe i]
  database_eq := by
    have hpos := h.retainCount_pos ho
    have hdb := h.database_eq
    rw [if_neg (by omega)] at hdb
    simp [makeResult, hdb]

/-- A result that is not the last holder finalizes its statement while the
database is open. -/
theorem inv_deallocResult {s : State} {statement : Nat} (h : Inv s)
    (hmem : statement ∈ s.pVdbe) (hlt : 1 < s.retainCount) :
    Inv (deallocResult { s with results := Function.update s.results statement 0 } statement) := by
  have hdb := h.database_eq
  rw [if_neg (by omega)] at hdb
  have hcard := Finset.card_pos.mpr ⟨statement, hmem⟩
  have hcount := h.retainCount_eq
  rw [deallocResult, releaseConnection_of_one_lt (by exact hlt), sqlite3_finalize]
  refine ⟨?_, ?_, ?_⟩
  · simp only [Finset.card_erase_of_mem hmem]
    omega
  · intro i
    by_cases hi : i = statement
    · simp [hi]
    · simp [hi, h.mem_pVdbe i]
  · dsimp only
    rw [if_neg (by omega), hdb]

/-- The retain count of a result may change while it is positive. -/
theorem inv_update_results {s : State} {statement n : Nat} (h : Inv s)
    (hlive : 0 < s.results statement) (hn : 0 < n) :
    Inv { s with results := Function.update s.results statement n } where
  retainCount_eq := h.retainCount_eq
  mem_pVdbe := by
    intro i
    by_cases hi : i = statement
    · simp [hi, hn, (h.mem_pVdbe statement).mpr hlive]
    · simp [hi, h.mem_pVdbe i]
  database_eq := h.database_eq

/-- Every allowed operation keeps the invariant. -/
theorem inv_step {s s' : State} {op : Op} (h : Inv s) (ha : Allowed s op)
    (hs : step s op = some s') : Inv s' := by
  cases op with
  | retain =>
      obtain ⟨ho, hs⟩ := Option.ite_none_right_eq_some.mp hs
      obtain rfl := Option.some.inj hs
      exact inv_retain h ho
  | release =>
      obtain ⟨ho, hs⟩ := Option.ite_none_right_eq_some.mp hs
      obtain rfl := Option.some.inj hs
      exact inv_release h ho
  | query statement answer =>
      obtain ⟨⟨ho, hfresh⟩, hs⟩ := Option.ite_none_right_eq_some.mp hs
      have hmade := inv_makeResult h ho hfresh
      cases answer with
      | rejected =>
          obtain rfl := Option.some.inj hs
          exact h
      | finished =>
          obtain rfl := Option.some.inj hs
          have hpos := h.retainCount_pos ho
          exact inv_deallocResult hmade (Finset.mem_insert_self _ _) (Nat.succ_lt_succ hpos)
      | object =>
          obtain rfl := Option.some.inj hs
          exact hmade
  | retainResult statement =>
      obtain ⟨hlive, hs⟩ := Option.ite_none_right_eq_some.mp hs
      obtain rfl := Option.some.inj hs
      exact inv_update_results h hlive (Nat.succ_pos _)
  | releaseResult statement =>
      obtain ⟨hlive, hs⟩ := Option.ite_none_right_eq_some.mp hs
      simp only [Function.update_self] at hs
      split at hs
      next hzero =>
          obtain rfl := Option.some.inj hs
          have hmem := (h.mem_pVdbe statement).mpr hlive
          have hpos : 0 < s.pVdbe.card := Finset.card_pos.mpr ⟨statement, hmem⟩
          have hne := ha statement rfl (by omega)
          have hcount := h.retainCount_eq
          rw [hzero]
          exact inv_deallocResult h hmem (by omega)
      next hne =>
          obtain rfl := Option.some.inj hs
          exact inv_update_results h hlive (by omega)

/-- An operation that is not allowed closes the database too early. -/
theorem database_leaked {s s' : State} {op : Op} (h : Inv s) (ha : ¬ Allowed s op)
    (hs : step s op = some s') : s'.database = .leaked := by
  simp only [Allowed, not_forall, not_not] at ha
  obtain ⟨statement, rfl, hlast, hcount⟩ := ha
  have hmem : statement ∈ s.pVdbe := (h.mem_pVdbe statement).mpr (by omega)
  have hne : s.pVdbe ≠ ∅ := Finset.ne_empty_of_mem hmem
  simp only [step, hlast, Nat.lt_add_one, if_true, Function.update_self, Nat.sub_self] at hs
  obtain rfl := Option.some.inj hs
  rw [deallocResult, releaseConnection_of_one (by exact hcount)]
  exact if_neg hne

/-! ## All runs -/

/-- In a run without an operation that is not allowed the database is closed when
nobody holds the connection, and no statement is left.  The first operation that
is not allowed leaves it open for good. -/
theorem database_of_reaches {s : State} (h : connection.Reaches Allowed initial s) :
    s.database = (if s.retainCount = 0 then .closed else .open) ∧
      (s.retainCount = 0 → s.pVdbe = ∅) ∧
      ∀ op s', step s op = some s' → ¬ Allowed s op → s'.database = .leaked := by
  have hinv : Inv s := h.invariant (fun _ _ _ hi ha hs => inv_step hi ha hs) inv_initial
  refine ⟨hinv.database_eq, ?_, fun op s' hs ha => database_leaked hinv ha hs⟩
  intro hzero
  have hcount := hinv.retainCount_eq
  exact Finset.card_eq_zero.mp (by omega)

/-- A program that lets go of the result before the connection. -/
theorem database_of_reaches_resultFirst : ∃ s,
    Transitions.run step initial [.query 0 .object, .releaseResult 0, .release] = some s ∧
      s.retainCount = 0 ∧ s.database = .closed := by
  have allowed : ∀ s op, (∀ i, op = .releaseResult i → s.retainCount = 2) → Allowed s op := by
    intro s op h i hi _
    rw [h i hi]
    decide
  have h₀ : connection.Reaches Allowed initial initial := .refl
  have h₁ := h₀.step (allowed initial (.query 0 .object) (by simp)) rfl
  have h₂ := h₁.step (allowed _ (.releaseResult 0) fun _ _ => rfl) rfl
  have h₃ := h₂.step (allowed _ .release (by simp)) rfl
  exact ⟨_, rfl, rfl, (database_of_reaches h₃).1⟩

/-- A result that outlives the other references leaves the database open. -/
theorem not_database_closed :
    ¬ ∀ s, connection.Reaches (fun _ _ => True) initial s → s.retainCount = 0 →
      s.database = .closed := by
  intro h
  have hleak := h _ (.of_run [.query 0 .object, .release, .releaseResult 0] rfl) rfl
  revert hleak
  decide

end LiteConnection

end MGMDB
