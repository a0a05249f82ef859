import MGMDB.LiteConnection.Session
import MGMDB.MyConnection.Drained
import MGMDB.MyConnection.Errors

/-!
# Error numbers as a test of success

A caller that takes `errorID==noErr` for success is right about a query that was
not carried out only if the class leaves a number for it.
-/

namespace MGMDB

/-- After a query that carried nothing out, the number that is read is not 0 exactly if
the connection reports it: with a session, a text that is sent or an error that is
left, and in SQLite a text with a statement or an error that is left. -/
theorem leavesNumber_ne_zero_iff {ω : Type} :
    (∀ (E : MyConnection.Environment), E.NumbersErrors →
      ∀ (creation : MyConnection.Creation) (ops : List MyConnection.Op) (format : NSString)
        (ap : List Arg) (n : Nat),
        MyConnection.LeavesNumber E (MyConnection.after E creation ops) format ap n →
        (n ≠ 0 ↔ MyConnection.Reports E (MyConnection.after E creation ops) format ap)) ∧
      ∀ (E : LiteSession.Environment ω) (ops : List LiteSession.Op) (format : NSString)
        (ap : List Arg) (n : Nat),
        LiteSession.LeavesNumber E (LiteSession.after E ops) format ap n →
        (n ≠ 0 ↔ LiteSession.Reports E (LiteSession.after E ops) format ap) :=
  ⟨fun _ hE _ _ _ _ _ h => h.ne_zero_iff hE, fun _ _ _ _ _ h => h.ne_zero_iff⟩

/-! ## Examples -/

/-- An engine that compiles nothing. -/
def refusingEngine : LiteSession.Environment Unit where
  foundation := default
  sqlite3_prepare _ := .error
  rc _ := ⟨LiteSession.SQLITE_ERROR, by decide⟩

/-- A query on a session that was lost, and a text that is no statement. -/
theorem leavesNumber_ne_zero_hangingUp :
    (∃ n ≠ 0, MyConnection.LeavesNumber MyConnection.hangingUp
        (MyConnection.after MyConnection.hangingUp .init [MyConnection.connectToHost])
        (lit "SELECT 7") [] n) ∧
      ∃ n ≠ 0, LiteSession.LeavesNumber refusingEngine (LiteSession.after refusingEngine [])
        (lit "SELEC 7") [] n := by
  have hmy : MyConnection.LeavesNumber MyConnection.hangingUp
      (MyConnection.after MyConnection.hangingUp .init [MyConnection.connectToHost])
      (lit "SELECT 7") [] CR_SERVER_GONE_ERROR :=
    { alive := by decide +kernel
      crashes := by decide +kernel
      unexecuted := by decide +kernel
      number := MyConnection.step_of_map rfl (by decide +kernel) (by decide +kernel) }
  have hlite : LiteSession.LeavesNumber refusingEngine (LiteSession.after refusingEngine [])
      (lit "SELEC 7") [] LiteSession.SQLITE_ERROR :=
    { alive := by decide +kernel
      crashes := by decide +kernel
      unexecuted := by decide +kernel
      number := by decide +kernel }
  have hnumbers : MyConnection.hangingUp.NumbersErrors := fun _ => trivial
  have htext : MGMLiteConnection.queryText refusingEngine.foundation (lit "SELEC 7") [] =
      .ok (lit "SELEC 7") := by decide +kernel
  have hreports : LiteSession.Reports refusingEngine (LiteSession.after refusingEngine [])
      (lit "SELEC 7") [] := by
    rw [LiteSession.Reports, htext]
    exact fun h => by cases h
  obtain ⟨hmy_iff, hlite_iff⟩ := @leavesNumber_ne_zero_iff Unit
  constructor
  · refine ⟨_, (hmy_iff _ hnumbers _ _ _ _ _ hmy).mpr ?_, hmy⟩
    exact ⟨by decide +kernel, .inr (by decide +kernel)⟩
  · exact ⟨_, (hlite_iff _ _ _ _ _ hlite).mpr hreports, hlite⟩

/-- After a connection that was refused a query reads as a success, and so does an
empty text in SQLite. -/
theorem not_leavesNumber_ne_zero :
    (¬ ∀ (E : MyConnection.Environment), E.NumbersErrors →
      ∀ (creation : MyConnection.Creation) (ops : List MyConnection.Op) (format : NSString)
        (ap : List Arg) (n : Nat),
        MyConnection.LeavesNumber E (MyConnection.after E creation ops) format ap n → n ≠ 0) ∧
      ¬ ∀ (E : LiteSession.Environment Unit) (ops : List LiteSession.Op) (format : NSString)
        (ap : List Arg) (n : Nat),
        LiteSession.LeavesNumber E (LiteSession.after E ops) format ap n → n ≠ 0 := by
  constructor
  · intro h
    refine h MyConnection.refusing (fun _ => trivial) .init [MyConnection.connectToHost]
      (lit "SELECT 7") [] 0 ?_ rfl
    exact
      { alive := by decide +kernel
        crashes := by decide +kernel
        unexecuted := by decide +kernel
        number := MyConnection.step_of_map rfl (by decide +kernel) (by decide +kernel) }
  · intro h
    refine h refusingEngine [] [] [] 0 ?_ rfl
    exact
      { alive := by decide +kernel
        crashes := by decide +kernel
        unexecuted := by decide +kernel
        number := by decide +kernel }

end MGMDB
