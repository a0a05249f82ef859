import MGMDB.MyConnection.Lifetimes

/-!
# Reading a result while the connection is used

A row is decoded when it is read, and a date or a time with the zone its connection
has by then.  `reader` is a result beside its connection, whose methods may be called
between any two reads.  What becomes of the result itself depends on its own methods
only (`result_run`), so that a row is decoded as it would have been by reads alone if
its dates and times mean the same in both zones, and only then.
-/

namespace MGMDB

namespace MyConnection

namespace Reading

open Systems MGMMyResult Lifetimes

/-! ## The system -/

/-- What is asked of the connection, and of the result. -/
inductive Input where
  | send (op : MyConnection.Op)
  | nextRow
  | nextRowAsArray
  | rowCount
  | seekToRow (theRow : UInt64)

inductive Output where
  | sent (answer : Option (Except Halt Value))
  | dictionary (row : Option NSDictionary)
  | array (row : Option (List Obj))
  | count (rows : UInt64)
  | void

/-- A method of the result. -/
def Input.isRead : Input → Bool
  | .send _ => false
  | _ => true

/-- A connection and a result it made.  The result holds the connection, which is
therefore not deallocated. -/
def reader (E : Environment) : Machine (MyConnection.State × MGMMyResult) Input Output where
  step
    | (s, r), .send op =>
        if isDealloc op then (.sent none, s, r)
        else (.sent ((object E).step s op).1, ((object E).step s op).2, r)
    | (s, r), .nextRow =>
        (.dictionary (r.nextRow E.foundation (s.zone E)).1, s,
          (r.nextRow E.foundation (s.zone E)).2)
    | (s, r), .nextRowAsArray =>
        (.array (r.nextRowAsArray E.foundation (s.zone E)).1, s,
          (r.nextRowAsArray E.foundation (s.zone E)).2)
    | (s, r), .rowCount => (.count r.rowCount, s, r)
    | (s, r), .seekToRow theRow => (.void, s, r.seekToRow theRow)

/-- What `nextRow` and `nextRowAsArray` give is the same in two states. -/
def ReadAlike (E : Environment) (u v : MyConnection.State × MGMMyResult) : Prop :=
  ((reader E).step u .nextRow).1 = ((reader E).step v .nextRow).1 ∧
    ((reader E).step u .nextRowAsArray).1 = ((reader E).step v .nextRowAsArray).1

/-! ## The result -/

section
variable {E : Environment}

/-- The row methods move the cursor, in whatever zone they decode. -/
theorem nextRow_snd (F : Foundation) (timeZone : NSTimeZone) (r : MGMMyResult) :
    (r.nextRow F timeZone).2 = r.fetchRow.2 := rfl

theorem nextRowAsArray_snd (F : Foundation) (timeZone : NSTimeZone) (r : MGMMyResult) :
    (r.nextRowAsArray F timeZone).2 = r.fetchRow.2 := rfl

/-- The connection does not change the result. -/
theorem result_run (E : Environment) (s : MyConnection.State) (r : MGMMyResult)
    (inputs : List Input) :
    ((reader E).run (s, r) inputs).2.2 =
      ((reader E).run (s, r) (inputs.filter Input.isRead)).2.2 := by
  refine Machine.run_filter Prod.snd ?_ ?_ (s, r) (s, r) inputs rfl
  · rintro ⟨s, r⟩ ⟨t, r'⟩ i hi rfl
    cases i with
    | send op => cases hi
    | nextRow => exact nextRow_snd E.foundation (s.zone E) r
    | nextRowAsArray => exact nextRowAsArray_snd E.foundation (s.zone E) r
    | rowCount => rfl
    | seekToRow theRow => rfl
  · rintro ⟨s, r⟩ i hi
    cases i with
    | send op =>
        show (if isDealloc op then _ else _ : Output × MyConnection.State × MGMMyResult).2.2 = r
        split
        · rfl
        · rfl
    | _ => cases hi

/-- The result does not change the connection. -/
theorem connection_run_reads (E : Environment) (s : MyConnection.State) (r : MGMMyResult)
    (inputs : List Input) :
    ((reader E).run (s, r) (inputs.filter Input.isRead)).2.1 = s := by
  have hreads : ∀ i ∈ inputs.filter Input.isRead, Input.isRead i = true :=
    fun i hi => (List.mem_filter.mp hi).2
  generalize inputs.filter Input.isRead = reads at hreads
  induction reads generalizing r with
  | nil => rfl
  | cons i reads ih =>
    have hrest : ∀ j ∈ reads, Input.isRead j = true :=
      fun j hj => hreads j (List.mem_cons_of_mem _ hj)
    have hi : Input.isRead i = true := hreads i List.mem_cons_self
    cases i with
    | send op => cases hi
    | nextRow => exact ih _ hrest
    | nextRowAsArray => exact ih _ hrest
    | rowCount => exact ih _ hrest
    | seekToRow theRow => exact ih _ hrest

end

/-! ## What is read -/

/-- The connection and the result after everything that was asked of them. -/
def used (E : Environment) (s : MyConnection.State) (r : MGMMyResult) (inputs : List Input) :
    MyConnection.State × MGMMyResult :=
  ((reader E).run (s, r) inputs).2

/-- The connection and the result after the reads alone. -/
def undisturbed (E : Environment) (s : MyConnection.State) (r : MGMMyResult)
    (inputs : List Input) : MyConnection.State × MGMMyResult :=
  ((reader E).run (s, r) (inputs.filter Input.isRead)).2

theorem used_snd (E : Environment) (s : MyConnection.State) (r : MGMMyResult)
    (inputs : List Input) : (used E s r inputs).2 = (undisturbed E s r inputs).2 :=
  result_run E s r inputs

theorem undisturbed_fst (E : Environment) (s : MyConnection.State) (r : MGMMyResult)
    (inputs : List Input) : (undisturbed E s r inputs).1 = s :=
  connection_run_reads E s r inputs

theorem readAlike_iff_rows {E : Environment} {u v : MyConnection.State × MGMMyResult} :
    ReadAlike E u v ↔
      (u.2.nextRow E.foundation (u.1.zone E)).1 = (v.2.nextRow E.foundation (v.1.zone E)).1 ∧
        (u.2.nextRowAsArray E.foundation (u.1.zone E)).1 =
          (v.2.nextRowAsArray E.foundation (v.1.zone E)).1 := by
  refine and_congr ?_ ?_
  · exact ⟨fun h => Output.dictionary.inj h, fun h => congrArg Output.dictionary h⟩
  · exact ⟨fun h => Output.array.inj h, fun h => congrArg Output.array h⟩

/-- After any calls on a connection and on a result that was read from it in the state
`s`, a value of the next row is given as the object it would have been given as
without the calls on the connection exactly if it reads the same in the zones of then
and of `s`, and the row methods give what they would have given exactly if all its
values do. -/
theorem read_later_iff (E : Environment) (s : MyConnection.State) (r : MGMMyResult)
    (inputs : List Input) :
    (∀ i column value, (used E s r inputs).2.IsNext i column value →
      ((∀ o, (used E s r inputs).2.Yields E.foundation ((used E s r inputs).1.zone E) i o ↔
          (undisturbed E s r inputs).2.Yields E.foundation
            ((undisturbed E s r inputs).1.zone E) i o) ↔
        SameDate E.foundation ((used E s r inputs).1.zone E) (s.zone E) column value)) ∧
    (ReadAlike E (used E s r inputs) (undisturbed E s r inputs) ↔
      ∀ i column value, (used E s r inputs).2.IsNext i column value →
        SameDate E.foundation ((used E s r inputs).1.zone E) (s.zone E) column value) := by
  rw [readAlike_iff_rows, undisturbed_fst, ← used_snd]
  exact ⟨fun i column value h => yields_zone_iff h, rows_zone_iff _ _ _ _⟩

/-! ## A server that moves -/

/-- The first of January 2001 at midnight, in two zones. -/
def newYear (dateFormat : NSString) (timeZone : NSTimeZone) (text : NSString) : Option NSDate :=
  if dateFormat = lit "yyy-MM-dd HH:mm:ss" ∧ text = lit "2001-01-01 00:00:00" then
    if timeZone.name = lit "UTC" then some ⟨0⟩
    else if timeZone.name = lit "Europe/Paris" then some ⟨-3600⟩
    else none
  else none

/-- The row `SHOW VARIABLES` has for the zone. -/
def zoneRows (name : String) : Reply :=
  .columns
    [⟨cString (ascii "Variable_name"), .var_string, 0⟩, ⟨cString (ascii "Value"), .var_string, 0⟩]
    (.rows [[some (ascii "time_zone"), some (ascii name)]] (by simp) false)

/-- A session that is in one zone when it begins and in another one after its first
query of a date. -/
def moving : Environment :=
  { hangingUp with
    foundation := { (default : Foundation) with dateFromString := newYear }
    timeZoneWithName := fun name => some ⟨name⟩
    packet := fun _ => .ok []
    reply := fun n =>
      if n < 4 then zoneRows "UTC"
      else if n = 4 then
        .columns [⟨cString (ascii "d"), .datetime, 0⟩]
          (.rows [[some (ascii "2001-01-01 00:00:00")]] (by simp) false)
      else zoneRows "Europe/Paris" }

/-- The connection behind that query. -/
def moved : MyConnection.State :=
  after moving .init [connectToHost, .query (lit "SELECT d FROM t") []]

/-- It is the same one after the connection was closed. -/
theorem readAlike_moving :
    ∃ r, moved.made.head? = some r ∧
      ReadAlike moving (used moving moved r [.send .disconnect])
        (undisturbed moving moved r [.send .disconnect]) := by
  have hmade : moved.made.head?.isSome = true := by decide +kernel
  have hzone : ((object moving).step moved .disconnect).2.zone moving = moved.zone moving := by
    decide +kernel
  obtain ⟨r, hr⟩ := Option.isSome_iff_exists.mp hmade
  refine ⟨r, hr, (read_later_iff moving moved r [.send .disconnect]).2.mpr ?_⟩
  intro i column value hnext dateFormat bytes hd hvalue
  have hsame : (used moving moved r [.send .disconnect]).1.zone moving = moved.zone moving := hzone
  rw [hsame]

/-- A date that is read after `getTimeZone` is another one. -/
theorem not_readAlike :
    ∃ r, moved.made.head? = some r ∧
      ¬ ReadAlike moving (used moving moved r [.send .getTimeZone])
        (undisturbed moving moved r [.send .getTimeZone]) := by
  have hmade : moved.made.head?.isSome = true := by decide +kernel
  have hlater : (moved.made.head?.bind fun r =>
      ((used moving moved r [.send .getTimeZone]).2.nextRowAsArray moving.foundation
        ((used moving moved r [.send .getTimeZone]).1.zone moving)).1) =
      some [.date ⟨-3600⟩] := by
    decide +kernel
  have hthen : (moved.made.head?.bind fun r =>
      ((undisturbed moving moved r [.send .getTimeZone]).2.nextRowAsArray moving.foundation
        ((undisturbed moving moved r [.send .getTimeZone]).1.zone moving)).1) =
      some [.date ⟨0⟩] := by
    decide +kernel
  obtain ⟨r, hr⟩ := Option.isSome_iff_exists.mp hmade
  rw [hr, Option.bind_some] at hlater hthen
  refine ⟨r, hr, ?_⟩
  rw [readAlike_iff_rows]
  rintro ⟨-, harray⟩
  rw [hlater, hthen] at harray
  revert harray
  decide

end Reading

end MyConnection

end MGMDB
