import Mathlib.Data.List.Count
import MGMDB.MySQL.Lengths
import MGMDB.MyConnection.Made
import MGMDB.Systems.Transition

/-!
# Results and their connection

A connection object is held by its owners and by every result it made, and a
result by its own owners.  A result that nobody holds any more frees its
`MYSQL_RES` and lets go of the connection, and a connection that nobody holds
closes its session.  `mysql_free_result` uses the session of a result that is read
row by row, but `mysql_store_result` leaves no pointer to the session in a result.
So results and sessions may end in any order.

The program may catch what a method raises and go on.  An initialiser that raises over
the name of a column has stored its result and retained the connection by then, and
nobody gives either of them up (`survives_iff`).
-/

namespace MGMDB

namespace MyConnection

namespace Lifetimes

open Systems Program

/-! ## Results -/

/-- What is asked of the rows of a result. -/
inductive Access where
  | next
  | count
  | seek (theRow : UInt64)

/-- What it gives: the values of a row, or none behind the last one, or how many rows. -/
inductive Given where
  | row (row : Option MYSQL_ROW)
  | count (rows : UInt64)
  | void

/-- An `MGMMyResult` with the `handle` of its `MYSQL_RES`, NULL as `none`, and the reply
it was stored from.  `returned` tells one that the program got.  `asked` has what was asked
of it with what it gave, the last one first. -/
structure ResultObject where
  source : Source
  result : MYSQL_RES
  handle : Option Nat
  returned : Bool
  retainCount : Nat
  freed : Nat
  asked : List (Access × Given)

/-- A result as `mysql_store_result` leaves it, all other members filled with zeros.  If
the initialiser raised, nobody has the object. -/
def ResultObject.stored (returned : Bool) (r : Stored) : ResultObject where
  source := r.source
  result := r.result
  handle := none
  returned := returned
  retainCount := if r.object.isSome then 1 else 0
  freed := 0
  asked := []

/-- The row methods: fetch a row and copy its values out of its buffer, which `malloc`
put somewhere. -/
def ResultObject.nextRow (malloc : MYSQL_ROW → Nat) (r : ResultObject) : ResultObject :=
  let (row, result) := r.result.mysql_fetch_row
  let values := row.map fun row => copyRow (malloc row) (storeRow row (malloc row))
  { r with result := result, asked := (.next, .row values) :: r.asked }

/-- `rowCount`. -/
def ResultObject.rowCount (r : ResultObject) : ResultObject :=
  { r with asked := (.count, .count r.result.mysql_num_rows) :: r.asked }

/-- `seekToRow:`. -/
def ResultObject.seekToRow (r : ResultObject) (theRow : UInt64) : ResultObject :=
  { r with
    result :=
      r.result.mysql_data_seek (MGMMyResult.soughtRow r.result.mysql_num_rows theRow)
    asked := (.seek theRow, .void) :: r.asked }

/-! ## The system -/

/-- A connection and the results it stored, the first one first.  `owners` counts the
references to the connection that are not those of results.  `flushed` has the handles
that calls on results use, with the calls before. -/
structure State where
  connection : MyConnection.State
  retainCount : Nat
  owners : Nat
  results : List ResultObject
  flushed : List (Nat × List Call)

/-- The results between two states of a connection, as objects. -/
def storedObjects (returned : Bool) (s t : MyConnection.State) : List ResultObject :=
  ((t.stored.take (t.stored.length - s.stored.length)).map (.stored returned)).reverse

/-- A connection behind its initialiser, which may have raised. -/
def initial (E : Environment) (creation : Creation) : Option State :=
  match create E creation State.blank with
  | (.error .crashed, _) => none
  | (_, connection) =>
      let stored := storedObjects false State.blank connection
      some
        { connection := connection, retainCount := 1 + stored.length, owners := 1
          results := stored, flushed := [] }

/-- What the program does with its references. -/
inductive Op where
  | send (op : MyConnection.Op)
  | retain
  | release
  | nextRow (result : Nat)
  | nextRowAsArray (result : Nat)
  | rowCount (result : Nat)
  | seekToRow (result : Nat) (theRow : UInt64)
  | retainResult (result : Nat)
  | releaseResult (result : Nat)

/-- `dealloc`, which only `release` sends. -/
def isDealloc : MyConnection.Op → Bool
  | .dealloc => true
  | _ => false

/-- A method that returns its result to the program. -/
def givesResult : Except Halt Value → Bool
  | .ok (.result _) => true
  | _ => false

/-- `release` of the connection, and its `dealloc`. -/
def releaseConnection (s : State) : State :=
  let s := { s with retainCount := s.retainCount - 1 }
  if s.retainCount = 0 then { s with connection := (dealloc s.connection).2 } else s

/-- `mysql_free_result`, which uses the session of a result that has one. -/
def mysql_free_result (s : State) (i : Nat) (r : ResultObject) : State :=
  { s with
    results := s.results.set i { r with freed := r.freed + 1 }
    flushed :=
      match r.handle with
      | none => s.flushed
      | some handle => (handle, s.connection.calls) :: s.flushed }

/-- `-[MGMMyResult dealloc]`. -/
def deallocResult (s : State) (i : Nat) (r : ResultObject) : State :=
  releaseConnection (mysql_free_result s i r)

/-- A message to a result that somebody holds. -/
def onResult (s : State) (i : Nat) (f : ResultObject → State) : Option State :=
  match s.results[i]? with
  | none => none
  | some r => if 0 < r.retainCount then some (f r) else none

/-- A message to a result that the program got. -/
def onReturned (s : State) (i : Nat) (f : ResultObject → ResultObject) : Option State :=
  match s.results[i]? with
  | none => none
  | some r =>
      if 0 < r.retainCount ∧ r.returned = true then some { s with results := s.results.set i (f r) }
      else none

/-- One operation.  A connection can be used as long as somebody holds it, and only
who has a reference may give it up.  A method that raises leaves what it did so far. -/
def step (E : Environment) (malloc : MYSQL_ROW → Nat) (s : State) : Op → Option State
  | .send op =>
      if 0 < s.retainCount ∧ isDealloc op = false then
        match perform E op s.connection with
        | (.error .crashed, _) => none
        | (outcome, connection) =>
            let stored := storedObjects (givesResult outcome) s.connection connection
            some { s with
              connection := connection
              retainCount := s.retainCount + stored.length
              results := s.results ++ stored }
      else none
  | .retain =>
      if 0 < s.owners then
        some { s with retainCount := s.retainCount + 1, owners := s.owners + 1 }
      else none
  | .release =>
      if 0 < s.owners then some (releaseConnection { s with owners := s.owners - 1 }) else none
  | .nextRow i | .nextRowAsArray i => onReturned s i (.nextRow malloc)
  | .rowCount i => onReturned s i .rowCount
  | .seekToRow i theRow => onReturned s i (.seekToRow · theRow)
  | .retainResult i =>
      onResult s i fun r =>
        { s with results := s.results.set i { r with retainCount := r.retainCount + 1 } }
  | .releaseResult i =>
      onResult s i fun r =>
        let r := { r with retainCount := r.retainCount - 1 }
        let s := { s with results := s.results.set i r }
        if r.retainCount = 0 then deallocResult s i r else s

/-- The connection and its results as a transition system. -/
def objects (E : Environment) (malloc : MYSQL_ROW → Nat) : Transitions State Op :=
  .ofStep (step E malloc)

/-! ## What a result has to be -/

/-- The rows of a reply, of which one is asked for after the other, or from a place on. -/
def rowCursor (rows : List MYSQL_ROW) : Machine Nat Access Given where
  step
    | place, .next => (.row rows[place]?, place + 1)
    | place, .count => (.count (.ofNat rows.length), place)
    | _, .seek theRow => (.void, (MGMMyResult.soughtRow (.ofNat rows.length) theRow).toNat)

/-- A result gives what the rows of its reply give: these rows, one after the other and
from the places asked for, and their number. -/
def ReadsSent (E : Environment) (r : ResultObject) : Prop :=
  ∃ fields rows, E.resultSet r.source = some (fields, rows) ∧
    ((rowCursor rows).run 0 (r.asked.map Prod.fst).reverse).1 = (r.asked.map Prod.snd).reverse

/-- No call on a result uses a session that was closed, and each result gives the rows of
its reply, a later one those of a later reply. -/
structure Outlives (E : Environment) (s : State) : Prop where
  flushed : ∀ used ∈ s.flushed, .mysql_close (some used.1) ∉ used.2
  rows : ∀ r ∈ s.results, ReadsSent E r
  replies : (s.results.map fun r => r.source.number).Pairwise (· < ·)

/-- Besides, each `MYSQL_RES` is freed once when nobody holds its object any more. -/
structure Survives (E : Environment) (s : State) : Prop extends Outlives E s where
  freed : ∀ r ∈ s.results, r.freed = if r.retainCount = 0 then 1 else 0

/-- Every column of a reply has a name that is UTF-8. -/
def NamesColumns (E : Environment) (source : Source) : Prop :=
  ∀ fields rows, E.resultSet source = some (fields, rows) →
    ∀ column ∈ fields, (stringWithUTF8String column.name).isSome = true

/-! ## One result -/

/-- A result has no session.  It was freed if nobody holds it, or if its columns have no
names, nobody ever held it.  It is read like the rows of its reply. -/
structure ResultObject.Sound (E : Environment) (r : ResultObject) : Prop where
  handle : r.handle = none
  freed : NamesColumns E r.source → r.freed = if r.retainCount = 0 then 1 else 0
  lost : ¬ NamesColumns E r.source → r.retainCount = 0 ∧ r.freed = 0
  resultSet : E.resultSet r.source = some (r.result.fields, r.result.data)
  read : ∃ place, r.result.data_cursor = r.result.data.drop place ∧
    (rowCursor r.result.data).run 0 (r.asked.map Prod.fst).reverse =
      ((r.asked.map Prod.snd).reverse, place)

section
variable {E : Environment} {malloc : MYSQL_ROW → Nat} {r : ResultObject}

theorem namesColumns_iff {source : Source} {fields : List MYSQL_FIELD} {rows : List MYSQL_ROW}
    (h : E.resultSet source = some (fields, rows)) :
    NamesColumns E source ↔
      ∀ column ∈ fields, (stringWithUTF8String column.name).isSome = true := by
  rw [NamesColumns, h]
  constructor
  · exact fun hnames => hnames fields rows rfl
  · intro hnames fields' rows' heq
    cases heq
    exact hnames

/-- An object is made unless the name of a column cannot be read. -/
theorem object_isSome_iff {r : Stored} (h : FromServer E r) :
    r.object.isSome = true ↔ NamesColumns E r.source := by
  rw [namesColumns_iff h.resultSet, ← MGMMyResult.columnNames_ok_iff,
    ← MGMMyResult.initWithResult_some_iff, Stored.object]
  cases hobject : MGMMyResult.initWithResult (some r.result) with
  | error e => simp [Except.toOption]
  | ok object =>
      cases object with
      | none => simp [Except.toOption]
      | some object => simp [Except.toOption]

namespace ResultObject

theorem Sound.readsSent (h : r.Sound E) : ReadsSent E r := by
  obtain ⟨place, -, hrun⟩ := h.read
  exact ⟨_, _, h.resultSet, by rw [hrun]⟩

/-- Who holds a result has one with names, and it is not freed. -/
theorem Sound.names (h : r.Sound E) (hheld : 0 < r.retainCount) : NamesColumns E r.source := by
  by_contra hlost
  exact absurd (h.lost hlost).1 (Nat.ne_of_gt hheld)

theorem Sound.freed_of_held (h : r.Sound E) (hheld : 0 < r.retainCount) : r.freed = 0 := by
  rw [h.freed (h.names hheld), if_neg (Nat.ne_of_gt hheld)]

theorem sound_stored {r : Stored} (h : FromServer E r) (returned : Bool) :
    (stored returned r).Sound E where
  handle := rfl
  freed hnames := by
    rw [stored, if_pos ((object_isSome_iff h).mpr hnames)]
    rfl
  lost hlost := by
    rw [stored, if_neg (mt (object_isSome_iff h).mp hlost)]
    exact ⟨rfl, rfl⟩
  resultSet := h.resultSet
  read := ⟨0, h.data_cursor, rfl⟩

/-- One more access. -/
theorem run_access {rows : List MYSQL_ROW} {asked : List (Access × Given)} {place : Nat}
    (h : (rowCursor rows).run 0 (asked.map Prod.fst).reverse =
      ((asked.map Prod.snd).reverse, place)) (access : Access) :
    (rowCursor rows).run 0 ((access, ((rowCursor rows).step place access).1) :: asked |>.map
        Prod.fst).reverse =
      ((((access, ((rowCursor rows).step place access).1) :: asked).map Prod.snd).reverse,
        ((rowCursor rows).step place access).2) := by
  rw [List.map_cons, List.map_cons, List.reverse_cons, List.reverse_cons, Machine.run_append, h]
  rfl

theorem Sound.nextRow (h : r.Sound E) (malloc : MYSQL_ROW → Nat) : (r.nextRow malloc).Sound E where
  handle := h.handle
  freed := h.freed
  lost := h.lost
  resultSet := h.resultSet
  read := by
    obtain ⟨place, hcursor, hrun⟩ := h.read
    refine ⟨place + 1, ?_, ?_⟩
    · show r.result.data_cursor.tail = r.result.data.drop (place + 1)
      rw [hcursor, List.tail_drop]
    · have hcopy : (r.result.mysql_fetch_row.1.map fun row =>
          copyRow (malloc row) (storeRow row (malloc row))) = r.result.data[place]? := by
        simp only [copyRow_storeRow, Option.map_id']
        show r.result.data_cursor.head? = _
        rw [hcursor, List.head?_drop]
      have hnext := run_access hrun .next
      rw [ResultObject.nextRow]
      dsimp only
      rw [hcopy]
      exact hnext

theorem Sound.rowCount (h : r.Sound E) : r.rowCount.Sound E where
  handle := h.handle
  freed := h.freed
  lost := h.lost
  resultSet := h.resultSet
  read := by
    obtain ⟨place, hcursor, hrun⟩ := h.read
    exact ⟨place, hcursor, run_access hrun .count⟩

theorem Sound.seekToRow (h : r.Sound E) (theRow : UInt64) : (r.seekToRow theRow).Sound E where
  handle := h.handle
  freed := h.freed
  lost := h.lost
  resultSet := h.resultSet
  read := by
    obtain ⟨place, -, hrun⟩ := h.read
    exact ⟨_, rfl, run_access hrun (.seek theRow)⟩

/-- One more reference, or one less. -/
theorem Sound.withCounts (h : r.Sound E) (hheld : 0 < r.retainCount) {retainCount freed : Nat}
    (hfreed : freed = if retainCount = 0 then 1 else 0) :
    Sound E { r with retainCount := retainCount, freed := freed } where
  handle := h.handle
  freed _ := hfreed
  lost hlost := absurd (h.names hheld) hlost
  resultSet := h.resultSet
  read := h.read

end ResultObject

end

/-! ## The invariant -/

/-- How many results were not freed. -/
def unfreed (results : List ResultObject) : Nat := results.countP fun r => r.freed = 0

/-- The results are sound, each from a reply of its own, and no call on them uses a session.
The connection is held by its owners and by the results that were not freed. -/
structure Inv (E : Environment) (s : State) : Prop where
  results : ∀ r ∈ s.results, r.Sound E
  replies : (s.results.map fun r => r.source.number).Pairwise (· < ·)
  lt_clock : ∀ n ∈ s.results.map (fun r => r.source.number), n < s.connection.clock
  flushed : s.flushed = []
  retainCount_eq : s.retainCount = s.owners + unfreed s.results
  alive : 0 < s.retainCount → s.connection.alive = true

section
variable {E : Environment} {malloc : MYSQL_ROW → Nat} {s t : State} {i : Nat} {r r' : ResultObject}

theorem Inv.outlives (h : Inv E s) : Outlives E s where
  flushed := by
    intro used hused
    rw [h.flushed] at hused
    cases hused
  rows r hr := (h.results r hr).readsSent
  replies := h.replies

/-- Only a result that nobody ever held stays. -/
theorem Inv.result_survives_iff (h : Inv E s) :
    Survives E s ↔ ∀ r ∈ s.results, NamesColumns E r.source := by
  constructor
  · intro hsurvives r hr
    by_contra hlost
    obtain ⟨hcount, hfreed⟩ := (h.results r hr).lost hlost
    have honce := hsurvives.freed r hr
    rw [hfreed, hcount, if_pos rfl] at honce
    exact absurd honce Nat.zero_ne_one
  · intro hnames
    exact ⟨h.outlives, fun r hr => (h.results r hr).freed (hnames r hr)⟩

theorem sound_set (h : ∀ r ∈ s.results, r.Sound E) (hr : r.Sound E) :
    ∀ r' ∈ s.results.set i r, r'.Sound E := by
  intro r' hr'
  rcases List.mem_or_eq_of_mem_set hr' with hmem | rfl
  · exact h r' hmem
  · exact hr

/-- A result that is changed keeps its reply. -/
theorem sources_set (hi : s.results[i]? = some r) (hsource : r'.source = r.source) :
    (s.results.set i r').map (fun r => r.source.number) =
      s.results.map fun r => r.source.number := by
  obtain ⟨hlt, rfl⟩ := List.getElem?_eq_some_iff.mp hi
  conv_rhs => rw [← List.set_getElem_self hlt]
  rw [List.map_set, List.map_set, hsource]

theorem unfreed_pos (hi : s.results[i]? = some r) (hr : r.freed = 0) : 0 < unfreed s.results :=
  List.countP_pos_iff.mpr ⟨r, List.mem_of_getElem? hi, decide_eq_true hr⟩

/-- A result that is not freed before and after. -/
theorem unfreed_set (hi : s.results[i]? = some r) (hr : r.freed = 0) (hr' : r'.freed = 0) :
    unfreed (s.results.set i r') = unfreed s.results := by
  have hpos := unfreed_pos hi hr
  obtain ⟨hlt, rfl⟩ := List.getElem?_eq_some_iff.mp hi
  rw [unfreed] at hpos ⊢
  rw [List.countP_set hlt, unfreed]
  simp only [hr, hr', decide_true, if_true]
  omega

/-- A result that is freed. -/
theorem unfreed_set_freed (hi : s.results[i]? = some r) (hr : r.freed = 0) (hr' : r'.freed = 1) :
    unfreed s.results = unfreed (s.results.set i r') + 1 := by
  have hpos := unfreed_pos hi hr
  obtain ⟨hlt, rfl⟩ := List.getElem?_eq_some_iff.mp hi
  rw [unfreed] at hpos ⊢
  rw [unfreed, List.countP_set hlt]
  simp only [hr, hr', decide_true, if_true]
  simp
  omega

/-- A sound result in the place of one that somebody holds. -/
theorem Inv.set (hinv : Inv E s) (hi : s.results[i]? = some r) (hheld : 0 < r.retainCount)
    (hsound : r'.Sound E) (hsource : r'.source = r.source) (hfreed : r'.freed = 0) :
    Inv E { s with results := s.results.set i r' } where
  results := sound_set hinv.results hsound
  replies := by
    rw [sources_set hi hsource]
    exact hinv.replies
  lt_clock := by
    rw [sources_set hi hsource]
    exact hinv.lt_clock
  flushed := hinv.flushed
  retainCount_eq := by
    have hr : r.freed = 0 := (hinv.results r (List.mem_of_getElem? hi)).freed_of_held hheld
    rw [unfreed_set hi hr hfreed]
    exact hinv.retainCount_eq
  alive := hinv.alive

/-! ## Results that are stored -/

theorem unfreed_storedObjects (returned : Bool) (c d : MyConnection.State) :
    unfreed (storedObjects returned c d) = (storedObjects returned c d).length := by
  refine List.countP_eq_length.mpr fun r hr => ?_
  obtain ⟨stored, -, rfl⟩ := List.mem_map.mp (List.mem_reverse.mp hr)
  rfl

theorem storedObjects_eq {c d : MyConnection.State} {new : List Stored} (h : New E c d new)
    (returned : Bool) : storedObjects returned c d = (new.map (.stored returned)).reverse := by
  rw [storedObjects, h.stored, List.length_append, Nat.add_sub_cancel, List.take_left]

/-- New results are sound, and come from replies in order, all of them after those before. -/
theorem storedObjects_sound {c d : MyConnection.State} {new : List Stored} (h : New E c d new)
    (returned : Bool) :
    (∀ r ∈ storedObjects returned c d, r.Sound E) ∧
      ((storedObjects returned c d).map fun r => r.source.number).Pairwise (· < ·) ∧
      ∀ n ∈ (storedObjects returned c d).map (fun r => r.source.number),
        c.clock ≤ n ∧ n < d.clock := by
  have hnumbers : (storedObjects returned c d).map (fun r => r.source.number) =
      (new.map fun r => r.source.number).reverse := by
    rw [storedObjects_eq h, List.map_reverse, List.map_map]
    rfl
  refine ⟨?_, ?_, ?_⟩
  · rw [storedObjects_eq h]
    intro r hr
    obtain ⟨stored, hstored, rfl⟩ := List.mem_map.mp (List.mem_reverse.mp hr)
    exact ResultObject.sound_stored (h.fromServer stored hstored) returned
  · rw [hnumbers, List.pairwise_reverse, List.pairwise_map]
    exact h.decreasing
  · rw [hnumbers]
    intro n hn
    obtain ⟨stored, hstored, rfl⟩ := List.mem_map.mp (List.mem_reverse.mp hn)
    exact ⟨h.clock_le stored hstored, h.lt_clock stored hstored⟩

/-- A connection lives on through every method but `dealloc`. -/
theorem perform_alive {op : MyConnection.Op} (hop : isDealloc op = false) (c : MyConnection.State) :
    (perform E op c).2.alive = c.alive := by
  cases huses : op.uses with
  | true => exact (follows_perform (respects_uses E) huses c).alive
  | false =>
      cases op with
      | connectWithHost theHost thePort theUsername thePassword =>
          rw [perform, map_snd]
          exact (connectWithHost_connects E _ _ _ _ c).alive
      | connectWithSocket theSocket theUsername thePassword =>
          rw [perform, map_snd]
          exact (connectWithSocket_connects E _ _ _ c).alive
      | disconnect =>
          rw [perform, map_snd, disconnect_apply]
          exact closed_alive c
      | dealloc => cases hop
      | _ => cases huses

theorem create_alive (E : Environment) (creation : Creation) :
    (create E creation State.blank).2.alive = true := by
  have hcreates : Creates E fun s => s.alive = true :=
    { init := rfl
      escapeSet := fun _ h => h
      connects := fun _ _ _ hc _ h => hc.alive.trans h }
  exact hcreates.create creation

/-! ## Every operation -/

theorem inv_initial {creation : Creation} (h : initial E creation = some s) : Inv E s := by
  have hnew := new_create E creation
  have halive := create_alive E creation
  rw [initial] at h
  split at h
  next => cases h
  next outcome connection _ hrun =>
    rw [hrun] at hnew halive
    obtain ⟨hsound, hreplies, hclock⟩ := storedObjects_sound hnew false
    obtain rfl := Option.some.inj h
    exact
      { results := hsound
        replies := hreplies
        lt_clock := fun n hn => (hclock n hn).2
        flushed := rfl
        retainCount_eq := congrArg (1 + ·) (unfreed_storedObjects _ _ _).symm
        alive := fun _ => halive }

theorem inv_send (hinv : Inv E s) {op : MyConnection.Op} (h : step E malloc s (.send op) = some t) :
    Inv E t := by
  rw [step] at h
  split at h
  next hguard =>
    obtain ⟨hcount, hop⟩ := hguard
    have halive := hinv.alive hcount
    obtain ⟨hle, new, hnew⟩ := makes_perform (E := E) halive op
    have hlives := perform_alive (E := E) hop s.connection
    split at h
    next => cases h
    next outcome connection _ hrun =>
      rw [hrun] at hle hnew hlives
      obtain ⟨hsound, hreplies, hclock⟩ := storedObjects_sound hnew (givesResult outcome)
      obtain rfl := Option.some.inj h
      exact
        { results := List.forall_mem_append.mpr ⟨hinv.results, hsound⟩
          replies := by
            rw [List.map_append]
            exact List.pairwise_append.mpr ⟨hinv.replies, hreplies,
              fun n hn m hm => (hinv.lt_clock n hn).trans_le (hclock m hm).1⟩
          lt_clock := by
            rw [List.map_append]
            exact List.forall_mem_append.mpr ⟨fun n hn => (hinv.lt_clock n hn).trans_le hle,
              fun n hn => (hclock n hn).2⟩
          flushed := hinv.flushed
          retainCount_eq := by
            dsimp only
            rw [unfreed, List.countP_append, hinv.retainCount_eq, Nat.add_assoc]
            congr 2
            exact (unfreed_storedObjects _ _ _).symm
          alive := fun _ => hlives.trans halive }
  next => cases h

/-- One reference less, of an owner or of a result. -/
theorem inv_releaseConnection (hsound : ∀ r ∈ s.results, r.Sound E)
    (hreplies : (s.results.map fun r => r.source.number).Pairwise (· < ·))
    (hclock : ∀ n ∈ s.results.map (fun r => r.source.number), n < s.connection.clock)
    (hflushed : s.flushed = []) (hcount : s.retainCount = s.owners + unfreed s.results + 1)
    (halive : s.connection.alive = true) :
    Inv E (releaseConnection s) := by
  rw [releaseConnection]
  dsimp only
  split
  next hzero =>
    have hdealloc : (dealloc s.connection).2.clock = s.connection.clock := by
      rw [dealloc_apply, closed]
      split
      · rfl
      · rfl
    refine ⟨hsound, hreplies, ?_, hflushed, ?_, ?_⟩
    · rw [hdealloc]
      exact hclock
    · dsimp only
      omega
    · intro hpos
      exact absurd hzero (Nat.ne_of_gt hpos)
  next =>
    refine ⟨hsound, hreplies, hclock, hflushed, ?_, fun _ => halive⟩
    dsimp only
    omega

theorem inv_onReturned (hinv : Inv E s) {f : ResultObject → ResultObject}
    (hsound : ∀ r : ResultObject, r.Sound E → (f r).Sound E)
    (hsource : ∀ r, (f r).source = r.source) (hfreed : ∀ r, (f r).freed = r.freed)
    (h : onReturned s i f = some t) : Inv E t := by
  rw [onReturned] at h
  split at h
  next => cases h
  next r hi =>
    split at h
    next hheld =>
      obtain rfl := Option.some.inj h
      have hr : r.Sound E := hinv.results r (List.mem_of_getElem? hi)
      exact hinv.set hi hheld.1 (hsound r hr) (hsource r)
        ((hfreed r).trans (hr.freed_of_held hheld.1))
    next => cases h

theorem inv_retainResult (hinv : Inv E s) (h : step E malloc s (.retainResult i) = some t) :
    Inv E t := by
  rw [step, onResult] at h
  split at h
  next => cases h
  next r hi =>
    split at h
    next hheld =>
      obtain rfl := Option.some.inj h
      have hsound : r.Sound E := hinv.results r (List.mem_of_getElem? hi)
      have hfreed := hsound.freed_of_held hheld
      refine hinv.set hi hheld (hsound.withCounts hheld ?_) rfl hfreed
      rw [hfreed, if_neg (Nat.succ_ne_zero _)]
    next => cases h

theorem inv_releaseResult (hinv : Inv E s) (h : step E malloc s (.releaseResult i) = some t) :
    Inv E t := by
  rw [step, onResult] at h
  split at h
  next => cases h
  next r hi =>
    split at h
    next hheld =>
      have hsound : r.Sound E := hinv.results r (List.mem_of_getElem? hi)
      have hfreed := hsound.freed_of_held hheld
      obtain rfl := Option.some.inj h
      dsimp only
      split
      next hlast =>
        -- the last owner: the `MYSQL_RES` is freed, and the connection let go
        have hgone : ResultObject.Sound E
            { r with retainCount := r.retainCount - 1, freed := r.freed + 1 } :=
          hsound.withCounts hheld (by rw [hfreed, if_pos hlast])
        have hsources : (s.results.set i
            { r with retainCount := r.retainCount - 1, freed := r.freed + 1 }).map
              (fun r => r.source.number) = s.results.map fun r => r.source.number :=
          sources_set hi rfl
        have hcount : unfreed s.results = unfreed (s.results.set i
            { r with retainCount := r.retainCount - 1, freed := r.freed + 1 }) + 1 :=
          unfreed_set_freed hi hfreed (by rw [hfreed])
        rw [deallocResult, mysql_free_result]
        dsimp only
        rw [List.set_set]
        refine inv_releaseConnection (sound_set hinv.results hgone) ?_ ?_ ?_ ?_ (hinv.alive ?_)
        · rw [hsources]
          exact hinv.replies
        · rw [hsources]
          exact hinv.lt_clock
        · dsimp only
          rw [hsound.handle]
          exact hinv.flushed
        · dsimp only
          rw [hinv.retainCount_eq, hcount, Nat.add_assoc]
        · rw [hinv.retainCount_eq, hcount]
          omega
      next hmore =>
        refine hinv.set hi hheld (hsound.withCounts hheld ?_) rfl hfreed
        rw [hfreed, if_neg hmore]
    next => cases h

theorem inv_step (op : Op) (hinv : Inv E s) (h : step E malloc s op = some t) : Inv E t := by
  cases op with
  | send op => exact inv_send hinv h
  | retain =>
      rw [step] at h
      split at h
      next howned =>
        obtain rfl := Option.some.inj h
        have hcount := hinv.retainCount_eq
        have halive := hinv.alive (by omega)
        refine ⟨hinv.results, hinv.replies, hinv.lt_clock, hinv.flushed, ?_, fun _ => halive⟩
        dsimp only
        omega
      next => cases h
  | release =>
      rw [step] at h
      split at h
      next howned =>
        obtain rfl := Option.some.inj h
        have hcount := hinv.retainCount_eq
        have halive := hinv.alive (by omega)
        refine inv_releaseConnection hinv.results hinv.replies hinv.lt_clock hinv.flushed ?_ halive
        dsimp only
        omega
      next => cases h
  | nextRow i =>
      exact inv_onReturned hinv (fun _ hr => hr.nextRow malloc) (fun _ => rfl) (fun _ => rfl) h
  | nextRowAsArray i =>
      exact inv_onReturned hinv (fun _ hr => hr.nextRow malloc) (fun _ => rfl) (fun _ => rfl) h
  | rowCount i =>
      exact inv_onReturned hinv (fun _ hr => hr.rowCount) (fun _ => rfl) (fun _ => rfl) h
  | seekToRow i theRow =>
      exact inv_onReturned hinv (fun _ hr => hr.seekToRow theRow) (fun _ => rfl) (fun _ => rfl) h
  | retainResult i => exact inv_retainResult hinv h
  | releaseResult i => exact inv_releaseResult hinv h

theorem inv_of_reaches {creation : Creation} (hs : initial E creation = some s)
    (h : (objects E malloc).Reaches (fun _ _ => True) s t) : Inv E t :=
  h.invariant (fun _ op _ hinv _ hstep => inv_step op hinv hstep) (inv_initial hs)

end

/-- However calls on results and on their connection are mixed, the results outlive their
sessions and give the rows of their replies. -/
theorem outlives_of_reaches {E : Environment} {malloc : MYSQL_ROW → Nat} {creation : Creation}
    {s t : State} (hs : initial E creation = some s)
    (h : (objects E malloc).Reaches (fun _ _ => True) s t) : Outlives E t :=
  (inv_of_reaches hs h).outlives

/-- Each of them is freed once exactly if the names of the columns of all are UTF-8. -/
theorem survives_iff (E : Environment) (malloc : MYSQL_ROW → Nat) (creation : Creation)
    {s t : State} (hs : initial E creation = some s)
    (h : (objects E malloc).Reaches (fun _ _ => True) s t) :
    Survives E t ↔ ∀ r ∈ t.results, NamesColumns E r.source :=
  (inv_of_reaches hs h).result_survives_iff

/-! ## A server with one table -/

/-- A server that has no variables to show, and then answers with a number. -/
def serving : Environment :=
  { answering with
    reply := fun n => if n < 5 then .columns [] (.rows [] noRow_fits false) else answering.reply n }

/-- A result that is read when the connection was closed and let go. -/
def readAfterRelease : List Op :=
  [.send connectToHost, .send (.query (lit "SELECT 7") []), .send .disconnect, .release, .nextRow 2,
    .rowCount 2, .seekToRow 2 0, .nextRowAsArray 2, .releaseResult 2]

theorem namesColumns_serving (source : Source) : NamesColumns serving source := by
  intro fields rows h column hcolumn
  cases source with
  | processReply n => cases h
  | reply n =>
      rw [Environment.resultSet, serving] at h
      dsimp only at h
      split at h
      next =>
        cases h
        cases hcolumn
      next =>
        cases h
        obtain rfl := List.mem_singleton.mp hcolumn
        rfl

theorem survives_serving :
    ∃ s t, initial serving .init = some s ∧
      Transitions.run (step serving fun _ => 1) s readAfterRelease = some t ∧
        Survives serving t := by
  have hrun : ((initial serving .init).bind fun s =>
      Transitions.run (step serving fun _ => 1) s readAfterRelease).isSome = true := by
    decide +kernel
  obtain ⟨t, ht⟩ := Option.isSome_iff_exists.mp hrun
  obtain ⟨s, hs, ht⟩ := Option.bind_eq_some_iff.mp ht
  refine ⟨s, t, hs, ht, ?_⟩
  exact (survives_iff serving (fun _ => 1) .init hs
    (Transitions.Reaches.of_run readAfterRelease ht)).mpr fun r _ => namesColumns_serving r.source

/-- The name of its column is one byte that is no UTF-8. -/
def misnaming : Environment :=
  { serving with
    reply := fun n =>
      if n < 5 then serving.reply n
      else .columns [⟨cString [0xE9], .longlong, 0⟩] (.rows [[some [0x37]]] oneValue_fits false) }

/-- The result of a query that raised is never freed. -/
theorem not_survives :
    ¬ ∀ (E : Environment) (malloc : MYSQL_ROW → Nat) (creation : Creation) (s t : State),
      initial E creation = some s → (objects E malloc).Reaches (fun _ _ => True) s t →
        Survives E t := by
  intro h
  have hrun : (((initial misnaming .init).bind fun s =>
      Transitions.run (step misnaming fun _ => 1) s
        [.send connectToHost, .send (.query (lit "SELECT 7") [])]).map fun t =>
          (t.results[2]?.map fun r => (r.retainCount, r.freed))) = some (some (0, 0)) := by
    decide +kernel
  obtain ⟨t, ht, hcounts⟩ := Option.map_eq_some_iff.mp hrun
  obtain ⟨s, hs, ht⟩ := Option.bind_eq_some_iff.mp ht
  obtain ⟨r, hr, hcounts⟩ := Option.map_eq_some_iff.mp hcounts
  have hsurvives := h misnaming (fun _ => 1) .init s t hs (Transitions.Reaches.of_run _ ht)
  have hfreed := hsurvives.freed r (List.mem_of_getElem? hr)
  rw [(Prod.mk.inj hcounts).1, (Prod.mk.inj hcounts).2] at hfreed
  exact absurd hfreed (by decide)

end Lifetimes

end MyConnection

end MGMDB
