import MGMDB.MySQL.Lengths
import MGMDB.MyResult.Rows
import MGMDB.Systems.Machine

/-!
# The cursor of a stored result

A stored result keeps its rows as a list of nodes, a pointer to the next node, the
current row and an array for the lengths of its values.  The row methods and
`seekToRow:` share all of them.  For its caller such a result is a cursor on the rows
that stays at the end: `At` says where the cursor is, and `run_at` that every call
answers as the cursor does.

`seekToRow:` takes a place behind the last row back to it, but not the place just
behind it.  `clamps_iff` says what that leaves of the clamp.
-/

namespace MGMDB

open Systems

/-! ## The result in memory -/

/-- A row in its buffer, which begins at `base`. -/
structure MYSQL_ROWS where
  base : Nat
  row : RowBuffer

/-- What `mysql_store_result` reads: the columns and the rows, which a `my_ulonglong`
counts. -/
structure ResultSet where
  fields : List MYSQL_FIELD
  names : List NSString
  names_eq : MGMMyResult.columnNames fields = .ok names
  rows : List MYSQL_ROW
  row_length : ∀ row ∈ rows, row.length = fields.length
  rows_lt : rows.length < 2 ^ 64

/-- An `MGMMyResult` with the members of its `MYSQL_RES`.  A pointer into the list of
rows is the list from there on. -/
structure StoredResult where
  fields : List MYSQL_FIELD
  names : List NSString
  data : List MYSQL_ROWS
  row_count : UInt64
  data_cursor : List MYSQL_ROWS
  current_row : Option MYSQL_ROWS
  lengths : List Nat

/-- The loop of `cli_read_rows`.  `malloc` has the addresses of the buffers. -/
def cli_read_rows (malloc : Nat → Nat) : Nat → List MYSQL_ROW → List MYSQL_ROWS
  | _, [] => []
  | i, row :: rows => ⟨malloc i, storeRow row (malloc i)⟩ :: cli_read_rows malloc (i + 1) rows

/-- The result as it is stored. -/
def ResultSet.stored (set : ResultSet) (malloc : Nat → Nat) : StoredResult where
  fields := set.fields
  names := set.names
  data := cli_read_rows malloc 0 set.rows
  row_count := .ofNat set.rows.length
  data_cursor := cli_read_rows malloc 0 set.rows
  current_row := none
  lengths := List.replicate set.fields.length 0

/-- The result as an object that knows the rows only. -/
def ResultSet.object (set : ResultSet) : MGMMyResult :=
  ⟨.stored set.fields set.rows set.row_length, set.names, set.names_eq⟩

/-- The same with the cursor at a place. -/
def ResultSet.objectAt (set : ResultSet) (p : Nat) : MGMMyResult :=
  ⟨set.object.result.withCursor (set.rows.drop p) (List.drop_suffix _ _), set.names, set.names_eq⟩

namespace StoredResult

/-- `mysql_fetch_row`, with NULL as `none`. -/
def mysql_fetch_row (res : StoredResult) : Option MYSQL_ROWS × StoredResult :=
  match res.data_cursor with
  | [] => (none, { res with current_row := none })
  | tmp :: next => (some tmp, { res with data_cursor := next, current_row := some tmp })

/-- `mysql_fetch_lengths`, which writes into the array of the result. -/
def mysql_fetch_lengths (res : StoredResult) : Option (List Nat) × StoredResult :=
  match res.current_row with
  | none => (none, res)
  | some column =>
      let lengths :=
        cli_fetch_lengths (column.row.data ++ [some column.row.last]) 0 none res.lengths
      (some lengths, { res with lengths := lengths })

/-- The walk of `mysql_data_seek`, `row-- && tmp`. -/
def walk : UInt64 → List MYSQL_ROWS → List MYSQL_ROWS
  | _, [] => []
  | row, tmp :: next => if row = 0 then tmp :: next else walk (row - 1) next

/-- `mysql_data_seek`. -/
def mysql_data_seek (res : StoredResult) (row : UInt64) : StoredResult :=
  { res with current_row := none, data_cursor := walk row res.data }

/-- The values a row method copies. -/
def copied (column : MYSQL_ROWS) (lengths : List Nat) : MYSQL_ROW :=
  List.zipWith
    (fun pointer length => pointer.map fun place =>
      (column.row.bytes.drop (place - column.base)).take length)
    column.row.data lengths

end StoredResult

/-! ## The methods -/

namespace MGMMyResult

/-- The two row methods. -/
inductive Form where
  | nextRowAsArray
  | nextRow
deriving DecidableEq, Repr

/-- What they return. -/
inductive Row where
  | array (os : List Obj)
  | dictionary (d : NSDictionary)

/-- What a row method returns for the objects of a row. -/
def Form.row (names : List NSString) (os : List Obj) : Form → Row
  | .nextRowAsArray => .array os
  | .nextRow => .dictionary (setObjects names os ∅)

/-- A call.  A row is read with the zone the connection has by then. -/
inductive Call where
  | next (form : Form) (timeZone : NSTimeZone)
  | rowCount
  | seekToRow (theRow : UInt64)

/-- `nextRowAsArray` and `nextRow`. -/
def nextOf (F : Foundation) (form : Form) (timeZone : NSTimeZone) (res : StoredResult) :
    Option Row × StoredResult :=
  match res.mysql_fetch_row with
  | (none, res) => (none, res)
  | (some row, res) =>
      -- there is a current row, so the lengths are not NULL
      let (lengths, res) := res.mysql_fetch_lengths
      let values := StoredResult.copied row (lengths.getD [])
      (some (form.row res.names (List.zipWith (rowObject F timeZone) res.fields values)), res)

/-- The methods of a result about its rows, as a machine. -/
def calls (F : Foundation) : Machine StoredResult Call (Cursor.Answer Row) where
  step
    | res, .next form timeZone =>
        (.row (nextOf F form timeZone res).1, (nextOf F form timeZone res).2)
    | res, .rowCount => (.count res.row_count.toNat, res)
    | res, .seekToRow theRow => (.moved, res.mysql_data_seek (soughtRow res.row_count theRow))

/-- What a row method makes of a row. -/
def decode (F : Foundation) (set : ResultSet) (call : Form × NSTimeZone) (row : MYSQL_ROW) : Row :=
  call.1.row set.names (set.object.rowObjects F call.2 row)

/-- The rows of a result, as its caller sees them. -/
def decodedRows (F : Foundation) (set : ResultSet) :
    Machine Nat (Cursor.Request (Form × NSTimeZone)) (Cursor.Answer Row) :=
  Cursor.sticky set.rows (decode F set)

/-- What a call asks of the cursor. -/
def Call.request (rowCount : UInt64) : Call → Cursor.Request (Form × NSTimeZone)
  | .next form timeZone => .next (form, timeZone)
  | .rowCount => .count
  | .seekToRow theRow => .seek (soughtRow rowCount theRow).toNat

/-! ## The list of rows -/

section
variable {malloc : Nat → Nat}

theorem drop_cli_read_rows (rows : List MYSQL_ROW) : ∀ i p,
    (cli_read_rows malloc i rows).drop p = cli_read_rows malloc (i + p) (rows.drop p) := by
  induction rows with
  | nil => simp [cli_read_rows]
  | cons row rows ih =>
      intro i p
      cases p with
      | zero => rfl
      | succ p =>
          rw [cli_read_rows, List.drop_succ_cons, List.drop_succ_cons, ih,
            show i + 1 + p = i + (p + 1) by omega]

theorem length_cli_read_rows (rows : List MYSQL_ROW) : ∀ i,
    (cli_read_rows malloc i rows).length = rows.length := by
  induction rows with
  | nil => exact fun _ => rfl
  | cons row rows ih => exact fun i => congrArg (· + 1) (ih (i + 1))

/-- The walk stops at the place, or at the end of the list. -/
theorem walk_eq_drop (rows : List MYSQL_ROWS) : ∀ row : UInt64,
    StoredResult.walk row rows = rows.drop row.toNat := by
  induction rows with
  | nil => simp [StoredResult.walk]
  | cons tmp next ih =>
      intro row
      rw [StoredResult.walk]
      split
      next hzero => rw [hzero]; rfl
      next hne =>
        have hpos : 0 < row.toNat := by
          rw [Nat.pos_iff_ne_zero]
          intro h
          exact hne (UInt64.toNat_inj.mp h)
        have hone : (1 : UInt64) ≤ row := UInt64.le_iff_toNat_le.mpr hpos
        have hpred : (row - 1).toNat = row.toNat - 1 := UInt64.toNat_sub_of_le row 1 hone
        obtain ⟨n, hn⟩ := Nat.exists_eq_succ_of_ne_zero (Nat.ne_of_gt hpos)
        rw [ih, hpred, hn, List.drop_succ_cons, Nat.succ_sub_one]

/-- The array of lengths may have any contents before. -/
theorem copied_storeRow (row : MYSQL_ROW) (base : Nat) {lengths : List Nat}
    (h : lengths.length = row.length) :
    StoredResult.copied ⟨base, storeRow row base⟩
      (cli_fetch_lengths ((storeRow row base).data ++ [some (storeRow row base).last]) 0 none
        lengths) = row := by
  have hlengths := cli_fetch_lengths_storeRow row base 0 none lengths (fun _ h => by cases h)
    (by rw [h, Nat.zero_add])
  rw [StoredResult.copied, hlengths, List.take_zero, List.nil_append]
  exact zipWith_storeRow row base []

end

/-! ## Where the cursor is -/

/-- The result `set` in memory, with the cursor at place `p`.  The current row and the
lengths may be those of any call before. -/
structure At (set : ResultSet) (malloc : Nat → Nat) (res : StoredResult) (p : Nat) : Prop where
  fields : res.fields = set.fields
  names : res.names = set.names
  data : res.data = cli_read_rows malloc 0 set.rows
  row_count : res.row_count = .ofNat set.rows.length
  data_cursor : res.data_cursor = cli_read_rows malloc p (set.rows.drop p)
  length_lengths : res.lengths.length = set.fields.length
  le_length : p ≤ set.rows.length

section
variable {F : Foundation} {set : ResultSet} {malloc : Nat → Nat} {res : StoredResult} {p : Nat}

theorem at_stored (set : ResultSet) (malloc : Nat → Nat) : At set malloc (set.stored malloc) 0 where
  fields := rfl
  names := rfl
  data := rfl
  row_count := rfl
  data_cursor := rfl
  length_lengths := List.length_replicate
  le_length := Nat.zero_le _

theorem toNat_rowCount (set : ResultSet) :
    (UInt64.ofNat set.rows.length).toNat = set.rows.length :=
  UInt64.toNat_ofNat_of_lt' set.rows_lt

/-- A row call before the end gives the row under the cursor. -/
theorem next_at_lt (h : At set malloc res p) (hp : p < set.rows.length) (form : Form)
    (timeZone : NSTimeZone) :
    (nextOf F form timeZone res).1 = some (decode F set (form, timeZone) set.rows[p]) ∧
      At set malloc (nextOf F form timeZone res).2 (p + 1) := by
  have hcursor := h.data_cursor
  rw [List.drop_eq_getElem_cons hp, cli_read_rows] at hcursor
  have hrow : set.rows[p].length = set.fields.length := set.row_length _ (List.getElem_mem hp)
  have hcopied := copied_storeRow set.rows[p] (malloc p) (h.length_lengths.trans hrow.symm)
  have hlengths := cli_fetch_lengths_storeRow set.rows[p] (malloc p) 0 none res.lengths
    (fun _ h => by cases h) (by rw [h.length_lengths, hrow, Nat.zero_add])
  have hnext : nextOf F form timeZone res =
      (some (form.row res.names (List.zipWith (rowObject F timeZone) res.fields set.rows[p])),
        { res with
          data_cursor := cli_read_rows malloc (p + 1) (set.rows.drop (p + 1))
          current_row := some ⟨malloc p, storeRow set.rows[p] (malloc p)⟩
          lengths := set.rows[p].map valueLength }) := by
    simp only [nextOf, StoredResult.mysql_fetch_row, hcursor, StoredResult.mysql_fetch_lengths,
      Option.getD_some, hcopied]
    rw [hlengths, List.take_zero, List.nil_append]
  rw [hnext]
  refine ⟨?_, ?_⟩
  · rw [h.names, h.fields]
    rfl
  · exact
      { fields := h.fields
        names := h.names
        data := h.data
        row_count := h.row_count
        data_cursor := rfl
        length_lengths := by rw [List.length_map, hrow]
        le_length := hp }

/-- At the end it gives none, and the cursor stays. -/
theorem next_at_end (h : At set malloc res set.rows.length) (form : Form)
    (timeZone : NSTimeZone) :
    (nextOf F form timeZone res).1 = none ∧
      At set malloc (nextOf F form timeZone res).2 set.rows.length := by
  have hcursor := h.data_cursor
  rw [List.drop_length] at hcursor
  have hnext : nextOf F form timeZone res = (none, { res with current_row := none }) := by
    simp only [nextOf, StoredResult.mysql_fetch_row, hcursor, cli_read_rows]
  rw [hnext]
  exact ⟨rfl, ⟨h.fields, h.names, h.data, h.row_count, h.data_cursor, h.length_lengths, h.le_length⟩⟩

/-- A seek moves the cursor, at most to the end. -/
theorem seek_at (h : At set malloc res p) (row : UInt64) :
    At set malloc (res.mysql_data_seek row) (min row.toNat set.rows.length) where
  fields := h.fields
  names := h.names
  data := h.data
  row_count := h.row_count
  data_cursor := by
    show StoredResult.walk row res.data = _
    rw [walk_eq_drop, h.data, drop_cli_read_rows, Nat.zero_add]
    rcases Nat.le_total row.toNat set.rows.length with hle | hge
    · rw [Nat.min_eq_left hle]
    · rw [Nat.min_eq_right hge, List.drop_eq_nil_of_le hge, List.drop_length]
      rfl
  length_lengths := h.length_lengths
  le_length := Nat.min_le_right _ _

/-- Every call answers as the cursor does. -/
theorem step_at (h : At set malloc res p) (call : Call) :
    ((calls F).step res call).1 =
        ((decodedRows F set).step p (call.request (.ofNat set.rows.length))).1 ∧
      At set malloc ((calls F).step res call).2
        ((decodedRows F set).step p (call.request (.ofNat set.rows.length))).2 := by
  cases call with
  | next form timeZone =>
      rw [decodedRows, Call.request]
      rcases Nat.lt_or_eq_of_le h.le_length with hp | rfl
      · rw [Cursor.sticky_next_lt hp]
        obtain ⟨hrow, hat⟩ := next_at_lt (F := F) h hp form timeZone
        exact ⟨congrArg Cursor.Answer.row hrow, hat⟩
      · rw [Cursor.sticky_next_end]
        obtain ⟨hrow, hat⟩ := next_at_end (F := F) h form timeZone
        exact ⟨congrArg Cursor.Answer.row hrow, hat⟩
  | rowCount =>
      refine ⟨?_, h⟩
      show Cursor.Answer.count res.row_count.toNat = .count set.rows.length
      rw [h.row_count, toNat_rowCount]
  | seekToRow theRow =>
      refine ⟨rfl, ?_⟩
      have hseek := seek_at h (soughtRow res.row_count theRow)
      rw [h.row_count] at hseek
      show At set malloc (res.mysql_data_seek (soughtRow res.row_count theRow)) _
      rw [h.row_count]
      exact hseek

/-- Every run of calls is one of the cursor. -/
theorem run_at (h : At set malloc res p) (made : List Call) :
    ((calls F).run res made).1 =
        ((decodedRows F set).run p (made.map (Call.request (.ofNat set.rows.length)))).1 ∧
      At set malloc ((calls F).run res made).2
        ((decodedRows F set).run p (made.map (Call.request (.ofNat set.rows.length)))).2 :=
  Machine.run_sim_map (fun _ _ call h => step_at h call) res p made h

end

/-! ## Seeks in range -/

/-- A seek to one of `n` rows, or no seek. -/
def Call.InRange (n : Nat) : Call → Prop
  | .seekToRow theRow => theRow.toNat < n
  | .next _ _ | .rowCount => True

/-- What a call asks of a cursor that a seek sets to its row. -/
def Call.asked : Call → Cursor.Request (Form × NSTimeZone)
  | .next form timeZone => .next (form, timeZone)
  | .rowCount => .count
  | .seekToRow theRow => .seek theRow.toNat

/-- A row call in a form and a zone. -/
def Call.of (call : Form × NSTimeZone) : Call := .next call.1 call.2

section
variable {set : ResultSet}

theorem soughtRow_of_le {theRow : UInt64} (h : theRow.toNat ≤ set.rows.length) :
    soughtRow (.ofNat set.rows.length) theRow = theRow := by
  refine if_neg ?_
  rw [UInt64.lt_iff_toNat_lt, toNat_rowCount]
  exact Nat.not_lt.mpr h

theorem request_of_inRange {call : Call} (h : call.InRange set.rows.length) :
    call.request (.ofNat set.rows.length) = call.asked := by
  cases call with
  | next form timeZone => rfl
  | rowCount => rfl
  | seekToRow theRow =>
      have hle : theRow.toNat ≤ set.rows.length := Nat.le_of_lt h
      rw [Call.request, soughtRow_of_le hle, Call.asked]

end

/-- One place answers every run of calls whose seeks are in range.  From any of its values
on, the row methods give each row once and in order, and behind the last one nil. -/
theorem run_eq_cursor (F : Foundation) (malloc : Nat → Nat) (set : ResultSet) (made : List Call)
    (h : ∀ call ∈ made, call.InRange set.rows.length) (later : List (Form × NSTimeZone)) :
    ((calls F).run (set.stored malloc) made).1 =
        ((decodedRows F set).run 0 (made.map Call.asked)).1 ∧
      ((calls F).run ((calls F).run (set.stored malloc) made).2 (later.map Call.of)).1 =
        later.mapIdx fun i call =>
          .row (set.rows[((decodedRows F set).run 0 (made.map Call.asked)).2 + i]?.map
            (decode F set call)) := by
  have hasked : made.map (Call.request (.ofNat set.rows.length)) = made.map Call.asked :=
    List.map_congr_left fun call hcall => request_of_inRange (h call hcall)
  obtain ⟨hanswers, hat⟩ := run_at (F := F) (at_stored set malloc) made
  rw [hasked] at hanswers hat
  refine ⟨hanswers, ?_⟩
  have hnext : (later.map Call.of).map (Call.request (.ofNat set.rows.length)) =
      later.map .next := by
    rw [List.map_map]
    rfl
  rw [(run_at hat _).1, hnext]
  exact congrArg Prod.fst (Cursor.sticky_run_next _ later hat.le_length)

/-! ## All seeks -/

/-- The number of the row under the cursor. -/
def place (res : StoredResult) : Nat := res.data.length - res.data_cursor.length

/-- The result after some calls and a seek. -/
def sought (F : Foundation) (malloc : Nat → Nat) (set : ResultSet) (before : List Call)
    (theRow : UInt64) : StoredResult :=
  ((calls F).run (set.stored malloc) (before ++ [.seekToRow theRow])).2

/-- Behind a seek, both row methods give the row asked for, or the last one.  There is none
in an empty result. -/
def Clamps (F : Foundation) (malloc : Nat → Nat) (set : ResultSet) (before : List Call)
    (theRow : UInt64) : Prop :=
  ∀ form timeZone, (nextOf F form timeZone (sought F malloc set before theRow)).1 =
    set.rows[min theRow.toNat (set.rows.length - 1)]?.map (decode F set (form, timeZone))

/-- Where a seek leaves the cursor on `n` rows. -/
def landing (n theRow : Nat) : Nat := if n < theRow then n - 1 else theRow

section
variable {F : Foundation} {set : ResultSet} {malloc : Nat → Nat} {res : StoredResult} {p : Nat}

theorem place_at (h : At set malloc res p) : place res = p := by
  have hle := h.le_length
  rw [place, h.data, h.data_cursor, length_cli_read_rows, length_cli_read_rows, List.length_drop]
  omega

theorem next_at (h : At set malloc res p) (form : Form) (timeZone : NSTimeZone) :
    (nextOf F form timeZone res).1 = set.rows[p]?.map (decode F set (form, timeZone)) := by
  rcases Nat.lt_or_eq_of_le h.le_length with hp | rfl
  · rw [(next_at_lt h hp form timeZone).1, List.getElem?_eq_getElem hp, Option.map_some]
  · rw [(next_at_end h form timeZone).1, List.getElem?_eq_none (Nat.le_refl _), Option.map_none]

/-- The memory refines the object that knows the rows only. -/
theorem nextOf_eq_objectAt (h : At set malloc res p) (form : Form) (timeZone : NSTimeZone) :
    (nextOf F form timeZone res).1 =
      match form with
      | .nextRowAsArray => ((set.objectAt p).nextRowAsArray F timeZone).1.map .array
      | .nextRow => ((set.objectAt p).nextRow F timeZone).1.map .dictionary := by
  have hcursor : (set.objectAt p).result.data_cursor.head? = set.rows[p]? := List.head?_drop
  rw [next_at h form timeZone]
  cases hrow : set.rows[p]? with
  | none =>
      rw [hrow] at hcursor
      cases form with
      | nextRowAsArray => rw [nextRowAsArray_end hcursor]; rfl
      | nextRow => rw [nextRow_end hcursor]; rfl
  | some row =>
      rw [hrow] at hcursor
      cases form with
      | nextRowAsArray => rw [nextRowAsArray_fst hcursor]; rfl
      | nextRow => rw [nextRow_fst hcursor]; rfl

theorem row_count_eq_objectAt (h : At set malloc res p) :
    res.row_count = (set.objectAt p).rowCount := h.row_count

/-- A seek does on the memory what it does on the object. -/
theorem seek_eq_objectAt (h : At set malloc res p) (theRow : UInt64) :
    ∃ q, At set malloc (res.mysql_data_seek (soughtRow res.row_count theRow)) q ∧
      (set.objectAt p).seekToRow theRow = set.objectAt q := by
  refine ⟨_, seek_at h _, ?_⟩
  rw [row_count_eq_objectAt h]
  rw [seekToRow]
  generalize soughtRow (set.objectAt p).rowCount theRow = row
  have hdrop : set.rows.drop row.toNat = set.rows.drop (min row.toNat set.rows.length) := by
    rcases Nat.le_total row.toNat set.rows.length with hle | hge
    · rw [Nat.min_eq_left hle]
    · rw [Nat.min_eq_right hge, List.drop_eq_nil_of_le hge, List.drop_length]
  have hresult : (set.objectAt p).result.mysql_data_seek row =
      (set.objectAt (min row.toNat set.rows.length)).result := by
    simp only [ResultSet.objectAt, MYSQL_RES.mysql_data_seek, MYSQL_RES.withCursor]
    congr 1
  simp only [hresult]
  rfl

/-- The subtraction that wraps around is cut at the end of an empty list. -/
theorem min_soughtRow (set : ResultSet) (theRow : UInt64) :
    min (soughtRow (.ofNat set.rows.length) theRow).toNat set.rows.length =
      landing set.rows.length theRow.toNat := by
  rw [soughtRow, landing]
  simp only [UInt64.lt_iff_toNat_lt, toNat_rowCount]
  split
  next hlt =>
    rcases Nat.eq_zero_or_pos set.rows.length with hzero | hpos
    · rw [hzero, Nat.min_zero]
    · have hone : (1 : UInt64) ≤ .ofNat set.rows.length := by
        rw [UInt64.le_iff_toNat_le, toNat_rowCount]
        exact hpos
      rw [UInt64.toNat_sub_of_le _ _ hone, toNat_rowCount]
      exact Nat.min_eq_left (Nat.sub_le _ _)
  next hle => exact Nat.min_eq_left (Nat.not_lt.mp hle)

theorem at_sought (F : Foundation) (malloc : Nat → Nat) (set : ResultSet) (before : List Call)
    (theRow : UInt64) :
    At set malloc (sought F malloc set before theRow) (landing set.rows.length theRow.toNat) := by
  have hbefore := (run_at (F := F) (at_stored set malloc) before).2
  have hat := (step_at (F := F) hbefore (.seekToRow theRow)).2
  rw [← min_soughtRow, sought, Machine.run_append]
  exact hat

end

/-- A seek is clamped to the last row unless it is to the place just behind it.  And from
there a larger row number takes the cursor back. -/
theorem clamps_iff (F : Foundation) (malloc : Nat → Nat) (set : ResultSet) (before : List Call)
    (theRow : UInt64) :
    (Clamps F malloc set before theRow ↔ (theRow.toNat = set.rows.length → set.rows = [])) ∧
      ∀ later : UInt64, theRow ≤ later →
        (place (sought F malloc set before theRow) ≤ place (sought F malloc set before later) ↔
          (theRow.toNat = set.rows.length → set.rows.length < later.toNat → set.rows = [])) := by
  have hempty : set.rows = [] ↔ set.rows.length = 0 := List.length_eq_zero_iff.symm
  constructor
  · have hat := at_sought F malloc set before theRow
    simp only [Clamps, next_at hat]
    constructor
    · intro hclamps hend
      by_contra hne
      have hpos : 0 < set.rows.length := List.length_pos_iff.mpr hne
      have hrow := hclamps .nextRow ⟨[]⟩
      rw [landing, if_neg (by omega), hend, List.getElem?_eq_none (Nat.le_refl _),
        Nat.min_eq_right (Nat.sub_le _ _), List.getElem?_eq_getElem (by omega)] at hrow
      cases hrow
    · intro hend form timeZone
      have hplace : landing set.rows.length theRow.toNat =
          min theRow.toNat (set.rows.length - 1) ∨ set.rows = [] := by
        rw [landing]
        by_cases hzero : set.rows = []
        · exact .inr hzero
        · left
          have hne : theRow.toNat ≠ set.rows.length := fun h => hzero (hend h)
          split
          · omega
          · omega
      rcases hplace with hplace | hzero
      · rw [hplace]
      · rw [hzero, List.getElem?_nil, List.getElem?_nil]
  · intro later hle
    have hle : theRow.toNat ≤ later.toNat := UInt64.le_iff_toNat_le.mp hle
    rw [place_at (at_sought F malloc set before theRow),
      place_at (at_sought F malloc set before later), landing, landing, hempty]
    split
    · split
      · omega
      · omega
    · split
      · omega
      · omega

/-! ## One row and two -/

/-- The answer to `SELECT 7`. -/
def sevenSet : ResultSet where
  fields := [⟨cString [0x37], .longlong, 0⟩]
  names := [lit "7"]
  names_eq := rfl
  rows := [[some [0x37]]]
  row_length := by simp
  rows_lt := by decide

/-- The answer to `SELECT 7 UNION ALL SELECT 8`. -/
def sevenEight : ResultSet where
  fields := [⟨cString [0x37], .longlong, 0⟩]
  names := [lit "7"]
  names_eq := rfl
  rows := [[some [0x37]], [some [0x38]]]
  row_length := by simp
  rows_lt := by decide

/-- The second row. -/
theorem nextOf_eq_objectAt_second :
    (nextOf default .nextRow ⟨[]⟩ ((sevenEight.stored fun _ => 0).mysql_data_seek 1)).1 =
      ((sevenEight.objectAt 1).nextRow default ⟨[]⟩).1.map .dictionary :=
  nextOf_eq_objectAt (seek_at (at_stored sevenEight fun _ => 0) 1) .nextRow ⟨[]⟩

/-- A seek to row 1 goes behind the only row, and one to row 2 back to it. -/
theorem not_clamps :
    ¬ ∀ (F : Foundation) (malloc : Nat → Nat) (set : ResultSet) (before : List Call)
      (theRow : UInt64), Clamps F malloc set before theRow := by
  intro h
  have hrow : none = some (decode default sevenSet (.nextRow, ⟨[]⟩) [some [0x37]]) :=
    h default (fun _ => 0) sevenSet [] 1 .nextRow ⟨[]⟩
  cases hrow

/-- The second row, and both of them behind a seek to the first. -/
theorem run_eq_cursor_sevenEight :
    ((calls default).run (sevenEight.stored fun _ => 0)
        [.seekToRow 1, .next .nextRow ⟨[]⟩, .seekToRow 0]).1 =
        ((decodedRows default sevenEight).run 0
          ([.seekToRow 1, .next .nextRow ⟨[]⟩, .seekToRow 0].map Call.asked)).1 ∧
      ((calls default).run ((calls default).run (sevenEight.stored fun _ => 0)
          [.seekToRow 1, .next .nextRow ⟨[]⟩, .seekToRow 0]).2
          ([(.nextRowAsArray, ⟨[]⟩), (.nextRow, ⟨[]⟩)].map Call.of)).1 =
        [(.nextRowAsArray, ⟨[]⟩), (.nextRow, ⟨[]⟩)].mapIdx fun i call =>
          .row (sevenEight.rows[((decodedRows default sevenEight).run 0
            ([.seekToRow 1, .next .nextRow ⟨[]⟩, .seekToRow 0].map Call.asked)).2 + i]?.map
              (decode default sevenEight call)) := by
  refine run_eq_cursor default (fun _ => 0) sevenEight
    [.seekToRow 1, .next .nextRow ⟨[]⟩, .seekToRow 0] ?_
    [(.nextRowAsArray, ⟨[]⟩), (.nextRow, ⟨[]⟩)]
  simp [Call.InRange, sevenEight]

end MGMMyResult

end MGMDB
