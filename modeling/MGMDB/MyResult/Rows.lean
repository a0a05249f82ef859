import MGMDB.Dictionary
import MGMDB.MyResult.Column

/-!
# Rows from MySQL

An `MGMMyResult` is a stored result and the names of its columns, found once
when the object is made.  `nextRowAsArray` gives the values of a row in the
order of the columns and `nextRow` under the names of the columns.  Both take
the row under the cursor of the stored result, which `seekToRow:` moves.

`Yields` says that one of the two methods gives an object for a column of the
next row.  In a dictionary a later column of the same name replaces an earlier
one, so the earlier one is not given.
-/

namespace MGMDB

/-- What the program raises, or Foundation for it. -/
inductive NSException where
  | invalidArgument
deriving DecidableEq, Repr

namespace MGMMyResult

/-- `columnNames`.  A column without a name is called by its number.  A name that
is not UTF-8 becomes nil, which no array takes. -/
def columnNames (columns : List MYSQL_FIELD) : Except NSException (List NSString) :=
  columns.zipIdx.mapM fun (column, i) =>
    match stringWithUTF8String column.name with
    | none => .error .invalidArgument
    | some name => .ok (if name = [] then lit (toString i) else name)

end MGMMyResult

/-- An `MGMMyResult`, with what `columnNames` found when it was made. -/
structure MGMMyResult where
  result : MYSQL_RES
  names : List NSString
  names_eq : MGMMyResult.columnNames result.fields = .ok names

namespace MGMMyResult

/-- `initWithConnection:result:`, with nil for a NULL result. -/
def initWithResult : Option MYSQL_RES → Except NSException (Option MGMMyResult)
  | none => .ok none
  | some theResult =>
      match h : columnNames theResult.fields with
      | .error e => .error e
      | .ok names => .ok (some ⟨theResult, names, h⟩)

/-- A stored result becomes an object if its column names can be read. -/
theorem initWithResult_some_iff (theResult : MYSQL_RES) :
    (∃ r, initWithResult (some theResult) = .ok (some r)) ↔
      ∃ names, columnNames theResult.fields = .ok names := by
  simp only [initWithResult]
  split
  next e he => simp [he]
  next names hnames => simp [hnames]

theorem exists_mapM_eq_ok_iff {ε α β : Type} (f : α → Except ε β) (as : List α) :
    (∃ bs, as.mapM f = .ok bs) ↔ ∀ a ∈ as, ∃ b, f a = .ok b := by
  induction as with
  | nil => simp [pure, Except.pure]
  | cons a as ih =>
      rw [List.mapM_cons, List.forall_mem_cons, ← ih]
      cases f a with
      | error e => simp [bind, Except.bind]
      | ok b =>
          cases as.mapM f with
          | error e => simp [bind, Except.bind]
          | ok bs => simp [bind, Except.bind, pure, Except.pure]

/-- Column names can be read if each of them is UTF-8. -/
theorem columnNames_ok_iff (columns : List MYSQL_FIELD) :
    (∃ names, columnNames columns = .ok names) ↔
      ∀ column ∈ columns, (stringWithUTF8String column.name).isSome = true := by
  have hcolumns : columns.zipIdx.map Prod.fst = columns := List.zipIdx_map_fst 0 columns
  have hindexed : (∀ column ∈ columns, (stringWithUTF8String column.name).isSome = true) ↔
      ∀ p ∈ columns.zipIdx, (stringWithUTF8String p.1.name).isSome = true := by
    conv_lhs => rw [← hcolumns]
    exact List.forall_mem_map
  rw [columnNames, exists_mapM_eq_ok_iff, hindexed]
  refine forall₂_congr fun p _ => ?_
  obtain ⟨column, i⟩ := p
  cases hname : stringWithUTF8String column.name with
  | none => simp [hname]
  | some name => simp [hname]

/-- `mysql_fetch_row` on the result of the object. -/
def fetchRow (r : MGMMyResult) : Option MYSQL_ROW × MGMMyResult :=
  ((r.result.mysql_fetch_row).1, ⟨(r.result.mysql_fetch_row).2, r.names, r.names_eq⟩)

/-- `rowCount`. -/
def rowCount (r : MGMMyResult) : UInt64 := r.result.mysql_num_rows

/-- The row that `seekToRow:` seeks.  The subtraction wraps around when there are no
rows. -/
def soughtRow (rowCount theRow : UInt64) : UInt64 :=
  if rowCount < theRow then rowCount - 1 else theRow

/-- `seekToRow:`. -/
def seekToRow (r : MGMMyResult) (theRow : UInt64) : MGMMyResult :=
  ⟨r.result.mysql_data_seek (soughtRow r.rowCount theRow), r.names, r.names_eq⟩

/-- The loop of both row methods. -/
def rowObjects (F : Foundation) (timeZone : NSTimeZone) (r : MGMMyResult) (row : MYSQL_ROW) :
    List Obj :=
  List.zipWith (rowObject F timeZone) r.result.fields row

/-- `nextRowAsArray`. -/
def nextRowAsArray (F : Foundation) (timeZone : NSTimeZone) (r : MGMMyResult) :
    Option (List Obj) × MGMMyResult :=
  let (row, r) := r.fetchRow
  (row.map (r.rowObjects F timeZone), r)

/-- `nextRow`. -/
def nextRow (F : Foundation) (timeZone : NSTimeZone) (r : MGMMyResult) :
    Option NSDictionary × MGMMyResult :=
  let (row, r) := r.fetchRow
  (row.map fun row => setObjects r.names (r.rowObjects F timeZone row) ∅, r)

/-! ## What the methods give -/

/-- `nextRowAsArray` or `nextRow` gives `o` for the column `i` of the next row. -/
inductive Yields (F : Foundation) (timeZone : NSTimeZone) (r : MGMMyResult) (i : Nat)
    (o : Obj) : Prop where
  | array {os : List Obj} : (r.nextRowAsArray F timeZone).1 = some os → os[i]? = some o →
      Yields F timeZone r i o
  | dictionary {d : NSDictionary} {key : NSString} : (r.nextRow F timeZone).1 = some d →
      r.names[i]? = some key → (∀ j, i < j → r.names[j]? ≠ some key) → d.lookup key = some o →
      Yields F timeZone r i o

section
variable {F : Foundation} {timeZone : NSTimeZone} {r : MGMMyResult} {row : MYSQL_ROW} {i : Nat}
  {column : MYSQL_FIELD} {value : Option NSData}

theorem getElem?_rowObjects (hc : r.result.fields[i]? = some column) (hv : row[i]? = some value) :
    (r.rowObjects F timeZone row)[i]? = some (rowObject F timeZone column value) := by
  simp [rowObjects, List.getElem?_zipWith, hc, hv]

theorem nextRowAsArray_fst (hrow : r.result.data_cursor.head? = some row) :
    (r.nextRowAsArray F timeZone).1 = some (r.rowObjects F timeZone row) := by
  simp only [nextRowAsArray, fetchRow, MYSQL_RES.mysql_fetch_row, hrow, Option.map_some]
  rfl

theorem nextRow_fst (hrow : r.result.data_cursor.head? = some row) :
    (r.nextRow F timeZone).1 = some (setObjects r.names (r.rowObjects F timeZone row) ∅) := by
  simp only [nextRow, fetchRow, MYSQL_RES.mysql_fetch_row, hrow, Option.map_some]
  rfl

theorem nextRowAsArray_end (hend : r.result.data_cursor.head? = none) :
    (r.nextRowAsArray F timeZone).1 = none := by
  simp only [nextRowAsArray, fetchRow, MYSQL_RES.mysql_fetch_row, hend, Option.map_none]

theorem nextRow_end (hend : r.result.data_cursor.head? = none) :
    (r.nextRow F timeZone).1 = none := by
  simp only [nextRow, fetchRow, MYSQL_RES.mysql_fetch_row, hend, Option.map_none]

/-- Of a value of the next row both methods give the same object. -/
theorem yields_iff (hrow : r.result.data_cursor.head? = some row)
    (hc : r.result.fields[i]? = some column) (hv : row[i]? = some value) {o : Obj} :
    r.Yields F timeZone i o ↔ o = rowObject F timeZone column value := by
  have hi : (r.rowObjects F timeZone row)[i]? = some (rowObject F timeZone column value) :=
    getElem?_rowObjects hc hv
  constructor
  · intro h
    cases h with
    | array hos ho =>
        rw [nextRowAsArray_fst hrow, Option.some.injEq] at hos
        rw [← hos, hi, Option.some.injEq] at ho
        exact ho.symm
    | dictionary hd hk hlast ho =>
        rw [nextRow_fst hrow, Option.some.injEq] at hd
        rw [← hd, lookup_setObjects _ _ _ i hk hi hlast, Option.some.injEq] at ho
        exact ho.symm
  · rintro rfl
    exact .array (nextRowAsArray_fst hrow) hi

/-! ## Lossless values and NSNull -/

/-- The next row keeps all bytes of a value of a string or blob column exactly if
the column is a binary blob, or the bytes are UTF-8 without a NUL. -/
theorem yields_holds_iff (F : Foundation) (timeZone : NSTimeZone) {bytes : NSData}
    (hrow : r.result.data_cursor.head? = some row) (hc : r.result.fields[i]? = some column)
    (hv : row[i]? = some (some bytes))
    (ht : isStringType column.type = true ∨ isBlobType column.type = true) :
    (∀ o, r.Yields F timeZone i o → o.Holds bytes) ↔
      (isBlobType column.type = true ∧ column.flags &&& BINARY_FLAG ≠ 0) ∨
        (0 ∉ bytes ∧ (Unicode.ofUtf8 bytes).isSome = true) := by
  simp only [yields_iff hrow hc hv, forall_eq]
  exact holds_rowObject_iff F timeZone ht bytes

/-- The next row has `NSNull` for a column exactly if the server sent NULL, or a
value that its type cannot be read from. -/
theorem yields_null_iff (F : Foundation) (timeZone : NSTimeZone)
    (hrow : r.result.data_cursor.head? = some row) (hc : r.result.fields[i]? = some column)
    (hv : row[i]? = some value) :
    (∃ o, r.Yields F timeZone i o) ∧ ∀ o, r.Yields F timeZone i o →
      (o = .null ↔ ∀ bytes, value = some bytes → Unreadable F timeZone column bytes) := by
  simp only [yields_iff hrow hc hv, exists_eq, forall_eq, true_and]
  cases value with
  | none => simp [rowObject]
  | some bytes => simp [rowObject_eq_null_iff]

end

/-! ## Two time zones -/

/-- `value` is what the next row has in the column `i`. -/
def IsNext (r : MGMMyResult) (i : Nat) (column : MYSQL_FIELD) (value : Option NSData) : Prop :=
  ∃ row, r.result.data_cursor.head? = some row ∧ r.result.fields[i]? = some column ∧
    row[i]? = some value

section
variable {F : Foundation} {z z' : NSTimeZone} {r : MGMMyResult} {i : Nat} {column : MYSQL_FIELD}
  {value : Option NSData}

/-- A value is given as the same object in two zones exactly if it reads the same. -/
theorem yields_zone_iff (h : r.IsNext i column value) :
    (∀ o, r.Yields F z i o ↔ r.Yields F z' i o) ↔ SameDate F z z' column value := by
  obtain ⟨row, hrow, hc, hv⟩ := h
  simp only [yields_iff hrow hc hv]
  rw [← rowObject_eq_rowObject_iff]
  constructor
  · intro h
    exact (h _).mp rfl
  · intro h o
    rw [h]

theorem rowObjects_zone_iff {row : MYSQL_ROW} (hrow : r.result.data_cursor.head? = some row) :
    r.rowObjects F z row = r.rowObjects F z' row ↔
      ∀ i column value, r.IsNext i column value → SameDate F z z' column value := by
  constructor
  · rintro h i column value ⟨row', hrow', hc, hv⟩
    obtain rfl := Option.some.inj (hrow.symm.trans hrow')
    have hobject : some (rowObject F z column value) = some (rowObject F z' column value) := by
      rw [← getElem?_rowObjects hc hv, h, getElem?_rowObjects hc hv]
    exact (rowObject_eq_rowObject_iff F z z' column value).mp (Option.some.inj hobject)
  · intro h
    refine List.ext_getElem? fun i => ?_
    rw [rowObjects, rowObjects, List.getElem?_zipWith, List.getElem?_zipWith]
    cases hc : r.result.fields[i]? with
    | none => rfl
    | some column =>
      cases hv : row[i]? with
      | none => rfl
      | some value =>
        have hsame := h i column value ⟨row, hrow, hc, hv⟩
        exact congrArg some ((rowObject_eq_rowObject_iff F z z' column value).mpr hsame)

/-- Both row methods give the same in two zones exactly if all values of the next row
read the same. -/
theorem rows_zone_iff (F : Foundation) (z z' : NSTimeZone) (r : MGMMyResult) :
    ((r.nextRow F z).1 = (r.nextRow F z').1 ∧
        (r.nextRowAsArray F z).1 = (r.nextRowAsArray F z').1) ↔
      ∀ i column value, r.IsNext i column value → SameDate F z z' column value := by
  cases hrow : r.result.data_cursor.head? with
  | none =>
      have hnone : ∀ i column value, ¬ r.IsNext i column value := by
        rintro i column value ⟨row, hsome, -⟩
        rw [hrow] at hsome
        cases hsome
      rw [nextRow_end hrow, nextRow_end hrow, nextRowAsArray_end hrow, nextRowAsArray_end hrow]
      exact iff_of_true ⟨rfl, rfl⟩ fun i column value h => absurd h (hnone i column value)
  | some row =>
      rw [nextRow_fst hrow, nextRow_fst hrow, nextRowAsArray_fst hrow, nextRowAsArray_fst hrow,
        ← rowObjects_zone_iff hrow, Option.some.injEq, Option.some.injEq]
      constructor
      · exact And.right
      · intro h
        exact ⟨by rw [h], h⟩

end

/-! ## On a result of one row -/

/-- A result with one column, without a name, and one row. -/
def singleRow (type : enum_field_types) (flags : UInt32) (bytes : NSData) : MGMMyResult where
  result := .stored [⟨cString [], type, flags⟩] [[some bytes]] (by simp)
  names := [lit "0"]
  names_eq := rfl

theorem yields_holds_blob :
    ∃ o, (singleRow .blob BINARY_FLAG [0xFF, 0]).Yields default ⟨[]⟩ 0 o ∧ o.Holds [0xFF, 0] := by
  have hc : (singleRow .blob BINARY_FLAG [0xFF, 0]).result.fields[0]? =
      some ⟨cString [], .blob, BINARY_FLAG⟩ := rfl
  have hv : ([some [0xFF, 0]] : MYSQL_ROW)[0]? = some (some [0xFF, 0]) := rfl
  have hyields : (singleRow .blob BINARY_FLAG [0xFF, 0]).Yields default ⟨[]⟩ 0
      (rowObject default ⟨[]⟩ ⟨cString [], .blob, BINARY_FLAG⟩ (some [0xFF, 0])) :=
    (yields_iff rfl hc hv).mpr rfl
  exact ⟨_, hyields,
    (yields_holds_iff default ⟨[]⟩ rfl hc hv (.inr rfl)).mpr (.inl ⟨rfl, by decide⟩) _ hyields⟩

/-- A `BINARY` column loses what stands behind a zero byte. -/
theorem not_yields_holds :
    ¬ ∀ (F : Foundation) (timeZone : NSTimeZone) (r : MGMMyResult) (row : MYSQL_ROW) (i : Nat)
        (column : MYSQL_FIELD) (bytes : NSData),
      r.result.data_cursor.head? = some row → r.result.fields[i]? = some column →
      row[i]? = some (some bytes) →
      (isStringType column.type = true ∨ isBlobType column.type = true) →
      ∀ o, r.Yields F timeZone i o → o.Holds bytes := by
  intro h
  have hlost := h default ⟨[]⟩ (singleRow .string BINARY_FLAG [0x61, 0]) [some [0x61, 0]] 0
    ⟨cString [], .string, BINARY_FLAG⟩ [0x61, 0] rfl rfl rfl (.inl rfl) (.string (lit "a"))
    (.array rfl rfl)
  change UTF8String (lit "a") = some [0x61, 0] at hlost
  revert hlost
  decide

theorem yields_null_latin1 :
    (∃ o, (singleRow .var_string 0 [0xE9]).Yields default ⟨[]⟩ 0 o) ∧
      ∀ o, (singleRow .var_string 0 [0xE9]).Yields default ⟨[]⟩ 0 o →
        (o = .null ↔ ∀ bytes, some [0xE9] = some bytes →
          Unreadable default ⟨[]⟩ ⟨cString [], .var_string, 0⟩ bytes) :=
  have hc : (singleRow .var_string 0 [0xE9]).result.fields[0]? =
      some ⟨cString [], .var_string, 0⟩ := rfl
  have hv : ([some [0xE9]] : MYSQL_ROW)[0]? = some (some [0xE9]) := rfl
  yields_null_iff default ⟨[]⟩ rfl hc hv

/-- A text in Latin-1 becomes `NSNull`. -/
theorem not_yields_null :
    ¬ ∀ (F : Foundation) (timeZone : NSTimeZone) (r : MGMMyResult) (row : MYSQL_ROW) (i : Nat)
        (column : MYSQL_FIELD) (value : Option NSData),
      r.result.data_cursor.head? = some row → r.result.fields[i]? = some column →
      row[i]? = some value → ∀ o, r.Yields F timeZone i o → (o = .null ↔ value = none) := by
  intro h
  have hnull := h default ⟨[]⟩ (singleRow .var_string 0 [0xE9]) [some [0xE9]] 0
    ⟨cString [], .var_string, 0⟩ (some [0xE9]) rfl rfl rfl .null (.array rfl rfl)
  exact absurd (hnull.mp rfl) (by decide)

end MGMMyResult

end MGMDB
