import Mathlib.Data.List.Infix
import MGMDB.Foundation

/-!
# Stored results

What `mysql_store_result` leaves in the client: the description of the columns,
the rows in the order the server sent them, and the place of the next row.  The
place is what is left of the list of rows, as in `libmysql`, so it is a suffix
of it, and every row has a value for every column.
-/

namespace MGMDB

/-- `enum enum_field_types`, and the codes it has no name for. -/
inductive enum_field_types where
  | decimal | tiny | short | long | float | double | null | timestamp | longlong | int24
  | date | time | datetime | year | newdate | varchar | bit
  | newdecimal | enum | set | tiny_blob | medium_blob | long_blob | blob | var_string | string
  | geometry
  | unknown (code : UInt8)
deriving DecidableEq, Repr

/-- `UNSIGNED_FLAG`. -/
def UNSIGNED_FLAG : UInt32 := 32

/-- `BINARY_FLAG`. -/
def BINARY_FLAG : UInt32 := 128

/-- What the program reads of a `MYSQL_FIELD`. -/
structure MYSQL_FIELD where
  name : CString
  type : enum_field_types
  flags : UInt32

/-- The values of a row, each NULL or the bytes the server sent. -/
abbrev MYSQL_ROW := List (Option NSData)

/-- A stored result. -/
structure MYSQL_RES where
  fields : List MYSQL_FIELD
  data : List MYSQL_ROW
  data_cursor : List MYSQL_ROW
  row_length : ∀ row ∈ data, row.length = fields.length
  cursor_suffix : data_cursor <:+ data

namespace MYSQL_RES

/-- A result as it is stored, with the cursor on the first row. -/
def stored (fields : List MYSQL_FIELD) (data : List MYSQL_ROW)
    (h : ∀ row ∈ data, row.length = fields.length) : MYSQL_RES :=
  ⟨fields, data, data, h, List.suffix_rfl⟩

/-- The same result with the cursor on another suffix. -/
def withCursor (res : MYSQL_RES) (rows : List MYSQL_ROW) (h : rows <:+ res.data) : MYSQL_RES :=
  { res with data_cursor := rows, cursor_suffix := h }

/-- `mysql_fetch_row` of a stored result: the row under the cursor, or NULL and
the cursor stays. -/
def mysql_fetch_row (res : MYSQL_RES) : Option MYSQL_ROW × MYSQL_RES :=
  (res.data_cursor.head?,
    res.withCursor res.data_cursor.tail ((List.tail_suffix _).trans res.cursor_suffix))

/-- `mysql_num_rows`. -/
def mysql_num_rows (res : MYSQL_RES) : UInt64 := .ofNat res.data.length

/-- `mysql_data_seek`, which walks at most to the end. -/
def mysql_data_seek (res : MYSQL_RES) (row : UInt64) : MYSQL_RES :=
  res.withCursor (res.data.drop row.toNat) (List.drop_suffix _ _)

/-- A row under the cursor has a value for every column. -/
theorem cursor_row_length (res : MYSQL_RES) {row : MYSQL_ROW}
    (h : res.data_cursor.head? = some row) :
    row.length = res.fields.length :=
  res.row_length row (res.cursor_suffix.subset (List.mem_of_mem_head? h))

end MYSQL_RES

end MGMDB
