import MGMDB.CLibrary
import MGMDB.MySQL.Result

/-!
# Column values from MySQL

The server sends every value as text, or as the bytes of a binary column.
`objectAtColumn:bytes:length:` makes an object of it, by the type and the flags
of the column.  The row methods copy the value into a buffer with a NUL behind
it first, because most conversions read a C string.

`rowObject_eq_null_iff` lists the ways a value becomes `NSNull`, and
`holds_rowObject_iff` says when a text or binary value keeps all its bytes.
-/

namespace MGMDB

namespace MGMMyResult

/-! ## The conversion -/

/-- A text read by an `NSDateFormatter` with a pattern. -/
def dateObject (F : Foundation) (timeZone : NSTimeZone) (dateFormat : NSString)
    (theBytes : CString) : Option Obj :=
  ((stringWithUTF8String theBytes).bind (F.dateFromString dateFormat timeZone)).map .date

/-- `objectAtColumn:bytes:length:`.  `timeZone` is the connection's. -/
def objectAtColumn (F : Foundation) (timeZone : NSTimeZone) (theColumn : MYSQL_FIELD)
    (theBytes : List UInt8) (theLength : Nat) : Obj :=
  let object : Option Obj :=
    match theColumn.type with
    | .tiny | .short | .int24 | .long =>
        if theColumn.flags &&& UNSIGNED_FLAG ≠ 0 then
          some (.number (.unsigned (strtoul (cString theBytes))))
        else some (.number (.signed (strtol (cString theBytes))))
    | .longlong =>
        if theColumn.flags &&& UNSIGNED_FLAG ≠ 0 then
          some (.number (.unsigned (strtoull (cString theBytes))))
        else some (.number (.signed (strtoll (cString theBytes))))
    | .decimal =>
        some (.number (.decimal
          (F.decimalNumberWithString (stringWithUTF8String (cString theBytes)))))
    | .float => some (.number (.float (F.floatOfDouble (F.atof (cString theBytes)))))
    | .double => some (.number (.double (F.atof (cString theBytes))))
    | .timestamp | .datetime =>
        dateObject F timeZone (lit "yyy-MM-dd HH:mm:ss") (cString theBytes)
    | .date => dateObject F timeZone (lit "yyy-MM-dd") (cString theBytes)
    | .time => dateObject F timeZone (lit "HH:mm:ss") (cString theBytes)
    | .year => dateObject F timeZone (lit "yyy") (cString theBytes)
    | .set | .enum | .var_string | .string =>
        (stringWithUTF8String (cString theBytes)).map .string
    | .newdate | .tiny_blob | .blob | .medium_blob | .long_blob =>
        if theColumn.flags &&& BINARY_FLAG ≠ 0 then some (.data (theBytes.take theLength))
        else (stringWithUTF8String (cString theBytes)).map .string
    | .null => none
    | _ => some (.data (theBytes.take theLength))
  object.getD .null

/-- What both row methods make of one value of a row. -/
def rowObject (F : Foundation) (timeZone : NSTimeZone) (column : MYSQL_FIELD) :
    Option NSData → Obj
  | none => .null
  | some bytes => objectAtColumn F timeZone column (bytes ++ [0]) bytes.length

/-! ## Kinds of columns -/

/-- The pattern the values of a date or time column are read with. -/
def datePattern : enum_field_types → Option NSString
  | .timestamp | .datetime => some (lit "yyy-MM-dd HH:mm:ss")
  | .date => some (lit "yyy-MM-dd")
  | .time => some (lit "HH:mm:ss")
  | .year => some (lit "yyy")
  | _ => none

/-- The four string types. -/
def isStringType : enum_field_types → Bool
  | .set | .enum | .var_string | .string => true
  | _ => false

/-- The four blob types. -/
def isBlobType : enum_field_types → Bool
  | .tiny_blob | .blob | .medium_blob | .long_blob => true
  | _ => false

/-- Whether a column is read as text: a string type, or a blob type or `NEWDATE`
without the binary flag. -/
def isText (column : MYSQL_FIELD) : Bool :=
  isStringType column.type ||
    ((isBlobType column.type || column.type = .newdate) && column.flags &&& BINARY_FLAG = 0)

/-! ## The buffer -/

/-- The C string in the buffer of a value is the value up to its first NUL. -/
theorem cString_buffer (bytes : NSData) : cString (bytes ++ [0]) = cString bytes := by
  apply Subtype.ext
  induction bytes with
  | nil => rfl
  | cons b bytes ih =>
      simp only [cString] at ih
      simp only [cString, List.cons_append, List.takeWhile_cons, ih]

/-! ## One lemma for each kind of column -/

section
variable {F : Foundation} {timeZone : NSTimeZone} {column : MYSQL_FIELD}

theorem rowObject_date {dateFormat : NSString} (h : datePattern column.type = some dateFormat)
    (bytes : NSData) :
    rowObject F timeZone column (some bytes) =
      (dateObject F timeZone dateFormat (cString bytes)).getD .null := by
  obtain ⟨name, type, flags⟩ := column
  cases type <;> cases h <;> simp only [rowObject, objectAtColumn, cString_buffer]

theorem rowObject_text (h : isText column = true) (bytes : NSData) :
    rowObject F timeZone column (some bytes) =
      ((stringWithUTF8String (cString bytes)).map Obj.string).getD .null := by
  obtain ⟨name, type, flags⟩ := column
  cases type <;> simp_all [isText, isStringType, isBlobType, rowObject, objectAtColumn,
    cString_buffer]

theorem rowObject_binary (ht : isBlobType column.type = true)
    (hb : column.flags &&& BINARY_FLAG ≠ 0) (bytes : NSData) :
    rowObject F timeZone column (some bytes) = .data bytes := by
  obtain ⟨name, type, flags⟩ := column
  cases type <;> simp_all [isBlobType, rowObject, objectAtColumn]

/-- The other types never fail to convert, but for the type `NULL`. -/
theorem rowObject_ne_null (hn : column.type ≠ .null) (hd : datePattern column.type = none)
    (ht : isText column = false) (bytes : NSData) :
    rowObject F timeZone column (some bytes) ≠ .null := by
  obtain ⟨name, type, flags⟩ := column
  cases type <;> simp_all [datePattern, isText, isStringType, isBlobType, rowObject,
    objectAtColumn]
  all_goals split <;> simp

end

/-! ## NSNull -/

theorem getD_map_eq_null_iff {α : Type} {f : α → Obj} (hf : ∀ a, f a ≠ .null) (o : Option α) :
    (o.map f).getD .null = .null ↔ o.map f = none := by
  cases o with
  | none => simp
  | some a => simp [hf a]

/-- What makes a value that is not NULL an `NSNull`: the type `NULL`, a text that
is none in UTF-8, or one that does not match the pattern of its type. -/
def Unreadable (F : Foundation) (timeZone : NSTimeZone) (column : MYSQL_FIELD)
    (bytes : NSData) : Prop :=
  column.type = .null ∨
    (∃ dateFormat, datePattern column.type = some dateFormat ∧
      dateObject F timeZone dateFormat (cString bytes) = none) ∨
    (isText column = true ∧ stringWithUTF8String (cString bytes) = none)

theorem rowObject_eq_null_iff (F : Foundation) (timeZone : NSTimeZone) (column : MYSQL_FIELD)
    (bytes : NSData) :
    rowObject F timeZone column (some bytes) = .null ↔ Unreadable F timeZone column bytes := by
  unfold Unreadable
  cases hd : datePattern column.type with
  | some dateFormat =>
      have htype : column.type ≠ .null := by
        intro hn
        rw [hn] at hd
        cases hd
      have htext : isText column = false := by
        obtain ⟨name, type, flags⟩ := column
        cases type <;> first | rfl | cases hd
      rw [rowObject_date hd, dateObject, getD_map_eq_null_iff fun _ => Obj.noConfusion]
      simp [htype, htext, dateObject]
  | none =>
      cases ht : isText column with
      | true =>
          have htype : column.type ≠ .null := by
            intro hn
            simp [isText, isStringType, isBlobType, hn] at ht
          rw [rowObject_text ht, getD_map_eq_null_iff fun _ => Obj.noConfusion]
          simp [htype]
      | false =>
          by_cases hn : column.type = .null
          · simp [rowObject, objectAtColumn, hn]
          · simp [rowObject_ne_null hn hd ht, hn]

/-! ## Time zones -/

/-- A value reads the same in two zones: it is no date or time, or the formatter makes
the same of its text in both. -/
def SameDate (F : Foundation) (z z' : NSTimeZone) (column : MYSQL_FIELD) (value : Option NSData) :
    Prop :=
  ∀ dateFormat bytes, datePattern column.type = some dateFormat → value = some bytes →
    dateObject F z dateFormat (cString bytes) = dateObject F z' dateFormat (cString bytes)

/-- The zone is for dates and times only. -/
theorem rowObject_zone (F : Foundation) (z z' : NSTimeZone) {column : MYSQL_FIELD}
    (h : datePattern column.type = none) (value : Option NSData) :
    rowObject F z column value = rowObject F z' column value := by
  cases value with
  | none => rfl
  | some bytes =>
      obtain ⟨name, type, flags⟩ := column
      cases type <;> first | rfl | cases h

theorem getD_map_date_inj {d d' : Option NSDate} :
    (d.map Obj.date).getD .null = (d'.map Obj.date).getD .null ↔ d = d' := by
  cases d with
  | none =>
      cases d' with
      | none => simp
      | some d' => simp
  | some d =>
      cases d' with
      | none => simp
      | some d' => simp

theorem rowObject_eq_rowObject_iff (F : Foundation) (z z' : NSTimeZone) (column : MYSQL_FIELD)
    (value : Option NSData) :
    rowObject F z column value = rowObject F z' column value ↔ SameDate F z z' column value := by
  cases hd : datePattern column.type with
  | none =>
      refine iff_of_true (rowObject_zone F z z' hd value) ?_
      intro dateFormat bytes hdate
      rw [hd] at hdate
      cases hdate
  | some dateFormat =>
      cases value with
      | none =>
          refine iff_of_true rfl ?_
          intro _ bytes _ hvalue
          cases hvalue
      | some bytes =>
          rw [rowObject_date hd, rowObject_date hd, dateObject, dateObject, getD_map_date_inj]
          constructor
          · intro hsame dateFormat' bytes' hd' hbytes
            obtain rfl := Option.some.inj (hd.symm.trans hd')
            obtain rfl := Option.some.inj hbytes
            rw [dateObject, dateObject, hsame]
          · intro hsame
            have hobject := hsame dateFormat bytes hd rfl
            exact Option.map_injective (fun _ _ h => Obj.date.inj h) hobject

/-! ## Lossless values -/

/-- A value of a string or blob column keeps its bytes if the column is a binary
blob, or if the bytes are UTF-8 without a NUL. -/
theorem holds_rowObject_iff (F : Foundation) (timeZone : NSTimeZone) {column : MYSQL_FIELD}
    (ht : isStringType column.type = true ∨ isBlobType column.type = true) (bytes : NSData) :
    (rowObject F timeZone column (some bytes)).Holds bytes ↔
      (isBlobType column.type = true ∧ column.flags &&& BINARY_FLAG ≠ 0) ∨
        (0 ∉ bytes ∧ (Unicode.ofUtf8 bytes).isSome = true) := by
  by_cases hb : isBlobType column.type = true ∧ column.flags &&& BINARY_FLAG ≠ 0
  · rw [rowObject_binary hb.1 hb.2]
    simp [Obj.Holds, hb]
  · have htext : isText column = true := by
      rw [not_and_not_right] at hb
      rcases ht with ht | ht
      · simp [isText, ht]
      · simp [isText, ht, hb ht]
    rw [rowObject_text htext, holds_text_iff, or_iff_right hb]

end MGMMyResult

end MGMDB
