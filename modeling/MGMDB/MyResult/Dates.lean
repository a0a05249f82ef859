import MGMDB.MyResult.Column
import MGMDB.MySQL.Literal

/-!
# Dates through a DATETIME column

`quoteObject:` writes an `NSCalendarDate` by the clock of its own zone and any other date
by its `description`, which has a zone of its own and names it behind the time.  MySQL drops
the name.  The row methods read the value by the clock of the connection's zone.

`Dates` is what is assumed of Foundation and of the column.  `readBack_iff` says that an
instant comes back exactly if the clock it was written by and the one it is read by show
the same.
-/

namespace MGMDB

/-- A character of a time or of the offset behind it. -/
def isClockCharacter (c : unichar) : Bool := c ∈ lit "0123456789-: +"

/-- The pattern of the reader, `yyy-MM-dd HH:mm:ss`, and that of the writer. -/
def readPattern : NSString := lit "yyy-MM-dd HH:mm:ss"

def writePattern : NSString := lit "%Y-%m-%d %H:%M:%S"

/-- A Foundation with clocks, and a `DATETIME` column that keeps a time and drops what is
behind it.  `clock` is what the clock of a zone shows at an instant, `home` the zone of
`description`. -/
structure Dates (F : Foundation) (datetime : NSString → NSString) where
  clock : NSTimeZone → NSDate → NSString
  home : NSTimeZone
  offset : NSDate → NSString
  clock_plain (zone : NSTimeZone) (d : NSDate) : ∀ c ∈ clock zone d, isClockCharacter c = true
  offset_plain (d : NSDate) : ∀ c ∈ offset d, isClockCharacter c = true
  calendarDate (d : NSDate) (zone : NSTimeZone) :
    F.descriptionWithCalendarFormat d zone writePattern = clock zone d
  description (d : NSDate) : F.description (.date d) = clock home d ++ offset d
  reads (zone : NSTimeZone) (d : NSDate) :
    F.dateFromString readPattern zone (clock zone d) = some d
  formats (zone zone' : NSTimeZone) (d d' : NSDate) :
    F.dateFromString readPattern zone (clock zone' d') = some d → clock zone d = clock zone' d'
  keeps (zone : NSTimeZone) (d : NSDate) : datetime (clock zone d) = clock zone d
  drops (d : NSDate) : datetime (clock home d ++ offset d) = clock home d

/-- A date to be written. -/
inductive DateObject where
  | date (d : NSDate)
  | calendarDate (d : NSDate) (zone : NSTimeZone)

namespace DateObject

def obj : DateObject → Obj
  | .date d => .date d
  | .calendarDate d zone => .calendarDate d zone

def instant : DateObject → NSDate
  | .date d => d
  | .calendarDate d _ => d

/-- The zone by whose clock the date is written. -/
def zone (home : NSTimeZone) : DateObject → NSTimeZone
  | .date _ => home
  | .calendarDate _ zone => zone

end DateObject

namespace MGMMyResult

/-- What a row method gives for a date that was written with `%@` into a column. -/
def readBack (F : Foundation) (datetime : NSString → NSString) (timeZone : NSTimeZone)
    (column : MYSQL_FIELD) (o : DateObject) : Option Obj := do
  let text ← MySQL.readLiteral (MGMMyConnection.quoteObject F (some o.obj))
  let sent ← UTF8String (datetime text)
  return rowObject F timeZone column (some sent)

/-! ## Clock texts -/

theorem isClockCharacter_plain {c : unichar} (h : isClockCharacter c = true) :
    c < 0x80 ∧ c ≠ 0 ∧ MGMMyConnection.escapeSet c = false ∧ c ≠ 0x27 ∧ c ≠ 0x5C := by
  have hall : (lit "0123456789-: +").all (fun c => c < 0x80 ∧ c ≠ 0 ∧
      MGMMyConnection.escapeSet c = false ∧ c ≠ 0x27 ∧ c ≠ 0x5C) = true := by decide
  exact of_decide_eq_true (List.all_eq_true.mp hall c (of_decide_eq_true h))

section
variable {text : NSString} (htext : ∀ c ∈ text, isClockCharacter c = true)
include htext

/-- A time has nothing to escape. -/
theorem escapeString_clock : MGMMyConnection.escapeString text = text := by
  have hnone : rangeOfCharacterFromSet text MGMMyConnection.escapeSet = none :=
    rangeOfCharacterFromSet_eq_none.mpr fun c hc => (isClockCharacter_plain (htext c hc)).2.2.1
  rw [MGMMyConnection.escapeString, hnone]

/-- A time between quotes is read as it is. -/
theorem readLiteral_clock : MySQL.readLiteral (lit "'" ++ text ++ lit "'") = some text := by
  have hplain : ∀ c ∈ text, c ≠ 0x27 ∧ c ≠ 0x5C := fun c hc =>
    (isClockCharacter_plain (htext c hc)).2.2.2
  show MySQL.readBody (text ++ [0x27]) = some text
  rw [MGMMyConnection.readBody_plain_append hplain, MySQL.readBody_quote, Option.map_some,
    List.append_nil]

/-- A time that is sent is received. -/
theorem stringWithUTF8String_clock : ∃ sent, UTF8String text = some sent ∧
    stringWithUTF8String (cString sent) = some text := by
  have hascii : ∀ c ∈ text, c < 0x80 := fun c hc => (isClockCharacter_plain (htext c hc)).1
  have hutf8 := Unicode.toUtf8_ascii hascii
  refine ⟨_, hutf8, ?_⟩
  have hzero : 0 ∉ text.map UInt16.toUInt8 := by
    rw [Unicode.zero_mem_of_toUtf8 hutf8]
    intro hz
    exact (isClockCharacter_plain (htext 0 hz)).2.1 rfl
  rw [stringWithUTF8String, (cString_val_eq_self_iff _).mpr hzero]
  exact Unicode.ofUtf8_of_toUtf8 hutf8

end

/-! ## There and back -/

section
variable {F : Foundation} {datetime : NSString → NSString} (A : Dates F datetime)
include A

/-- What is written for a date, and what the column makes of it. -/
theorem readLiteral_date (o : DateObject) : ∃ text,
    MySQL.readLiteral (MGMMyConnection.quoteObject F (some o.obj)) = some text ∧
      datetime text = A.clock (o.zone A.home) o.instant := by
  cases o with
  | date d =>
      have hplain : ∀ c ∈ A.clock A.home d ++ A.offset d, isClockCharacter c = true :=
        List.forall_mem_append.mpr ⟨A.clock_plain A.home d, A.offset_plain d⟩
      refine ⟨_, ?_, A.drops d⟩
      show MySQL.readLiteral (lit "'" ++ MGMMyConnection.escapeString (F.description (.date d)) ++
        lit "'") = _
      rw [A.description, escapeString_clock hplain]
      exact readLiteral_clock hplain
  | calendarDate d zone =>
      refine ⟨_, ?_, A.keeps zone d⟩
      show MySQL.readLiteral (lit "'" ++ F.descriptionWithCalendarFormat d zone writePattern ++
        lit "'") = _
      rw [A.calendarDate]
      exact readLiteral_clock (A.clock_plain zone d)

/-- The reader makes of a date what it reads in the clock text of the writer. -/
theorem readBack_eq (timeZone : NSTimeZone) {column : MYSQL_FIELD} (h : column.type = .datetime)
    (o : DateObject) : readBack F datetime timeZone column o =
      some (((F.dateFromString readPattern timeZone (A.clock (o.zone A.home) o.instant)).map
        Obj.date).getD .null) := by
  obtain ⟨text, hread, hcolumn⟩ := readLiteral_date A o
  obtain ⟨sent, hsent, hreceived⟩ :=
    stringWithUTF8String_clock (A.clock_plain (o.zone A.home) o.instant)
  have hpattern : datePattern column.type = some readPattern := by
    rw [h]
    rfl
  rw [readBack, hread, Option.bind_eq_bind, Option.bind_some, hcolumn, hsent,
    Option.bind_eq_bind, Option.bind_some, rowObject_date hpattern, dateObject, hreceived]
  rfl

/-- An instant comes back exactly if the clock it was written by shows at that instant what
the clock of the connection's zone shows. -/
theorem readBack_iff (timeZone : NSTimeZone) {column : MYSQL_FIELD} (h : column.type = .datetime)
    (o : DateObject) :
    readBack F datetime timeZone column o = some (.date o.instant) ↔
      A.clock (o.zone A.home) o.instant = A.clock timeZone o.instant := by
  rw [readBack_eq A timeZone h, Option.some.injEq]
  constructor
  · intro hback
    cases hdate : F.dateFromString readPattern timeZone (A.clock (o.zone A.home) o.instant) with
    | none =>
        rw [hdate] at hback
        cases hback
    | some d =>
        rw [hdate] at hback
        injection hback with hback
        rw [hback] at hdate
        exact (A.formats _ _ _ _ hdate).symm
  · intro hclock
    rw [hclock, A.reads]
    rfl

end

/-! ## A Foundation with clocks -/

/-- Two digits. -/
def twoDigits (n : Nat) : NSString := [.ofNat (0x30 + n / 10), .ofNat (0x30 + n % 10)]

/-- What a clock shows so many seconds after the beginning of 2001.  The first day is written
as usual, and any other time by strokes, so that no time is lost. -/
def showTime (time : Int) : NSString :=
  if 0 ≤ time ∧ time < 86400 then
    lit "2001-01-01 " ++ twoDigits (time.toNat / 3600) ++ lit ":" ++
      twoDigits (time.toNat / 60 % 60) ++ lit ":" ++ twoDigits (time.toNat % 60)
  else if 0 ≤ time then 0x3A :: List.replicate time.toNat 0x30
  else 0x2D :: List.replicate time.natAbs 0x30

/-- The value of two digits. -/
def readTwo (tens ones : unichar) : Int := (tens.toNat - 0x30) * 10 + (ones.toNat - 0x30)

/-- The time a clock shows. -/
def readTime : NSString → Option Int
  | 0x3A :: strokes => some strokes.length
  | 0x2D :: strokes => some (-strokes.length)
  | text =>
      match text.drop 11 with
      | [h, h', _, m, m', _, s, s'] => some (readTwo h h' * 3600 + readTwo m m' * 60 + readTwo s s')
      | _ => none

/-- Seconds from Greenwich. -/
def secondsFromGMT (zone : NSTimeZone) : Int := if zone.name = lit "CET" then 3600 else 0

/-- What the clock of a zone shows. -/
def zoneClock (zone : NSTimeZone) (d : NSDate) : NSString :=
  showTime (d.seconds + secondsFromGMT zone)

/-- A `Foundation` that shows and reads times, and describes dates by the clock of
Greenwich. -/
def withClocks : Foundation :=
  { (default : Foundation) with
    describe := fun o =>
      match o with
      | .date d => zoneClock ⟨lit "GMT"⟩ d ++ lit " +0000"
      | _ => []
    descriptionWithCalendarFormat := fun d zone _ => zoneClock zone d
    dateFromString := fun _ zone text =>
      (readTime text).map fun time => ⟨time - secondsFromGMT zone⟩ }

/-- A column that drops an offset. -/
def keepTime (text : NSString) : NSString :=
  if 0x2B ∈ text then text.take (text.length - 6) else text

theorem readTwo_twoDigits {n : Nat} (h : n < 100) :
    ∃ tens ones, twoDigits n = [tens, ones] ∧ readTwo tens ones = n := by
  have hall : ∀ n : Fin 100, readTwo (.ofNat (0x30 + n.val / 10)) (.ofNat (0x30 + n.val % 10)) =
      n.val := by decide
  exact ⟨_, _, rfl, hall ⟨n, h⟩⟩

theorem readTime_showTime (time : Int) : readTime (showTime time) = some time := by
  rw [showTime]
  split
  next hday =>
    obtain ⟨h, h', hhours, hh⟩ := readTwo_twoDigits (n := time.toNat / 3600) (by omega)
    obtain ⟨m, m', hminutes, hm⟩ := readTwo_twoDigits (n := time.toNat / 60 % 60) (by omega)
    obtain ⟨s, s', hseconds, hs⟩ := readTwo_twoDigits (n := time.toNat % 60) (by omega)
    rw [hhours, hminutes, hseconds]
    show some (readTwo h h' * 3600 + readTwo m m' * 60 + readTwo s s') = some time
    rw [hh, hm, hs, Option.some.injEq]
    omega
  next =>
    split
    next hpos =>
      show some ((List.replicate time.toNat (0x30 : unichar)).length : Int) = some time
      rw [List.length_replicate, Option.some.injEq]
      omega
    next hneg =>
      show some (-((List.replicate time.natAbs (0x30 : unichar)).length : Int)) = some time
      rw [List.length_replicate, Option.some.injEq]
      omega

/-- A character of a time, which has no offset behind it. -/
def isTimeCharacter (c : unichar) : Bool := isClockCharacter c && c ≠ 0x2B

theorem twoDigits_time {n : Nat} (h : n < 100) :
    ∀ c ∈ twoDigits n, isTimeCharacter c = true := by
  have hall : ∀ n : Fin 100, (twoDigits n.val).all isTimeCharacter = true := by decide
  exact List.all_eq_true.mp (hall ⟨n, h⟩)

theorem showTime_time (time : Int) : ∀ c ∈ showTime time, isTimeCharacter c = true := by
  have hliteral : ∀ l : NSString, l.all isTimeCharacter = true →
      ∀ c ∈ l, isTimeCharacter c = true := fun l => List.all_eq_true.mp
  have hstrokes (n : Nat) : ∀ c ∈ List.replicate n (0x30 : unichar), isTimeCharacter c = true := by
    intro c hc
    rw [List.eq_of_mem_replicate hc]
    rfl
  rw [showTime]
  split
  next hday =>
    simp only [List.forall_mem_append]
    exact ⟨⟨⟨⟨⟨hliteral _ rfl, twoDigits_time (by omega)⟩, hliteral _ rfl⟩,
      twoDigits_time (by omega)⟩, hliteral _ rfl⟩, twoDigits_time (by omega)⟩
  next =>
    split
    · exact List.forall_mem_cons.mpr ⟨rfl, hstrokes _⟩
    · exact List.forall_mem_cons.mpr ⟨rfl, hstrokes _⟩

theorem plus_not_mem_zoneClock (zone : NSTimeZone) (d : NSDate) : 0x2B ∉ zoneClock zone d := by
  intro h
  have hplus := showTime_time _ _ h
  rw [isTimeCharacter] at hplus
  cases hplus

/-- The clocks of this Foundation. -/
def clocks : Dates withClocks keepTime where
  clock := zoneClock
  home := ⟨lit "GMT"⟩
  offset _ := lit " +0000"
  clock_plain _ _ c hc := by
    have htime := showTime_time _ c hc
    rw [isTimeCharacter, Bool.and_eq_true] at htime
    exact htime.1
  offset_plain _ := List.all_eq_true.mp rfl
  calendarDate _ _ := rfl
  description _ := rfl
  reads zone d := by
    show (readTime (showTime _)).map (fun time => (⟨time - secondsFromGMT zone⟩ : NSDate)) = some d
    rw [readTime_showTime, Option.map_some, Int.add_sub_cancel]
  formats zone zone' d d' h := by
    change (readTime (showTime _)).map (fun time => (⟨time - secondsFromGMT zone⟩ : NSDate)) =
      some d at h
    rw [readTime_showTime, Option.map_some, Option.some.injEq] at h
    show showTime _ = showTime _
    rw [← h, Int.sub_add_cancel]
  keeps zone d := if_neg (plus_not_mem_zoneClock zone d)
  drops d := by
    have hplus : 0x2B ∈ zoneClock ⟨lit "GMT"⟩ d ++ lit " +0000" :=
      List.mem_append_right _ (by decide)
    rw [keepTime, if_pos hplus, List.length_append]
    exact List.take_left

/-- A `DATETIME` column. -/
def datetimeColumn : MYSQL_FIELD := ⟨cString [0x64], .datetime, 0⟩

/-- Noon in Greenwich. -/
def noon : NSDate := ⟨43200⟩

/-- Noon is written as noon, and read an hour early by a connection to the east. -/
theorem not_readBack :
    ¬ ∀ (F : Foundation) (datetime : NSString → NSString), Dates F datetime →
      ∀ (timeZone : NSTimeZone) (column : MYSQL_FIELD), column.type = .datetime →
      ∀ o : DateObject, readBack F datetime timeZone column o = some (.date o.instant) := by
  intro h
  have hback := h withClocks keepTime clocks ⟨lit "CET"⟩ datetimeColumn rfl (.date noon)
  exact absurd hback (by decide +kernel)

/-- A date of the connection's zone comes back. -/
theorem readBack_iff_CET :
    readBack withClocks keepTime ⟨lit "CET"⟩ datetimeColumn (.calendarDate noon ⟨lit "CET"⟩) =
        some (.date noon) ↔
      clocks.clock ⟨lit "CET"⟩ noon = clocks.clock ⟨lit "CET"⟩ noon :=
  readBack_iff clocks ⟨lit "CET"⟩ rfl (.calendarDate noon ⟨lit "CET"⟩)

end MGMMyResult

end MGMDB
