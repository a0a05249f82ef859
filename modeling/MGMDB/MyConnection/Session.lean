import MGMDB.MyConnection.Query
import MGMDB.Query.Quoted
import MGMDB.Systems.Machine
import MGMDB.Systems.Program

/-!
# The life of an MGMMyConnection

An object keeps a pointer to a `MYSQL`, a flag that the last attempt to connect
succeeded, the time zone of the session and the set of characters to escape.
Its methods are programs over this state and over the memory the pointers lead
to.  What the server, the network and the allocator do is the `Environment`: the
outcome of each library call, by the number of the call.

`calls` records every call that is given a pointer, and every use of the
character set, the last one first.  A NULL pointer where the library reads it
ends the program, and so does a command on a handle that no `mysql_real_connect`
was tried on, since such a handle has no `methods`.  A method that raises ends
where it raises, and leaves the object as it is.
-/

namespace MGMDB

namespace MyConnection

open Systems

/-! ## The surroundings -/

/-- What the client learns from a server that accepts it. -/
structure Greeting where
  host_info : CString
  server_version : CString
  protocol_version : UInt32
  thread_id : UInt64
  more_results : Bool

/-- How `mysql_real_connect` ends. -/
inductive Attempt where
  | accepted (greeting : Greeting)
  | refused (errno : Nat) (text : CString) (protocol_version : UInt32) (thread_id : UInt64)

/-- Foundation and the outcomes of the library calls, by their numbers. -/
structure Environment where
  foundation : Foundation
  timeZoneWithName : NSString → Option NSTimeZone
  defaultTimeZone : NSTimeZone
  mysql_get_client_info : CString
  mysql_init : Nat → Bool
  mysql_real_connect : Nat → Attempt
  written : Nat → Written
  packet : Nat → Packet
  reply : Nat → Reply
  processReply : Nat → ProcessReply

/-- A `MYSQL` with what the object reads of it.  `methods` tells that a connection
was tried. -/
structure Handle where
  mysql : MYSQL
  methods : Bool
  host_info : Option CString
  server_version : Option CString
  protocol_version : UInt32
  thread_id : UInt64

/-- A `MYSQL` from `mysql_init(NULL)`, filled with zeros. -/
def Handle.zero : Handle where
  mysql := ⟨false, .ready, false, none, 0, 0, 0, cString []⟩
  methods := false
  host_info := none
  server_version := none
  protocol_version := 0
  thread_id := 0

/-- `mysql_real_connect`, and whether it returned its handle. -/
def Handle.mysql_real_connect (handle : Handle) : Attempt → Bool × Handle
  | .accepted greeting =>
      (true,
        { mysql := { handle.mysql.net_clear_error with
            vio := true, status := .ready, more_results := greeting.more_results }
          methods := true
          host_info := some greeting.host_info
          server_version := some greeting.server_version
          protocol_version := greeting.protocol_version
          thread_id := greeting.thread_id })
  | .refused errno text protocol_version thread_id =>
      (false,
        { handle with
          mysql := { handle.mysql.end_server with last_errno := errno, last_error := text }
          methods := true
          host_info := none
          protocol_version := protocol_version
          thread_id := thread_id })

/-! ## Calls -/

/-- A command to the server.  A text is NULL where a string has no UTF-8. -/
inductive Command where
  | query (text : Option CString)
  | init_db (name : Option CString)
  | ping
  | statistics
  | process_info
  | process_kill (processID : UInt64)
deriving DecidableEq

/-- What became of a command: the server carried it out, or the client did not
send it because of an earlier one, or anything else. -/
inductive Ended where
  | accepted
  | outOfSync
  | failed
deriving DecidableEq, Repr

/-- The arguments of `mysql_real_connect`. -/
structure Arguments where
  host : Option CString
  user : Option CString
  passwd : Option CString
  port : Int32
  unix_socket : Option CString
deriving DecidableEq

inductive Call where
  | mysql_init (handle : Option Nat)
  | mysql_real_connect (handle : Option Nat) (arguments : Arguments) (accepted : Bool)
  | mysql_close (handle : Option Nat)
  | accessor (handle : Option Nat)
  | command (handle : Option Nat) (command : Command) (ended : Ended)
  | rangeOfCharacterFromSet (escapeSet : Bool)
deriving DecidableEq

/-! ## The state -/

/-- A reply that has rows: to a query, or a list of processes. -/
inductive Source where
  | reply (n : Nat)
  | processReply (n : Nat)
deriving DecidableEq, Repr

/-- The number of the call. -/
def Source.number : Source → Nat
  | .reply n | .processReply n => n

/-- What `mysql_store_result` returned for a reply. -/
structure Stored where
  source : Source
  result : MYSQL_RES

/-- The object around a result, unless its initialiser raised. -/
def Stored.object (r : Stored) : Option MGMMyResult :=
  (MGMMyResult.initWithResult (some r.result)).toOption.join

/-- An object, the handles and what was called.  `stored` has the results the methods
stored, the last one first. -/
structure State where
  alive : Bool
  MySQLConnection : Option Nat
  isConnected : Bool
  timeZone : Option NSTimeZone
  escapeSet : Bool
  logQuery : Bool
  memory : Nat → Handle
  allocated : Nat
  clock : Nat
  calls : List Call
  stored : List Stored

/-- An object from `alloc`. -/
def State.blank : State where
  alive := true
  MySQLConnection := none
  isConnected := false
  timeZone := none
  escapeSet := false
  logQuery := false
  memory _ := .zero
  allocated := 0
  clock := 0
  calls := []
  stored := []

/-- The objects the methods made, the last one first. -/
def State.made (s : State) : List MGMMyResult := s.stored.filterMap Stored.object

/-- The zone a date formatter works with; nil stands for the default one. -/
def State.zone (E : Environment) (s : State) : NSTimeZone := s.timeZone.getD E.defaultTimeZone

/-- How a method ends early. -/
inductive Halt where
  | crashed
  | raised
deriving DecidableEq, Repr

abbrev Method (α : Type) := Program State Halt α

/-- What an exception of the pure part is for a method. -/
def orRaise {α : Type} : Except NSException α → Method α
  | .ok a => pure a
  | .error _ => Program.halt .raised

/-! ## Calls of the library -/

def record (call : Call) : Method Unit :=
  Program.modify fun s => { s with calls := call :: s.calls }

/-- A function that reads the handle. -/
def accessor {α : Type} (read : Handle → α) : Method α := fun s =>
  let called := { s with calls := .accessor s.MySQLConnection :: s.calls }
  match s.MySQLConnection with
  | none => (.error .crashed, called)
  | some h => (.ok (read (s.memory h)), called)

/-- What becomes of a command on a handle. -/
def ended (mysql : MYSQL) (w : Written) (accepts : Bool) : Ended :=
  if mysql.vio = false then .failed
  else if mysql.status ≠ .ready ∨ mysql.more_results = true then .outOfSync
  else
    match w with
    | .written => if accepts then .accepted else .failed
    | .tooLarge | .failed => .failed

/-- A function that sends a command. -/
def command {α : Type} (E : Environment) (c : Command) (accepts : Bool) (send : MYSQL → α × MYSQL) :
    Method α := fun s =>
  match s.MySQLConnection with
  | none => (.error .crashed, { s with calls := .command none c .failed :: s.calls })
  | some h =>
      let handle := s.memory h
      let how := ended handle.mysql (E.written s.clock) accepts
      let called := { s with calls := .command (some h) c how :: s.calls }
      if handle.methods then
        (.ok (send handle.mysql).1,
          { called with
            memory := Function.update s.memory h { handle with mysql := (send handle.mysql).2 }
            clock := s.clock + 1 })
      else (.error .crashed, called)

/-- The server carries a one-packet command out. -/
def accepts : Packet → Bool
  | .ok _ => true
  | .error _ _ | .lost => false

/-- The server carries a statement out, to its last row. -/
def executes : Reply → Bool
  | .ok _ _ _ => true
  | .columns _ (.rows _ _ _) => true
  | .columns _ (.error _ _) | .columns _ .lost => false
  | .error _ _ | .lost => false

/-- A command that is answered in one packet. -/
def simple_command (E : Environment) (c : Command) : Method (Option NSData) := do
  let s ← Program.get
  command E c (accepts (E.packet s.clock)) fun mysql =>
    mysql.simple_command (E.written s.clock) (E.packet s.clock)

/-- A function that is given a NULL text crashes on it. -/
def nullText {α : Type} (c : Command) : Method α := do
  let s ← Program.get
  record (.command s.MySQLConnection c .failed)
  Program.halt .crashed

def mysql_init (E : Environment) : Method Unit :=
  Program.modify fun s =>
    if E.mysql_init s.clock then
      { s with
        MySQLConnection := some s.allocated
        memory := Function.update s.memory s.allocated .zero
        allocated := s.allocated + 1
        clock := s.clock + 1
        calls := .mysql_init (some s.allocated) :: s.calls }
    else
      { s with
        MySQLConnection := none, clock := s.clock + 1, calls := .mysql_init none :: s.calls }

def mysql_close : Method Unit :=
  Program.modify fun s => { s with calls := .mysql_close s.MySQLConnection :: s.calls }

def mysql_real_connect (E : Environment) (arguments : Arguments) : Method Bool := fun s =>
  match s.MySQLConnection with
  | none =>
      (.error .crashed, { s with calls := .mysql_real_connect none arguments false :: s.calls })
  | some h =>
      let (accepted, handle) := (s.memory h).mysql_real_connect (E.mysql_real_connect s.clock)
      (.ok accepted,
        { s with
          memory := Function.update s.memory h handle
          clock := s.clock + 1
          calls := .mysql_real_connect (some h) arguments accepted :: s.calls })

/-! ## Quoting -/

/-- `escapeString:`.  A nil set makes `rangeOfCharacterFromSet:` raise. -/
def escapeString : Option NSString → Method (Option NSString)
  | none => pure none
  | some theString => do
      let s ← Program.get
      record (.rangeOfCharacterFromSet s.escapeSet)
      if s.escapeSet then return some (MGMMyConnection.escapeString theString)
      else Program.halt .raised

/-- The string `quoteObject:` has escaped. -/
def escapedText (F : Foundation) : Option Obj → Option NSString
  | some (.string s) => some s
  | some (.date d) => some (F.description (.date d))
  | some (.other description) => some (F.description (.other description))
  | _ => none

/-- `quoteObject:`. -/
def quoteObject (E : Environment) (theObject : Option Obj) : Method NSString := do
  let _ ← escapeString (escapedText E.foundation theObject)
  return MGMMyConnection.quoteObject E.foundation theObject

/-- `quoteChar:`.  `stringWithUTF8String:` does not take NULL. -/
def quoteChar (E : Environment) : Option CString → Method NSString
  | none => Program.halt .raised
  | some theChar => quoteObject E ((stringWithUTF8String theChar).map .string)

/-- The calls of `quoteObject:` in the loop of `query:`. -/
def quoteEach (E : Environment) : List (Option Obj) → Method Unit
  | [] => pure ()
  | o :: os => do
      let _ ← quoteObject E o
      quoteEach E os

/-! ## Queries -/

/-- An object around what a call stored.  If it raises, nobody has the result any more. -/
def resultObject (source : Source) (theResult : Option MYSQL_RES) :
    Method (Option MGMMyResult) := do
  match theResult with
  | none => return none
  | some result =>
      Program.modify fun s => { s with stored := ⟨source, result⟩ :: s.stored }
      orRaise (MGMMyResult.initWithResult (some result))

/-- `query:`, from its text on. -/
def sendQuery (E : Environment) (query : NSString) : Method (Option MGMMyResult) := do
  match UTF8String query with
  | none => nullText (.query none)
  | some bytes =>
      let s ← Program.get
      let result ← command E (.query (some (cString bytes))) (executes (E.reply s.clock))
        fun mysql => mysql.query_and_store (E.written s.clock) (E.reply s.clock)
      resultObject (.reply s.clock) result

/-- `query:`, behind the loop. -/
def sendComposed (E : Environment) : Except Query.Failure NSString → Method (Option MGMMyResult)
  | .error .invalidFormat => pure none
  | .error .badArgument => Program.halt .crashed
  | .error .rangeException => Program.halt .raised
  | .error .nilArgument => Program.halt .raised
  | .ok query => if query = [] then pure none else sendQuery E query

/-- `query:`. -/
def query (E : Environment) (format : NSString) (ap : List Arg) :
    Method (Option MGMMyResult) := do
  quoteEach E (Query.quoted E.foundation (MGMMyConnection.quoter E.foundation) format ap)
  sendComposed E (MGMMyConnection.queryText E.foundation format ap)

/-- `dataBasesLike:` and `tablesLike:` but for the text. -/
def listLike (E : Environment) (text : String) (theName : Option NSString) :
    Method (Option MGMMyResult) := do
  let name := if theName = some [] then none else (theName.bind UTF8String).map cString
  let s ← Program.get
  let result ← command E (.query (some (append_wild text name))) (executes (E.reply s.clock))
    fun mysql => mysql.query_and_store (E.written s.clock) (E.reply s.clock)
  resultObject (.reply s.clock) result

/-- `dataBasesLike:`. -/
def dataBasesLike (E : Environment) (theName : Option NSString) : Method (Option MGMMyResult) :=
  listLike E "show databases" theName

/-- `tablesLike:`. -/
def tablesLike (E : Environment) (theName : Option NSString) : Method (Option MGMMyResult) :=
  listLike E "show tables" theName

/-- `tablesFromDataBase:like:`. -/
def tablesFromDataBase (E : Environment) (theDataBase theName : Option NSString) :
    Method (Option MGMMyResult) :=
  if theName.getD [] = [] then
    query E (lit "SHOW TABLES FROM %!") [.object (theDataBase.map .string)]
  else
    query E (lit "SHOW TABLES FROM %! LIKE %@")
      [.object (theDataBase.map .string), .object (theName.map .string)]

/-- `columnsFromTable:like:`. -/
def columnsFromTable (E : Environment) (theTable theName : Option NSString) :
    Method (Option MGMMyResult) :=
  if theName.getD [] = [] then
    query E (lit "SHOW COLUMNS FROM %!") [.object (theTable.map .string)]
  else
    query E (lit "SHOW COLUMNS FROM %! LIKE %@")
      [.object (theTable.map .string), .object (theName.map .string)]

/-- `processes`. -/
def processes (E : Environment) : Method (Option MGMMyResult) := do
  let s ← Program.get
  let replied := match E.processReply s.clock with
    | .columns ⟨_, .rows _ _ _⟩ => true
    | _ => false
  let result ← command E .process_info replied fun mysql =>
    mysql.mysql_list_processes (E.written s.clock) (E.processReply s.clock)
  resultObject (.processReply s.clock) result

/-- `selectDataBase:`. -/
def selectDataBase (E : Environment) (theDataBase : Option NSString) : Method Bool := do
  if theDataBase.getD [] = [] then return false
  let s ← Program.get
  if s.isConnected then
    match theDataBase.bind UTF8String with
    | none => nullText (.init_db none)
    | some name =>
        let done ← simple_command E (.init_db (some (cString name)))
        return done.isSome
  else return true

/-- `createDataBase:`. -/
def createDataBase (E : Environment) (theDataBase : Option NSString) : Method Bool := do
  if theDataBase.getD [] = [] then return false
  let result ← query E (lit "CREATE DATABASE %@") [.object (theDataBase.map .string)]
  return result.isSome

/-- `deleteDataBase:`. -/
def deleteDataBase (E : Environment) (theDataBase : Option NSString) : Method Bool := do
  if theDataBase.getD [] = [] then return false
  let result ← query E (lit "DROP DATABASE %@") [.object (theDataBase.map .string)]
  return result.isSome

/-- `killProcess:`. -/
def killProcess (E : Environment) (processID : UInt64) : Method Bool := do
  let done ← simple_command E (.process_kill processID)
  return done.isSome

/-- `status`. -/
def status (E : Environment) : Method (Option NSString) := do
  let s ← Program.get
  let text ← command E .statistics (accepts (E.packet s.clock)) fun mysql =>
    mysql.mysql_stat (E.written s.clock) (E.packet s.clock)
  return stringWithUTF8String text

/-! ## The time zone -/

/-- `isConnected`. -/
def isConnected (E : Environment) : Method Bool := do
  let s ← Program.get
  if s.isConnected then
    let done ← simple_command E .ping
    return done.isSome
  else return false

/-- `objectAtIndex:`. -/
def objectAtIndex (row : List Obj) (i : Nat) : Except NSException Obj :=
  match row[i]? with
  | some o => .ok o
  | none => .error .invalidArgument

/-- `isEqualToString:`, which only strings answer. -/
def isEqualToString (o : Obj) (s : NSString) : Except NSException Bool :=
  match o with
  | .string t => .ok (t = s)
  | _ => .error .invalidArgument

/-- `myTimeZone==nil || [myTimeZone isEqualToString:@"SYSTEM"]`. -/
def isUnset : Option Obj → Except NSException Bool
  | none => .ok true
  | some myTimeZone => isEqualToString myTimeZone (lit "SYSTEM")

/-- The loop over the rows of the variables: `systemTimeZone` and `myTimeZone`. -/
def readZones :
    List (List Obj) → Option Obj × Option Obj → Except NSException (Option Obj × Option Obj)
  | [], zones => .ok zones
  | row :: rows, (systemTimeZone, myTimeZone) => do
      let name ← objectAtIndex row 0
      if ← isEqualToString name (lit "system_time_zone") then
        readZones rows (some (← objectAtIndex row 1), myTimeZone)
      else if ← isEqualToString name (lit "time_zone") then
        readZones rows (systemTimeZone, some (← objectAtIndex row 1))
      else readZones rows (systemTimeZone, myTimeZone)

/-- The arrays `nextRowAsArray` gives until it gives nil; none for no result. -/
def rowsOf (F : Foundation) (timeZone : NSTimeZone) : Option MGMMyResult → List (List Obj)
  | none => []
  | some result => result.result.data_cursor.map (result.rowObjects F timeZone)

/-- What is taken for the name of the zone when `time_zone` is not set, or is the
one of the server. -/
def serverTimeZone (E : Environment) : Option Obj × Option Obj → Method (Option Obj)
  | (some systemTimeZone, _) => pure (some systemTimeZone)
  | (none, myTimeZone) => do
      let timeZoneResult ← query E (lit "SHOW VARIABLES LIKE 'timezone'") []
      let s ← Program.get
      match rowsOf E.foundation (s.zone E) timeZoneResult with
      | [] => return myTimeZone
      | row :: _ => return some (← orRaise (objectAtIndex row 1))

/-- `timeZone = [[NSTimeZone timeZoneWithName:myTimeZone] retain]`, behind the
release of the old one. -/
def setTimeZone (E : Environment) : Option Obj → Method Unit
  | none => pure ()
  | some myTimeZone => do
      Program.modify fun s => { s with timeZone := none }
      match myTimeZone with
      | .string name => Program.modify fun s => { s with timeZone := E.timeZoneWithName name }
      | _ => Program.halt .raised

/-- `getTimeZone`. -/
def getTimeZone (E : Environment) : Method Unit := do
  if ← isConnected E then
    let timeZoneResult ← query E (lit "SHOW VARIABLES LIKE '%%time_zone'") []
    let s ← Program.get
    let zones ← orRaise (readZones (rowsOf E.foundation (s.zone E) timeZoneResult) (none, none))
    if ← orRaise (isUnset zones.2) then setTimeZone E (← serverTimeZone E zones)
    else setTimeZone E zones.2

/-! ## Connecting -/

/-- What both connect methods begin with: close a session that is open, and have a
handle. -/
def reopen (E : Environment) : Method Unit := do
  let s ← Program.get
  if s.isConnected then
    Program.modify fun s => { s with isConnected := false }
    mysql_close
    Program.modify fun s => { s with MySQLConnection := none }
  let s ← Program.get
  if s.MySQLConnection = none then mysql_init E

/-- What both end with: connect, and find the time zone. -/
def establish (E : Environment) (arguments : Arguments) : Method Bool := do
  let accepted ← mysql_real_connect E arguments
  Program.modify fun s => { s with isConnected := accepted }
  if accepted then getTimeZone E
  let s ← Program.get
  return s.isConnected

/-- A name or password for the library, NULL for nil. -/
def credential (text : Option NSString) : Option CString := (text.bind UTF8String).map cString

def MYSQL_UNIX_ADDR : CString := cString (ascii "/tmp/mysql.sock")

/-- `connectWithHost:port:username:password:`. -/
def connectWithHost (E : Environment) (theHost : Option NSString) (thePort : Int32)
    (theUsername thePassword : Option NSString) : Method Bool := do
  reopen E
  let s ← Program.get
  if s.MySQLConnection = none then return s.isConnected
  let thePort := if thePort = 0 then 3306 else thePort
  if theHost.getD [] = [] then return false
  establish E
    { host := credential theHost
      user := credential theUsername
      passwd := credential thePassword
      port := thePort
      unix_socket := some MYSQL_UNIX_ADDR }

/-- `connectWithSocket:username:password:`. -/
def connectWithSocket (E : Environment) (theSocket theUsername thePassword : Option NSString) :
    Method Bool := do
  reopen E
  let s ← Program.get
  if s.MySQLConnection = none then return s.isConnected
  establish E
    { host := none
      user := credential theUsername
      passwd := credential thePassword
      port := 0
      unix_socket := if theSocket.getD [] = [] then some MYSQL_UNIX_ADDR else credential theSocket }

/-- `disconnect`. -/
def disconnect : Method Unit := do
  let s ← Program.get
  if s.isConnected then
    mysql_close
    Program.modify fun s => { s with MySQLConnection := none, isConnected := false }

/-! ## What is read of the handle -/

/-- `errorMessage`. -/
def errorMessage : Method (Option NSString) := do
  let s ← Program.get
  if s.isConnected then accessor fun handle => stringWithUTF8String handle.mysql.last_error
  else return none

/-- `errorID`. -/
def errorID : Method Nat := do
  let s ← Program.get
  if s.isConnected then accessor fun handle => handle.mysql.last_errno else return 0

/-- `affectedRows`. -/
def affectedRows : Method UInt64 := do
  let s ← Program.get
  if s.isConnected then accessor fun handle => handle.mysql.affected_rows else return 0

/-- `insertId`. -/
def insertId : Method UInt64 := do
  let s ← Program.get
  if s.isConnected then accessor fun handle => handle.mysql.insert_id else return 0

/-- A string of the handle; `stringWithCString:encoding:` does not take NULL. -/
def stringOf (read : Handle → Option CString) : Method (Option NSString) := do
  match ← accessor read with
  | none => Program.halt .raised
  | some text => return stringWithUTF8String text

/-- `hostInfo`. -/
def hostInfo : Method (Option NSString) := stringOf fun handle => handle.host_info

/-- `serverInfo`. -/
def serverInfo : Method (Option NSString) := do
  let s ← Program.get
  if s.isConnected then stringOf fun handle => handle.server_version else return none

/-- `protoInfo`. -/
def protoInfo : Method UInt32 := accessor fun handle => handle.protocol_version

/-- `threadID`. -/
def threadID : Method UInt64 := accessor fun handle => handle.thread_id

/-! ## The object -/

/-- The initialisers. -/
inductive Creation where
  | init
  | initWithHost (theHost : Option NSString) (thePort : Int32)
      (theUsername thePassword : Option NSString)
  | initWithSocket (theSocket theUsername thePassword : Option NSString)

def init (E : Environment) : Method Unit :=
  Program.modify fun s => { s with timeZone := some E.defaultTimeZone, isConnected := false }

def create (E : Environment) : Creation → Method Unit
  | .init => init E
  | .initWithHost theHost thePort theUsername thePassword => do
      init E
      let _ ← connectWithHost E theHost thePort theUsername thePassword
      Program.modify fun s => { s with escapeSet := true }
  | .initWithSocket theSocket theUsername thePassword => do
      init E
      let _ ← connectWithSocket E theSocket theUsername thePassword
      Program.modify fun s => { s with escapeSet := true }

def dealloc : Method Unit := do
  let s ← Program.get
  if s.isConnected then
    mysql_close
    Program.modify fun s => { s with MySQLConnection := none }
  Program.modify fun s => { s with alive := false }

/-- The methods, with their arguments. -/
inductive Op where
  | connectWithHost (theHost : Option NSString) (thePort : Int32)
      (theUsername thePassword : Option NSString)
  | connectWithSocket (theSocket theUsername thePassword : Option NSString)
  | MySQLConnection
  | isConnected
  | disconnect
  | errorMessage
  | errorID
  | escapeData (theData : NSData)
  | escapeString (theString : Option NSString)
  | quoteObject (theObject : Option Obj)
  | quoteChar (theChar : Option CString)
  | logQuery
  | setLogQuery (shouldLogQuery : Bool)
  | query (format : NSString) (ap : List Arg)
  | affectedRows
  | insertId
  | selectDataBase (theDataBase : Option NSString)
  | dataBasesLike (theName : Option NSString)
  | createDataBase (theDataBase : Option NSString)
  | deleteDataBase (theDataBase : Option NSString)
  | tablesLike (theName : Option NSString)
  | tablesFromDataBase (theDataBase theName : Option NSString)
  | columnsFromTable (theTable theName : Option NSString)
  | clientInfo
  | hostInfo
  | serverInfo
  | protoInfo
  | status
  | threadID
  | processes
  | killProcess (processID : UInt64)
  | timeZone
  | getTimeZone
  | dealloc

/-- What a method returns. -/
inductive Value where
  | void
  | handle (h : Option Nat)
  | bool (b : Bool)
  | number (n : Nat)
  | string (s : Option NSString)
  | zone (z : Option NSTimeZone)
  | result (r : Option MGMMyResult)

/-- A method by its name.  `dataBases`, `tables` and the methods without `like:`
are those with nil for the pattern. -/
def perform (E : Environment) : Op → Method Value
  | .connectWithHost theHost thePort theUsername thePassword =>
      .bool <$> connectWithHost E theHost thePort theUsername thePassword
  | .connectWithSocket theSocket theUsername thePassword =>
      .bool <$> connectWithSocket E theSocket theUsername thePassword
  | .MySQLConnection => (fun s => .handle s.MySQLConnection) <$> Program.get
  | .isConnected => .bool <$> isConnected E
  | .disconnect => (fun _ => .void) <$> disconnect
  | .errorMessage => .string <$> errorMessage
  | .errorID => .number <$> errorID
  | .escapeData theData => pure (.string (some (escapeData theData)))
  | .escapeString theString => .string <$> escapeString theString
  | .quoteObject theObject => (fun s => .string (some s)) <$> quoteObject E theObject
  | .quoteChar theChar => (fun s => .string (some s)) <$> quoteChar E theChar
  | .logQuery => (fun s => .bool s.logQuery) <$> Program.get
  | .setLogQuery shouldLogQuery =>
      (fun _ => .void) <$> Program.modify fun s => { s with logQuery := shouldLogQuery }
  | .query format ap => .result <$> query E format ap
  | .affectedRows => (fun n => .number n.toNat) <$> affectedRows
  | .insertId => (fun n => .number n.toNat) <$> insertId
  | .selectDataBase theDataBase => .bool <$> selectDataBase E theDataBase
  | .dataBasesLike theName => .result <$> dataBasesLike E theName
  | .createDataBase theDataBase => .bool <$> createDataBase E theDataBase
  | .deleteDataBase theDataBase => .bool <$> deleteDataBase E theDataBase
  | .tablesLike theName => .result <$> tablesLike E theName
  | .tablesFromDataBase theDataBase theName => .result <$> tablesFromDataBase E theDataBase theName
  | .columnsFromTable theTable theName => .result <$> columnsFromTable E theTable theName
  | .clientInfo => pure (.string (stringWithUTF8String E.mysql_get_client_info))
  | .hostInfo => .string <$> hostInfo
  | .serverInfo => .string <$> serverInfo
  | .protoInfo => (fun n => .number n.toNat) <$> protoInfo
  | .status => .string <$> status E
  | .threadID => (fun n => .number n.toNat) <$> threadID
  | .processes => .result <$> processes E
  | .killProcess processID => .bool <$> killProcess E processID
  | .timeZone => (fun s => .zone s.timeZone) <$> Program.get
  | .getTimeZone => (fun _ => .void) <$> getTimeZone E
  | .dealloc => (fun _ => .void) <$> dealloc

/-- A crash ends the program. -/
def survived (outcome : Except Halt Value × State) : State :=
  match outcome with
  | (.error .crashed, s) => { s with alive := false }
  | (_, s) => s

/-- The object as a machine.  One that is gone does not answer. -/
def object (E : Environment) : Machine State Op (Option (Except Halt Value)) where
  step s op :=
    if s.alive then (some (perform E op s).1, survived (perform E op s)) else (none, s)

/-- The object an initialiser leaves, if it does not raise or crash. -/
def start (E : Environment) (creation : Creation) : State :=
  match create E creation State.blank with
  | (.ok (), s) => s
  | (.error _, s) => { s with alive := false }

/-- The states of an object after an initialiser and any calls of its methods. -/
def after (E : Environment) (creation : Creation) (ops : List Op) : State :=
  ((object E).run (start E creation) ops).2

end MyConnection

end MGMDB
