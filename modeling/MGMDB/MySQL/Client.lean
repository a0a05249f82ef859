import MGMDB.MySQL.Result

/-!
# The MySQL client

What `libmysql` keeps about a session, as far as the program reads it or a
command depends on it, and what sending a query and storing its result do to
that.  The server is the argument: whether the command could be written, and the
reply.  A reply that announces columns leaves the rows in the network until
`mysql_store_result` reads them, and a second command before that is refused.

The program never turns automatic reconnection on, so a command on a lost
session fails.
-/

namespace MGMDB

/-- `enum mysql_status`, as far as the program gets. -/
inductive mysql_status where
  | ready
  | get_result
deriving DecidableEq, Repr

def CR_SERVER_GONE_ERROR : Nat := 2006
def CR_WRONG_HOST_INFO : Nat := 2009
def CR_SERVER_LOST : Nat := 2013
def CR_COMMANDS_OUT_OF_SYNC : Nat := 2014
def CR_NET_PACKET_TOO_LARGE : Nat := 2020

/-! ## Texts of errors -/

/-- The bytes of an ASCII text. -/
def ascii (text : String) : List UInt8 := text.toList.map fun c => .ofNat c.toNat

/-- `ER`, of the errors that a session may have. -/
def ER (errcode : Nat) : CString :=
  cString (ascii (match errcode with
    | 2000 => "Unknown MySQL error"
    | 2006 => "MySQL server has gone away"
    | 2009 => "Wrong host info"
    | 2013 => "Lost connection to MySQL server during query"
    | 2014 => "Commands out of sync; you can't run this command now"
    | 2020 => "Got packet bigger than 'max_allowed_packet' bytes"
    | 2027 => "Malformed packet"
    | _ => ""))

/-! ## The server -/

/-- What follows the description of the columns: all rows, with the flag that
more results follow, or an error packet, or a loss of the session. -/
inductive RowData (columns : Nat) where
  | rows (data : List MYSQL_ROW) (row_length : ∀ row ∈ data, row.length = columns) (more : Bool)
  | error (errno : Nat) (text : CString)
  | lost

/-- What the server answers to a query. -/
inductive Reply where
  | ok (affected_rows insert_id : UInt64) (more : Bool)
  | columns (fields : List MYSQL_FIELD) (data : RowData fields.length)
  | error (errno : Nat) (text : CString)
  | lost

/-- What the server answers to a command that is answered in one packet. -/
inductive Packet where
  | ok (bytes : NSData)
  | error (errno : Nat) (text : CString)
  | lost

/-- How writing a command ends. -/
inductive Written where
  | written
  | tooLarge
  | failed

/-! ## The session -/

/-- Columns that were announced, and their rows in the network. -/
structure Announced where
  fields : List MYSQL_FIELD
  data : RowData fields.length

/-- What the server answers to `COM_PROCESS_INFO`. -/
inductive ProcessReply where
  | columns (announced : Announced)
  | error (errno : Nat) (text : CString)
  | lost

/-- A `MYSQL`.  `vio` tells a live session. -/
structure MYSQL where
  vio : Bool
  status : mysql_status
  more_results : Bool
  fields : Option Announced
  affected_rows : UInt64
  insert_id : UInt64
  last_errno : Nat
  last_error : CString

namespace MYSQL

def set_mysql_error (mysql : MYSQL) (errcode : Nat) : MYSQL :=
  { mysql with last_errno := errcode, last_error := ER errcode }

def net_clear_error (mysql : MYSQL) : MYSQL :=
  { mysql with last_errno := 0, last_error := cString [] }

def free_old_query (mysql : MYSQL) : MYSQL := { mysql with fields := none }

def end_server (mysql : MYSQL) : MYSQL := { mysql with vio := false, fields := none }

/-- `cli_safe_read` of an error packet, with the text that is kept of it. -/
def error_packet (mysql : MYSQL) (errno : Nat) (text : CString) : MYSQL :=
  { mysql with last_errno := errno, last_error := text, more_results := false }

/-- `cli_safe_read` on a session that is gone. -/
def lost (mysql : MYSQL) : MYSQL := mysql.end_server.set_mysql_error CR_SERVER_LOST

/-- `cli_advanced_command`, up to the reply.  The answer tells a failure. -/
def cli_advanced_command (mysql : MYSQL) (w : Written) : Bool × MYSQL :=
  if mysql.vio = false then (true, mysql.set_mysql_error CR_SERVER_GONE_ERROR)
  else if mysql.status ≠ .ready ∨ mysql.more_results = true then
    (true, mysql.set_mysql_error CR_COMMANDS_OUT_OF_SYNC)
  else
    let mysql := { mysql.net_clear_error with affected_rows := ~~~0 }
    match w with
    | .written => (false, mysql)
    | .tooLarge => (true, mysql.set_mysql_error CR_NET_PACKET_TOO_LARGE)
    | .failed => (true, mysql.end_server.set_mysql_error CR_SERVER_GONE_ERROR)

/-- `cli_read_query_result`. -/
def cli_read_query_result (mysql : MYSQL) : Reply → Bool × MYSQL
  | .ok affected_rows insert_id more =>
      (false, { mysql.free_old_query with
        affected_rows := affected_rows, insert_id := insert_id, more_results := more })
  | .columns fields data =>
      (false, { mysql with status := .get_result, fields := some ⟨fields, data⟩ })
  | .error errno text => (true, mysql.error_packet errno text)
  | .lost => (true, mysql.lost)

/-- `mysql_query`. -/
def mysql_query (mysql : MYSQL) (w : Written) (reply : Reply) : Bool × MYSQL :=
  match mysql.cli_advanced_command w with
  | (true, mysql) => (true, mysql)
  | (false, mysql) => mysql.cli_read_query_result reply

/-- `mysql_store_result`, with NULL as `none`. -/
def mysql_store_result (mysql : MYSQL) : Option MYSQL_RES × MYSQL :=
  match mysql.fields with
  | none => (none, mysql)
  | some announced =>
      if mysql.status ≠ .get_result then (none, mysql.set_mysql_error CR_COMMANDS_OUT_OF_SYNC)
      else
        let mysql := { mysql with status := .ready }
        match announced.data with
        | .rows data row_length more =>
            (some (.stored announced.fields data row_length),
              { mysql with
                affected_rows := .ofNat data.length, fields := none, more_results := more })
        | .error errno text => (none, mysql.error_packet errno text)
        | .lost => (none, mysql.lost)

/-- `simple_command` with an answer that is waited for, and NULL as `none` when it
fails. -/
def simple_command (mysql : MYSQL) (w : Written) (packet : Packet) : Option NSData × MYSQL :=
  match mysql.cli_advanced_command w with
  | (true, mysql) => (none, mysql)
  | (false, mysql) =>
      match packet with
      | .ok bytes => (some bytes, mysql)
      | .error errno text => (none, mysql.error_packet errno text)
      | .lost => (none, mysql.lost)

/-- `mysql_stat`, which returns the text of the error when it fails. -/
def mysql_stat (mysql : MYSQL) (w : Written) (packet : Packet) : CString × MYSQL :=
  match mysql.simple_command w packet with
  | (none, mysql) => (mysql.last_error, mysql)
  | (some bytes, mysql) =>
      if bytes.headD 0 = 0 then
        (ER CR_WRONG_HOST_INFO, mysql.set_mysql_error CR_WRONG_HOST_INFO)
      else (cString bytes, mysql)

/-- `mysql_query` and then `mysql_store_result`, as `query:`, `mysql_list_dbs` and
`mysql_list_tables` call them. -/
def query_and_store (mysql : MYSQL) (w : Written) (reply : Reply) : Option MYSQL_RES × MYSQL :=
  match mysql.mysql_query w reply with
  | (true, mysql) => (none, mysql)
  | (false, mysql) => mysql.mysql_store_result

/-- `mysql_list_processes`. -/
def mysql_list_processes (mysql : MYSQL) (w : Written) (reply : ProcessReply) :
    Option MYSQL_RES × MYSQL :=
  match mysql.cli_advanced_command w with
  | (true, mysql) => (none, mysql)
  | (false, mysql) =>
      match reply with
      | .columns announced =>
          { mysql with status := .get_result, fields := some announced }.mysql_store_result
      | .error errno text => (none, mysql.error_packet errno text)
      | .lost => (none, mysql.lost)

/-- A session on which a command may be sent. -/
structure Ready (mysql : MYSQL) : Prop where
  vio : mysql.vio = true
  status : mysql.status = .ready
  more_results : mysql.more_results = false

end MYSQL

/-! ## Texts of commands -/

/-- `append_wild` behind `like '`, with the room that is left in the buffer. -/
def wildBody (room : Nat) : List UInt8 → List UInt8
  | [] => []
  | c :: wild =>
      if room = 0 then [0x25]
      else if c = 0x5C ∨ c = 0x27 then 0x5C :: c :: wildBody (room - 2) wild
      else c :: wildBody (room - 1) wild

/-- The text `append_wild` leaves in the buffer of 255 bytes. -/
def append_wild (text : String) (wild : Option CString) : CString :=
  let text := ascii text
  match wild with
  | none => cString text
  | some wild =>
      if wild.val = [] then cString text
      else
        let text := text ++ ascii " like '"
        cString (text ++ wildBody (250 - text.length) wild.val ++ [0x27])

end MGMDB
