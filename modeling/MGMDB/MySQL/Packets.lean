import MGMDB.MySQL.Client
import MGMDB.MySQL.RowPacket
import MGMDB.MySQL.Net

/-!
# The client, packet by packet

The functions of `client.c` that send a command and read what the server answers, over
anything that sends commands and yields packets.  They speak the protocol of version
4.1.  Where they would read behind a packet, the run ends with `undefined`.
-/

namespace MGMDB

open Framing Systems Program

def CR_UNKNOWN_ERROR : Nat := 2000
def CR_MALFORMED_PACKET : Nat := 2027

def SERVER_STATUS_IN_TRANS : UInt16 := 1
def SERVER_STATUS_AUTOCOMMIT : UInt16 := 2
def SERVER_MORE_RESULTS_EXISTS : UInt16 := 8

def COM_QUERY : UInt8 := 3
def COM_STATISTICS : UInt8 := 9
def COM_PROCESS_INFO : UInt8 := 10

def NUM_FLAG : UInt32 := 32768

def MYSQL_ERRMSG_SIZE : Nat := 512

/-- How a call of the network ends early: it waits, or it fails, and then it tells whether
a packet was too large. -/
inductive NetFault where
  | waits
  | failed (tooLarge : Bool)
deriving DecidableEq, Repr

/-- What the client needs of a network.  Reading packets comes to an end. -/
structure Transport (σ : Type) where
  command : UInt8 → List UInt8 → σ → Except NetFault Unit × σ
  my_net_read : σ → Except NetFault (List UInt8) × σ
  size : σ → Nat
  read_lt : ∀ {s t packet}, my_net_read s = (.ok packet, t) → size t < size s

/-- How a function ends early: it waits for the network, it reports a failure, or it
reads behind a packet. -/
inductive Fault where
  | waits
  | failed
  | undefined
deriving DecidableEq, Repr

/-- A `MYSQL` with its network.  `vio` tells a live session. -/
structure Client (σ : Type) where
  net : σ
  vio : Bool
  status : mysql_status
  server_status : UInt16
  warning_count : Nat
  fields : Option (List MYSQL_FIELD)
  affected_rows : UInt64
  insert_id : UInt64
  last_errno : Nat
  last_error : CString

namespace Client

variable {σ : Type}

/-- A function of the client. -/
abbrev Call (σ α : Type) := Program (Client σ) Fault α

def set_mysql_error (c : Client σ) (errcode : Nat) : Client σ :=
  { c with last_errno := errcode, last_error := ER errcode }

def net_clear_error (c : Client σ) : Client σ :=
  { c with last_errno := 0, last_error := cString [] }

def free_old_query (c : Client σ) : Client σ := { c with fields := none, warning_count := 0 }

def end_server (c : Client σ) : Client σ := { c.free_old_query with vio := false }

/-! ## Packets -/

/-- The end of `cli_safe_read` without a packet. -/
def lost (c : Client σ) (tooLarge : Bool) : Client σ :=
  c.end_server.set_mysql_error
    (if tooLarge ∨ c.last_errno = ER_NET_PACKET_TOO_LARGE then CR_NET_PACKET_TOO_LARGE
      else CR_SERVER_LOST)

/-- The text of an error packet, from behind the number on, where a state may stand in front
of it.  A packet that ends in the state has none. -/
def errorText (pos : List UInt8) : Option CString :=
  if pos.headD 0 = 0x23 then
    if pos.length < 6 then none else some (cString ((pos.drop 6).take (MYSQL_ERRMSG_SIZE - 1)))
  else some (cString (pos.take (MYSQL_ERRMSG_SIZE - 1)))

/-- The client after an error with a number and a text. -/
def failedWith (c : Client σ) (errno : Nat) (text : CString) : Client σ :=
  { c with
    last_errno := errno
    last_error := text
    server_status := c.server_status &&& ~~~SERVER_MORE_RESULTS_EXISTS }

/-- `cli_safe_read` of an error packet. -/
def error_packet (packet : List UInt8) : Call σ (List UInt8) := fun c =>
  if 3 < packet.length then
    match errorText (packet.drop 3) with
    | none => (.error .undefined, c)
    | some text => (.error .failed, c.failedWith (uint2korr (packet.drop 1)) text)
  else (.error .failed, c.failedWith CR_UNKNOWN_ERROR (ER CR_UNKNOWN_ERROR))

/-- `cli_safe_read`: a packet that is neither empty nor an error. -/
def cli_safe_read (T : Transport σ) : Call σ (List UInt8) := fun c =>
  if c.vio then
    match T.my_net_read c.net with
    | (.error .waits, net) => (.error .waits, { c with net := net })
    | (.error (.failed tooLarge), net) => (.error .failed, { c with net := net }.lost tooLarge)
    | (.ok packet, net) =>
        if packet = [] then (.error .failed, { c with net := net }.lost false)
        else if packet.headD 0 = 255 then error_packet packet { c with net := net }
        else (.ok packet, { c with net := net })
  else (.error .failed, c.lost false)

/-- The fields of a packet at the end of rows. -/
def eof_packet (c : Client σ) (packet : List UInt8) : Client σ :=
  { c with
    warning_count := uint2korr (packet.drop 1)
    server_status := .ofNat (uint2korr (packet.drop 3)) }

/-- Whether a packet ends the rows. -/
def isEof (packet : List UInt8) : Bool := packet.headD 0 = 254 ∧ packet.length < 8

/-! ## Rows -/

/-- What `cli_read_rows` does with a packet that is not the last one.  `my_net_read` puts a
zero behind every packet. -/
def readRow (fields : Nat) (packet : List UInt8) : Call σ RowBuffer := fun c =>
  match unpackRow packet.length fields (packet ++ [0]) 0 with
  | .ok row => (.ok row, c)
  | .error .malformed => (.error .failed, c.set_mysql_error CR_MALFORMED_PACKET)
  | .error .outside => (.error .undefined, c)

/-- The end of `cli_read_rows`. -/
def endRows (packet : List UInt8) : Call σ (List RowBuffer) := fun c =>
  if packet.length = 1 then (.ok [], c)
  else if packet.length < 5 then (.error .undefined, c)
  else (.ok [], c.eof_packet packet)

theorem error_packet_error (packet : List UInt8) (c : Client σ) :
    ∃ fault c', error_packet packet c = (.error fault, c') := by
  rw [error_packet]
  split
  next =>
    split
    next => exact ⟨_, _, rfl⟩
    next => exact ⟨_, _, rfl⟩
  next => exact ⟨_, _, rfl⟩

theorem cli_safe_read_lt {T : Transport σ} {c c' : Client σ} {packet : List UInt8}
    (h : cli_safe_read T c = (.ok packet, c')) : T.size c'.net < T.size c.net := by
  rw [cli_safe_read] at h
  split at h
  next =>
    split at h
    next => cases h
    next => cases h
    next packet net hread =>
      split at h
      next => cases h
      next =>
        split at h
        next =>
          obtain ⟨fault, t, herror⟩ := error_packet_error packet { c with net := net }
          rw [herror] at h
          cases h
        next =>
          cases h
          exact T.read_lt hread
  next => cases h

/-- `cli_read_rows`. -/
def cli_read_rows (T : Transport σ) (fields : Nat) (c : Client σ) :
    Except Fault (List RowBuffer) × Client σ :=
  match _h : cli_safe_read T c with
  | (.error fault, c) => (.error fault, c)
  | (.ok packet, c) =>
      if isEof packet then endRows packet c
      else
        match readRow fields packet c with
        | (.error fault, c) => (.error fault, c)
        | (.ok row, _) =>
            match cli_read_rows T fields c with
            | (.error fault, c) => (.error fault, c)
            | (.ok rows, c) => (.ok (row :: rows), c)
termination_by T.size c.net
decreasing_by exact cli_safe_read_lt _h

/-! ## Descriptions of columns -/

/-- The type with a code. -/
def fieldType (code : UInt8) : enum_field_types :=
  match code.toNat with
  | 0 => .decimal
  | 1 => .tiny
  | 2 => .short
  | 3 => .long
  | 4 => .float
  | 5 => .double
  | 6 => .null
  | 7 => .timestamp
  | 8 => .longlong
  | 9 => .int24
  | 10 => .date
  | 11 => .time
  | 12 => .datetime
  | 13 => .year
  | 14 => .newdate
  | 15 => .varchar
  | 16 => .bit
  | 246 => .newdecimal
  | 247 => .enum
  | 248 => .set
  | 249 => .tiny_blob
  | 250 => .medium_blob
  | 251 => .long_blob
  | 252 => .blob
  | 253 => .var_string
  | 254 => .string
  | 255 => .geometry
  | _ => .unknown code

/-- `INTERNAL_NUM_FIELD`. -/
def INTERNAL_NUM_FIELD (code : UInt8) (length : Nat) : Bool :=
  code ≤ 9 ∧ (code ≠ 7 ∨ length = 14 ∨ length = 8) ∨ code = 13

/-- The loop of `unpack_fields`: the description of a column from its row. -/
def unpackField (row : RowBuffer) : Option MYSQL_FIELD :=
  match (copyRow 0 row)[4]?, (copyRow 0 row)[6]? with
  | some name, some (some pos) =>
      if pos.length < 10 then none
      else
        let code := pos.getD 6 0
        let flags : UInt32 := .ofNat (uint2korr (pos.drop 7))
        some {
          name := cString (name.getD [])
          type := fieldType code
          flags :=
            if INTERNAL_NUM_FIELD code (uint4korr (pos.drop 2)) then flags ||| NUM_FLAG else flags }
  | _, _ => none

/-- `unpack_fields`, with a description for every column that was announced. -/
def unpack_fields (data : List RowBuffer) (fields : Nat) : Option (List MYSQL_FIELD) :=
  if data.length = fields then data.mapM unpackField else none

/-! ## Commands and answers -/

/-- A session that is gone and not opened again, as `mysql_reconnect` leaves it. -/
def gone (c : Client σ) : Client σ :=
  { c with server_status := c.server_status &&& ~~~SERVER_STATUS_IN_TRANS }.set_mysql_error
    CR_SERVER_GONE_ERROR

/-- `cli_advanced_command`, up to the answer. -/
def cli_advanced_command (T : Transport σ) (command : UInt8) (arg : List UInt8) : Call σ Unit :=
  fun c =>
    if !c.vio then (.error .failed, c.gone)
    else if c.status ≠ .ready ∨ c.server_status &&& SERVER_MORE_RESULTS_EXISTS ≠ 0 then
      (.error .failed, c.set_mysql_error CR_COMMANDS_OUT_OF_SYNC)
    else
      let c := { c.net_clear_error with affected_rows := ~~~0 }
      match T.command command arg c.net with
      | (.ok (), net) => (.ok (), { c with net := net })
      | (.error .waits, net) => (.error .waits, { c with net := net })
      | (.error (.failed true), net) =>
          (.error .failed, { c with net := net }.set_mysql_error CR_NET_PACKET_TOO_LARGE)
      | (.error (.failed false), net) => (.error .failed, { c with net := net }.end_server.gone)

/-- The numbers in an `OK` packet, behind its first byte. -/
def readOk (pos : List UInt8) : Option (UInt64 × UInt64 × Nat × Nat) := do
  let (affected_rows, pos) ← net_field_length_ll pos
  let (insert_id, pos) ← net_field_length_ll pos
  if pos.length < 4 then none
  else some (affected_rows, insert_id, uint2korr pos, uint2korr (pos.drop 2))

/-- `cli_read_query_result` of an `OK` packet. -/
def ok_packet (pos : List UInt8) : Call σ Unit := fun c =>
  match readOk pos with
  | none => (.error .undefined, c)
  | some (affected_rows, insert_id, server_status, warning_count) =>
      (.ok (), { c with
        affected_rows := affected_rows
        insert_id := insert_id
        server_status := .ofNat server_status
        warning_count := warning_count })

/-- The descriptions of the columns, which are kept until the rows are read. -/
def readFields (T : Transport σ) (field_count : Nat) : Call σ Unit := fun c =>
  match cli_read_rows T 7 c with
  | (.error fault, c) => (.error fault, c)
  | (.ok data, c) =>
      match unpack_fields data field_count with
      | none => (.error .undefined, c)
      | some fields => (.ok (), { c with fields := some fields, status := .get_result })

/-- Without the autocommit mode a query is in a transaction. -/
def inTransaction (c : Client σ) : Client σ :=
  { c with
    server_status := if c.server_status &&& SERVER_STATUS_AUTOCOMMIT = 0 then
      c.server_status ||| SERVER_STATUS_IN_TRANS else c.server_status }

/-- `cli_read_query_result`. -/
def cli_read_query_result (T : Transport σ) : Call σ Unit := do
  let packet ← cli_safe_read T
  modify free_old_query
  match net_field_length packet with
  | none => halt .undefined
  | some (field_count, pos) =>
      if field_count = 0 then ok_packet pos
      else if field_count = NULL_LENGTH then do
        modify fun c => c.set_mysql_error CR_MALFORMED_PACKET
        halt .failed
      else do
        modify inTransaction
        readFields T (field_count.toNat % 2 ^ 32)

/-- `mysql_query`. -/
def mysql_query (T : Transport σ) (query : CString) : Call σ Unit := do
  cli_advanced_command T COM_QUERY query.val
  cli_read_query_result T

/-- A stored result: the columns, and the rows with their buffers. -/
structure Stored where
  fields : List MYSQL_FIELD
  data : List RowBuffer

/-- `mysql_store_result`, with NULL as a failure. -/
def mysql_store_result (T : Transport σ) : Call σ Stored := fun c =>
  match c.fields with
  | none => (.error .failed, c)
  | some fields =>
      if c.status ≠ .get_result then (.error .failed, c.set_mysql_error CR_COMMANDS_OUT_OF_SYNC)
      else
        match cli_read_rows T fields.length { c with status := .ready } with
        | (.error fault, c) => (.error fault, c)
        | (.ok data, c) =>
            (.ok ⟨fields, data⟩, { c with affected_rows := .ofNat data.length, fields := none })

/-- `simple_command` with an answer that is waited for. -/
def simple_command (T : Transport σ) (command : UInt8) (arg : List UInt8) :
    Call σ (List UInt8) := do
  cli_advanced_command T command arg
  cli_safe_read T

/-- `mysql_stat`, which returns the text of the error when it fails. -/
def mysql_stat (T : Transport σ) : Call σ CString := fun c =>
  match simple_command T COM_STATISTICS [] c with
  | (.error .failed, c) => (.ok c.last_error, c)
  | (.error fault, c) => (.error fault, c)
  | (.ok packet, c) =>
      if packet.headD 0 = 0 then
        (.ok (ER CR_WRONG_HOST_INFO), c.set_mysql_error CR_WRONG_HOST_INFO)
      else (.ok (cString packet), c)

/-- `mysql_list_processes`. -/
def mysql_list_processes (T : Transport σ) : Call σ Stored := do
  let packet ← simple_command T COM_PROCESS_INFO []
  modify free_old_query
  match net_field_length packet with
  | none => halt .undefined
  | some (field_count, _) => do
      readFields T (field_count.toNat % 2 ^ 32)
      mysql_store_result T

end Client

end MGMDB
