import MGMDB.Framing.Slices
import MGMDB.MySQL.Frames
import MGMDB.MySQL.Vio
import MGMDB.Systems.Program

/-!
# Packets on the socket

The layer of `net_serv.cc` between the packets of the protocol and the socket.  A
`NET` has one buffer for both directions.  Packets are written into it and the
socket gets it when it is full or flushed, and packets are read into it, long ones in
several pieces.  With compression, what goes over the socket is a sequence of blocks,
and the packets are cut out of what is in the blocks.

The library for compression is an argument.  Memory is never short.
-/

namespace MGMDB

open Framing Systems Program

def MIN_COMPRESS_LENGTH : Nat := 50

def IO_SIZE : Nat := 4096

def ER_NET_PACKET_TOO_LARGE : Nat := 1153
def ER_NET_UNCOMPRESS_ERROR : Nat := 1157
def ER_NET_READ_ERROR : Nat := 1158
def ER_NET_READ_INTERRUPTED : Nat := 1159
def ER_NET_ERROR_ON_WRITE : Nat := 1160
def ER_NET_WRITE_INTERRUPTED : Nat := 1161

/-- `compress` and `uncompress` of the library, the latter with the room for its
result. -/
structure Zlib where
  compress : List UInt8 → List UInt8
  uncompress : List UInt8 → Nat → Option (List UInt8)

/-- A library that gets back what it has compressed, never writes behind the room it is
given, and does not uncompress nothing. -/
structure Zlib.Lawful (zlib : Zlib) : Prop where
  uncompress_compress : ∀ data, zlib.uncompress (zlib.compress data) data.length = some data
  length_uncompress : ∀ data room out, zlib.uncompress data room = some out → out.length ≤ room
  uncompress_nil : ∀ room, zlib.uncompress [] room = none

/-- A library that puts a byte in front of what it compresses. -/
def Zlib.stored : Zlib where
  compress data := 0 :: data
  uncompress
    | [], _ => none
    | _ :: data, room => if data.length ≤ room then some data else none

theorem Zlib.lawful_stored : Zlib.stored.Lawful where
  uncompress_compress data := if_pos (Nat.le_refl data.length)
  length_uncompress data room out h := by
    cases data with
    | nil => cases h
    | cons b data =>
        obtain ⟨hle, heq⟩ := Option.ite_none_right_eq_some.mp h
        exact Option.some.inj heq ▸ hle
  uncompress_nil room := rfl

/-- A `NET`.  The places in the buffer count from `buff`. -/
structure NET where
  vio : Vio
  buff : List UInt8
  max_packet : Nat
  room : max_packet + NET.NET_HEADER_SIZE + NET.COMP_HEADER_SIZE ≤ buff.length
  max_packet_size : Nat
  write_pos : Nat
  read_pos : Nat
  where_b : Nat
  buf_length : Nat
  remain_in_buf : Nat
  save_char : UInt8
  pkt_nr : UInt32
  compress_pkt_nr : UInt32
  retry_count : UInt32
  compress : Bool
  error : UInt8
  last_errno : Nat

namespace NET

/-- `my_net_init`, with the limits of `my_net_local_init`. -/
def my_net_init (net_buffer_length max_allowed_packet : Nat) (vio : Vio) : NET where
  vio := vio
  buff := List.replicate (net_buffer_length + NET_HEADER_SIZE + COMP_HEADER_SIZE) 0
  max_packet := net_buffer_length
  room := Nat.le_of_eq List.length_replicate.symm
  max_packet_size := max net_buffer_length max_allowed_packet
  write_pos := 0
  read_pos := 0
  where_b := 0
  buf_length := 0
  remain_in_buf := 0
  save_char := 0
  pkt_nr := 0
  compress_pkt_nr := 0
  retry_count := 1
  compress := false
  error := 0
  last_errno := 0

/-- Copy bytes into the buffer. -/
def memcpy (net : NET) (pos : Nat) (bytes : List UInt8) : NET :=
  { net with
    buff := memcpyAt net.buff pos bytes
    room := Nat.le_trans net.room (length_le_memcpyAt net.buff pos bytes) }

/-- A buffer for packets of this length. -/
def resize (net : NET) (pkt_length : Nat) : NET :=
  let size := pkt_length + NET_HEADER_SIZE + COMP_HEADER_SIZE
  { net with
    buff := net.buff ++ List.replicate (size + 1 - net.buff.length) 0
    max_packet := pkt_length
    room := by rw [List.length_append, List.length_replicate]; omega
    write_pos := 0 }

/-! ## Calls of the socket -/

/-- How a function of this layer ends early: it still waits for the socket, or it
reports a failure. -/
inductive Halt where
  | waits
  | failed
deriving DecidableEq, Repr

/-- A function of this layer. -/
abbrev Io (α : Type) := Program NET Halt α

/-- How a loop on the socket ends early. -/
inductive Stop where
  | waits
  | error (errno : Nat)

/-- What the loops on the socket remember of calls that failed. -/
structure Retry where
  alarmed : Bool
  count : UInt32

/-- Whether a loop goes on after a call that failed. -/
def Retry.next (limit : UInt32) (retry : Retry) (zero : Bool) (errno : Option Errno) :
    Option Retry :=
  if (Vio.should_retry errno || zero) && !retry.alarmed then some ⟨true, 0⟩
  else if retry.alarmed && Vio.should_retry errno && retry.count < limit then
    some ⟨retry.alarmed, retry.count + 1⟩
  else if errno = some .EINTR then some ⟨retry.alarmed, retry.count + 1⟩
  else none

/-- A loop on the socket.  An error makes the socket unusable. -/
def onVio {α : Type} (x : NET → Except Stop α × Vio) : Io α := fun net =>
  match x net with
  | (.ok a, vio) => (.ok a, { net with vio := vio })
  | (.error .waits, vio) => (.error .waits, { net with vio := vio })
  | (.error (.error errno), vio) =>
      (.error .failed, { net with vio := vio, error := 2, last_errno := errno })

/-! ## Writing -/

/-- The loop of `net_real_write`. -/
def writeLoop (limit : UInt32) (retry : Retry) (packet : List UInt8) (vio : Vio) :
    Except Stop Unit × Vio :=
  if packet = [] then (.ok (), vio)
  else
    match _h : vio.vio_write packet with
    | none => (.error .waits, vio)
    | some (.some n, vio') => writeLoop limit retry (packet.drop n) vio'
    | some (.failed zero errno, vio') =>
        match retry.next limit zero errno with
        | some retry => writeLoop limit retry packet vio'
        | none => (.error (.error
            (if Vio.should_retry errno then ER_NET_WRITE_INTERRUPTED else ER_NET_ERROR_ON_WRITE)),
            vio')
termination_by vio.departures.length
decreasing_by all_goals exact Vio.departures_lt _h

/-- `my_compress`: what is sent, and the length before compression or zero. -/
def my_compress (zlib : Zlib) (packet : List UInt8) : List UInt8 × Nat :=
  if packet.length < MIN_COMPRESS_LENGTH then (packet, 0)
  else if packet.length ≤ (zlib.compress packet).length then (packet, 0)
  else (zlib.compress packet, packet.length)

/-- A block of the compressed protocol, with both headers. -/
def block (zlib : Zlib) (compress_pkt_nr : UInt32) (packet : List UInt8) : List UInt8 :=
  header true compress_pkt_nr (my_compress zlib packet).1.length (my_compress zlib packet).2 ++
    (my_compress zlib packet).1

/-- `net_real_write`. -/
def net_real_write (zlib : Zlib) (packet : List UInt8) : Io Unit := do
  let net ← get
  if net.error = 2 then halt .failed
  else if net.compress then
    modify fun net => { net with compress_pkt_nr := net.compress_pkt_nr + 1 }
    onVio fun net' =>
      writeLoop net.retry_count ⟨false, 0⟩ (block zlib net.compress_pkt_nr packet) net'.vio
  else
    onVio fun net => writeLoop net.retry_count ⟨false, 0⟩ packet net.vio

/-- What is in the buffer and not written yet. -/
def pending (net : NET) : List UInt8 := net.buff.take net.write_pos

/-- With compression the packets are numbered as the blocks are. -/
def syncNumber (net : NET) : NET :=
  if net.compress then { net with pkt_nr := net.compress_pkt_nr } else net

/-- `net_flush`. -/
def net_flush (zlib : Zlib) : Io Unit := do
  let net ← get
  if net.write_pos ≠ 0 then
    net_real_write zlib net.pending
    modify fun net => { net with write_pos := 0 }
  modify syncNumber

/-- Bytes that are copied behind what is in the buffer. -/
def append (packet : List UInt8) : Io Unit :=
  modify fun net =>
    { net.memcpy net.write_pos packet with write_pos := net.write_pos + packet.length }

/-- Blocks of full length, and what is left. -/
def writeFull (zlib : Zlib) (packet : List UInt8) : Io (List UInt8) :=
  if MAX_PACKET_LENGTH < packet.length then do
    net_real_write zlib (packet.take MAX_PACKET_LENGTH)
    writeFull zlib (packet.drop MAX_PACKET_LENGTH)
  else pure packet
termination_by packet.length
decreasing_by rw [List.length_drop]; simp only [MAX_PACKET_LENGTH] at *; omega

/-- The end of `net_write_buff`, with the buffer empty. -/
def writeRest (zlib : Zlib) (packet : List UInt8) : Io Unit := do
  let net ← get
  let packet ← if net.compress then writeFull zlib packet else pure packet
  if net.max_packet < packet.length then net_real_write zlib packet else append packet

/-- The room that `net_write_buff` sees in the buffer. -/
def left_length (net : NET) : Nat :=
  if net.compress ∧ MAX_PACKET_LENGTH < net.max_packet then MAX_PACKET_LENGTH - net.write_pos
  else net.max_packet - net.write_pos

/-- `net_write_buff`. -/
def net_write_buff (zlib : Zlib) (packet : List UInt8) : Io Unit := do
  let net ← get
  if net.left_length < packet.length then
    if net.write_pos ≠ 0 then
      let filled := net.memcpy net.write_pos (packet.take net.left_length)
      modify fun _ => filled
      net_real_write zlib (filled.buff.take (filled.write_pos + net.left_length))
      modify fun net => { net with write_pos := 0 }
      writeRest zlib (packet.drop net.left_length)
    else writeRest zlib packet
  else append packet

/-- The header of a packet, with the bytes that are written together with it. -/
def writeHeader (zlib : Zlib) (length : Nat) (more : List UInt8) : Io Unit := do
  let net ← get
  modify fun net => { net with pkt_nr := net.pkt_nr + 1 }
  net_write_buff zlib (header false net.pkt_nr length 0 ++ more)

/-- `my_net_write`. -/
def my_net_write (zlib : Zlib) (packet : List UInt8) : Io Unit :=
  if MAX_PACKET_LENGTH ≤ packet.length then do
    writeHeader zlib MAX_PACKET_LENGTH []
    net_write_buff zlib (packet.take MAX_PACKET_LENGTH)
    my_net_write zlib (packet.drop MAX_PACKET_LENGTH)
  else do
    writeHeader zlib packet.length []
    net_write_buff zlib packet
termination_by packet.length
decreasing_by rw [List.length_drop]; simp only [MAX_PACKET_LENGTH] at *; omega

/-- The header of a command, if there is one. -/
def writeArgument (zlib : Zlib) (header : List UInt8) : Io Unit :=
  if header ≠ [] then net_write_buff zlib header else pure ()

/-- `net_write_command` from some packet on; `command` has the command byte in the
first one and nothing in the others. -/
def writeCommand (zlib : Zlib) (command header packet : List UInt8) : Io Unit :=
  if MAX_PACKET_LENGTH ≤ command.length + header.length + packet.length then do
    writeHeader zlib MAX_PACKET_LENGTH command
    net_write_buff zlib header
    net_write_buff zlib (packet.take (MAX_PACKET_LENGTH - command.length - header.length))
    writeCommand zlib [] [] (packet.drop (MAX_PACKET_LENGTH - command.length - header.length))
  else do
    writeHeader zlib (command.length + header.length + packet.length) command
    writeArgument zlib header
    net_write_buff zlib packet
    net_flush zlib
termination_by command.length + header.length + packet.length
decreasing_by
  simp only [List.length_drop, List.length_nil, MAX_PACKET_LENGTH] at *
  omega

/-- `net_write_command`. -/
def net_write_command (zlib : Zlib) (command : UInt8) (header packet : List UInt8) : Io Unit :=
  writeCommand zlib [command] header packet

end NET

end MGMDB
