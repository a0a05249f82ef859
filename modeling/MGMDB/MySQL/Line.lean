import MGMDB.MySQL.NetExchange
import MGMDB.MySQL.Packets

/-!
# The network of a client

`net_serv.cc` under the client.  A command first clears the `NET`, and whatever is
ready on the socket is thrown away.  What reading relies on, that what was left from the last
packet is inside the buffer, holds from the beginning on and whatever happens on the
socket, so a `Line` carries it.
-/

namespace MGMDB

open Framing Systems Program

namespace NET

/-! ## Clearing -/

/-- The loop of `net_clear`, which goes on as long as the socket is ready. -/
def clearLoop : Nat → NET → NET
  | 0, net => net
  | ready + 1, net =>
      match net.vio.read net.max_packet with
      | none => net
      | some (.some bytes, vio) => clearLoop ready ({ net with vio := vio }.memcpy 0 bytes)
      | some (.failed _ _, vio) => { net with vio := vio, error := 2 }

/-- `net_clear`, when the socket is ready `ready` times. -/
def net_clear (ready : Nat) (net : NET) : NET :=
  { clearLoop ready net with pkt_nr := 0, compress_pkt_nr := 0, write_pos := 0 }

/-! ## What stays -/

/-- What neither writing nor reading changes before a packet is handed out. -/
structure Stays (net net' : NET) : Prop where
  compress : net'.compress = net.compress
  buf_length : net'.buf_length = net.buf_length
  remain_in_buf : net'.remain_in_buf = net.remain_in_buf
  max_packet : net.max_packet ≤ net'.max_packet

theorem Stays.refl (net : NET) : Stays net net := ⟨rfl, rfl, rfl, Nat.le_refl _⟩

theorem Stays.trans (net net' net'' : NET) (h : Stays net net') (h' : Stays net' net'') :
    Stays net net'' where
  compress := h'.compress.trans h.compress
  buf_length := h'.buf_length.trans h.buf_length
  remain_in_buf := h'.remain_in_buf.trans h.remain_in_buf
  max_packet := Nat.le_trans h.max_packet h'.max_packet

theorem Stays.moved (net : NET) (where_b : Nat) : Stays net { net with where_b := where_b } :=
  ⟨rfl, rfl, rfl, Nat.le_refl _⟩

theorem Stays.placed {net net' : NET} (h : Stays net net') (hplaced : Placed net) :
    Placed net' where
  remain := by rw [h.remain_in_buf, h.buf_length]; exact hplaced.remain
  room := by rw [h.buf_length]; exact Nat.le_trans hplaced.room h.max_packet

theorem stays_clearLoop : ∀ (ready : Nat) (net : NET),
    Stays net (clearLoop ready net) ∧ (clearLoop ready net).where_b = net.where_b := by
  intro ready
  induction ready with
  | zero => exact fun net => ⟨.refl net, rfl⟩
  | succ ready ih =>
      intro net
      rw [clearLoop]
      split
      next => exact ⟨.refl net, rfl⟩
      next bytes vio _ =>
        have hread : Stays net ({ net with vio := vio }.memcpy 0 bytes) :=
          ⟨rfl, rfl, rfl, Nat.le_refl _⟩
        obtain ⟨hstays, hwhere⟩ := ih ({ net with vio := vio }.memcpy 0 bytes)
        exact ⟨hread.trans _ _ _ hstays, hwhere⟩
      next => exact ⟨⟨rfl, rfl, rfl, Nat.le_refl _⟩, rfl⟩

theorem stays_onVio {α : Type} (x : NET → Except Stop α × Vio) : Follows Stays (onVio x) := by
  intro net
  rw [onVio]
  split <;> exact ⟨rfl, rfl, rfl, Nat.le_refl _⟩

theorem stays_makeRoom (helping : Nat) : Follows Stays (makeRoom helping) := by
  intro net
  rw [makeRoom, bind_of_ok (get_apply net)]
  split
  next hle =>
    rw [net_realloc, bind_of_ok (get_apply net)]
    split
    next => exact ⟨rfl, rfl, rfl, Nat.le_refl _⟩
    next => exact ⟨rfl, rfl, rfl, Nat.le_trans hle (IO_SIZE_round helping)⟩
  next => exact .refl net

theorem stays_readBody (retry : Retry) (len complen : Nat) :
    Follows Stays (readBody retry len complen) :=
  (follows_get Stays.refl).bind Stays.trans fun _ =>
    (stays_makeRoom _).bind Stays.trans fun _ => (stays_onVio _).bind Stays.trans fun _ =>
      fun _ => ⟨rfl, rfl, rfl, Nat.le_refl _⟩

theorem stays_my_real_read : Follows Stays my_real_read := by
  refine (follows_get Stays.refl).bind Stays.trans fun net =>
    (stays_onVio _).bind Stays.trans fun r => ?_
  obtain ⟨header, retry⟩ := r
  refine Follows.bind Stays.trans (fun _ => ⟨rfl, rfl, rfl, Nat.le_refl _⟩) fun _ => ?_
  split
  next => exact follows_halt Stays.refl _
  next =>
    refine Follows.bind Stays.trans (fun _ => ⟨rfl, rfl, rfl, Nat.le_refl _⟩) fun _ => ?_
    dsimp only
    split
    next => exact follows_pure Stays.refl _
    next => exact (stays_readBody _ _ _).bind Stays.trans fun _ => follows_pure Stays.refl _

section
variable {zlib : Zlib} {net net' : NET}

theorem stays_readBlock (c : Cut) : Stays net (readBlock zlib c net).2 := by
  have hwhere : Follows Stays (modify fun net => { net with where_b := c.buf_length } : Io Unit) :=
    fun _ => ⟨rfl, rfl, rfl, Nat.le_refl _⟩
  refine (hwhere.bind Stays.trans fun _ => stays_my_real_read.bind Stays.trans fun r net => ?_) net
  rw [expand]
  split <;> exact ⟨rfl, rfl, rfl, Nat.le_refl _⟩

theorem stays_moveDown (net : NET) (c : Cut) : Stays net (moveDown net c).1 := by
  rw [moveDown]
  split <;> exact ⟨rfl, rfl, rfl, Nat.le_refl _⟩

theorem stays_takeFrame (net : NET) (c : Cut) (n : Nat) : Stays net (takeFrame net c n).1 := by
  rw [takeFrame]
  split <;> exact ⟨rfl, rfl, rfl, Nat.le_refl _⟩

theorem stays_unpack (net : NET) (c : Cut) : Stays net (unpack zlib net c).2 := by
  induction net, c using unpack.induct zlib with
  | case1 net c hframe =>
      rw [unpack_zero hframe]
      exact .refl net
  | case2 net c n hframe hzero hlast =>
      rw [unpack_last hframe hzero hlast]
      exact stays_takeFrame net c n
  | case3 net c n hframe hzero hfull ih =>
      obtain rfl := Decidable.not_not.mp hfull
      rw [unpack_full hframe]
      exact .trans _ _ _ (.trans _ _ _ (stays_takeFrame net c _) (stays_moveDown _ _)) ih
  | case4 net c hframe halt net' hblock =>
      have hstays := @stays_readBlock zlib (moveDown net c).1 (moveDown net c).2
      rw [hblock] at hstays
      rw [unpack_error hframe hblock]
      exact .trans _ _ _ (stays_moveDown net c) hstays
  | case5 net c hframe c' net' hblock ih =>
      have hstays := @stays_readBlock zlib (moveDown net c).1 (moveDown net c).2
      rw [hblock] at hstays
      rw [unpack_block hframe hblock]
      exact .trans _ _ _ (.trans _ _ _ (stays_moveDown net c) hstays) ih

theorem stays_readPieces (net : NET) : Stays net (readPieces net).2 := by
  induction net using readPieces.induct with
  | case1 net halt t hread =>
      rw [readPieces_error hread]
      exact stays_my_real_read.of_run hread
  | case2 net complen t more u hread hmore ih =>
      rw [hmore] at ih
      rw [readPieces_more hread, hmore]
      exact .trans _ _ _ (stays_my_real_read.of_run hread) (.trans _ _ _ (.moved t _) ih)
  | case3 net complen t halt u hread hmore ih =>
      rw [hmore] at ih
      rw [readPieces_more hread, hmore]
      exact .trans _ _ _ (stays_my_real_read.of_run hread) (.trans _ _ _ (.moved t _) ih)
  | case4 net len complen t hread hne =>
      rw [readPieces_last hread hne]
      exact stays_my_real_read.of_run hread

/-! ## What reading relies on -/

/-- Packets can be read. -/
structure Readable (net : NET) : Prop where
  placed : net.compress = true → Placed net
  where_b : net.compress = false → net.where_b ≤ net.max_packet

theorem Readable.stays (h : Readable net) (hstays : Stays net net')
    (hwhere : net.compress = false → net'.where_b = net.where_b) : Readable net' where
  placed hc := hstays.placed (h.placed (hstays.compress.symm.trans hc))
  where_b hc := by
    have hc := hstays.compress.symm.trans hc
    rw [hwhere hc]
    exact Nat.le_trans (h.where_b hc) hstays.max_packet

/-- Whatever the socket does, packets can be read again. -/
theorem Readable.my_net_read (hzlib : zlib.Lawful) (h : Readable net) :
    Readable (my_net_read zlib net).2 := by
  rw [NET.my_net_read, bind_of_ok (get_apply net)]
  split
  next hc =>
    cases hrun : readCompressed zlib net with
    | mk result t =>
      cases result with
      | ok len =>
          obtain ⟨packet, rest, -, hreturned⟩ := readCompressed_ok hzlib hc (h.placed hc) hrun
          have hc' := hreturned.compress.trans hc
          exact ⟨fun _ => hreturned.placed, fun hplain => by rw [hc'] at hplain; cases hplain⟩
      | error halt =>
          have hrestart : Stays net (restart net).1 := by
            rw [restart]
            split <;> exact ⟨rfl, rfl, rfl, Nat.le_refl _⟩
          have hstays := hrestart.trans _ _ _ (@stays_unpack zlib _ (restart net).2)
          rw [readCompressed] at hrun
          split at hrun
          next hunpack =>
            obtain ⟨-, rfl⟩ := Prod.mk.inj hrun
            rw [hunpack] at hstays
            exact h.stays hstays fun hplain => by rw [hc] at hplain; cases hplain
          next => cases hrun
  next =>
    have hstays := stays_readPieces net
    rw [readPlain]
    split
    next hpieces =>
      rw [hpieces] at hstays
      exact h.stays ⟨hstays.compress, hstays.buf_length, hstays.remain_in_buf, hstays.max_packet⟩
        fun _ => rfl
    next hpieces =>
      rw [hpieces] at hstays
      exact h.stays ⟨hstays.compress, hstays.buf_length, hstays.remain_in_buf, hstays.max_packet⟩
        fun _ => rfl

/-! ## A packet that is too large -/

/-- The next packet is on the socket, in frames or in blocks, and there cannot be a buffer
for it. -/
inductive Oversized (zlib : Zlib) (net : NET) : Prop where
  | frames {packet rest : List UInt8} : net.compress = false → packet ≠ [] →
      net.vio.stream = frames net.pkt_nr packet ++ rest →
      net.max_packet_size ≤ net.where_b + packet.length → Oversized zlib net
  | blocks {packet bytes rest data wire more : List UInt8} {nr : UInt32} : net.compress = true →
      Unframes packet bytes → Blocks zlib net.pkt_nr data wire nr →
      net.vio.stream = wire ++ more → net.left ++ data = bytes ++ rest →
      net.max_packet_size ≤ packet.length → Oversized zlib net

/-- It is refused, with or without compression. -/
theorem Oversized.my_net_read (hzlib : zlib.Lawful) (h : Oversized zlib net)
    (hreadable : Readable net) (hio : IO_SIZE ∣ net.max_packet_size)
    (hsized : net.max_packet ≤ net.max_packet_size) (hcalm : net.vio.Calm) :
    ∃ net', my_net_read zlib net = (.error .failed, net') ∧
      net'.last_errno = ER_NET_PACKET_TOO_LARGE := by
  rw [NET.my_net_read, bind_of_ok (get_apply net)]
  cases h with
  | frames hc hne hstream hlarge =>
      obtain ⟨t, hpieces, -, herrno⟩ := readPieces_large (hreadable.where_b hc) hc hio hsized hcalm
        hstream (fun hzero => hne (List.eq_nil_of_length_eq_zero hzero)) hlarge
      exact ⟨t.rewind net.where_b,
        by rw [if_neg (Bool.eq_false_iff.mp hc), readPlain, hpieces], herrno⟩
  | blocks hc hframes hblocks hstream heq hlarge =>
      obtain ⟨t, hread, -, herrno⟩ := readCompressed_large hzlib hc (hreadable.placed hc) hio hsized
        hcalm hframes hblocks hstream heq hlarge
      exact ⟨t, by rw [if_pos hc, hread], herrno⟩

end

end NET

/-! ## The line -/

/-- A `NET` from which packets can be read. -/
structure Line where
  net : NET
  readable : NET.Readable net

namespace Line

open NET

/-- What a client is told about a call that did not come to its end. -/
def fault (halt : Halt) (net : NET) : NetFault :=
  match halt with
  | .waits => .waits
  | .failed => .failed (net.last_errno = ER_NET_PACKET_TOO_LARGE)

theorem readable_command {net : NET} (h : Readable net) (zlib : Zlib) (ready : Nat)
    (command : UInt8) (arg : List UInt8) :
    Readable (net_write_command zlib command [] arg
      (net_clear ready { net with last_errno := 0 })).2 := by
  obtain ⟨hclear, hwhere⟩ := stays_clearLoop ready { net with last_errno := 0 }
  have hkept := kept_writeCommand zlib [command] [] arg
    (net_clear ready { net with last_errno := 0 })
  refine h.stays ⟨hkept.compress.trans hclear.compress, hkept.buf_length.trans hclear.buf_length,
    hkept.remain_in_buf.trans hclear.remain_in_buf, ?_⟩ fun _ => hkept.where_b.trans hwhere
  exact Nat.le_trans hclear.max_packet (Nat.le_of_eq hkept.max_packet.symm)

/-- The command of `cli_advanced_command`; `ready` tells how often the socket is ready
before it. -/
def command (zlib : Zlib) (ready : Vio → Nat) (command : UInt8) (arg : List UInt8) (l : Line) :
    Except NetFault Unit × Line :=
  let run := net_write_command zlib command [] arg
    (net_clear (ready l.net.vio) { l.net with last_errno := 0 })
  (run.1.mapError fun halt => fault halt run.2, ⟨run.2, readable_command l.readable zlib _ _ _⟩)

/-- `my_net_read`, with the packet that it leaves in the buffer. -/
def read {zlib : Zlib} (hzlib : zlib.Lawful) (l : Line) : Except NetFault (List UInt8) × Line :=
  let run := my_net_read zlib l.net
  ((run.1.map run.2.packetAt).mapError fun halt => fault halt run.2,
    ⟨run.2, l.readable.my_net_read hzlib⟩)

/-- How much there may be to read: a byte on the socket brings at most a block. -/
def size (l : Line) : Nat := l.net.vio.stream.length * 2 ^ 24 + l.net.remain_in_buf

theorem read_ok {zlib : Zlib} {hzlib : zlib.Lawful} {l l' : Line} {packet : List UInt8}
    (h : read hzlib l = (.ok packet, l')) :
    ∃ len, my_net_read zlib l.net = (.ok len, l'.net) ∧ packet = l'.net.packetAt len := by
  have hresult : ((my_net_read zlib l.net).1.map (my_net_read zlib l.net).2.packetAt).mapError
      (fun halt => fault halt (my_net_read zlib l.net).2) = .ok packet := congrArg Prod.fst h
  have hnet : (my_net_read zlib l.net).2 = l'.net := congrArg (fun r => r.2.net) h
  rw [← hnet]
  clear h hnet
  generalize my_net_read zlib l.net = run at hresult
  obtain ⟨result, net⟩ := run
  cases result with
  | error halt => cases hresult
  | ok len => exact ⟨len, rfl, (Except.ok.inj hresult).symm⟩

/-- What blocks contain is not much longer than they are. -/
theorem length_le_of_blocks {zlib : Zlib} (hzlib : zlib.Lawful) {nr nr' : UInt32}
    {data wire : List UInt8} (h : Blocks zlib nr data wire nr') :
    data.length ≤ wire.length * MAX_PACKET_LENGTH := by
  induction h with
  | nil nr => exact Nat.zero_le _
  | @cons nr nr' sent out data bytes complen huncompress hsent hcomplen hblocks ih =>
      have hle := (length_my_uncompress hzlib huncompress).1
      have hheader := length_header true nr sent.length complen
      have hpos : 0 < headerSize true := by decide
      have hblock : out.length ≤ MAX_PACKET_LENGTH := by omega
      have hone : 1 * MAX_PACKET_LENGTH ≤
          (header true nr sent.length complen ++ sent).length * MAX_PACKET_LENGTH :=
        Nat.mul_le_mul_right _ (by rw [List.length_append]; omega)
      rw [List.length_append, List.length_append, Nat.add_mul]
      omega

theorem length_zeroFirst (bytes : List UInt8) : (zeroFirst bytes).length = bytes.length := by
  cases bytes <;> rfl

theorem length_left {net : NET} (h : Placed net) : net.left.length = net.remain_in_buf := by
  have hremain := h.remain
  have hroom := h.room
  have hbuff := net.room
  have hlonger := length_le_memcpyAt net.buff (net.buf_length - net.remain_in_buf) [net.save_char]
  exact length_slice (by omega)

/-- Every packet takes something away. -/
theorem read_lt {zlib : Zlib} {hzlib : zlib.Lawful} {l l' : Line} {packet : List UInt8}
    (h : read hzlib l = (.ok packet, l')) : l'.size < l.size := by
  obtain ⟨len, hrun, -⟩ := read_ok h
  rw [my_net_read, bind_of_ok (get_apply l.net)] at hrun
  rw [size, size]
  split at hrun
  next hc =>
    have hplaced := l.readable.placed hc
    obtain ⟨packet', rest, -, hreturned⟩ := readCompressed_ok hzlib hc hplaced hrun
    obtain ⟨bytes, data, wire, hframes, hmoves, hblocks, heq⟩ := hreturned.consumed
    have hdata := length_le_of_blocks hzlib hblocks
    have hbytes := List.length_pos_iff.mpr hframes.ne_nil
    have hlengths := congrArg List.length heq
    have hleft := length_left hreturned.placed
    have hrest : l'.net.left.length = rest.length := by
      rw [hreturned.left]
      split
      next => exact length_zeroFirst rest
      next => rfl
    rw [List.length_append, List.length_append, length_left hplaced] at hlengths
    rw [hmoves.stream, List.length_append, ← hleft, hrest]
    rw [MAX_PACKET_LENGTH] at hdata
    omega
  next hc =>
    have hplain := Bool.eq_false_of_not_eq_true hc
    obtain ⟨packet', hjoined, -, -, -⟩ := readPlain_ok (l.readable.where_b hplain) hplain hrun
    have hstays := stays_readPieces l.net
    have hpos := List.length_pos_iff.mpr (unframes_frames l.net.pkt_nr packet').ne_nil
    have hremain : l'.net.remain_in_buf = l.net.remain_in_buf := by
      rw [readPlain] at hrun
      split at hrun
      next => cases hrun
      next hpieces =>
        obtain ⟨-, hnet⟩ := Prod.mk.inj hrun
        rw [hpieces] at hstays
        rw [← hnet]
        exact hstays.remain_in_buf
    rw [hjoined.moves.stream, List.length_append, hremain]
    omega

end Line

/-- The network of `net_serv.cc`. -/
def line {zlib : Zlib} (hzlib : zlib.Lawful) (ready : Vio → Nat) : Transport Line where
  command := Line.command zlib ready
  my_net_read := Line.read hzlib
  size := Line.size
  read_lt := Line.read_lt

end MGMDB
