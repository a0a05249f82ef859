import MGMDB.MySQL.NetBlocks
import MGMDB.MySQL.NetWrite

/-!
# From the writer to the reader

One side writes packets and the other side reads them.  The socket may cut the bytes at
any place, take a write in parts and interrupt every call.  What the reader has
returned at any time is a beginning of what was written, in order and nothing twice
(`exchange_safe`), and when all of it has arrived everything is returned
(`exchange_complete`).  With compression this needs that only the last packet ends
with an empty frame.
-/

namespace MGMDB

open Framing Systems Program

namespace NET

section
variable {zlib : Zlib} {net net' : NET} {chunks : List (List UInt8)}

/-- A chunk is found in the block that is made of it. -/
theorem my_uncompress_my_compress (hzlib : zlib.Lawful) (chunk : List UInt8) :
    my_uncompress zlib (my_compress zlib chunk).1 (my_compress zlib chunk).2 = some chunk ∧
      (my_compress zlib chunk).1.length ≤ chunk.length ∧
      (my_compress zlib chunk).2 ≤ chunk.length := by
  rw [my_compress]
  split
  next => exact ⟨rfl, Nat.le_refl _, Nat.zero_le _⟩
  next hlong =>
    split
    next => exact ⟨rfl, Nat.le_refl _, Nat.zero_le _⟩
    next hshorter =>
      have hne : chunk.length ≠ 0 := fun hzero => hlong (by rw [hzero]; decide)
      refine ⟨?_, Nat.le_of_lt (Nat.lt_of_not_le hshorter), Nat.le_refl _⟩
      rw [my_uncompress, if_pos hne]
      exact hzlib.uncompress_compress chunk

/-- The blocks of the writer contain its chunks. -/
theorem blocks_wire (hzlib : zlib.Lawful) (hshort : ∀ c ∈ chunks, c.length ≤ MAX_PACKET_LENGTH)
    (nr : UInt32) : ∃ nr', Blocks zlib nr chunks.flatten (wire zlib true nr chunks) nr' := by
  induction chunks generalizing nr with
  | nil => exact ⟨nr, .nil nr⟩
  | cons chunk chunks ih =>
      obtain ⟨huncompress, hsent, hcomplen⟩ := my_uncompress_my_compress hzlib chunk
      have hchunk := hshort chunk List.mem_cons_self
      obtain ⟨nr', hblocks⟩ := ih (fun c hc => hshort c (List.mem_cons_of_mem chunk hc)) (nr + 1)
      exact ⟨nr', .cons huncompress (Nat.le_trans hsent hchunk) (Nat.le_trans hcomplen hchunk)
        hblocks⟩

end

/-- No packet but the last one ends with an empty frame. -/
def Intact (packets : List (List UInt8)) : Prop := ∀ p ∈ packets.dropLast, ¬ EndsEmpty p

theorem Intact.head {packet : List UInt8} {packets : List (List UInt8)}
    (h : Intact (packet :: packets)) (hempty : EndsEmpty packet) : packets = [] := by
  cases packets with
  | nil => rfl
  | cons p packets => exact absurd hempty (h packet List.mem_cons_self)

theorem Intact.tail {packet : List UInt8} {packets : List (List UInt8)}
    (h : Intact (packet :: packets)) : Intact packets := by
  cases packets with
  | nil => exact fun p hp => absurd hp List.not_mem_nil
  | cons p packets => exact fun q hq => h q (List.mem_cons_of_mem packet hq)

/-! ## Several packets from blocks -/

section
variable {zlib : Zlib} {net net' : NET} {packets packets' : List (List UInt8)} {len n : Nat}

/-- What is left in the buffer and what is to come are a beginning of the frames of
packets. -/
structure Ahead (zlib : Zlib) (net : NET) (packets : List (List UInt8)) : Prop where
  frames : ∃ data wire nr bytes, Blocks zlib net.pkt_nr data wire nr ∧
    net.vio.stream <+: wire ∧ net.left ++ data <+: bytes ∧ Framed packets bytes
  placed : Placed net
  compress : net.compress = true

/-- The reader can only return the next packet. -/
theorem Ahead.next (hzlib : zlib.Lawful) (hintact : Intact packets)
    (h : Ahead zlib net packets) (hrun : readCompressed zlib net = (.ok len, net')) :
    ∃ packet packets', packets = packet :: packets' ∧ net'.packetAt len = packet ∧
      Ahead zlib net' packets' := by
  obtain ⟨data, wire, nr, bytes, hblocks, hstream, hdata, hframed⟩ := h.frames
  obtain ⟨packet, rest, rfl, hreturned⟩ := readCompressed_ok hzlib h.compress h.placed hrun
  obtain ⟨bytes', data', wire', hframes, hmoves, hblocks', heq⟩ := hreturned.consumed
  rw [hmoves.stream] at hstream
  obtain ⟨more, wire'', rfl, rfl, hafter⟩ :=
    hblocks'.split hblocks ((List.prefix_append _ _).trans hstream)
  rw [List.prefix_append_right_inj] at hstream
  obtain ⟨end', hend⟩ := hdata
  rw [← List.append_assoc, heq, List.append_assoc, List.append_assoc] at hend
  cases hframed with
  | nil => exact absurd hend (List.append_ne_nil_of_left_ne_nil hframes.ne_nil _)
  | @cons packet' packets' bytes'' nr' hframed =>
      obtain ⟨rfl, hrest⟩ := hframes.inj (unframes_frames nr' packet') hend
      refine ⟨packet, packets', rfl, hreturned.packetAt,
        ⟨⟨more, wire'', nr, bytes'', hafter, hstream, ?_, hframed⟩, hreturned.placed,
          hreturned.compress.trans h.compress⟩⟩
      rw [hreturned.left]
      split
      next hempty =>
        -- behind the last packet there is nothing that could be lost
        obtain rfl := hintact.head hempty
        cases hframed
        have hnil : rest = [] := (List.append_eq_nil_iff.mp hrest).1
        subst hnil
        exact ⟨end', hrest⟩
      next =>
        rw [← List.append_assoc] at hrest
        exact ⟨end', hrest⟩

/-- What has been returned is a beginning of the packets. -/
theorem Ahead.many (hzlib : zlib.Lawful) (hintact : Intact packets)
    (h : Ahead zlib net packets)
    (hrun : readMany (readCompressed zlib) n net = (.ok packets', net')) :
    packets' <+: packets := by
  induction n generalizing net packets packets' with
  | zero =>
      cases hrun
      exact List.nil_prefix
  | succ n ih =>
      obtain ⟨len, t, more, hread, hmany, rfl⟩ := readMany_succ_ok hrun
      obtain ⟨packet, packets, rfl, hat, hahead⟩ := h.next hzlib hintact hread
      rw [hat]
      exact (List.prefix_cons_inj packet).mpr (ih hintact.tail hahead hmany)

/-- What is left in the buffer and what has arrived are the frames of packets. -/
structure Arrived (zlib : Zlib) (net : NET) (packets : List (List UInt8)) : Prop where
  frames : ∃ data nr, Blocks zlib net.pkt_nr data net.vio.stream nr ∧
    Framed packets (net.left ++ data)
  placed : Placed net
  compress : net.compress = true
  calm : net.vio.Calm
  fits : ∀ p ∈ packets, MAX_PACKET_LENGTH + 2 * NET_HEADER_SIZE + p.length ≤
    max net.max_packet net.max_packet_size

/-- The reader returns the next packet. -/
theorem Arrived.next (hzlib : zlib.Lawful) {packet : List UInt8}
    (hintact : Intact (packet :: packets)) (h : Arrived zlib net (packet :: packets)) :
    ∃ net', NET.readCompressed zlib net = (.ok packet.length, net') ∧
      net'.packetAt packet.length = packet ∧ Arrived zlib net' packets := by
  obtain ⟨data, nr, hblocks, hframed⟩ := h.frames
  generalize hbytes : net.left ++ data = bytes at hframed
  cases hframed with
  | @cons _ _ bytes' nr' hframed =>
      obtain ⟨t, rest, data', wire, hrun, hreturned, rfl, hafter, hstream, hcalm⟩ :=
        readCompressed_blocks hzlib h.compress h.placed h.calm (unframes_frames nr' packet) hblocks
          (List.append_nil _).symm hbytes (h.fits packet List.mem_cons_self)
      rw [List.append_nil] at hstream
      have hgrows := hreturned.grows.max_packet
      refine ⟨t, hrun, hreturned.packetAt, ⟨⟨data', nr, hstream ▸ hafter, ?_⟩, hreturned.placed,
        hreturned.compress.trans h.compress, hcalm, fun p hp => ?_⟩⟩
      · rw [hreturned.left]
        split
        next hempty =>
          obtain rfl := hintact.head hempty
          generalize hnil : rest ++ data' = bytes at hframed
          cases hframed
          obtain ⟨rfl, rfl⟩ := List.append_eq_nil_iff.mp hnil
          exact .nil
        next => exact hframed
      · have hfits := h.fits p (List.mem_cons_of_mem packet hp)
        rw [hreturned.max_packet_size]
        omega

theorem Arrived.many (hzlib : zlib.Lawful) (hintact : Intact packets)
    (h : Arrived zlib net packets) :
    ∃ net', readMany (readCompressed zlib) packets.length net = (.ok packets, net') := by
  induction packets generalizing net with
  | nil => exact ⟨net, rfl⟩
  | cons packet packets ih =>
      obtain ⟨t, hread, hat, harrived⟩ := h.next hzlib hintact
      obtain ⟨net', hmany⟩ := ih hintact.tail harrived
      have hall := readMany_succ_of_ok hread hmany
      rw [hat] at hall
      exact ⟨net', hall⟩

end

/-! ## Either way -/

section
variable {zlib : Zlib} {n : Nat}

/-- Reading several packets in one of the two ways. -/
theorem readMany_congr {read read' : Io Nat} {P : NET → Prop}
    (heq : ∀ net, P net → read net = read' net)
    (hkeep : ∀ net len t, P net → read' net = (.ok len, t) → P t) (net : NET) (h : P net) :
    readMany read n net = readMany read' n net := by
  induction n generalizing net with
  | zero => rfl
  | succ n ih =>
      rw [readMany, readMany]
      cases hread : read' net with
      | mk result t =>
        have hread' := (heq net h).trans hread
        cases result with
        | error halt => rw [bind_of_error hread', bind_of_error hread]
        | ok len =>
            rw [bind_of_ok hread', bind_of_ok hread, bind_of_ok (get_apply t),
              bind_of_ok (get_apply t), bind_apply, bind_apply, ih t (hkeep net len t h hread)]

theorem my_net_read_compress (hzlib : zlib.Lawful) {net : NET} (hc : net.compress = true)
    (hplaced : Placed net) :
    readMany (my_net_read zlib) n net = readMany (readCompressed zlib) n net := by
  refine readMany_congr (P := fun net => net.compress = true ∧ Placed net) ?_ ?_ net ⟨hc, hplaced⟩
  · intro net h
    rw [my_net_read, bind_of_ok (get_apply net), if_pos h.1]
  · intro net len t h hread
    obtain ⟨packet, rest, -, hreturned⟩ := readCompressed_ok hzlib h.1 h.2 hread
    exact ⟨hreturned.compress.trans h.1, hreturned.placed⟩

theorem my_net_read_plain {net : NET} (hc : net.compress = false)
    (hplace : net.where_b ≤ net.max_packet) :
    readMany (my_net_read zlib) n net = readMany readPlain n net := by
  refine readMany_congr (P := fun net => net.compress = false ∧ net.where_b ≤ net.max_packet) ?_ ?_
    net ⟨hc, hplace⟩
  · intro net h
    rw [my_net_read, bind_of_ok (get_apply net), if_neg (Bool.eq_false_iff.mp h.1)]
  · intro net len t h hread
    obtain ⟨packet, hjoined, -, -, hwhere⟩ := readPlain_ok h.2 h.1 hread
    exact ⟨hjoined.compress.trans h.1, hwhere ▸ Nat.le_trans h.2 hjoined.grows.max_packet⟩

/-- The bytes a run has handed to the socket are a beginning of chunks, and these of what
was to be sent. -/
theorem Sends.wire {w w' : NET} {outcome : Except Halt Unit} {data sent : List UInt8}
    (h : Sends zlib w data (outcome, w')) (hempty : w.write_pos = 0)
    (hsent : w'.vio.written = w.vio.written ++ sent) :
    ∃ chunks, sent <+: NET.wire zlib w.compress w.compress_pkt_nr chunks ∧
      chunks.flatten <+: data ∧
      (w.compress = true → ∀ c ∈ chunks, c.length ≤ MAX_PACKET_LENGTH) := by
  cases h with
  | @done a chunks _ h =>
      have hwritten := h.written
      have hpending := h.pending
      rw [hsent, List.append_cancel_left_eq] at hwritten
      rw [pending_eq_nil hempty, List.nil_append] at hpending
      exact ⟨chunks, hwritten ▸ List.prefix_rfl, hpending ▸ List.prefix_append _ _,
        fun hc c hmem => (h.short hc c hmem).2⟩
  | @broken halt chunks _ h =>
      have hwritten := h.written
      have hdata := h.data
      rw [hsent, List.prefix_append_right_inj] at hwritten
      rw [pending_eq_nil hempty, List.nil_append] at hdata
      exact ⟨chunks, hwritten, hdata, fun hc c hmem => (h.short hc c hmem).2⟩

/-- After a run that came to its end and left nothing in the buffer everything is on the
socket. -/
theorem Sends.all {w w' : NET} {data sent : List UInt8} (h : Sends zlib w data (.ok (), w'))
    (hempty : w.write_pos = 0) (hempty' : w'.write_pos = 0)
    (hsent : w'.vio.written = w.vio.written ++ sent) :
    ∃ chunks, sent = NET.wire zlib w.compress w.compress_pkt_nr chunks ∧
      chunks.flatten = data ∧
      (w.compress = true → ∀ c ∈ chunks, c.length ≤ MAX_PACKET_LENGTH) := by
  cases h with
  | @done a chunks _ h =>
      have hwritten := h.written
      have hpending := h.pending
      rw [hsent, List.append_cancel_left_eq] at hwritten
      rw [pending_eq_nil hempty, pending_eq_nil hempty', List.nil_append,
        List.append_nil] at hpending
      exact ⟨chunks, hwritten, hpending.symm, fun hc c hmem => (h.short hc c hmem).2⟩

/-- Nothing is taken back from the socket. -/
theorem Sends.kept {α : Type} {w w' : NET} {outcome : Except Halt α} {data : List UInt8}
    (h : Sends zlib w data (outcome, w')) : w.vio.written <+: w'.vio.written := by
  cases h with
  | done h =>
      rw [h.written]
      exact List.prefix_append _ _
  | broken h => exact h.kept

/-- Without compression the socket gets the frames of the packets, numbered one after the
other, or a beginning of them. -/
theorem performAll_plain {rs : List Request} {w w' : NET} {outcome : Except Halt Unit}
    (hfits : ∀ q ∈ rs, q.Fits) (hc : w.compress = false) (hempty : w.write_pos = 0)
    (hrun : performAll zlib rs w = (outcome, w')) :
    ∃ sent, w'.vio.written = w.vio.written ++ sent ∧
      sent <+: numberedFrames w.pkt_nr (rs.flatMap Request.packets) ∧
      (outcome = .ok () → w'.write_pos = 0 →
        sent = numberedFrames w.pkt_nr (rs.flatMap Request.packets)) := by
  obtain ⟨bytes, -, hplain, hsends⟩ := sends_performAll zlib rs hfits w
    (hempty ▸ Nat.zero_le _)
  rw [hrun] at hsends
  obtain ⟨sent, hsent⟩ := hsends.kept
  rw [← hplain hc]
  refine ⟨sent, hsent.symm, ?_, ?_⟩
  · obtain ⟨chunks, hwire, hchunks, -⟩ := hsends.wire hempty hsent.symm
    rw [wire, if_neg (Bool.eq_false_iff.mp hc)] at hwire
    exact hwire.trans hchunks
  · rintro rfl hflushed
    obtain ⟨chunks, hwire, hchunks, -⟩ := hsends.all hempty hflushed hsent.symm
    rw [wire, if_neg (Bool.eq_false_iff.mp hc)] at hwire
    exact hwire.trans hchunks

/-- The socket takes four bytes of a command and fails. -/
theorem performAll_plain_broken :
    (performAll .stored [.execute 3 [] [65]]
      (my_net_init 8192 (2 ^ 30) ⟨none, [], [.taken 3, .error .other], []⟩)).2.vio.written =
        [2, 0, 0, 0] ∧
      [2, 0, 0, 0] <+: numberedFrames 0 [[3, 65]] := by
  have hfits : ∀ q ∈ [Request.execute 3 [] [65]], q.Fits := by
    simp [Request.Fits, MAX_PACKET_LENGTH]
  have hwritten : (performAll .stored [.execute 3 [] [65]]
      (my_net_init 8192 (2 ^ 30) ⟨none, [], [.taken 3, .error .other], []⟩)).2.vio.written =
        [2, 0, 0, 0] := by
    decide +kernel
  obtain ⟨sent, hsent, hbegins, -⟩ := @performAll_plain .stored [.execute 3 [] [65]]
    (my_net_init 8192 (2 ^ 30) ⟨none, [], [.taken 3, .error .other], []⟩) _ _ hfits rfl rfl rfl
  obtain rfl := hwritten.symm.trans hsent
  exact ⟨hwritten, hbegins⟩

/-- The reader `r` expects the numbers that the writer `w` is going to use, and has
nothing in its buffer. -/
structure Ready (w r : NET) : Prop where
  compress : r.compress = w.compress
  pkt_nr : r.pkt_nr = if w.compress then w.compress_pkt_nr else w.pkt_nr
  remain_in_buf : r.remain_in_buf = 0
  buf_length : r.buf_length ≤ r.max_packet
  where_b : r.where_b = 0
  write_pos : w.write_pos = 0

theorem Ready.left {w r : NET} (h : Ready w r) : r.left = [] := by
  rw [NET.left, h.remain_in_buf]
  exact slice_zero _ _

theorem Ready.placed {w r : NET} (h : Ready w r) : Placed r :=
  ⟨h.remain_in_buf ▸ Nat.zero_le _, h.buf_length⟩

/-- Two new sides can talk to each other. -/
theorem ready_my_net_init (n max_packet : Nat) (vio vio' : Vio) (compress : Bool) :
    Ready { my_net_init n max_packet vio with compress := compress }
      { my_net_init n max_packet vio' with compress := compress } where
  compress := rfl
  pkt_nr := by cases compress <;> rfl
  remain_in_buf := rfl
  buf_length := Nat.zero_le _
  where_b := rfl
  write_pos := rfl

theorem wire_false (nr : UInt32) (chunks : List (List UInt8)) :
    wire zlib false nr chunks = chunks.flatten := rfl

/-- Two commands. -/
def commands : List Request := [.execute 3 [] [65], .execute 3 [] [66]]

/-- A new writer with compression, of which the socket takes only some bytes at once. -/
def writer : NET :=
  { my_net_init 8192 (2 ^ 30) ⟨none, [], [.taken 100, .taken 4, .taken 100], []⟩ with
    compress := true }

/-- A new reader with compression. -/
def reader (arrivals : List Arrival) : NET :=
  { my_net_init 8192 (2 ^ 30) ⟨some [], arrivals, [], []⟩ with compress := true }

/-- The first command arrives in two parts. -/
def firstBlock : List Arrival :=
  [.bytes 6 [0, 0, 0, 0], .error .EINTR, .bytes 0 [0, 2, 0, 0, 0, 3, 65]]

theorem ready_reader (arrivals : List Arrival) : Ready writer (reader arrivals) :=
  ready_my_net_init 8192 (2 ^ 30) _ _ true

theorem fits_commands : ∀ q ∈ commands, q.Fits := by
  simp [commands, Request.Fits, MAX_PACKET_LENGTH]

theorem intact_commands : Intact (commands.flatMap Request.packets) := by
  simp [commands, Request.packets, Intact, EndsEmpty, MAX_PACKET_LENGTH]

theorem performAll_commands : (performAll .stored commands writer).1 = .ok () ∧
    (performAll .stored commands writer).2.write_pos = 0 ∧
    (performAll .stored commands writer).2.vio.written =
      [6, 0, 0, 0, 0, 0, 0, 2, 0, 0, 0, 3, 65] ++ [6, 0, 0, 1, 0, 0, 0, 2, 0, 0, 1, 3, 66] := by
  decide +kernel

theorem arrived_firstBlock : Arrived .stored (reader firstBlock) [[3, 65]] where
  frames := by
    have hshort : ∀ c ∈ [numberedFrames 0 [[3, 65]]], c.length ≤ MAX_PACKET_LENGTH := by
      decide +kernel
    obtain ⟨nr, hblocks⟩ := blocks_wire Zlib.lawful_stored hshort 0
    have hwire : wire .stored true 0 [numberedFrames 0 [[3, 65]]] =
      (reader firstBlock).vio.stream := by decide +kernel
    rw [hwire, List.flatten_singleton] at hblocks
    refine ⟨_, nr, hblocks, ?_⟩
    rw [(ready_reader firstBlock).left]
    exact framed_numberedFrames [[3, 65]] 0
  placed := (ready_reader firstBlock).placed
  compress := rfl
  calm := by simp [Vio.Calm, reader, my_net_init, firstBlock, Arrival.data]
  fits := by simp [MAX_PACKET_LENGTH, NET_HEADER_SIZE, reader, my_net_init]

variable {rs : List Request} {w w' r r' : NET} {sent : List UInt8} {packets : List (List UInt8)}

/-- Whatever has been written and has arrived, the packets that the reader returns are a
beginning of those that were written. -/
theorem exchange_safe (hzlib : zlib.Lawful) (hready : Ready w r) (hfits : ∀ q ∈ rs, q.Fits)
    {outcome : Except Halt Unit} (hwrite : performAll zlib rs w = (outcome, w'))
    (hsent : w'.vio.written = w.vio.written ++ sent) (harrived : r.vio.stream <+: sent)
    (hintact : w.compress = true → Intact (rs.flatMap Request.packets))
    (hread : readMany (my_net_read zlib) n r = (.ok packets, r')) :
    packets <+: rs.flatMap Request.packets := by
  obtain ⟨bytes, hframed, hplain, hsends⟩ := sends_performAll zlib rs hfits w
    (hready.write_pos ▸ Nat.zero_le _)
  rw [hwrite] at hsends
  obtain ⟨chunks, hwire, hchunks, hshort⟩ := hsends.wire hready.write_pos hsent
  have hstream := harrived.trans hwire
  have hnr := hready.pkt_nr
  cases hc : w.compress with
  | true =>
      have hc' := hready.compress.trans hc
      rw [hc] at hstream hnr
      rw [my_net_read_compress hzlib hc' hready.placed] at hread
      obtain ⟨nr, hblocks⟩ := blocks_wire hzlib (hshort hc) w.compress_pkt_nr
      have hahead : Ahead zlib r (rs.flatMap Request.packets) :=
        ⟨⟨chunks.flatten, _, nr, bytes, hnr ▸ hblocks, hstream,
          hready.left.symm ▸ hchunks, hframed⟩, hready.placed, hc'⟩
      exact hahead.many hzlib (hintact hc) hread
  | false =>
      have hc' := hready.compress.trans hc
      have hplace : r.where_b ≤ r.max_packet := hready.where_b ▸ Nat.zero_le _
      rw [hc, wire_false] at hstream
      rw [my_net_read_plain hc' hplace] at hread
      obtain ⟨-, hmoves⟩ := readMany_readPlain_ok hplace hc' hread
      rw [hmoves.stream] at hstream
      exact (framed_numberedFrames packets r.pkt_nr).initial hframed
        (((List.prefix_append _ _).trans hstream).trans hchunks)

/-- Only the first of two commands has arrived. -/
theorem exchange_safe_firstBlock : ∃ r',
    readMany (my_net_read .stored) 1 (reader firstBlock) = (.ok [[3, 65]], r') ∧
      [[3, 65]] <+: commands.flatMap Request.packets := by
  obtain ⟨-, -, hsent⟩ := performAll_commands
  obtain ⟨r', hread⟩ := arrived_firstBlock.many Zlib.lawful_stored (by simp [Intact])
  rw [← my_net_read_compress Zlib.lawful_stored rfl arrived_firstBlock.placed] at hread
  exact ⟨r', hread, exchange_safe Zlib.lawful_stored (ready_reader firstBlock) fits_commands rfl
    hsent (by decide +kernel) (fun _ => intact_commands) hread⟩

/-- When everything has been written and has arrived, the frames of the packets are on the
socket of the reader, or in blocks. -/
theorem Ready.arrived (hzlib : zlib.Lawful) (hready : Ready w r) (hfits : ∀ q ∈ rs, q.Fits)
    (hwrite : performAll zlib rs w = (.ok (), w')) (hflushed : w'.write_pos = 0)
    (hsent : w'.vio.written = w.vio.written ++ sent) (harrived : r.vio.stream = sent)
    (hcalm : r.vio.Calm)
    (hroom : ∀ p ∈ rs.flatMap Request.packets,
      MAX_PACKET_LENGTH + 2 * NET_HEADER_SIZE + p.length ≤ max r.max_packet r.max_packet_size) :
    (r.compress = true → Arrived zlib r (rs.flatMap Request.packets)) ∧
      (r.compress = false →
        r.vio.stream = numberedFrames r.pkt_nr (rs.flatMap Request.packets) ++ []) := by
  obtain ⟨bytes, hframed, hplain, hsends⟩ := sends_performAll zlib rs hfits w
    (hready.write_pos ▸ Nat.zero_le _)
  rw [hwrite] at hsends
  obtain ⟨chunks, hwire, hchunks, hshort⟩ := hsends.all hready.write_pos hflushed hsent
  have hstream := harrived.trans hwire
  have hnr := hready.pkt_nr
  rw [← hready.compress] at hstream hnr hshort hplain
  constructor
  · intro hc
    rw [hc] at hstream hnr
    obtain ⟨nr, hblocks⟩ := blocks_wire hzlib (hshort hc) w.compress_pkt_nr
    rw [hchunks, ← hstream] at hblocks
    exact ⟨⟨bytes, nr, hnr ▸ hblocks, hready.left.symm ▸ hframed⟩, hready.placed, hc, hcalm, hroom⟩
  · intro hc
    rw [hc] at hnr
    rw [hc, wire_false, hchunks, hplain hc] at hstream
    rw [hstream, hnr, List.append_nil]
    rfl

/-- When everything has been written and has arrived, the reader returns every packet. -/
theorem exchange_complete (hzlib : zlib.Lawful) (hready : Ready w r) (hfits : ∀ q ∈ rs, q.Fits)
    (hwrite : performAll zlib rs w = (.ok (), w')) (hflushed : w'.write_pos = 0)
    (hsent : w'.vio.written = w.vio.written ++ sent) (harrived : r.vio.stream = sent)
    (hcalm : r.vio.Calm) (hintact : w.compress = true → Intact (rs.flatMap Request.packets))
    (hroom : ∀ p ∈ rs.flatMap Request.packets,
      MAX_PACKET_LENGTH + 2 * NET_HEADER_SIZE + p.length ≤ max r.max_packet r.max_packet_size) :
    ∃ r', readMany (my_net_read zlib) (rs.flatMap Request.packets).length r =
      (.ok (rs.flatMap Request.packets), r') := by
  obtain ⟨hblocks, hframes⟩ :=
    hready.arrived hzlib hfits hwrite hflushed hsent harrived hcalm hroom
  cases hc : r.compress with
  | true =>
      rw [my_net_read_compress hzlib hc hready.placed]
      exact (hblocks hc).many hzlib (hintact (hready.compress.symm.trans hc))
  | false =>
      have hplace : r.where_b ≤ r.max_packet := hready.where_b ▸ Nat.zero_le _
      rw [my_net_read_plain hc hplace]
      obtain ⟨r', hread, -⟩ := readMany_readPlain_frames hplace hc hcalm (hframes hc)
        fun p hp hne => by
          have hle := hroom p hp
          have hpos : 0 < MAX_PACKET_LENGTH := by decide
          rw [hready.where_b]
          omega
      exact ⟨r', hread⟩

theorem exchange_complete_commands : ∃ r', readMany (my_net_read .stored) 2
    (reader (firstBlock ++ [.bytes 6 [0, 0, 1, 0, 0, 0, 2, 0, 0, 1, 3, 66]])) =
      (.ok [[3, 65], [3, 66]], r') := by
  obtain ⟨hok, hflushed, hsent⟩ := performAll_commands
  exact exchange_complete Zlib.lawful_stored (ready_reader _) fits_commands (Prod.ext hok rfl)
    hflushed hsent (by decide +kernel)
    (by simp [Vio.Calm, reader, my_net_init, firstBlock, Arrival.data])
    (fun _ => intact_commands)
    (by simp [commands, Request.packets, MAX_PACKET_LENGTH, NET_HEADER_SIZE, reader, my_net_init])

end

end NET

end MGMDB
