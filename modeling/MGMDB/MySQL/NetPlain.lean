import MGMDB.MySQL.NetRead

/-!
# The plain reader

Without compression `my_net_read` reads the frames of a packet one behind the other
into the buffer.  What it accepts are the frames of its packet with the expected
numbers (`readPlain_ok`), and on a calm socket it accepts them unless the packet is
too large (`readPlain_frames`).
-/

namespace MGMDB

open Framing Systems Program

namespace NET

theorem my_real_read_lt {net net' : NET} {len complen : Nat}
    (h : my_real_read net = (.ok (len, complen), net')) :
    net'.vio.stream.length < net.vio.stream.length := by
  obtain ⟨body, hreceived⟩ := my_real_read_ok h
  have hlength := length_header net.compress net.pkt_nr len complen
  have hpos : 0 < headerSize net.compress := by
    rw [headerSize]
    split <;> decide
  rw [hreceived.moves.stream, List.length_append, List.length_append, hlength]
  omega

/-- The pieces of a packet, each read behind the one before. -/
def readPieces (net : NET) : Except Halt Nat × NET :=
  match _h : my_real_read net with
  | (.error halt, net) => (.error halt, net)
  | (.ok (len, _), net) =>
      if len = MAX_PACKET_LENGTH then
        match readPieces { net with where_b := net.where_b + len } with
        | (.ok more, net) => (.ok (len + more), net)
        | (.error halt, net) => (.error halt, net)
      else (.ok len, net)
termination_by net.vio.stream.length
decreasing_by exact my_real_read_lt _h

theorem readPieces_error {net t : NET} {halt : Halt} (h : my_real_read net = (.error halt, t)) :
    readPieces net = (.error halt, t) := by
  rw [readPieces]
  split
  next h' =>
    rw [h'] at h
    cases h
    rfl
  next h' => rw [h'] at h; cases h

theorem readPieces_last {net t : NET} {len complen : Nat}
    (h : my_real_read net = (.ok (len, complen), t)) (hne : len ≠ MAX_PACKET_LENGTH) :
    readPieces net = (.ok len, t) := by
  rw [readPieces]
  split
  next h' => rw [h'] at h; cases h
  next h' =>
    rw [h'] at h
    cases h
    rw [if_neg hne]

theorem readPieces_more {net t : NET} {complen : Nat}
    (h : my_real_read net = (.ok (MAX_PACKET_LENGTH, complen), t)) :
    readPieces net =
      match readPieces { t with where_b := t.where_b + MAX_PACKET_LENGTH } with
      | (.ok more, net) => (.ok (MAX_PACKET_LENGTH + more), net)
      | (.error halt, net) => (.error halt, net) := by
  rw [readPieces]
  split
  next h' => rw [h'] at h; cases h
  next h' =>
    rw [h'] at h
    cases h
    rw [if_pos rfl]

/-- The packet has been read to the old `where_b`. -/
def rewind (net : NET) (where_b : Nat) : NET :=
  { net with where_b := where_b, read_pos := where_b }

/-- `my_net_read` without compression. -/
def readPlain : Io Nat := fun net =>
  match readPieces net with
  | (.error halt, net') => (.error halt, net'.rewind net.where_b)
  | (.ok len, net') =>
      (.ok len, (net'.rewind net.where_b).memcpy (net.where_b + len) [0])

/-- The packet that a call of `my_net_read` has left in the buffer. -/
def packetAt (net : NET) (len : Nat) : List UInt8 := slice net.buff net.read_pos len

section
variable {net net' net'' : NET} {packet : List UInt8} {len : Nat}

theorem Grows.trans (hsize : net'.max_packet_size = net.max_packet_size) (h : Grows net net')
    (h' : Grows net' net'') : Grows net net'' where
  max_packet := Nat.le_trans h.max_packet h'.max_packet
  sized hio hle := by
    have hsized := h'.sized
    rw [hsize] at hsized
    exact hsized hio (h.sized hio hle)

/-- `net'` is `net` after the frames of a packet, which is now at the old `where_b`. -/
structure Joined (net : NET) (packet : List UInt8) (net' : NET) : Prop where
  moves : net.vio.Moves (frames net.pkt_nr packet) net'.vio
  pkt_nr : net'.pkt_nr = (· + 1)^[(pieces MAX_PACKET_LENGTH packet).length] net.pkt_nr
  max_packet_size : net'.max_packet_size = net.max_packet_size
  compress : net'.compress = net.compress
  grows : Grows net net'
  room : net.where_b + packet.length ≤ net'.max_packet
  before : net'.buff.take net.where_b = net.buff.take net.where_b
  there : slice net'.buff net.where_b packet.length = packet

/-- A piece that is not the last one. -/
theorem Received.joined {complen : Nat} {body : List UInt8}
    (hplace : net.where_b ≤ net.max_packet) (hc : net.compress = false)
    (h : Received net MAX_PACKET_LENGTH complen body net')
    (h' : Joined { net' with where_b := net'.where_b + MAX_PACKET_LENGTH } packet net'') :
    Joined net (body ++ packet) net'' where
  moves := by
    have hmoves := h.moves.trans h'.moves
    rw [h.pkt_nr, hc] at hmoves
    rw [frames_append h.length]
    exact hmoves
  pkt_nr := by
    rw [h'.pkt_nr, h.pkt_nr, pieces_append (by decide) h.length, List.length_cons,
      Function.iterate_succ_apply]
  max_packet_size := h'.max_packet_size.trans h.place.max_packet_size
  compress := h'.compress.trans h.place.compress
  grows := h.grows.trans h.place.max_packet_size ⟨h'.grows.max_packet, h'.grows.sized⟩
  room := by
    have hroom := h'.room
    have hplace' : net'.where_b = net.where_b := h.place.where_b
    rw [List.length_append, h.length]
    simp only [hplace'] at hroom
    omega
  before := by
    have hbefore := congrArg (List.take net.where_b) h'.before
    rw [List.take_take, List.take_take, h.place.where_b,
      Nat.min_eq_left (Nat.le_add_right _ _)] at hbefore
    exact hbefore.trans (h.before hplace)
  there := by
    have hbefore := slice_of_take_eq h'.before (Nat.le_refl (net'.where_b + MAX_PACKET_LENGTH))
    have hthere := h'.there
    rw [h.place.where_b] at hbefore hthere
    rw [List.length_append, h.length, slice_add, hbefore, h.there hplace, hthere]

/-- The last piece. -/
theorem Received.last {complen : Nat} {body : List UInt8} (hplace : net.where_b ≤ net.max_packet)
    (hc : net.compress = false) (h : Received net len complen body net')
    (hne : len ≠ MAX_PACKET_LENGTH) : Joined net body net' where
  moves := by
    have hmoves := h.moves
    rw [hc, ← h.length] at hmoves
    rw [frames_of_lt (h.length ▸ Nat.lt_of_le_of_ne h.len_le hne)]
    exact hmoves
  pkt_nr := by
    rw [h.pkt_nr, pieces_of_lt (h.length ▸ Nat.lt_of_le_of_ne h.len_le hne)]
    rfl
  max_packet_size := h.place.max_packet_size
  compress := h.place.compress
  grows := h.grows
  room := by
    rw [h.length]
    by_cases hzero : len = 0
    · rw [hzero]
      exact Nat.le_trans hplace h.grows.max_packet
    · have hroom := h.room hzero
      omega
  before := h.before hplace
  there := by
    rw [h.length]
    exact h.there hplace

theorem readPieces_ok (hplace : net.where_b ≤ net.max_packet) (hc : net.compress = false)
    (h : readPieces net = (.ok len, net')) :
    ∃ packet, packet.length = len ∧ Joined net packet net' := by
  induction net using readPieces.induct generalizing len net' with
  | case1 net halt t hread =>
      rw [readPieces_error hread] at h
      cases h
  | case2 net complen t more u hread hmore ih =>
      obtain ⟨body, hreceived⟩ := my_real_read_ok hread
      have hroom := hreceived.room (by decide)
      have hplace' : t.where_b + MAX_PACKET_LENGTH ≤ t.max_packet := by
        rw [hreceived.place.where_b]
        omega
      rw [readPieces_more hread, hmore] at h
      cases h
      obtain ⟨packet, hlength, hjoined⟩ :=
        ih hplace' (hreceived.place.compress.trans hc) hmore
      refine ⟨body ++ packet, ?_, hreceived.joined hplace hc hjoined⟩
      rw [List.length_append, hreceived.length, hlength]
  | case3 net complen t halt u hread hmore ih =>
      rw [readPieces_more hread, hmore] at h
      cases h
  | case4 net len' complen t hread hne =>
      obtain ⟨body, hreceived⟩ := my_real_read_ok hread
      rw [readPieces_last hread hne] at h
      cases h
      exact ⟨body, hreceived.length, hreceived.last hplace hc hne⟩

/-- What `my_net_read` accepts are the frames of its packet, with the numbers that are
expected.  Nothing in front of `where_b` is touched. -/
theorem readPlain_ok (hplace : net.where_b ≤ net.max_packet) (hc : net.compress = false)
    (h : readPlain net = (.ok len, net')) :
    ∃ packet, Joined net packet net' ∧ packet.length = len ∧ net'.packetAt len = packet ∧
      net'.where_b = net.where_b := by
  rw [readPlain] at h
  split at h
  next => cases h
  next len' t hpieces =>
    obtain ⟨hlen, rfl⟩ := Prod.mk.inj h
    obtain rfl := Except.ok.inj hlen
    obtain ⟨packet, hlength, hjoined⟩ := readPieces_ok hplace hc hpieces
    have hbuff : net.where_b + len' ≤ t.buff.length := by
      have hroom := hjoined.room
      have hroom' := t.room
      omega
    have hthere : slice (memcpyAt t.buff (net.where_b + len') [0]) net.where_b len' = packet := by
      rw [slice_memcpyAt_before (Nat.le_refl _) hbuff, ← hlength, hjoined.there]
    refine ⟨packet, ⟨hjoined.moves, hjoined.pkt_nr, hjoined.max_packet_size, hjoined.compress,
      ⟨hjoined.grows.max_packet, hjoined.grows.sized⟩, hjoined.room, ?_, ?_⟩, hlength, hthere, rfl⟩
    · exact (take_memcpyAt_of_le (Nat.le_add_right _ _) hbuff [0]).trans hjoined.before
    · rw [hlength]
      exact hthere

/-! ## On a calm socket -/

/-- The first frame of a packet that is on the socket. -/
theorem my_real_read_frame (hc : net.compress = false) (hcalm : net.vio.Calm)
    {body rest : List UInt8} (hlength : body.length = len)
    (hstream : net.vio.stream = header false net.pkt_nr len 0 ++ body ++ rest)
    (hlen : len ≤ MAX_PACKET_LENGTH)
    (hfits : len ≠ 0 → net.where_b + len < max net.max_packet net.max_packet_size) :
    ∃ t, my_real_read net = (.ok (len, 0), t) ∧ Received net len 0 body t ∧
      t.vio.Calm ∧ t.vio.stream = rest := by
  subst hlength
  rw [← hc, List.append_assoc] at hstream
  obtain ⟨t, hread⟩ := my_real_read_fits hcalm hstream hlen (Nat.zero_le _) (fun _ => rfl)
    fun hne => by
      rw [Nat.max_eq_left (Nat.zero_le _), Nat.add_comm]
      exact hfits (Nat.ne_zero_of_lt (List.length_pos_iff.mpr hne))
  obtain ⟨body', hreceived⟩ := my_real_read_ok hread
  have hboth := hreceived.moves.stream.symm.trans hstream
  rw [List.append_assoc, List.append_cancel_left_eq] at hboth
  obtain ⟨rfl, hrest⟩ := List.append_inj hboth hreceived.length
  exact ⟨t, hread, hreceived, hreceived.moves.calm hcalm, hrest⟩

/-- Behind a piece that is not the last one comes the rest of the packet. -/
theorem stream_after {rest : List UInt8} (h : MAX_PACKET_LENGTH ≤ packet.length)
    (hstream : net.vio.stream = frames net.pkt_nr packet ++ rest) :
    net.vio.stream = header false net.pkt_nr MAX_PACKET_LENGTH 0 ++
      packet.take MAX_PACKET_LENGTH ++
      (frames (net.pkt_nr + 1) (packet.drop MAX_PACKET_LENGTH) ++ rest) := by
  have hframes := frames_append (List.length_take_of_le h) net.pkt_nr
    (packet.drop MAX_PACKET_LENGTH)
  rw [List.take_append_drop] at hframes
  rw [hstream, hframes, List.append_assoc]

/-- The frames of a packet are read if there may be a buffer for it. -/
theorem readPieces_frames (hplace : net.where_b ≤ net.max_packet) (hc : net.compress = false)
    (hcalm : net.vio.Calm) {rest : List UInt8}
    (hstream : net.vio.stream = frames net.pkt_nr packet ++ rest)
    (hfits : packet.length ≠ 0 →
      net.where_b + packet.length < max net.max_packet net.max_packet_size) :
    ∃ net', readPieces net = (.ok packet.length, net') := by
  induction packet using pieces.induct MAX_PACKET_LENGTH generalizing net with
  | case1 packet h ih =>
      have hlt := hfits (Nat.ne_zero_of_lt (Nat.lt_of_lt_of_le h.1 h.2))
      have hdrop := List.length_drop (l := packet) (i := MAX_PACKET_LENGTH)
      have hle := h.2
      obtain ⟨t, hread, hreceived, hcalm', hstream'⟩ :=
        my_real_read_frame hc hcalm (List.length_take_of_le hle) (stream_after hle hstream)
          (Nat.le_refl _) fun _ => by omega
      have hroom := hreceived.room (by decide)
      have hgrows := hreceived.grows.max_packet
      have hsize := hreceived.place.max_packet_size
      have hwhere := hreceived.place.where_b
      rw [← hreceived.pkt_nr] at hstream'
      obtain ⟨net', hmore⟩ := @ih { t with where_b := t.where_b + MAX_PACKET_LENGTH }
        (by simp only [hwhere]; omega) (hreceived.place.compress.trans hc) hcalm' hstream'
        (fun _ => by simp only [hwhere, hsize]; omega)
      refine ⟨net', ?_⟩
      rw [readPieces_more hread, hmore, hdrop]
      dsimp only
      rw [Nat.add_sub_cancel' hle]
  | case2 packet h =>
      have hlt : packet.length < MAX_PACKET_LENGTH := by
        rw [MAX_PACKET_LENGTH] at h ⊢
        omega
      rw [frames_of_lt hlt] at hstream
      obtain ⟨t, hread, -⟩ := my_real_read_frame hc hcalm rfl hstream (Nat.le_of_lt hlt) hfits
      exact ⟨t, readPieces_last hread (Nat.ne_of_lt hlt)⟩

/-- A frame that goes beyond the largest buffer is refused. -/
theorem readPieces_refused (hc : net.compress = false)
    (hsized : net.max_packet ≤ net.max_packet_size)
    (hcalm : net.vio.Calm) {more : List UInt8}
    (hstream : net.vio.stream = header false net.pkt_nr len 0 ++ more)
    (hlen : len ≤ MAX_PACKET_LENGTH) (hne : len ≠ 0)
    (hlarge : net.max_packet_size ≤ net.where_b + len) :
    ∃ net', readPieces net = (.error .failed, net') ∧ net'.error = 1 ∧
      net'.last_errno = ER_NET_PACKET_TOO_LARGE := by
  rw [← hc] at hstream
  obtain ⟨t, hread, herror⟩ := my_real_read_large hcalm hstream hlen (Nat.zero_le _)
    (fun _ => rfl) hne (by rw [Nat.max_eq_left (Nat.zero_le len)]; omega)
  exact ⟨t, readPieces_error hread, herror⟩

/-- The frames of a packet that is too large are refused. -/
theorem readPieces_large (hplace : net.where_b ≤ net.max_packet) (hc : net.compress = false)
    (hio : IO_SIZE ∣ net.max_packet_size) (hsized : net.max_packet ≤ net.max_packet_size)
    (hcalm : net.vio.Calm) {rest : List UInt8}
    (hstream : net.vio.stream = frames net.pkt_nr packet ++ rest) (hne : packet.length ≠ 0)
    (hlarge : net.max_packet_size ≤ net.where_b + packet.length) :
    ∃ net', readPieces net = (.error .failed, net') ∧ net'.error = 1 ∧
      net'.last_errno = ER_NET_PACKET_TOO_LARGE := by
  induction packet using pieces.induct MAX_PACKET_LENGTH generalizing net with
  | case1 packet h ih =>
      have hle := h.2
      have hdrop := List.length_drop (l := packet) (i := MAX_PACKET_LENGTH)
      have hafter := stream_after hle hstream
      by_cases hfits : net.where_b + MAX_PACKET_LENGTH < net.max_packet_size
      · obtain ⟨t, hread, hreceived, hcalm', hstream'⟩ :=
          my_real_read_frame hc hcalm (List.length_take_of_le hle) hafter (Nat.le_refl _)
            fun _ => by omega
        have hroom := hreceived.room (by decide)
        have hsize := hreceived.place.max_packet_size
        have hwhere := hreceived.place.where_b
        have hsized' := hreceived.grows.sized hio hsized
        rw [← hreceived.pkt_nr] at hstream'
        rw [readPieces_more hread]
        rw [← hsize] at hio hsized' hlarge
        rw [← hwhere] at hlarge
        obtain ⟨net', hmore, herror⟩ :=
          @ih { t with where_b := t.where_b + MAX_PACKET_LENGTH }
            (by simp only [hwhere]; omega) (hreceived.place.compress.trans hc) hio hsized' hcalm'
            hstream' (by omega) (by simp only; omega)
        rw [hmore]
        exact ⟨net', rfl, herror⟩
      · rw [List.append_assoc] at hafter
        exact readPieces_refused hc hsized hcalm hafter (Nat.le_refl _) (by decide)
          (Nat.le_of_not_lt hfits)
  | case2 packet h =>
      have hlt : packet.length < MAX_PACKET_LENGTH := by
        rw [MAX_PACKET_LENGTH] at h ⊢
        omega
      rw [frames_of_lt hlt, List.append_assoc] at hstream
      exact readPieces_refused hc hsized hcalm hstream (Nat.le_of_lt hlt) hne hlarge

theorem readPlain_of_ok {t : NET} (h : readPieces net = (.ok len, t)) :
    readPlain net = (.ok len, (t.rewind net.where_b).memcpy (net.where_b + len) [0]) := by
  rw [readPlain, h]

/-- A packet on the socket is read if there may be a buffer for it. -/
theorem readPlain_frames (hplace : net.where_b ≤ net.max_packet) (hc : net.compress = false)
    (hcalm : net.vio.Calm) {rest : List UInt8}
    (hstream : net.vio.stream = frames net.pkt_nr packet ++ rest)
    (hfits : packet.length ≠ 0 →
      net.where_b + packet.length < max net.max_packet net.max_packet_size) :
    ∃ net', readPlain net = (.ok packet.length, net') ∧ Joined net packet net' ∧
      net'.packetAt packet.length = packet ∧ net'.where_b = net.where_b ∧
      net'.vio.stream = rest := by
  obtain ⟨t, hpieces⟩ := readPieces_frames hplace hc hcalm hstream hfits
  have hread := readPlain_of_ok hpieces
  obtain ⟨packet', hjoined, hlength, hat, hwhere⟩ := readPlain_ok hplace hc hread
  obtain ⟨rfl, hrest⟩ := frames_inj (hjoined.moves.stream.symm.trans hstream)
  exact ⟨_, hread, hjoined, hat, hwhere, hrest⟩

end

/-! ## Packets one after the other -/

/-- Read `n` packets. -/
def readMany (read : Io Nat) : Nat → Io (List (List UInt8))
  | 0 => pure []
  | n + 1 => do
      let len ← read
      let net ← get
      let packets ← readMany read n
      pure (net.packetAt len :: packets)

section
variable {net net' : NET} {packets : List (List UInt8)} {n : Nat}

theorem readMany_succ_ok {read : Io Nat} (h : readMany read (n + 1) net = (.ok packets, net')) :
    ∃ len t packets', read net = (.ok len, t) ∧ readMany read n t = (.ok packets', net') ∧
      packets = t.packetAt len :: packets' := by
  rw [readMany] at h
  obtain ⟨len, t, hread, h⟩ := bind_eq_ok.mp h
  rw [bind_of_ok (get_apply t)] at h
  obtain ⟨packets', u, hmany, h⟩ := bind_eq_ok.mp h
  cases h
  exact ⟨len, t, packets', hread, hmany, rfl⟩

theorem readMany_succ_of_ok {read : Io Nat} {len : Nat} {t : NET} (h : read net = (.ok len, t))
    (h' : readMany read n t = (.ok packets, net')) :
    readMany read (n + 1) net = (.ok (t.packetAt len :: packets), net') := by
  rw [readMany, bind_of_ok h, bind_of_ok (get_apply t), bind_of_ok h']
  rfl

/-- What the reader accepts are the frames of its packets, numbered one after the
other. -/
theorem readMany_readPlain_ok (hplace : net.where_b ≤ net.max_packet)
    (hc : net.compress = false) (h : readMany readPlain n net = (.ok packets, net')) :
    packets.length = n ∧ net.vio.Moves (numberedFrames net.pkt_nr packets) net'.vio := by
  induction n generalizing net packets with
  | zero =>
      cases h
      exact ⟨rfl, .refl _⟩
  | succ n ih =>
      obtain ⟨len, t, packets', hread, hmany, rfl⟩ := readMany_succ_ok h
      obtain ⟨packet, hjoined, -, hat, hwhere⟩ := readPlain_ok hplace hc hread
      have hplace' : t.where_b ≤ t.max_packet := by
        rw [hwhere]
        exact Nat.le_trans hplace hjoined.grows.max_packet
      obtain ⟨hlength, hmoves⟩ := ih hplace' (hjoined.compress.trans hc) hmany
      rw [hjoined.pkt_nr] at hmoves
      rw [hat, numberedFrames_cons]
      exact ⟨congrArg (· + 1) hlength, hjoined.moves.trans hmoves⟩

/-- The reader returns the packets that are on the socket. -/
theorem readMany_readPlain_frames (hplace : net.where_b ≤ net.max_packet)
    (hc : net.compress = false) (hcalm : net.vio.Calm) {rest : List UInt8}
    (hstream : net.vio.stream = numberedFrames net.pkt_nr packets ++ rest)
    (hfits : ∀ p ∈ packets, p.length ≠ 0 →
      net.where_b + p.length < max net.max_packet net.max_packet_size) :
    ∃ net', readMany readPlain packets.length net = (.ok packets, net') ∧
      net'.vio.stream = rest := by
  induction packets generalizing net with
  | nil => exact ⟨net, rfl, hstream⟩
  | cons packet packets ih =>
      rw [numberedFrames_cons, List.append_assoc] at hstream
      obtain ⟨t, hread, hjoined, hat, hwhere, hrest⟩ :=
        readPlain_frames hplace hc hcalm hstream (hfits packet List.mem_cons_self)
      have hgrows := hjoined.grows.max_packet
      have hplace' : t.where_b ≤ t.max_packet := by
        rw [hwhere]
        exact Nat.le_trans hplace hgrows
      rw [← hjoined.pkt_nr] at hrest
      obtain ⟨net', hmany, hrest'⟩ := ih hplace' (hjoined.compress.trans hc)
        (hjoined.moves.calm hcalm) hrest fun p hp hne => by
          have hlt := hfits p (List.mem_cons_of_mem packet hp) hne
          rw [hwhere, hjoined.max_packet_size]
          omega
      have hall := readMany_succ_of_ok hread hmany
      rw [hat] at hall
      exact ⟨net', hall, hrest'⟩

end

end NET

end MGMDB
