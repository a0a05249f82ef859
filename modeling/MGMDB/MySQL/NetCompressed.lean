import MGMDB.MySQL.NetPlain

/-!
# The reader with compression

With compression the socket has blocks, and the packets are cut out of what the
blocks contain.  A block may have many packets and a packet many blocks.  The reader
keeps what is behind a packet in its buffer for the next call, and the first byte of
it in `save_char`, because it writes a zero behind every packet.
-/

namespace MGMDB

open Framing Systems Program

namespace NET

/-- `memmove` inside the buffer. -/
def memmove (net : NET) (dst src n : Nat) : NET := net.memcpy dst (slice net.buff src n)

/-- `my_uncompress`, with the room for the result. -/
def my_uncompress (zlib : Zlib) (packet : List UInt8) (complen : Nat) : Option (List UInt8) :=
  if complen ≠ 0 then zlib.uncompress packet complen else some packet

/-- The places in the buffer while a packet is cut out. -/
structure Cut where
  first_packet_offset : Nat
  start_of_packet : Nat
  buf_length : Nat
  multi_byte_packet : Nat

/-- The data of the packet is moved to the front. -/
def moveDown (net : NET) (c : Cut) : NET × Cut :=
  if c.first_packet_offset ≠ 0 then
    (net.memmove 0 c.first_packet_offset (c.buf_length - c.first_packet_offset),
      { c with
        first_packet_offset := 0
        start_of_packet := c.start_of_packet - c.first_packet_offset
        buf_length := c.buf_length - c.first_packet_offset })
  else (net, c)

/-- The length of the frame at `start_of_packet`, if it is there as a whole. -/
def frameAt (net : NET) (c : Cut) : Option Nat :=
  if NET_HEADER_SIZE ≤ c.buf_length - c.start_of_packet ∧
      uint3korr (net.buff.drop c.start_of_packet) + NET_HEADER_SIZE ≤
        c.buf_length - c.start_of_packet then
    some (uint3korr (net.buff.drop c.start_of_packet))
  else none

/-- A frame that is not empty is joined to the packet; the header of a later one is
removed. -/
def takeFrame (net : NET) (c : Cut) (read_length : Nat) : NET × Cut :=
  if c.multi_byte_packet ≠ 0 then
    (net.memmove (c.first_packet_offset + c.start_of_packet)
        (c.first_packet_offset + c.start_of_packet + NET_HEADER_SIZE)
        (c.buf_length - c.start_of_packet),
      { c with
        start_of_packet := c.start_of_packet + read_length
        buf_length := c.buf_length - NET_HEADER_SIZE })
  else
    (net, { c with start_of_packet := c.start_of_packet + (read_length + NET_HEADER_SIZE) })

/-- A block that is behind what is in the buffer is uncompressed there. -/
def expand (zlib : Zlib) (c : Cut) (packet_len complen : Nat) : Io Cut := fun net =>
  match my_uncompress zlib (slice net.buff c.buf_length packet_len) complen with
  | none => (.error .failed, { net with error := 2, last_errno := ER_NET_UNCOMPRESS_ERROR })
  | some data =>
      (.ok { c with buf_length := c.buf_length + data.length }, net.memcpy c.buf_length data)

/-- Another block is read. -/
def readBlock (zlib : Zlib) (c : Cut) : Io Cut := do
  modify fun net => { net with where_b := c.buf_length }
  let r ← my_real_read
  expand zlib c r.1 r.2

theorem expand_ok {zlib : Zlib} {net net' : NET} {c c' : Cut} {packet_len complen : Nat}
    (h : expand zlib c packet_len complen net = (.ok c', net')) :
    ∃ data, my_uncompress zlib (slice net.buff c.buf_length packet_len) complen = some data ∧
      c' = { c with buf_length := c.buf_length + data.length } ∧
      net' = net.memcpy c.buf_length data := by
  rw [expand] at h
  split at h
  next => cases h
  next data hdata =>
    obtain ⟨hc, rfl⟩ := Prod.mk.inj h
    exact ⟨data, hdata, (Except.ok.inj hc).symm, rfl⟩

theorem readBlock_lt {zlib : Zlib} {net net' : NET} {c c' : Cut}
    (h : readBlock zlib c net = (.ok c', net')) :
    net'.vio.stream.length < net.vio.stream.length := by
  rw [readBlock, bind_of_ok (modify_apply _ net)] at h
  obtain ⟨r, t, hread, h⟩ := bind_eq_ok.mp h
  obtain ⟨data, -, -, rfl⟩ := expand_ok h
  have hlt := my_real_read_lt hread
  exact hlt

theorem moveDown_vio (net : NET) (c : Cut) : (moveDown net c).1.vio = net.vio := by
  rw [moveDown]
  split <;> rfl

theorem moveDown_le (net : NET) (c : Cut) :
    (moveDown net c).2.buf_length - (moveDown net c).2.start_of_packet ≤
      c.buf_length - c.start_of_packet := by
  rw [moveDown]
  split
  next =>
    show c.buf_length - c.first_packet_offset - (c.start_of_packet - c.first_packet_offset) ≤ _
    omega
  next => exact Nat.le_refl _

theorem takeFrame_vio (net : NET) (c : Cut) (n : Nat) : (takeFrame net c n).1.vio = net.vio := by
  rw [takeFrame]
  split <;> rfl

theorem frameAt_some {net : NET} {c : Cut} {n : Nat} (h : frameAt net c = some n) :
    n = uint3korr (net.buff.drop c.start_of_packet) ∧
      n + NET_HEADER_SIZE ≤ c.buf_length - c.start_of_packet := by
  rw [frameAt] at h
  split at h
  next hle =>
    obtain rfl := Option.some.inj h
    exact ⟨rfl, hle.2⟩
  next => cases h

theorem takeFrame_lt {net : NET} {c : Cut} {n : Nat} (h : frameAt net c = some n) :
    (takeFrame net c n).2.buf_length - (takeFrame net c n).2.start_of_packet <
      c.buf_length - c.start_of_packet := by
  obtain ⟨-, hle⟩ := frameAt_some h
  have hpos : 0 < NET_HEADER_SIZE := by decide
  rw [takeFrame]
  split
  next =>
    show c.buf_length - NET_HEADER_SIZE - (c.start_of_packet + n) < _
    omega
  next =>
    show c.buf_length - (c.start_of_packet + (n + NET_HEADER_SIZE)) < _
    omega

/-- A frame behind which others follow is joined, and the data is moved to the front. -/
def takeFull (net : NET) (c : Cut) (read_length : Nat) : NET × Cut :=
  moveDown (takeFrame net c read_length).1
    { (takeFrame net c read_length).2 with multi_byte_packet := NET_HEADER_SIZE }

/-- The loop of `my_net_read` that cuts a packet out. -/
def unpack (zlib : Zlib) (net : NET) (c : Cut) : Except Halt Cut × NET :=
  match _h : frameAt net c with
  | some read_length =>
      if _hzero : read_length = 0 then
        (.ok { c with start_of_packet := c.start_of_packet + NET_HEADER_SIZE }, net)
      else if read_length ≠ MAX_PACKET_LENGTH then
        (.ok { (takeFrame net c read_length).2 with multi_byte_packet := 0 },
          (takeFrame net c read_length).1)
      else unpack zlib (takeFull net c read_length).1 (takeFull net c read_length).2
  | none =>
      match _h' : readBlock zlib (moveDown net c).2 (moveDown net c).1 with
      | (.error halt, net) => (.error halt, net)
      | (.ok c, net) => unpack zlib net c
termination_by (net.vio.stream.length, c.buf_length - c.start_of_packet)
decreasing_by
  · rw [takeFull, moveDown_vio, takeFrame_vio]
    exact .right _ (Nat.lt_of_le_of_lt (moveDown_le _ _) (takeFrame_lt _h))
  · have hlt := readBlock_lt _h'
    rw [moveDown_vio] at hlt
    exact .left _ _ hlt

/-- Where the reader begins: behind the last packet, or with an empty buffer. -/
def restart (net : NET) : NET × Cut :=
  if net.remain_in_buf ≠ 0 then
    (net.memcpy (net.buf_length - net.remain_in_buf) [net.save_char],
      ⟨net.buf_length - net.remain_in_buf, net.buf_length - net.remain_in_buf, net.buf_length, 0⟩)
  else (net, ⟨0, 0, 0, 0⟩)

/-- The packet is handed out, with a zero behind it. -/
def handOut (net : NET) (c : Cut) : Nat × NET :=
  let read_pos := c.first_packet_offset + NET_HEADER_SIZE
  let len := c.start_of_packet - c.first_packet_offset - NET_HEADER_SIZE - c.multi_byte_packet
  (len, { net.memcpy (read_pos + len) [0] with
    read_pos := read_pos
    buf_length := c.buf_length
    remain_in_buf := c.buf_length - c.start_of_packet
    save_char := net.buff.getD (read_pos + len) 0 })

/-- `my_net_read` with compression. -/
def readCompressed (zlib : Zlib) : Io Nat := fun net =>
  match unpack zlib (restart net).1 (restart net).2 with
  | (.error halt, net) => (.error halt, net)
  | (.ok c, net) => (.ok (handOut net c).1, (handOut net c).2)

/-- `my_net_read`. -/
def my_net_read (zlib : Zlib) : Io Nat := do
  let net ← get
  if net.compress then readCompressed zlib else readPlain

/-! ## What is in the buffer -/

/-- `nr'` is the number behind blocks that contain `data`. -/
inductive Blocks (zlib : Zlib) : UInt32 → List UInt8 → List UInt8 → UInt32 → Prop where
  | nil (nr : UInt32) : Blocks zlib nr [] [] nr
  | cons {nr nr' : UInt32} {sent out data bytes : List UInt8} {complen : Nat} :
      my_uncompress zlib sent complen = some out → sent.length ≤ MAX_PACKET_LENGTH →
      complen ≤ MAX_PACKET_LENGTH → Blocks zlib (nr + 1) data bytes nr' →
      Blocks zlib nr (out ++ data) (header true nr sent.length complen ++ sent ++ bytes) nr'

/-- The buffer has what was joined to the packet, and behind it `unread`. -/
structure View (net : NET) (c : Cut) (behind : Nat) (joined unread : List UInt8) : Prop where
  start : c.start_of_packet = c.first_packet_offset + behind
  start_le : c.start_of_packet ≤ c.buf_length
  room : c.buf_length ≤ net.max_packet
  below : joined ≠ [] → NET_HEADER_SIZE + joined.length ≤ behind
  there : slice net.buff (c.first_packet_offset + NET_HEADER_SIZE) joined.length = joined
  unread : slice net.buff c.start_of_packet (c.buf_length - c.start_of_packet) = unread

/-- Between two frames of a packet: before the first one, or behind some of them, which
are all of full length. -/
inductive Between (c : Cut) (behind : Nat) (joined : List UInt8) : Prop where
  | first : c.multi_byte_packet = 0 → behind = 0 → joined = [] → Between c behind joined
  | later : c.multi_byte_packet = NET_HEADER_SIZE → c.first_packet_offset = 0 →
      behind = NET_HEADER_SIZE + joined.length → joined ≠ [] →
      MAX_PACKET_LENGTH ∣ joined.length → Between c behind joined

section
variable {zlib : Zlib} {net net' : NET} {c c' : Cut} {behind n : Nat}
  {joined unread : List UInt8}

theorem View.buf_length_le (h : View net c behind joined unread) :
    c.buf_length + NET_HEADER_SIZE ≤ net.buff.length := by
  have hroom := net.room
  have hroom' := h.room
  omega

/-- Part of the packet is not behind what has been joined. -/
theorem View.joined_le (h : View net c behind joined unread) (hne : joined ≠ []) :
    c.first_packet_offset + NET_HEADER_SIZE + joined.length ≤ c.start_of_packet := by
  have hbelow := h.below hne
  have hstart := h.start
  omega

/-- The data may be moved to the front. -/
theorem View.moveDown (h : View net c behind joined unread) :
    View (moveDown net c).1 (moveDown net c).2 behind joined unread ∧
      (NET.moveDown net c).2.first_packet_offset = 0 ∧
      (NET.moveDown net c).2.multi_byte_packet = c.multi_byte_packet := by
  have hstart := h.start
  have hstart_le := h.start_le
  have hroom := h.room
  have hlength := h.buf_length_le
  rw [NET.moveDown]
  split
  next hne =>
    have hmoved : (slice net.buff c.first_packet_offset
        (c.buf_length - c.first_packet_offset)).length = c.buf_length - c.first_packet_offset :=
      length_slice (by omega)
    -- a part of the data is found at its old place less the offset
    have hslice : ∀ {pos m : Nat}, pos + m ≤ c.buf_length - c.first_packet_offset →
        slice (memcpyAt net.buff 0 (slice net.buff c.first_packet_offset
          (c.buf_length - c.first_packet_offset))) pos m =
        slice net.buff (c.first_packet_offset + pos) m := by
      intro pos m hle
      have hinside := slice_memcpyAt_inside (Nat.zero_le net.buff.length) (hle.trans_eq hmoved.symm)
      rw [Nat.zero_add] at hinside
      exact hinside.trans (slice_slice hle)
    refine ⟨⟨?_, ?_, ?_, h.below, ?_, ?_⟩, rfl, rfl⟩
    · show c.start_of_packet - c.first_packet_offset = 0 + behind
      omega
    · show c.start_of_packet - c.first_packet_offset ≤ c.buf_length - c.first_packet_offset
      omega
    · show c.buf_length - c.first_packet_offset ≤ net.max_packet
      omega
    · show slice (memcpyAt net.buff 0 _) (0 + NET_HEADER_SIZE) joined.length = joined
      by_cases hjoined : joined = []
      · rw [hjoined]
        exact slice_zero _ _
      · have hle := h.joined_le hjoined
        rw [Nat.zero_add, hslice (by omega)]
        exact h.there
    · show slice (memcpyAt net.buff 0 _) (c.start_of_packet - c.first_packet_offset)
        (c.buf_length - c.first_packet_offset - (c.start_of_packet - c.first_packet_offset)) = unread
      have hplace : c.first_packet_offset + (c.start_of_packet - c.first_packet_offset) =
          c.start_of_packet := by omega
      have hcount : c.buf_length - c.first_packet_offset -
          (c.start_of_packet - c.first_packet_offset) = c.buf_length - c.start_of_packet := by omega
      rw [hslice (by omega), hplace, hcount]
      exact h.unread
  next hzero => exact ⟨h, Decidable.not_not.mp hzero, rfl⟩

end

section
variable {zlib : Zlib} {net net' : NET} {c c' : Cut} {behind n : Nat}
  {joined unread : List UInt8}

/-- A frame that is there as a whole. -/
theorem View.frame (h : View net c behind joined unread) (hframe : frameAt net c = some n) :
    ∃ nr, unread = header false nr n 0 ++
        (slice net.buff (c.start_of_packet + NET_HEADER_SIZE) n ++
          slice net.buff (c.start_of_packet + NET_HEADER_SIZE + n)
            (c.buf_length - c.start_of_packet - NET_HEADER_SIZE - n)) ∧
      (slice net.buff (c.start_of_packet + NET_HEADER_SIZE) n).length = n ∧
      n ≤ MAX_PACKET_LENGTH := by
  obtain ⟨hn, hle⟩ := frameAt_some hframe
  have hstart_le := h.start_le
  have hlength := h.buf_length_le
  have hcount : c.buf_length - c.start_of_packet =
      NET_HEADER_SIZE + (n + (c.buf_length - c.start_of_packet - NET_HEADER_SIZE - n)) := by omega
  have hsize : (slice net.buff c.start_of_packet NET_HEADER_SIZE).length = headerSize false :=
    length_slice (by omega)
  obtain ⟨b, hb⟩ : ∃ b, (slice net.buff c.start_of_packet NET_HEADER_SIZE)[3]? = some b :=
    ⟨_, List.getElem?_eq_getElem (by rw [hsize]; decide)⟩
  have hheader : slice net.buff c.start_of_packet NET_HEADER_SIZE =
      header false b.toUInt32 _ _ := eq_header hsize (by rw [hb, UInt8.toUInt8_toUInt32])
  have hthree : uint3korr (slice net.buff c.start_of_packet NET_HEADER_SIZE) = n := by
    rw [hn, uint3korr, uint3korr, slice, List.take_take]
    rfl
  rw [hthree] at hheader
  refine ⟨b.toUInt32, ?_, length_slice (by omega), hn ▸ uint3korr_le _⟩
  calc unread = slice net.buff c.start_of_packet (c.buf_length - c.start_of_packet) := h.unread.symm
    _ = slice net.buff c.start_of_packet (NET_HEADER_SIZE +
          (n + (c.buf_length - c.start_of_packet - NET_HEADER_SIZE - n))) := congrArg _ hcount
    _ = _ := by
      rw [slice_add, slice_add, hheader]
      rfl

/-- A frame that is there as a whole is joined to the packet. -/
theorem View.takeFrame (h : View net c behind joined unread) (hbetween : Between c behind joined)
    (hframe : frameAt net c = some n) :
    View (takeFrame net c n).1 (takeFrame net c n).2 (NET_HEADER_SIZE + (joined.length + n))
      (joined ++ slice net.buff (c.start_of_packet + NET_HEADER_SIZE) n)
      (slice net.buff (c.start_of_packet + NET_HEADER_SIZE + n)
        (c.buf_length - c.start_of_packet - NET_HEADER_SIZE - n)) ∧
      (NET.takeFrame net c n).2.first_packet_offset = c.first_packet_offset := by
  obtain ⟨-, hle⟩ := frameAt_some hframe
  have hpiece : (slice net.buff (c.start_of_packet + NET_HEADER_SIZE) n).length = n :=
    (h.frame hframe).choose_spec.2.1
  have hstart := h.start
  have hstart_le := h.start_le
  have hroom := h.room
  have hlength := h.buf_length_le
  rw [NET.takeFrame]
  cases hbetween with
  | first hmulti hbehind hjoined =>
      subst hjoined
      rw [if_neg (not_not_intro hmulti)]
      refine ⟨⟨?_, ?_, hroom, fun _ => ?_, ?_, ?_⟩, rfl⟩
      · show c.start_of_packet + (n + NET_HEADER_SIZE) =
          c.first_packet_offset + (NET_HEADER_SIZE + (0 + n))
        omega
      · show c.start_of_packet + (n + NET_HEADER_SIZE) ≤ c.buf_length
        omega
      · rw [List.nil_append, hpiece, List.length_nil, Nat.zero_add]
      · rw [List.nil_append, hpiece, hstart, hbehind, Nat.add_zero]
      · show slice net.buff (c.start_of_packet + (n + NET_HEADER_SIZE))
          (c.buf_length - (c.start_of_packet + (n + NET_HEADER_SIZE))) = _
        rw [Nat.add_comm n, Nat.add_assoc, Nat.sub_sub, Nat.sub_sub]
  | later hmulti hfirst hbehind hne hdvd =>
      have hpos : c.start_of_packet = NET_HEADER_SIZE + joined.length := by omega
      have hsource : (slice net.buff (c.start_of_packet + NET_HEADER_SIZE)
          (c.buf_length - c.start_of_packet)).length = c.buf_length - c.start_of_packet :=
        length_slice (by omega)
      have hbefore : slice (memcpyAt net.buff c.start_of_packet
          (slice net.buff (c.start_of_packet + NET_HEADER_SIZE) (c.buf_length - c.start_of_packet)))
          NET_HEADER_SIZE joined.length = joined := by
        rw [slice_memcpyAt_before (by omega) (by omega)]
        have hthere := h.there
        rwa [hfirst, Nat.zero_add] at hthere
      have hinside : ∀ {k m : Nat}, k + m ≤ c.buf_length - c.start_of_packet →
          slice (memcpyAt net.buff c.start_of_packet (slice net.buff
            (c.start_of_packet + NET_HEADER_SIZE) (c.buf_length - c.start_of_packet)))
            (c.start_of_packet + k) m =
          slice net.buff (c.start_of_packet + NET_HEADER_SIZE + k) m := by
        intro k m hkm
        rw [slice_memcpyAt_inside (by omega) (hkm.trans_eq hsource.symm), slice_slice hkm]
      rw [if_pos (by rw [hmulti]; decide)]
      simp only [hfirst, Nat.zero_add]
      refine ⟨⟨?_, ?_, ?_, fun _ => ?_, ?_, ?_⟩, trivial⟩
      · show c.start_of_packet + n = 0 + (NET_HEADER_SIZE + (joined.length + n))
        omega
      · show c.start_of_packet + n ≤ c.buf_length - NET_HEADER_SIZE
        omega
      · show c.buf_length - NET_HEADER_SIZE ≤ net.max_packet
        omega
      · rw [List.length_append, hpiece]
      · show slice (memcpyAt net.buff c.start_of_packet _) (0 + NET_HEADER_SIZE) _ = _
        have hfront := hinside (k := 0) (m := n) (by omega)
        rw [Nat.add_zero, Nat.add_zero] at hfront
        rw [List.length_append, hpiece, slice_add, Nat.zero_add, hbefore, ← hpos, hfront]
      · show slice (memcpyAt net.buff c.start_of_packet _) (c.start_of_packet + n)
          (c.buf_length - NET_HEADER_SIZE - (c.start_of_packet + n)) = _
        have hcount : c.buf_length - NET_HEADER_SIZE - (c.start_of_packet + n) =
            c.buf_length - c.start_of_packet - NET_HEADER_SIZE - n := by omega
        rw [hcount, hinside (by omega)]

/-- What `my_uncompress` gives fits where the block was read to. -/
theorem length_my_uncompress (hzlib : zlib.Lawful) {sent out : List UInt8} {complen : Nat}
    (h : my_uncompress zlib sent complen = some out) :
    out.length ≤ max sent.length complen ∧ (sent = [] → out = []) := by
  rw [my_uncompress] at h
  split at h
  next =>
    have hle := hzlib.length_uncompress _ _ _ h
    refine ⟨Nat.le_trans hle (Nat.le_max_right _ _), fun hnil => ?_⟩
    rw [hnil, hzlib.uncompress_nil] at h
    cases h
  next =>
    obtain rfl := Option.some.inj h
    exact ⟨Nat.le_max_left _ _, id⟩

/-- `net'` is `net` after a block that contains `out`. -/
structure Unblocked (zlib : Zlib) (net : NET) (sent out : List UInt8) (complen : Nat)
    (net' : NET) : Prop where
  uncompress : my_uncompress zlib sent complen = some out
  sent_le : sent.length ≤ MAX_PACKET_LENGTH
  complen_le : complen ≤ MAX_PACKET_LENGTH
  moves : net.vio.Moves (header true net.pkt_nr sent.length complen ++ sent) net'.vio
  pkt_nr : net'.pkt_nr = net.pkt_nr + 1
  compress : net'.compress = net.compress
  max_packet_size : net'.max_packet_size = net.max_packet_size
  grows : Grows net net'

/-- A block adds what it contains to the buffer. -/
theorem View.readBlock (hzlib : zlib.Lawful) (hc : net.compress = true)
    (h : View net c behind joined unread) (hrun : readBlock zlib c net = (.ok c', net')) :
    ∃ sent out complen, Unblocked zlib net sent out complen net' ∧
      View net' c' behind joined (unread ++ out) ∧
      c' = { c with buf_length := c.buf_length + out.length } := by
  rw [NET.readBlock, bind_of_ok (modify_apply _ net)] at hrun
  obtain ⟨⟨len, complen⟩, t, hread, hexpand⟩ := bind_eq_ok.mp hrun
  obtain ⟨out, hout, rfl, rfl⟩ := expand_ok hexpand
  obtain ⟨sent, hreceived⟩ := my_real_read_ok hread
  have hmoves := hreceived.moves
  have hthere : slice t.buff c.buf_length len = sent := hreceived.there h.room
  have hbefore : t.buff.take c.buf_length = net.buff.take c.buf_length := hreceived.before h.room
  have hroom : len ≠ 0 → max len complen + c.buf_length ≤ t.max_packet := hreceived.room
  have hgrows : net.max_packet ≤ t.max_packet := hreceived.grows.max_packet
  have hsize : t.max_packet_size = net.max_packet_size := hreceived.place.max_packet_size
  have hplace := h.room
  have hstart_le := h.start_le
  rw [hthere] at hout
  obtain ⟨hle, hnil⟩ := length_my_uncompress hzlib hout
  rw [hreceived.length] at hle
  have hend : c.buf_length + out.length ≤ t.max_packet := by
    by_cases hzero : len = 0
    · have hempty : sent = [] := List.eq_nil_of_length_eq_zero (hreceived.length.trans hzero)
      rw [hnil hempty]
      exact Nat.le_trans hplace hgrows
    · have hfit := hroom hzero
      omega
  have hbuff : c.buf_length ≤ t.buff.length := by
    have hroom' := t.room
    omega
  -- what is in front of the block has not changed
  have hfront : ∀ {pos m : Nat}, pos + m ≤ c.buf_length →
      slice (memcpyAt t.buff c.buf_length out) pos m = slice net.buff pos m := fun hle =>
    (slice_memcpyAt_before hle hbuff out).trans (slice_of_take_eq hbefore hle)
  refine ⟨sent, out, complen, ⟨hout, hreceived.length ▸ hreceived.len_le, hreceived.complen_le, ?_,
    hreceived.pkt_nr, hreceived.place.compress, hsize, ⟨hgrows, hreceived.grows.sized⟩⟩,
    ⟨h.start, ?_, hend, h.below, ?_, ?_⟩, rfl⟩
  · rw [hreceived.length, ← hc]
    exact hmoves
  · exact Nat.le_trans hstart_le (Nat.le_add_right _ _)
  · show slice (memcpyAt t.buff c.buf_length out) _ _ = joined
    by_cases hjoined : joined = []
    · rw [hjoined]
      exact slice_zero _ _
    · rw [hfront (Nat.le_trans (h.joined_le hjoined) hstart_le)]
      exact h.there
  · show slice (memcpyAt t.buff c.buf_length out) c.start_of_packet
      (c.buf_length + out.length - c.start_of_packet) = unread ++ out
    have hcount : c.buf_length + out.length - c.start_of_packet =
        c.buf_length - c.start_of_packet + out.length := by omega
    have hplace' : c.start_of_packet + (c.buf_length - c.start_of_packet) = c.buf_length := by omega
    rw [hcount, slice_add, hplace', hfront (by omega), h.unread, slice_memcpyAt hbuff]

theorem View.multi (h : View net c behind joined unread) (k : Nat) :
    View net { c with multi_byte_packet := k } behind joined unread :=
  ⟨h.start, h.start_le, h.room, h.below, h.there, h.unread⟩

/-- A frame that is empty. -/
theorem View.skip (h : View net c behind joined unread) (hframe : frameAt net c = some 0) :
    ∃ nr rest, unread = header false nr 0 0 ++ rest ∧ net.buff[c.start_of_packet]? = some 0 ∧
      View net { c with start_of_packet := c.start_of_packet + NET_HEADER_SIZE }
        (behind + NET_HEADER_SIZE) joined rest := by
  obtain ⟨-, hle⟩ := frameAt_some hframe
  obtain ⟨nr, hunread, -, -⟩ := h.frame hframe
  have hstart := h.start
  have hstart_le := h.start_le
  have hpos : 0 < NET_HEADER_SIZE := by decide
  have hfirst : net.buff[c.start_of_packet]? = unread[0]? := by
    rw [← h.unread, slice, List.getElem?_take_of_lt (by omega), List.getElem?_drop, Nat.add_zero]
  rw [slice_zero, List.nil_append, Nat.add_zero, Nat.sub_zero] at hunread
  refine ⟨nr, _, hunread, ?_, ⟨?_, ?_, h.room, fun hne => ?_, h.there, ?_⟩⟩
  · rw [hfirst, hunread]
    rfl
  · show c.start_of_packet + NET_HEADER_SIZE = c.first_packet_offset + (behind + NET_HEADER_SIZE)
    omega
  · show c.start_of_packet + NET_HEADER_SIZE ≤ c.buf_length
    omega
  · exact Nat.le_trans (h.below hne) (Nat.le_add_right _ _)
  · show slice net.buff (c.start_of_packet + NET_HEADER_SIZE)
      (c.buf_length - (c.start_of_packet + NET_HEADER_SIZE)) = _
    rw [Nat.sub_sub]

/-- Only the buffer has been worked on. -/
structure SameSocket (net net' : NET) : Prop where
  vio : net'.vio = net.vio
  pkt_nr : net'.pkt_nr = net.pkt_nr
  compress : net'.compress = net.compress
  max_packet : net'.max_packet = net.max_packet
  max_packet_size : net'.max_packet_size = net.max_packet_size

theorem SameSocket.trans {net'' : NET} (h : SameSocket net net') (h' : SameSocket net' net'') :
    SameSocket net net'' where
  vio := h'.vio.trans h.vio
  pkt_nr := h'.pkt_nr.trans h.pkt_nr
  compress := h'.compress.trans h.compress
  max_packet := h'.max_packet.trans h.max_packet
  max_packet_size := h'.max_packet_size.trans h.max_packet_size

theorem sameSocket_moveDown (net : NET) (c : Cut) : SameSocket net (moveDown net c).1 := by
  rw [moveDown]
  split <;> exact ⟨rfl, rfl, rfl, rfl, rfl⟩

theorem sameSocket_takeFrame (net : NET) (c : Cut) (n : Nat) :
    SameSocket net (takeFrame net c n).1 := by
  rw [takeFrame]
  split <;> exact ⟨rfl, rfl, rfl, rfl, rfl⟩

theorem SameSocket.grows (h : SameSocket net net') : Grows net net' :=
  ⟨Nat.le_of_eq h.max_packet.symm, fun _ hle => h.max_packet ▸ hle⟩

/-- How the end of a packet was found: a frame that is not of full length, or an empty one
behind others, and then its length is still in the buffer. -/
inductive Ends (net : NET) (c : Cut) (whole : List UInt8) : Prop where
  | short : c.multi_byte_packet = 0 → (whole ≠ [] → ¬ MAX_PACKET_LENGTH ∣ whole.length) →
      Ends net c whole
  | empty : c.multi_byte_packet = NET_HEADER_SIZE → whole ≠ [] →
      MAX_PACKET_LENGTH ∣ whole.length →
      net.buff[c.first_packet_offset + NET_HEADER_SIZE + whole.length]? = some 0 →
      Ends net c whole

/-- The rest of a packet has been cut out of what was in the buffer and of blocks. -/
structure CutOut (zlib : Zlib) (net : NET) (unread joined packet unread' : List UInt8)
    (c' : Cut) (net' : NET) : Prop where
  consumed : ∃ bytes data wire, Unframes packet bytes ∧ net.vio.Moves wire net'.vio ∧
    Blocks zlib net.pkt_nr data wire net'.pkt_nr ∧ unread ++ data = bytes ++ unread'
  view : View net' c' (NET_HEADER_SIZE + (joined ++ packet).length + c'.multi_byte_packet)
    (joined ++ packet) unread'
  ends : Ends net' c' (joined ++ packet)
  compress : net'.compress = net.compress
  max_packet_size : net'.max_packet_size = net.max_packet_size
  grows : Grows net net'

theorem CutOut.after {packet unread' : List UInt8} {net'' : NET} (hsame : SameSocket net net')
    (h : CutOut zlib net' unread joined packet unread' c' net'') :
    CutOut zlib net unread joined packet unread' c' net'' where
  consumed := by
    obtain ⟨bytes, data, wire, hframes, hmoves, hblocks, heq⟩ := h.consumed
    rw [hsame.vio] at hmoves
    rw [hsame.pkt_nr] at hblocks
    exact ⟨bytes, data, wire, hframes, hmoves, hblocks, heq⟩
  view := h.view
  ends := h.ends
  compress := h.compress.trans hsame.compress
  max_packet_size := h.max_packet_size.trans hsame.max_packet_size
  grows := hsame.grows.trans hsame.max_packet_size h.grows

/-- An empty frame ends the packet. -/
theorem View.cutOut_skip (h : View net c behind joined unread) (hbetween : Between c behind joined)
    (hframe : frameAt net c = some 0) :
    ∃ rest, CutOut zlib net unread joined [] rest
      { c with start_of_packet := c.start_of_packet + NET_HEADER_SIZE } net := by
  obtain ⟨nr, rest, rfl, hbyte, hview⟩ := h.skip hframe
  have hzero : Unframes [] (header false nr 0 0) := .last nr (by decide)
  refine ⟨rest, ⟨⟨_, [], [], hzero, .refl _, .nil _, List.append_nil _⟩, ?_, ?_, rfl, rfl,
    ⟨Nat.le_refl _, fun _ h => h⟩⟩⟩
  · rw [List.append_nil]
    cases hbetween with
    | first hmulti hbehind hjoined =>
        subst hjoined hbehind
        rw [hmulti]
        exact hview.multi 0
    | later hmulti hfirst hbehind hne hdvd =>
        subst hbehind
        rw [hmulti]
        exact hview.multi NET_HEADER_SIZE
  · rw [List.append_nil]
    cases hbetween with
    | first hmulti hbehind hjoined =>
        exact .short hmulti fun hne => absurd hjoined hne
    | later hmulti hfirst hbehind hne hdvd =>
        refine .empty hmulti hne hdvd ?_
        have hstart := h.start
        rw [hbehind, ← Nat.add_assoc] at hstart
        show net.buff[c.first_packet_offset + NET_HEADER_SIZE + joined.length]? = some 0
        rw [← hstart]
        exact hbyte

theorem Between.dvd (h : Between c behind joined) : MAX_PACKET_LENGTH ∣ joined.length := by
  cases h with
  | first _ _ hjoined => exact hjoined ▸ Nat.dvd_zero _
  | later _ _ _ _ hdvd => exact hdvd

theorem Between.of_eq {d : Cut} (h : Between c behind joined)
    (hmulti : d.multi_byte_packet = c.multi_byte_packet)
    (hfirst : c.first_packet_offset = 0 → d.first_packet_offset = 0) : Between d behind joined := by
  cases h with
  | first hzero hbehind hjoined => exact .first (hmulti.trans hzero) hbehind hjoined
  | later hfour hoffset hbehind hne hdvd =>
      exact .later (hmulti.trans hfour) (hfirst hoffset) hbehind hne hdvd

/-- A frame that is not of full length ends the packet. -/
theorem View.cutOut_last (h : View net c behind joined unread) (hbetween : Between c behind joined)
    (hframe : frameAt net c = some n) (hzero : n ≠ 0) (hlast : n ≠ MAX_PACKET_LENGTH) :
    ∃ packet rest, CutOut zlib net unread joined packet rest
      { (NET.takeFrame net c n).2 with multi_byte_packet := 0 } (NET.takeFrame net c n).1 := by
  obtain ⟨nr, hunread, hpiece, hle⟩ := h.frame hframe
  have hlt : n < MAX_PACKET_LENGTH := Nat.lt_of_le_of_ne hle hlast
  have hview := (h.takeFrame hbetween hframe).1.multi 0
  have hsame := sameSocket_takeFrame net c n
  refine ⟨slice net.buff (c.start_of_packet + NET_HEADER_SIZE) n,
    slice net.buff (c.start_of_packet + NET_HEADER_SIZE + n)
      (c.buf_length - c.start_of_packet - NET_HEADER_SIZE - n),
    ⟨⟨_, [], [], .last nr (hpiece.trans_lt hlt), ?_, ?_, ?_⟩, ?_,
    .short rfl fun _ hdvd => ?_, hsame.compress, hsame.max_packet_size, hsame.grows⟩⟩
  · rw [hsame.vio]
    exact .refl _
  · rw [hsame.pkt_nr]
    exact .nil _
  · rw [List.append_nil, hpiece, List.append_assoc]
    exact hunread
  · rw [List.length_append, hpiece]
    exact hview
  · rw [List.length_append, hpiece] at hdvd
    have hn := (Nat.dvd_add_right hbetween.dvd).mp hdvd
    exact absurd (Nat.le_of_dvd (Nat.pos_of_ne_zero hzero) hn) (Nat.not_le_of_lt hlt)

/-- A frame of full length is joined to the packet. -/
theorem View.takeFull (h : View net c behind joined unread) (hbetween : Between c behind joined)
    (hframe : frameAt net c = some MAX_PACKET_LENGTH) :
    ∃ nr piece rest, unread = header false nr MAX_PACKET_LENGTH 0 ++ (piece ++ rest) ∧
      piece.length = MAX_PACKET_LENGTH ∧
      View (takeFull net c MAX_PACKET_LENGTH).1 (takeFull net c MAX_PACKET_LENGTH).2
        (NET_HEADER_SIZE + (joined ++ piece).length) (joined ++ piece) rest ∧
      Between (NET.takeFull net c MAX_PACKET_LENGTH).2
        (NET_HEADER_SIZE + (joined ++ piece).length) (joined ++ piece) := by
  obtain ⟨nr, hunread, hpiece, -⟩ := h.frame hframe
  have hview := (h.takeFrame hbetween hframe).1.multi NET_HEADER_SIZE
  obtain ⟨hdown, hfirst, hmulti⟩ := hview.moveDown
  rw [← hpiece, ← List.length_append, hpiece] at hdown
  refine ⟨nr, _, _, hunread, hpiece, hdown, .later hmulti hfirst rfl ?_ ?_⟩
  · exact List.append_ne_nil_of_right_ne_nil _
      (List.ne_nil_of_length_pos (by rw [hpiece]; decide))
  · rw [List.length_append, hpiece]
    exact Nat.dvd_add hbetween.dvd (Nat.dvd_refl _)

theorem sameSocket_takeFull (net : NET) (c : Cut) (n : Nat) :
    SameSocket net (takeFull net c n).1 :=
  (sameSocket_takeFrame net c n).trans (sameSocket_moveDown _ _)

theorem CutOut.full {piece packet rest unread' : List UInt8} {nr : UInt32}
    (hpiece : piece.length = MAX_PACKET_LENGTH)
    (h : CutOut zlib net rest (joined ++ piece) packet unread' c' net') :
    CutOut zlib net (header false nr MAX_PACKET_LENGTH 0 ++ (piece ++ rest)) joined
      (piece ++ packet) unread' c' net' where
  consumed := by
    obtain ⟨bytes, data, wire, hframes, hmoves, hblocks, heq⟩ := h.consumed
    refine ⟨_, data, wire, .more nr hpiece hframes, hmoves, hblocks, ?_⟩
    rw [List.append_assoc, List.append_assoc, heq, List.append_assoc, List.append_assoc]
  view := by
    rw [← List.append_assoc]
    exact h.view
  ends := by
    rw [← List.append_assoc]
    exact h.ends
  compress := h.compress
  max_packet_size := h.max_packet_size
  grows := h.grows

theorem CutOut.block {sent out packet unread' : List UInt8} {complen : Nat} {net'' : NET}
    (hblock : Unblocked zlib net sent out complen net')
    (h : CutOut zlib net' (unread ++ out) joined packet unread' c' net'') :
    CutOut zlib net unread joined packet unread' c' net'' where
  consumed := by
    obtain ⟨bytes, data, wire, hframes, hmoves, hblocks, heq⟩ := h.consumed
    rw [hblock.pkt_nr] at hblocks
    refine ⟨bytes, out ++ data, _, hframes, hblock.moves.trans hmoves,
      .cons hblock.uncompress hblock.sent_le hblock.complen_le hblocks, ?_⟩
    rw [← List.append_assoc]
    exact heq
  view := h.view
  ends := h.ends
  compress := h.compress.trans hblock.compress
  max_packet_size := h.max_packet_size.trans hblock.max_packet_size
  grows := hblock.grows.trans hblock.max_packet_size h.grows

theorem unpack_zero (h : frameAt net c = some 0) : unpack zlib net c =
    (.ok { c with start_of_packet := c.start_of_packet + NET_HEADER_SIZE }, net) := by
  rw [unpack]
  split
  next n h' =>
    obtain rfl := Option.some.inj (h'.symm.trans h)
    rw [dif_pos rfl]
  next h' => rw [h'] at h; cases h

theorem unpack_last (h : frameAt net c = some n) (hzero : n ≠ 0) (hlast : n ≠ MAX_PACKET_LENGTH) :
    unpack zlib net c =
      (.ok { (takeFrame net c n).2 with multi_byte_packet := 0 }, (takeFrame net c n).1) := by
  rw [unpack]
  split
  next n' h' =>
    obtain rfl := Option.some.inj (h'.symm.trans h)
    rw [dif_neg hzero, if_pos hlast]
  next h' => rw [h'] at h; cases h

theorem unpack_full (h : frameAt net c = some MAX_PACKET_LENGTH) : unpack zlib net c =
    unpack zlib (takeFull net c MAX_PACKET_LENGTH).1 (takeFull net c MAX_PACKET_LENGTH).2 := by
  rw [unpack]
  split
  next n' h' =>
    obtain rfl := Option.some.inj (h'.symm.trans h)
    rw [dif_neg (by decide), if_neg (not_not_intro rfl)]
  next h' => rw [h'] at h; cases h

theorem unpack_block (h : frameAt net c = none)
    (hblock : readBlock zlib (moveDown net c).2 (moveDown net c).1 = (.ok c', net')) :
    unpack zlib net c = unpack zlib net' c' := by
  rw [unpack]
  split
  next h' => rw [h'] at h; cases h
  next =>
    split
    next hblock' => rw [hblock'] at hblock; cases hblock
    next hblock' =>
      rw [hblock'] at hblock
      cases hblock
      rfl

theorem unpack_error {halt : Halt} (h : frameAt net c = none)
    (hblock : readBlock zlib (moveDown net c).2 (moveDown net c).1 = (.error halt, net')) :
    unpack zlib net c = (.error halt, net') := by
  rw [unpack]
  split
  next h' => rw [h'] at h; cases h
  next =>
    split
    next hblock' =>
      rw [hblock'] at hblock
      cases hblock
      rfl
    next hblock' => rw [hblock'] at hblock; cases hblock

/-- What the loop does: it cuts a packet out of the buffer and of blocks. -/
theorem unpack_ok (hzlib : zlib.Lawful) (hc : net.compress = true)
    (h : View net c behind joined unread) (hbetween : Between c behind joined)
    (hrun : unpack zlib net c = (.ok c', net')) :
    ∃ packet unread', CutOut zlib net unread joined packet unread' c' net' := by
  induction net, c using unpack.induct zlib generalizing behind joined unread with
  | case1 net c hframe =>
      rw [unpack_zero hframe] at hrun
      cases hrun
      obtain ⟨rest, hcut⟩ := h.cutOut_skip hbetween hframe
      exact ⟨[], rest, hcut⟩
  | case2 net c n hframe hzero hlast =>
      rw [unpack_last hframe hzero hlast] at hrun
      cases hrun
      exact h.cutOut_last hbetween hframe hzero hlast
  | case3 net c n hframe hzero hfull ih =>
      obtain rfl := Decidable.not_not.mp hfull
      rw [unpack_full hframe] at hrun
      have hsame := sameSocket_takeFull net c MAX_PACKET_LENGTH
      obtain ⟨nr, piece, rest, rfl, hpiece, hview, hbetween'⟩ := h.takeFull hbetween hframe
      obtain ⟨packet, unread', hcut⟩ := ih (hsame.compress.trans hc) hview hbetween' hrun
      exact ⟨piece ++ packet, unread', (hcut.after hsame).full hpiece⟩
  | case4 net c hframe halt net' hblock =>
      rw [unpack_error hframe hblock] at hrun
      cases hrun
  | case5 net c hframe c'' t hblock ih =>
      rw [unpack_block hframe hblock] at hrun
      have hsame := sameSocket_moveDown net c
      obtain ⟨hdown, hfirst, hmulti⟩ := h.moveDown
      obtain ⟨sent, out, complen, hblocked, hview, rfl⟩ :=
        hdown.readBlock hzlib (hsame.compress.trans hc) hblock
      have hbetween' := hbetween.of_eq (d := (moveDown net c).2) hmulti (fun _ => hfirst)
      obtain ⟨packet, unread', hcut⟩ := ih (hblocked.compress.trans (hsame.compress.trans hc)) hview
        (hbetween'.of_eq rfl id) hrun
      exact ⟨packet, unread', (hcut.block hblocked).after hsame⟩

end

/-! ## One packet -/

/-- What is left in the buffer for the next call. -/
def left (net : NET) : List UInt8 :=
  slice (memcpyAt net.buff (net.buf_length - net.remain_in_buf) [net.save_char])
    (net.buf_length - net.remain_in_buf) net.remain_in_buf

/-- What is left is inside the buffer. -/
structure Placed (net : NET) : Prop where
  remain : net.remain_in_buf ≤ net.buf_length
  room : net.buf_length ≤ net.max_packet

/-- The first byte of what is left is lost. -/
def zeroFirst : List UInt8 → List UInt8
  | [] => []
  | _ :: bytes => 0 :: bytes

/-- A packet of this length ends with an empty frame behind others. -/
def EndsEmpty (packet : List UInt8) : Prop := packet ≠ [] ∧ MAX_PACKET_LENGTH ∣ packet.length

instance (packet : List UInt8) : Decidable (EndsEmpty packet) := inferInstanceAs (Decidable (_ ∧ _))

/-- A packet was taken off what was left and what blocks contain.  If it ended with an
empty frame, the reader loses the byte behind it. -/
structure Returned (zlib : Zlib) (net : NET) (packet rest : List UInt8) (net' : NET) : Prop where
  consumed : ∃ bytes data wire, Unframes packet bytes ∧ net.vio.Moves wire net'.vio ∧
    Blocks zlib net.pkt_nr data wire net'.pkt_nr ∧ net.left ++ data = bytes ++ rest
  packetAt : net'.packetAt packet.length = packet
  left : net'.left = if EndsEmpty packet then zeroFirst rest else rest
  placed : Placed net'
  compress : net'.compress = net.compress
  max_packet_size : net'.max_packet_size = net.max_packet_size
  grows : Grows net net'

section
variable {zlib : Zlib} {net net' : NET} {c : Cut} {packet rest : List UInt8} {len : Nat}

theorem view_restart (h : Placed net) :
    View (restart net).1 (restart net).2 0 [] net.left ∧ Between (restart net).2 0 [] ∧
      SameSocket net (restart net).1 := by
  have hremain := h.remain
  have hroom := h.room
  rw [restart]
  split
  next hne =>
    have hcount : net.buf_length - (net.buf_length - net.remain_in_buf) = net.remain_in_buf := by
      omega
    refine ⟨⟨rfl, Nat.sub_le _ _, hroom, fun hne => absurd rfl hne, slice_zero _ _, ?_⟩,
      .first rfl rfl rfl, ⟨rfl, rfl, rfl, rfl, rfl⟩⟩
    show slice _ (net.buf_length - net.remain_in_buf)
      (net.buf_length - (net.buf_length - net.remain_in_buf)) = net.left
    rw [hcount]
    rfl
  next hzero =>
    have hnil : net.left = [] := by
      rw [left, Decidable.not_not.mp hzero]
      exact slice_zero _ _
    rw [hnil]
    exact ⟨⟨rfl, Nat.le_refl _, Nat.zero_le _, fun hne => absurd rfl hne, slice_zero _ _,
      slice_zero _ _⟩, .first rfl rfl rfl, ⟨rfl, rfl, rfl, rfl, rfl⟩⟩

theorem View.handOut_length
    (h : View net c (NET_HEADER_SIZE + packet.length + c.multi_byte_packet) packet rest) :
    c.first_packet_offset + NET_HEADER_SIZE + packet.length + c.multi_byte_packet =
      c.start_of_packet ∧ (handOut net c).1 = packet.length := by
  have hstart := h.start
  refine ⟨by omega, ?_⟩
  show c.start_of_packet - c.first_packet_offset - NET_HEADER_SIZE - c.multi_byte_packet = _
  omega

/-- What the next call finds behind the packet. -/
theorem View.handOut_left
    (h : View net c (NET_HEADER_SIZE + packet.length + c.multi_byte_packet) packet rest)
    (hends : Ends net c packet) :
    (handOut net c).2.left = if EndsEmpty packet then zeroFirst rest else rest := by
  obtain ⟨hplace, hlength⟩ := h.handOut_length
  have hstart_le := h.start_le
  have hbuff := h.buf_length_le
  have hpos : 0 < NET_HEADER_SIZE := by decide
  have hat : c.buf_length - (c.buf_length - c.start_of_packet) = c.start_of_packet := by omega
  have hlen : c.start_of_packet - c.first_packet_offset - NET_HEADER_SIZE - c.multi_byte_packet =
      packet.length := hlength
  have hleft : (handOut net c).2.left =
      slice (memcpyAt (memcpyAt net.buff (c.first_packet_offset + NET_HEADER_SIZE + packet.length)
        [0]) c.start_of_packet
        [net.buff.getD (c.first_packet_offset + NET_HEADER_SIZE + packet.length) 0])
        c.start_of_packet (c.buf_length - c.start_of_packet) := by
    show slice (memcpyAt (memcpyAt net.buff _ [0]) (c.buf_length - (c.buf_length -
      c.start_of_packet)) [net.buff.getD _ 0]) (c.buf_length - (c.buf_length - c.start_of_packet))
      (c.buf_length - c.start_of_packet) = _
    rw [hat, hlen]
  have hlonger := length_le_memcpyAt net.buff
    (c.first_packet_offset + NET_HEADER_SIZE + packet.length) [0]
  rw [hleft, ← h.unread]
  cases hcount : c.buf_length - c.start_of_packet with
  | zero =>
      rw [slice_zero, slice_zero]
      split <;> rfl
  | succ n =>
      rw [slice_memcpyAt_singleton (by omega), slice_succ (by omega) 0,
        slice_memcpyAt_behind (by omega) (by rw [List.length_singleton]; omega)]
      cases hends with
      | short hmulti hnot =>
          rw [if_neg fun hempty => hnot hempty.1 hempty.2]
          rw [hmulti, Nat.add_zero] at hplace
          rw [hplace]
      | empty hmulti hne hdvd hzero =>
          rw [if_pos ⟨hne, hdvd⟩, List.getD_eq_getElem?_getD, hzero]
          rfl

/-- What `my_net_read` returns are the packets in the blocks, but a packet that ends with an
empty frame costs the byte behind it. -/
theorem readCompressed_ok (hzlib : zlib.Lawful) (hc : net.compress = true) (hplaced : Placed net)
    (hrun : readCompressed zlib net = (.ok len, net')) :
    ∃ packet rest, packet.length = len ∧ Returned zlib net packet rest net' := by
  obtain ⟨hview, hbetween, hsame⟩ := view_restart hplaced
  rw [readCompressed] at hrun
  split at hrun
  next => cases hrun
  next c t hunpack =>
    obtain ⟨packet, rest, hcut⟩ := unpack_ok hzlib (hsame.compress.trans hc) hview hbetween hunpack
    have hcut := hcut.after hsame
    have hview' := hcut.view
    have hends := hcut.ends
    rw [List.nil_append] at hview' hends
    obtain ⟨hplace, hlength⟩ := hview'.handOut_length
    have hstart_le := hview'.start_le
    have hbuff := hview'.buf_length_le
    obtain ⟨hlen, rfl⟩ := Prod.mk.inj hrun
    refine ⟨packet, rest, hlength.symm.trans (Except.ok.inj hlen), hcut.consumed, ?_,
      hview'.handOut_left hends, ⟨Nat.sub_le _ _, hview'.room⟩, hcut.compress,
      hcut.max_packet_size, ⟨hcut.grows.max_packet, hcut.grows.sized⟩⟩
    have hlen' : c.start_of_packet - c.first_packet_offset - NET_HEADER_SIZE -
        c.multi_byte_packet = packet.length := hlength
    show slice (memcpyAt t.buff (c.first_packet_offset + NET_HEADER_SIZE + _) [0])
      (c.first_packet_offset + NET_HEADER_SIZE) packet.length = packet
    rw [hlen', slice_memcpyAt_before (Nat.le_refl _) (by omega)]
    exact hview'.there

end

end NET

end MGMDB
