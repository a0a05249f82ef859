import MGMDB.MySQL.NetCompressed

/-!
# Packets in blocks

On a calm socket the reader gets every packet out of the blocks, wherever the blocks
begin and end (`unpack_blocks`), unless there cannot be a buffer for it.  Then it refuses
the packet at one of its blocks (`unpack_large`).
-/

namespace MGMDB

open Framing Systems Program

namespace NET

section
variable {zlib : Zlib} {net net' : NET} {c c' : Cut} {behind n : Nat}
  {joined unread packet bytes data rest : List UInt8}

theorem View.length_unread (h : View net c behind joined unread) :
    unread.length = c.buf_length - c.start_of_packet := by
  have hstart_le := h.start_le
  have hbuff := h.buf_length_le
  rw [← h.unread]
  exact length_slice (by omega)

/-- A frame that is in the buffer as a whole is found. -/
theorem View.frameAt_of_le {nr : UInt32} {more : List UInt8}
    (h : View net c behind joined unread) (hn : n ≤ MAX_PACKET_LENGTH)
    (heq : unread ++ data = header false nr n 0 ++ more)
    (hle : n + NET_HEADER_SIZE ≤ unread.length) :
    frameAt net c = some n := by
  have hlength := h.length_unread
  have hheader : NET_HEADER_SIZE ≤ unread.length := Nat.le_trans (Nat.le_add_left _ _) hle
  have hthree : 3 ≤ unread.length := Nat.le_trans (by decide) hheader
  have hlen : uint3korr (net.buff.drop c.start_of_packet) = n := by
    have hfront := congrArg uint3korr heq
    rw [uint3korr_header _ _ _ hn, uint3korr, List.take_append_of_le_length hthree, ← h.unread,
      slice,
      List.take_take, Nat.min_eq_left (hlength ▸ hthree)] at hfront
    exact hfront
  rw [frameAt, hlen, if_pos ⟨hlength ▸ hheader, hlength ▸ hle⟩]

/-- If no frame is there, less than the first frame of the packet is in the buffer. -/
theorem View.short (h : View net c behind joined unread) (hframes : Unframes packet bytes)
    (heq : unread ++ data = bytes ++ rest) (hnone : frameAt net c = none) :
    unread.length < packet.length + NET_HEADER_SIZE ∧ data ≠ [] := by
  obtain ⟨nr, n, more, rfl, hmore, hpacket, hn⟩ := hframes.first
  have hlt : unread.length < n + NET_HEADER_SIZE := by
    refine Nat.lt_of_not_le fun hle => ?_
    rw [List.append_assoc] at heq
    rw [h.frameAt_of_le hn heq hle] at hnone
    cases hnone
  refine ⟨by omega, fun hnil => ?_⟩
  have hlengths := congrArg List.length heq
  have hheader : (header false nr n 0).length = NET_HEADER_SIZE := length_header _ _ _ _
  rw [hnil, List.append_nil, List.length_append, List.length_append, hheader] at hlengths
  omega

/-- A block is read if there may be a buffer for it. -/
theorem readBlock_fits (hc : net.compress = true) (hcalm : net.vio.Calm)
    {sent out more : List UInt8}
    {complen : Nat} (huncompress : my_uncompress zlib sent complen = some out)
    (hsent : sent.length ≤ MAX_PACKET_LENGTH) (hcomplen : complen ≤ MAX_PACKET_LENGTH)
    (hstream : net.vio.stream = header true net.pkt_nr sent.length complen ++ (sent ++ more))
    (hplace : c.buf_length ≤ net.max_packet)
    (hfits : sent ≠ [] →
      max sent.length complen + c.buf_length < max net.max_packet net.max_packet_size) :
    ∃ c' net', readBlock zlib c net = (.ok c', net') := by
  rw [← hc] at hstream
  obtain ⟨t, hread⟩ := @my_real_read_fits { net with where_b := c.buf_length } complen hcalm sent
    more hstream hsent hcomplen (fun hplain => absurd (hc.symm.trans hplain) (by decide)) hfits
  obtain ⟨sent', hreceived⟩ := my_real_read_ok hread
  have hmoves := hreceived.moves.stream.symm.trans hstream
  rw [List.append_assoc, List.append_cancel_left_eq] at hmoves
  obtain ⟨rfl, -⟩ := List.append_inj hmoves hreceived.length
  have hthere : slice t.buff c.buf_length sent'.length = sent' := hreceived.there hplace
  rw [readBlock, bind_of_ok (modify_apply _ net), bind_of_ok hread]
  dsimp only
  rw [expand, hthere, huncompress]
  exact ⟨_, _, rfl⟩

/-- Otherwise it is refused. -/
theorem readBlock_large (hc : net.compress = true) (hcalm : net.vio.Calm)
    {sent more : List UInt8} {complen : Nat} (hsent : sent.length ≤ MAX_PACKET_LENGTH)
    (hcomplen : complen ≤ MAX_PACKET_LENGTH) (hne : sent ≠ [])
    (hstream : net.vio.stream = header true net.pkt_nr sent.length complen ++ more)
    (hlarge : max net.max_packet net.max_packet_size ≤ max sent.length complen + c.buf_length) :
    ∃ net', readBlock zlib c net = (.error .failed, net') ∧ net'.error = 1 ∧
      net'.last_errno = ER_NET_PACKET_TOO_LARGE := by
  rw [← hc] at hstream
  obtain ⟨t, hread, herror⟩ := @my_real_read_large { net with where_b := c.buf_length }
    sent.length complen hcalm more hstream hsent hcomplen
    (fun hplain => absurd (hc.symm.trans hplain) (by decide))
    (fun hzero => hne (List.eq_nil_of_length_eq_zero hzero)) hlarge
  exact ⟨t, by rw [readBlock, bind_of_ok (modify_apply _ net), bind_of_error hread], herror⟩

theorem Between.behind_le (h : Between c behind joined) :
    behind ≤ NET_HEADER_SIZE + joined.length := by
  cases h with
  | first _ hbehind _ => exact hbehind ▸ Nat.zero_le _
  | later _ _ hbehind _ _ => exact Nat.le_of_eq hbehind

/-- The block that was read is the next one on the socket. -/
theorem Unblocked.next {sent out sent' out' wire : List UInt8} {complen complen' : Nat}
    (h : Unblocked zlib net sent out complen net')
    (huncompress : my_uncompress zlib sent' complen' = some out')
    (hsent : sent'.length ≤ MAX_PACKET_LENGTH) (hcomplen : complen' ≤ MAX_PACKET_LENGTH)
    (hstream : net.vio.stream = header true net.pkt_nr sent'.length complen' ++ (sent' ++ wire)) :
    out = out' ∧ net'.vio.stream = wire := by
  have hboth := h.moves.stream.symm.trans hstream
  rw [List.append_assoc] at hboth
  obtain ⟨hlengths, rfl, hbodies⟩ := block_header_inj h.sent_le hsent h.complen_le hcomplen hboth
  obtain ⟨rfl, hwire⟩ := List.append_inj hbodies hlengths
  exact ⟨Option.some.inj (h.uncompress.symm.trans huncompress), hwire⟩

/-- If the packet is not there as a whole, there is another block. -/
theorem Blocks.uncons {nr nr' : UInt32} {wire : List UInt8} (h : Blocks zlib nr data wire nr')
    (hne : data ≠ []) : ∃ sent out complen data' wire', my_uncompress zlib sent complen = some out ∧
      sent.length ≤ MAX_PACKET_LENGTH ∧ complen ≤ MAX_PACKET_LENGTH ∧ data = out ++ data' ∧
      wire = header true nr sent.length complen ++ (sent ++ wire') ∧
      Blocks zlib (nr + 1) data' wire' nr' := by
  cases h with
  | nil => exact absurd rfl hne
  | cons huncompress hsent hcomplen h =>
      exact ⟨_, _, _, _, _, huncompress, hsent, hcomplen, rfl, List.append_assoc _ _ _, h⟩

/-- In front of a block that is needed there is not more than the packet. -/
theorem View.buf_length_lt (h : View net c behind joined unread)
    (hbetween : Between c behind joined)
    (hshort : unread.length < packet.length + NET_HEADER_SIZE) :
    (NET.moveDown net c).2.buf_length < 2 * NET_HEADER_SIZE + joined.length + packet.length := by
  obtain ⟨hdown, hfirst, -⟩ := h.moveDown
  have hlength := hdown.length_unread
  have hstart := hdown.start
  have hstart_le := hdown.start_le
  have hbehind := hbetween.behind_le
  omega

/-- The reader has stopped between two blocks. -/
structure Stopped (zlib : Zlib) (nr : UInt32) (data wire : List UInt8) (nr' : UInt32)
    (more : List UInt8) (net' : NET) : Prop where
  between : ∃ data' data'' wire' wire'', data = data' ++ data'' ∧ wire = wire' ++ wire'' ∧
    Blocks zlib nr data' wire' net'.pkt_nr ∧ Blocks zlib net'.pkt_nr data'' wire'' nr' ∧
    net'.vio.stream = wire'' ++ more

theorem Stopped.here {nr nr' : UInt32} {wire more : List UInt8}
    (h : Blocks zlib nr data wire nr') (hnr : net'.pkt_nr = nr)
    (hstream : net'.vio.stream = wire ++ more) : Stopped zlib nr data wire nr' more net' := by
  subst hnr
  exact ⟨⟨[], data, [], wire, rfl, rfl, .nil _, h, hstream⟩⟩

theorem Stopped.block {nr nr' : UInt32} {sent out wire more : List UInt8} {complen : Nat}
    (huncompress : my_uncompress zlib sent complen = some out)
    (hsent : sent.length ≤ MAX_PACKET_LENGTH) (hcomplen : complen ≤ MAX_PACKET_LENGTH)
    (h : Stopped zlib (nr + 1) data wire nr' more net') :
    Stopped zlib nr (out ++ data) (header true nr sent.length complen ++ (sent ++ wire)) nr' more
      net' := by
  obtain ⟨data', data'', wire', wire'', rfl, rfl, hblocks, hblocks', hstream⟩ := h.between
  refine ⟨⟨_, data'', _, wire'', ?_, ?_, .cons huncompress hsent hcomplen hblocks, hblocks',
    hstream⟩⟩
  · rw [List.append_assoc]
  · rw [List.append_assoc, List.append_assoc]

/-- A full frame that is there is the first one of the packet, and others follow. -/
theorem View.full (h : View net c behind joined unread) (hbetween : Between c behind joined)
    (hframe : frameAt net c = some MAX_PACKET_LENGTH) (hframes : Unframes packet bytes)
    (heq : unread ++ data = bytes ++ rest) :
    ∃ piece packet' bytes' unread', packet = piece ++ packet' ∧ Unframes packet' bytes' ∧
      unread' ++ data = bytes' ++ rest ∧
      View (NET.takeFull net c MAX_PACKET_LENGTH).1 (NET.takeFull net c MAX_PACKET_LENGTH).2
        (NET_HEADER_SIZE + (joined ++ piece).length) (joined ++ piece) unread' ∧
      Between (NET.takeFull net c MAX_PACKET_LENGTH).2
        (NET_HEADER_SIZE + (joined ++ piece).length) (joined ++ piece) := by
  obtain ⟨nr', piece, rest', rfl, hpiece, hview, hbetween'⟩ := h.takeFull hbetween hframe
  rw [List.append_assoc, List.append_assoc] at heq
  cases hframes with
  | @last piece' nr'' hlt =>
      rw [List.append_assoc] at heq
      have hlengths := (header_inj (Nat.le_refl _) (Nat.le_of_lt hlt) heq).1
      exact absurd hlengths.symm (Nat.ne_of_lt hlt)
  | @more piece' packet bytes nr'' hpiece' hframes =>
      rw [List.append_assoc, List.append_assoc] at heq
      have heq' := (header_inj (Nat.le_refl _) (Nat.le_refl _) heq).2
      obtain ⟨rfl, hrest⟩ := List.append_inj heq' (hpiece.trans hpiece'.symm)
      exact ⟨piece, packet, bytes, rest', rfl, hframes, hrest, hview, hbetween'⟩

/-- If the packet is not there as a whole, the next block is on the socket. -/
theorem View.nextBlock (h : View net c behind joined unread) (hframes : Unframes packet bytes)
    {wire more : List UInt8} {nr : UInt32} (hblocks : Blocks zlib net.pkt_nr data wire nr)
    (hstream : net.vio.stream = wire ++ more) (heq : unread ++ data = bytes ++ rest)
    (hnone : frameAt net c = none) :
    ∃ sent out complen data' wire', my_uncompress zlib sent complen = some out ∧
      sent.length ≤ MAX_PACKET_LENGTH ∧ complen ≤ MAX_PACKET_LENGTH ∧ data = out ++ data' ∧
      wire = header true net.pkt_nr sent.length complen ++ (sent ++ wire') ∧
      Blocks zlib (net.pkt_nr + 1) data' wire' nr ∧
      (NET.moveDown net c).1.vio.stream =
        header true (NET.moveDown net c).1.pkt_nr sent.length complen ++
          (sent ++ (wire' ++ more)) := by
  have hsame := sameSocket_moveDown net c
  obtain ⟨-, hne⟩ := h.short hframes heq hnone
  obtain ⟨sent, out, complen, data', wire', huncompress, hsent, hcomplen, rfl, rfl, hblocks'⟩ :=
    hblocks.uncons hne
  rw [List.append_assoc, List.append_assoc, ← hsame.vio, ← hsame.pkt_nr] at hstream
  exact ⟨sent, out, complen, data', wire', huncompress, hsent, hcomplen, rfl, rfl, hblocks',
    hstream⟩

/-- Behind this block the loop goes on with what it contains. -/
theorem View.afterBlock (hzlib : zlib.Lawful) (hc : net.compress = true)
    (h : View net c behind joined unread) (hbetween : Between c behind joined)
    {sent out wire : List UInt8} {complen : Nat}
    (huncompress : my_uncompress zlib sent complen = some out)
    (hsent : sent.length ≤ MAX_PACKET_LENGTH) (hcomplen : complen ≤ MAX_PACKET_LENGTH)
    (hstream : (NET.moveDown net c).1.vio.stream =
      header true (NET.moveDown net c).1.pkt_nr sent.length complen ++ (sent ++ wire))
    (hblock : NET.readBlock zlib (NET.moveDown net c).2 (NET.moveDown net c).1 = (.ok c', net')) :
    (∃ sent' complen', Unblocked zlib (NET.moveDown net c).1 sent' out complen' net') ∧
      View net' c' behind joined (unread ++ out) ∧ Between c' behind joined ∧
      net'.vio.stream = wire := by
  obtain ⟨hdown, hfirst, hmulti⟩ := h.moveDown
  obtain ⟨sent', out', complen', hblocked, hview, rfl⟩ :=
    hdown.readBlock hzlib ((sameSocket_moveDown net c).compress.trans hc) hblock
  obtain ⟨rfl, hwire⟩ := hblocked.next huncompress hsent hcomplen hstream
  have hbetween' : Between (NET.moveDown net c).2 behind joined :=
    hbetween.of_eq hmulti fun _ => hfirst
  exact ⟨⟨sent', complen', hblocked⟩, hview, hbetween'.of_eq rfl id, hwire⟩

/-- The loop gets a packet out of the blocks, wherever they begin and end. -/
theorem unpack_blocks (hzlib : zlib.Lawful) (hc : net.compress = true)
    (h : View net c behind joined unread) (hbetween : Between c behind joined)
    (hcalm : net.vio.Calm) {wire more : List UInt8} {nr : UInt32}
    (hframes : Unframes packet bytes) (hblocks : Blocks zlib net.pkt_nr data wire nr)
    (hstream : net.vio.stream = wire ++ more) (heq : unread ++ data = bytes ++ rest)
    (hfits : MAX_PACKET_LENGTH + 2 * NET_HEADER_SIZE + joined.length + packet.length ≤
      max net.max_packet net.max_packet_size) :
    ∃ c' net', unpack zlib net c = (.ok c', net') ∧
      Stopped zlib net.pkt_nr data wire nr more net' := by
  induction net, c using unpack.induct zlib
    generalizing behind joined unread packet bytes data wire with
  | case1 net c hframe => exact ⟨_, _, unpack_zero hframe, .here hblocks rfl hstream⟩
  | case2 net c n hframe hzero hlast =>
      have hsame := sameSocket_takeFrame net c n
      rw [← hsame.vio] at hstream
      exact ⟨_, _, unpack_last hframe hzero hlast, .here hblocks hsame.pkt_nr hstream⟩
  | case3 net c n hframe hzero hfull ih =>
      obtain rfl := Decidable.not_not.mp hfull
      have hsame := sameSocket_takeFull net c MAX_PACKET_LENGTH
      obtain ⟨piece, packet, bytes, unread', rfl, hframes', hrest, hview, hbetween'⟩ :=
        h.full hbetween hframe hframes heq
      rw [unpack_full hframe]
      rw [List.length_append] at hfits
      rw [← hsame.pkt_nr] at hblocks ⊢
      refine ih (hsame.compress.trans hc) hview hbetween' (by rw [hsame.vio]; exact hcalm)
        hframes' hblocks (by rw [hsame.vio]; exact hstream) hrest ?_
      rw [hsame.max_packet, hsame.max_packet_size, List.length_append]
      omega
  | case4 net c hframe halt net' hblock =>
      -- the next block is there, so it is read
      have hsame := sameSocket_moveDown net c
      have hlt := h.buf_length_lt hbetween (h.short hframes heq hframe).1
      obtain ⟨sent, out, complen, data', wire', huncompress, hsent, hcomplen, -, -, -, hstream'⟩ :=
        h.nextBlock hframes hblocks hstream heq hframe
      obtain ⟨c', t, hread⟩ := readBlock_fits (c := (moveDown net c).2) (hsame.compress.trans hc)
        (by rw [hsame.vio]; exact hcalm) huncompress hsent hcomplen hstream' h.moveDown.1.room
        (fun _ => by
          have hmax : max sent.length complen ≤ MAX_PACKET_LENGTH :=
            Nat.max_le.mpr ⟨hsent, hcomplen⟩
          rw [hsame.max_packet, hsame.max_packet_size]
          omega)
      rw [hblock] at hread
      cases hread
  | case5 net c hframe c'' t hblock ih =>
      have hsame := sameSocket_moveDown net c
      obtain ⟨sent, out, complen, data', wire', huncompress, hsent, hcomplen, rfl, rfl, hblocks',
        hstream'⟩ := h.nextBlock hframes hblocks hstream heq hframe
      obtain ⟨⟨sent', complen', hblocked⟩, hview, hbetween', hwire⟩ :=
        h.afterBlock hzlib hc hbetween huncompress hsent hcomplen hstream' hblock
      have hgrows := hblocked.grows.max_packet
      rw [← List.append_assoc] at heq
      rw [← hsame.pkt_nr, ← hblocked.pkt_nr] at hblocks'
      rw [unpack_block hframe hblock]
      obtain ⟨c', net', hrun, hstopped⟩ :=
        ih (hblocked.compress.trans (hsame.compress.trans hc)) hview hbetween'
          (hblocked.moves.calm (by rw [hsame.vio]; exact hcalm)) hframes hblocks' hwire heq (by
            rw [hsame.max_packet] at hgrows
            rw [hblocked.max_packet_size, hsame.max_packet_size]
            omega)
      rw [hblocked.pkt_nr, hsame.pkt_nr] at hstopped
      exact ⟨c', net', hrun, hstopped.block huncompress hsent hcomplen⟩

/-- Blocks at the beginning of other ones. -/
theorem Blocks.split {nr nr' nr'' : UInt32} {data' wire wire' : List UInt8}
    (h : Blocks zlib nr data wire nr') (h' : Blocks zlib nr data' wire' nr'')
    (hle : wire <+: wire') :
    ∃ more wire'', data' = data ++ more ∧ wire' = wire ++ wire'' ∧
      Blocks zlib nr' more wire'' nr'' := by
  induction h generalizing data' wire' with
  | nil nr => exact ⟨data', wire', rfl, rfl, h'⟩
  | @cons nr nr' sent out data wire complen huncompress hsent hcomplen h ih =>
      obtain ⟨tail, htail⟩ := hle
      rw [List.append_assoc, List.append_assoc] at htail
      cases h' with
      | nil => exact absurd htail (List.append_ne_nil_of_left_ne_nil (List.cons_ne_nil _ _) _)
      | @cons _ _ sent' out' _ wire'' complen' huncompress' hsent' hcomplen' h' =>
          rw [List.append_assoc] at htail
          obtain ⟨hlengths, rfl, hbodies⟩ :=
            block_header_inj hsent hsent' hcomplen hcomplen' htail
          obtain ⟨rfl, hwire⟩ := List.append_inj hbodies hlengths
          obtain rfl := Option.some.inj (huncompress.symm.trans huncompress')
          obtain ⟨more, wire', rfl, rfl, hrest⟩ := ih h' ⟨tail, hwire⟩
          refine ⟨more, wire', (List.append_assoc _ _ _).symm, ?_, hrest⟩
          rw [List.append_assoc, List.append_assoc, List.append_assoc]

/-- The same blocks contain the same. -/
theorem Blocks.unique {nr nr' nr'' : UInt32} {data' wire : List UInt8}
    (h : Blocks zlib nr data wire nr') (h' : Blocks zlib nr data' wire nr'') : data = data' := by
  obtain ⟨more, wire', rfl, hwire, hrest⟩ := h.split h' List.prefix_rfl
  obtain rfl := List.append_right_eq_self.mp hwire.symm
  cases hrest
  exact (List.append_nil data).symm

/-- A packet in the blocks is returned, and the rest is as it was left by `Returned`. -/
theorem readCompressed_blocks (hzlib : zlib.Lawful) (hc : net.compress = true)
    (hplaced : Placed net) (hcalm : net.vio.Calm) {wire more : List UInt8} {nr : UInt32}
    (hframes : Unframes packet bytes) (hblocks : Blocks zlib net.pkt_nr data wire nr)
    (hstream : net.vio.stream = wire ++ more) (heq : net.left ++ data = bytes ++ rest)
    (hfits : MAX_PACKET_LENGTH + 2 * NET_HEADER_SIZE + packet.length ≤
      max net.max_packet net.max_packet_size) :
    ∃ net' rest' data' wire', readCompressed zlib net = (.ok packet.length, net') ∧
      Returned zlib net packet rest' net' ∧ rest = rest' ++ data' ∧
      Blocks zlib net'.pkt_nr data' wire' nr ∧ net'.vio.stream = wire' ++ more ∧
      net'.vio.Calm := by
  obtain ⟨hview, hbetween, hsame⟩ := view_restart hplaced
  have hc' := hsame.compress.trans hc
  obtain ⟨c, t, hunpack, hstopped⟩ := unpack_blocks hzlib hc' hview hbetween
    (by rw [hsame.vio]; exact hcalm) hframes (by rw [hsame.pkt_nr]; exact hblocks)
    (by rw [hsame.vio]; exact hstream) heq
    (by rw [hsame.max_packet, hsame.max_packet_size]; exact hfits)
  have hrun : readCompressed zlib net = (.ok (handOut t c).1, (handOut t c).2) := by
    rw [readCompressed, hunpack]
  obtain ⟨packet', rest', hlength, hreturned⟩ := readCompressed_ok hzlib hc hplaced hrun
  obtain ⟨bytes', data₁, wire₁, hframes', hmoves, hblocks', heq'⟩ := hreturned.consumed
  obtain ⟨data₁', data'', wire₁', wire'', rfl, rfl, hbefore, hafter, hstream'⟩ := hstopped.between
  have hmoves' : net.vio.stream = wire₁ ++ t.vio.stream := hmoves.stream
  rw [hstream, hstream', List.append_assoc, List.append_cancel_right_eq] at hmoves'
  rw [hsame.pkt_nr] at hbefore
  subst hmoves'
  obtain rfl := hblocks'.unique hbefore
  rw [← List.append_assoc, heq', List.append_assoc] at heq
  obtain ⟨rfl, hrest⟩ := hframes'.inj hframes heq
  refine ⟨_, rest', data'', wire'', ?_, hreturned, hrest.symm, hafter, hstream', ?_⟩
  · rw [hlength]
    exact hrun
  · exact hmoves.calm hcalm

/-! ## A packet that is too large -/

/-- What was joined and the frame behind it are in the buffer. -/
theorem View.joined_lt (h : View net c behind joined unread) (hframe : frameAt net c = some n) :
    joined.length + n < net.max_packet := by
  obtain ⟨-, hle⟩ := frameAt_some hframe
  have hpos : 0 < NET_HEADER_SIZE := by decide
  have hroom := h.room
  by_cases hnil : joined = []
  · rw [hnil, List.length_nil]
    omega
  · have hjoined := h.joined_le hnil
    omega

/-- A frame that is shorter than the others is the last one of its packet. -/
theorem View.length_last (h : View net c behind joined unread) (hframe : frameAt net c = some n)
    (hlast : n ≠ MAX_PACKET_LENGTH) (hframes : Unframes packet bytes)
    (heq : unread ++ data = bytes ++ rest) : packet.length = n := by
  obtain ⟨nr, hunread, -, hn⟩ := h.frame hframe
  rw [hunread, List.append_assoc] at heq
  cases hframes with
  | last nr' hlt =>
      rw [List.append_assoc] at heq
      exact (header_inj hn (Nat.le_of_lt hlt) heq).1.symm
  | more nr' hpiece hframes =>
      rw [List.append_assoc] at heq
      exact absurd (header_inj hn (Nat.le_refl _) heq).1 hlast

/-- The loop does not get a packet for which there cannot be a buffer.  It is refused at
one of its blocks. -/
theorem unpack_large (hzlib : zlib.Lawful) (hc : net.compress = true)
    (h : View net c behind joined unread) (hbetween : Between c behind joined)
    (hio : IO_SIZE ∣ net.max_packet_size) (hsized : net.max_packet ≤ net.max_packet_size)
    (hcalm : net.vio.Calm) {wire more : List UInt8} {nr : UInt32}
    (hframes : Unframes packet bytes) (hblocks : Blocks zlib net.pkt_nr data wire nr)
    (hstream : net.vio.stream = wire ++ more) (heq : unread ++ data = bytes ++ rest)
    (hlarge : net.max_packet_size ≤ joined.length + packet.length) :
    ∃ net', unpack zlib net c = (.error .failed, net') ∧ net'.error = 1 ∧
      net'.last_errno = ER_NET_PACKET_TOO_LARGE := by
  induction net, c using unpack.induct zlib
    generalizing behind joined unread packet bytes data wire with
  | case1 net c hframe =>
      have hlt := h.joined_lt hframe
      have hlength := h.length_last hframe (by decide) hframes heq
      omega
  | case2 net c n hframe hzero hlast =>
      have hlt := h.joined_lt hframe
      have hlength := h.length_last hframe hlast hframes heq
      omega
  | case3 net c n hframe hzero hfull ih =>
      obtain rfl := Decidable.not_not.mp hfull
      have hsame := sameSocket_takeFull net c MAX_PACKET_LENGTH
      obtain ⟨piece, packet, bytes, unread', rfl, hframes', hrest, hview, hbetween'⟩ :=
        h.full hbetween hframe hframes heq
      rw [unpack_full hframe]
      rw [List.length_append] at hlarge
      rw [← hsame.pkt_nr] at hblocks
      rw [← hsame.max_packet_size] at hio hsized hlarge
      rw [← hsame.max_packet] at hsized
      refine ih (hsame.compress.trans hc) hview hbetween' hio hsized
        (by rw [hsame.vio]; exact hcalm) hframes' hblocks (by rw [hsame.vio]; exact hstream)
        hrest ?_
      rw [List.length_append]
      omega
  | case4 net c hframe halt net' hblock =>
      -- the next block is there, so it was refused for its length
      have hsame := sameSocket_moveDown net c
      obtain ⟨sent, out, complen, data', wire', huncompress, hsent, hcomplen, -, -, -, hstream'⟩ :=
        h.nextBlock hframes hblocks hstream heq hframe
      have hc' := hsame.compress.trans hc
      have hcalm' : (moveDown net c).1.vio.Calm := by rw [hsame.vio]; exact hcalm
      by_cases hfits : sent ≠ [] → max sent.length complen + (moveDown net c).2.buf_length <
          max (moveDown net c).1.max_packet (moveDown net c).1.max_packet_size
      · obtain ⟨c', t, hread⟩ := readBlock_fits hc' hcalm' huncompress hsent hcomplen hstream'
          h.moveDown.1.room hfits
        rw [hblock] at hread
        cases hread
      · obtain ⟨hsome, hover⟩ := Classical.not_imp.mp hfits
        obtain ⟨t, hread, herror⟩ := readBlock_large hc' hcalm' hsent hcomplen hsome hstream'
          (Nat.le_of_not_lt hover)
        exact ⟨t, unpack_error hframe hread, herror⟩
  | case5 net c hframe c'' t hblock ih =>
      have hsame := sameSocket_moveDown net c
      obtain ⟨sent, out, complen, data', wire', huncompress, hsent, hcomplen, rfl, rfl, hblocks',
        hstream'⟩ := h.nextBlock hframes hblocks hstream heq hframe
      obtain ⟨⟨sent', complen', hblocked⟩, hview, hbetween', hwire⟩ :=
        h.afterBlock hzlib hc hbetween huncompress hsent hcomplen hstream' hblock
      rw [← List.append_assoc] at heq
      rw [← hsame.pkt_nr, ← hblocked.pkt_nr] at hblocks'
      rw [← hsame.max_packet_size] at hio hsized hlarge
      rw [← hsame.max_packet] at hsized
      have hsized' := hblocked.grows.sized hio hsized
      rw [← hblocked.max_packet_size] at hio hsized' hlarge
      rw [unpack_block hframe hblock]
      exact ih (hblocked.compress.trans (hsame.compress.trans hc)) hview hbetween' hio hsized'
        (hblocked.moves.calm (by rw [hsame.vio]; exact hcalm)) hframes hblocks' hwire heq hlarge

/-- A packet in the blocks for which there cannot be a buffer. -/
theorem readCompressed_large (hzlib : zlib.Lawful) (hc : net.compress = true)
    (hplaced : Placed net) (hio : IO_SIZE ∣ net.max_packet_size)
    (hsized : net.max_packet ≤ net.max_packet_size) (hcalm : net.vio.Calm)
    {wire more : List UInt8} {nr : UInt32} (hframes : Unframes packet bytes)
    (hblocks : Blocks zlib net.pkt_nr data wire nr) (hstream : net.vio.stream = wire ++ more)
    (heq : net.left ++ data = bytes ++ rest) (hlarge : net.max_packet_size ≤ packet.length) :
    ∃ net', readCompressed zlib net = (.error .failed, net') ∧ net'.error = 1 ∧
      net'.last_errno = ER_NET_PACKET_TOO_LARGE := by
  obtain ⟨hview, hbetween, hsame⟩ := view_restart hplaced
  rw [← hsame.max_packet_size] at hio hsized hlarge
  rw [← hsame.max_packet] at hsized
  obtain ⟨t, hunpack, herror⟩ := unpack_large hzlib (hsame.compress.trans hc) hview hbetween hio
    hsized (by rw [hsame.vio]; exact hcalm) hframes (by rw [hsame.pkt_nr]; exact hblocks)
    (by rw [hsame.vio]; exact hstream) heq (by rw [List.length_nil]; omega)
  exact ⟨t, by rw [readCompressed, hunpack], herror⟩

end

end NET

end MGMDB
