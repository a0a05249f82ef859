import MGMDB.MySQL.Frames
import MGMDB.MySQL.Net

/-!
# What the writer sends

A packet goes over the socket as frames: its pieces, each with its length and a
number.  The writer may keep bytes in its buffer, cut what it sends at any place and
be interrupted by the socket at any place.  What it has handed to the socket and
what it keeps are nevertheless always the frames of the packets, in order and each
byte once (`Writes`), and after a failure the socket has got a beginning of them
(`Breaks`).
-/

namespace MGMDB

open Framing Systems Program

namespace NET

/-- What the socket gets when `chunks` are written one after the other. -/
def wire (zlib : Zlib) (compress : Bool) (compress_pkt_nr : UInt32) (chunks : List (List UInt8)) :
    List UInt8 :=
  if compress then numbered (block zlib) (· + 1) compress_pkt_nr chunks else chunks.flatten

/-- The number of the next block after some chunks. -/
def nextBlock (compress : Bool) (compress_pkt_nr : UInt32) (chunks : List (List UInt8)) : UInt32 :=
  if compress then (· + 1)^[chunks.length] compress_pkt_nr else compress_pkt_nr

/-- How much is kept in the buffer at most. -/
def limit (net : NET) : Nat :=
  if net.compress ∧ MAX_PACKET_LENGTH < net.max_packet then MAX_PACKET_LENGTH else net.max_packet

theorem limit_le (net : NET) : net.limit ≤ net.max_packet := by
  rw [limit]
  split
  next h => exact Nat.le_of_lt h.2
  next => exact Nat.le_refl _

theorem limit_le_of_compress {net : NET} (hc : net.compress = true) :
    net.limit ≤ MAX_PACKET_LENGTH := by
  rw [limit]
  split
  next => exact Nat.le_refl _
  next h => exact Nat.le_of_not_lt fun hlt => h ⟨hc, hlt⟩

theorem left_length_eq (net : NET) : net.left_length = net.limit - net.write_pos := by
  rw [left_length, limit]
  split <;> rfl

/-- From `net` on, `chunks` went over the socket, and with what is kept in the buffer of
`net'` they are what was kept before and `data`. -/
structure Writes (zlib : Zlib) (net : NET) (data : List UInt8) (chunks : List (List UInt8))
    (net' : NET) : Prop where
  written : net'.vio.written =
    net.vio.written ++ wire zlib net.compress net.compress_pkt_nr chunks
  pending : net.pending ++ data = chunks.flatten ++ net'.pending
  short : net.compress = true → ∀ c ∈ chunks, c ≠ [] ∧ c.length ≤ MAX_PACKET_LENGTH
  compress_pkt_nr : net'.compress_pkt_nr = nextBlock net.compress net.compress_pkt_nr chunks
  compress : net'.compress = net.compress
  room : net'.write_pos ≤ net'.limit

/-- On the way to send `data` the socket took a beginning of `chunks`, and these are a
beginning of what was to be sent. -/
structure Breaks (zlib : Zlib) (net : NET) (data : List UInt8) (chunks : List (List UInt8))
    (halt : Halt) (net' : NET) : Prop where
  kept : net.vio.written <+: net'.vio.written
  written : net'.vio.written <+:
    net.vio.written ++ wire zlib net.compress net.compress_pkt_nr chunks
  data : chunks.flatten <+: net.pending ++ data
  short : net.compress = true → ∀ c ∈ chunks, c ≠ [] ∧ c.length ≤ MAX_PACKET_LENGTH
  error : halt = .failed → net'.error = 2

/-- A function sends `data` from `net` on, or breaks off on the way. -/
inductive Sends {α : Type} (zlib : Zlib) (net : NET) (data : List UInt8) :
    Except Halt α × NET → Prop where
  | done {a : α} {chunks : List (List UInt8)} {net' : NET} :
      Writes zlib net data chunks net' → Sends zlib net data (.ok a, net')
  | broken {halt : Halt} {chunks : List (List UInt8)} {net' : NET} :
      Breaks zlib net data chunks halt net' → Sends zlib net data (.error halt, net')

section
variable {zlib : Zlib} {net net' net'' : NET} {data data' : List UInt8}
  {chunks chunks' : List (List UInt8)} {halt : Halt}

theorem wire_append (compress : Bool) (n : UInt32) :
    wire zlib compress n (chunks ++ chunks') =
      wire zlib compress n chunks ++ wire zlib compress (nextBlock compress n chunks) chunks' := by
  cases compress with
  | false => exact List.flatten_append
  | true => exact numbered_append (block zlib) (· + 1) n chunks chunks'

theorem nextBlock_append (compress : Bool) (n : UInt32) :
    nextBlock compress n (chunks ++ chunks') =
      nextBlock compress (nextBlock compress n chunks) chunks' := by
  cases compress with
  | false => rfl
  | true =>
      have h := Function.iterate_add_apply (· + (1 : UInt32)) chunks'.length chunks.length n
      rw [Nat.add_comm, ← List.length_append] at h
      exact h

theorem Writes.refl (hroom : net.write_pos ≤ net.limit) : Writes zlib net [] [] net where
  written := by
    have hwire : wire zlib net.compress net.compress_pkt_nr [] = [] := by
      rw [wire]
      split <;> rfl
    rw [hwire, List.append_nil]
  pending := by rw [List.append_nil, List.flatten_nil, List.nil_append]
  short := fun _ c hc => by cases hc
  compress_pkt_nr := by
    rw [nextBlock]
    split <;> rfl
  compress := rfl
  room := hroom

theorem Writes.trans (h : Writes zlib net data chunks net')
    (h' : Writes zlib net' data' chunks' net'') :
    Writes zlib net (data ++ data') (chunks ++ chunks') net'' where
  written := by
    rw [h'.written, h.written, h.compress, h.compress_pkt_nr, wire_append, List.append_assoc]
  pending := by
    rw [← List.append_assoc, h.pending, List.append_assoc, h'.pending, List.flatten_append,
      List.append_assoc]
  short hc c hmem := by
    rcases List.mem_append.mp hmem with hmem | hmem
    · exact h.short hc c hmem
    · exact h'.short (h.compress.trans hc) c hmem
  compress_pkt_nr := by
    rw [h'.compress_pkt_nr, h.compress, h.compress_pkt_nr, nextBlock_append]
  compress := h'.compress.trans h.compress
  room := h'.room

theorem Breaks.mono (h : Breaks zlib net data chunks halt net') (data' : List UInt8) :
    Breaks zlib net (data ++ data') chunks halt net' where
  kept := h.kept
  written := h.written
  data := by
    rw [← List.append_assoc]
    exact h.data.trans (List.prefix_append _ _)
  short := h.short
  error := h.error

theorem Writes.breaks (h : Writes zlib net data chunks net')
    (h' : Breaks zlib net' data' chunks' halt net'') :
    Breaks zlib net (data ++ data') (chunks ++ chunks') halt net'' where
  kept := by
    have hkept := h'.kept
    rw [h.written] at hkept
    exact (List.prefix_append _ _).trans hkept
  written := by
    have hwritten := h'.written
    rwa [h.written, h.compress, h.compress_pkt_nr, List.append_assoc, ← wire_append] at hwritten
  data := by
    rw [← List.append_assoc, h.pending, List.append_assoc, List.flatten_append]
    exact (List.prefix_append_right_inj _).mpr h'.data
  short hc c hmem := by
    rcases List.mem_append.mp hmem with hmem | hmem
    · exact h.short hc c hmem
    · exact h'.short (h.compress.trans hc) c hmem
  error := h'.error

/-- What a function sends after `data` has been sent. -/
theorem Writes.sends {α : Type} (h : Writes zlib net data chunks net')
    {outcome : Except Halt α × NET} (h' : Sends zlib net' data' outcome) :
    Sends zlib net (data ++ data') outcome := by
  cases h' with
  | done h' => exact .done (h.trans h')
  | broken h' => exact .broken (h.breaks h')

/-- Two functions one after the other. -/
theorem Sends.bind {α β : Type} {x : Io α} {f : α → Io β} (hx : Sends zlib net data (x net))
    (data' : List UInt8)
    (hf : ∀ a chunks net', x net = (.ok a, net') → Writes zlib net data chunks net' →
      Sends zlib net' data' (f a net')) :
    Sends zlib net (data ++ data') ((x >>= f) net) := by
  cases hrun : x net with
  | mk result t =>
    rw [hrun] at hx
    cases hx with
    | broken h =>
        rw [bind_of_error hrun]
        exact .broken (h.mono data')
    | @done a _ _ h =>
        rw [bind_of_ok hrun]
        exact h.sends (hf a _ t hrun h)

end

/-! ## Writing to the socket -/

/-- `vio'` has got all of a packet, or a beginning of it. -/
inductive Wrote (vio : Vio) (packet : List UInt8) : Except Stop Unit × Vio → Prop where
  | all {vio' : Vio} : vio'.written = vio.written ++ packet → Wrote vio packet (.ok (), vio')
  | some {stop : Stop} {vio' : Vio} : vio.written <+: vio'.written →
      vio'.written <+: vio.written ++ packet → Wrote vio packet (.error stop, vio')

/-- What was written before a part of the packet that is left. -/
theorem Wrote.after {vio vio' : Vio} {packet : List UInt8} {n : Nat}
    (hwritten : vio'.written = vio.written ++ packet.take n)
    {outcome : Except Stop Unit × Vio} (h : Wrote vio' (packet.drop n) outcome) :
    Wrote vio packet outcome := by
  have hpacket : vio'.written ++ packet.drop n = vio.written ++ packet := by
    rw [hwritten, List.append_assoc, List.take_append_drop]
  cases h with
  | all h => exact .all (h.trans hpacket)
  | some hkept h =>
      rw [hpacket] at h
      rw [hwritten] at hkept
      exact .some ((List.prefix_append _ _).trans hkept) h

theorem Wrote.none {vio vio' : Vio} (packet : List UInt8) (stop : Stop)
    (h : vio'.written = vio.written) : Wrote vio packet (.error stop, vio') :=
  .some (h ▸ List.prefix_rfl) (h ▸ List.prefix_append _ _)

/-- The loop on the socket writes the whole packet, or a beginning of it. -/
theorem wrote_writeLoop (limit : UInt32) (retry : Retry) (packet : List UInt8) (vio : Vio) :
    Wrote vio packet (writeLoop limit retry packet vio) := by
  induction retry, packet, vio using writeLoop.induct limit with
  | case1 retry vio =>
      rw [writeLoop, if_pos rfl]
      exact .all (List.append_nil _).symm
  | case2 retry packet vio hne h =>
      rw [writeLoop, if_neg hne]
      split
      next => exact .none packet .waits rfl
      next h' => rw [h] at h'; cases h'
      next h' => rw [h] at h'; cases h'
  | case3 retry packet vio hne n vio' h ih =>
      rw [writeLoop, if_neg hne]
      split
      next h' => rw [h] at h'; cases h'
      next h' =>
        rw [h] at h'
        cases h'
        exact ih.after (Vio.vio_write_some h)
      next h' => rw [h] at h'; cases h'
  | case4 retry packet vio hne zero errno vio' h retry' hretry ih =>
      rw [writeLoop, if_neg hne]
      split
      next h' => rw [h] at h'; cases h'
      next h' => rw [h] at h'; cases h'
      next h' =>
        rw [h] at h'
        cases h'
        rw [hretry]
        refine Wrote.after (n := 0) ?_ ih
        rw [Vio.vio_write_failed h, List.take_zero, List.append_nil]
  | case5 retry packet vio hne zero errno vio' h hretry =>
      rw [writeLoop, if_neg hne]
      split
      next h' => rw [h] at h'; cases h'
      next h' => rw [h] at h'; cases h'
      next h' =>
        rw [h] at h'
        cases h'
        rw [hretry]
        exact .none packet _ (Vio.vio_write_failed h)

/-- `net_real_write` hands a chunk to the socket, or breaks off. -/
inductive WritesChunk (zlib : Zlib) (net : NET) (chunk : List UInt8) :
    Except Halt Unit × NET → Prop where
  | done {vio : Vio} :
      vio.written = net.vio.written ++ wire zlib net.compress net.compress_pkt_nr [chunk] →
      WritesChunk zlib net chunk (.ok (), { net with
        vio := vio, compress_pkt_nr := nextBlock net.compress net.compress_pkt_nr [chunk] })
  | broken {halt : Halt} {net' : NET} : net.vio.written <+: net'.vio.written →
      net'.vio.written <+:
        net.vio.written ++ wire zlib net.compress net.compress_pkt_nr [chunk] →
      (halt = .failed → net'.error = 2) → WritesChunk zlib net chunk (.error halt, net')

theorem writesChunk_onVio (zlib : Zlib) (net : NET) (limit : UInt32) (chunk : List UInt8) :
    WritesChunk zlib net chunk (onVio (fun net' => writeLoop limit ⟨false, 0⟩
        (wire zlib net.compress net.compress_pkt_nr [chunk]) net'.vio)
      { net with compress_pkt_nr := nextBlock net.compress net.compress_pkt_nr [chunk] }) := by
  have hwrote := wrote_writeLoop limit ⟨false, 0⟩
    (wire zlib net.compress net.compress_pkt_nr [chunk]) net.vio
  rw [onVio]
  cases hrun : writeLoop limit ⟨false, 0⟩
      (wire zlib net.compress net.compress_pkt_nr [chunk]) net.vio with
  | mk result vio =>
    rw [hrun] at hwrote
    cases hwrote with
    | all h => exact .done h
    | @some stop _ hkept h =>
      cases stop with
      | waits => exact .broken hkept h fun hne => by cases hne
      | error errno => exact .broken hkept h fun _ => rfl

theorem writesChunk_net_real_write (zlib : Zlib) (net : NET) (chunk : List UInt8) :
    WritesChunk zlib net chunk (net_real_write zlib chunk net) := by
  have hrun := writesChunk_onVio zlib net net.retry_count chunk
  rw [net_real_write, bind_of_ok (get_apply net)]
  split
  next herror =>
    exact .broken List.prefix_rfl (List.prefix_append _ _) fun _ => herror
  next =>
    split
    next hc =>
      have hblock : wire zlib net.compress net.compress_pkt_nr [chunk] =
          block zlib net.compress_pkt_nr chunk := by
        rw [hc]
        exact List.append_nil _
      have hnext :
          nextBlock net.compress net.compress_pkt_nr [chunk] = net.compress_pkt_nr + 1 := by
        rw [hc]
        rfl
      rw [hblock, hnext] at hrun
      exact hrun
    next hc =>
      have hc : net.compress = false := Bool.eq_false_iff.mpr hc
      have hplain : wire zlib net.compress net.compress_pkt_nr [chunk] = chunk := by
        rw [hc]
        exact List.append_nil chunk
      have hnext : nextBlock net.compress net.compress_pkt_nr [chunk] = net.compress_pkt_nr := by
        rw [hc]
        rfl
      rw [hplain, hnext] at hrun
      exact hrun

/-! ## The buffer -/

section
variable {zlib : Zlib} {net net' : NET} {data chunk packet : List UInt8}

theorem pending_eq_nil (hempty : net.write_pos = 0) : net.pending = [] := by
  rw [pending, hempty, List.take_zero]

theorem flatten_chunk (hchunk : net.pending ++ data = chunk) :
    [chunk].flatten = net.pending ++ data := by
  rw [hchunk]
  exact List.append_nil chunk

/-- What was kept and `data` went out as one chunk, and nothing is kept. -/
theorem Writes.of_chunk (hchunk : net.pending ++ data = chunk)
    (hshort : net.compress = true → chunk ≠ [] ∧ chunk.length ≤ MAX_PACKET_LENGTH)
    (hwritten : net'.vio.written =
      net.vio.written ++ wire zlib net.compress net.compress_pkt_nr [chunk])
    (hnr : net'.compress_pkt_nr = nextBlock net.compress net.compress_pkt_nr [chunk])
    (hcompress : net'.compress = net.compress) (hempty : net'.write_pos = 0) :
    Writes zlib net data [chunk] net' where
  written := hwritten
  pending := by rw [pending_eq_nil hempty, List.append_nil, flatten_chunk hchunk]
  short hc _ hmem := List.mem_singleton.mp hmem ▸ hshort hc
  compress_pkt_nr := hnr
  compress := hcompress
  room := by
    rw [hempty]
    exact Nat.zero_le _

theorem Breaks.of_chunk {halt : Halt} (hchunk : net.pending ++ data = chunk)
    (hshort : net.compress = true → chunk ≠ [] ∧ chunk.length ≤ MAX_PACKET_LENGTH)
    (hkept : net.vio.written <+: net'.vio.written)
    (hwritten : net'.vio.written <+:
      net.vio.written ++ wire zlib net.compress net.compress_pkt_nr [chunk])
    (herror : halt = .failed → net'.error = 2) : Breaks zlib net data [chunk] halt net' where
  kept := hkept
  written := hwritten
  data := flatten_chunk hchunk ▸ List.prefix_rfl
  short hc _ hmem := List.mem_singleton.mp hmem ▸ hshort hc
  error := herror

/-- A chunk that begins with what was kept, after which the buffer is empty. -/
theorem sends_emptied (zlib : Zlib) (hchunk : net.pending ++ data = chunk)
    (hshort : net.compress = true → chunk ≠ [] ∧ chunk.length ≤ MAX_PACKET_LENGTH) :
    Sends zlib net data ((net_real_write zlib chunk >>= fun _ =>
      modify fun net => { net with write_pos := 0 }) net) := by
  have hwrites := writesChunk_net_real_write zlib net chunk
  cases hrun : net_real_write zlib chunk net with
  | mk result t =>
    rw [hrun] at hwrites
    cases hwrites with
    | broken hkept hwritten herror =>
        rw [bind_of_error hrun]
        exact .broken (.of_chunk hchunk hshort hkept hwritten herror)
    | done hwritten =>
        rw [bind_of_ok hrun]
        exact .done (.of_chunk hchunk hshort hwritten rfl rfl rfl)

/-- With nothing kept, a chunk goes over the socket as it is. -/
theorem sends_direct (zlib : Zlib) (hempty : net.write_pos = 0)
    (hshort : net.compress = true → chunk ≠ [] ∧ chunk.length ≤ MAX_PACKET_LENGTH) :
    Sends zlib net chunk (net_real_write zlib chunk net) := by
  have hchunk : net.pending ++ chunk = chunk := by rw [pending_eq_nil hempty, List.nil_append]
  have hwrites := writesChunk_net_real_write zlib net chunk
  cases hrun : net_real_write zlib chunk net with
  | mk result t =>
    rw [hrun] at hwrites
    cases hwrites with
    | broken hkept hwritten herror =>
        exact .broken (.of_chunk hchunk hshort hkept hwritten herror)
    | done hwritten => exact .done (.of_chunk hchunk hshort hwritten rfl rfl hempty)

theorem write_pos_le (hroom : net.write_pos ≤ net.limit) : net.write_pos ≤ net.buff.length := by
  have hlimit := net.limit_le
  have hbuff := net.room
  omega

theorem sends_append (hroom : net.write_pos + packet.length ≤ net.limit) :
    Sends zlib net packet (append packet net) := by
  have hbuff := write_pos_le (Nat.le_trans (Nat.le_add_right _ _) hroom)
  have hkept : Writes zlib net [] [] net := .refl (Nat.le_trans (Nat.le_add_right _ _) hroom)
  exact .done ⟨hkept.written, (take_memcpyAt hbuff packet).symm, hkept.short,
    hkept.compress_pkt_nr, rfl, hroom⟩

theorem net_real_write_ok (h : net_real_write zlib chunk net = (.ok (), net')) :
    ∃ vio nr, net' = { net with vio := vio, compress_pkt_nr := nr } := by
  have hwrites := writesChunk_net_real_write zlib net chunk
  rw [h] at hwrites
  cases hwrites with
  | done => exact ⟨_, _, rfl⟩

/-- Whole blocks first, and then what is made of the rest. -/
theorem sends_writeFull {α : Type} (hcompress : net.compress = true) (hempty : net.write_pos = 0)
    {next : List UInt8 → Io α}
    (hnext : ∀ rest vio nr, rest.length ≤ MAX_PACKET_LENGTH →
      Sends zlib { net with vio := vio, compress_pkt_nr := nr } rest
        (next rest { net with vio := vio, compress_pkt_nr := nr })) :
    ∀ (packet : List UInt8), Sends zlib net packet ((writeFull zlib packet >>= next) net) := by
  intro packet
  induction packet using writeFull.induct generalizing net with
  | case1 packet h ih =>
      have hlength : (packet.take MAX_PACKET_LENGTH).length = MAX_PACKET_LENGTH := by
        rw [List.length_take]
        exact Nat.min_eq_left (Nat.le_of_lt h)
      have hne : packet.take MAX_PACKET_LENGTH ≠ [] :=
        List.ne_nil_of_length_pos (by rw [hlength]; decide)
      have hdirect := sends_direct zlib hempty fun _ => ⟨hne, Nat.le_of_eq hlength⟩
      have hsends := hdirect.bind (packet.drop MAX_PACKET_LENGTH)
        (f := fun _ => writeFull zlib (packet.drop MAX_PACKET_LENGTH) >>= next)
        fun a chunks net' hrun _ => by
          obtain ⟨vio, nr, rfl⟩ := net_real_write_ok hrun
          exact ih hcompress hempty fun rest vio' nr' hrest => hnext rest vio' nr' hrest
      rw [List.take_append_drop] at hsends
      rw [writeFull, if_pos h, Program.bind_assoc]
      exact hsends
  | case2 packet h =>
      have hrest := hnext packet net.vio net.compress_pkt_nr (Nat.le_of_not_lt h)
      rw [writeFull, if_neg h, bind_of_ok (pure_apply packet net)]
      exact hrest

theorem sends_writeRest (hempty : net.write_pos = 0) (packet : List UInt8) :
    Sends zlib net packet (writeRest zlib packet net) := by
  -- at the end the rest is no longer than a block may be, and goes out or is kept
  have hlast : ∀ rest vio nr, (net.compress = true → rest.length ≤ MAX_PACKET_LENGTH) →
      Sends zlib { net with vio := vio, compress_pkt_nr := nr } rest
        ((if net.max_packet < rest.length then net_real_write zlib rest else append rest)
          { net with vio := vio, compress_pkt_nr := nr }) := by
    intro rest vio nr hshort
    split
    next hlt =>
      have hne : rest ≠ [] := List.ne_nil_of_length_pos (Nat.lt_of_le_of_lt (Nat.zero_le _) hlt)
      exact sends_direct zlib hempty fun hc => ⟨hne, hshort hc⟩
    next hle =>
      refine sends_append ?_
      rw [hempty, Nat.zero_add, limit]
      split
      next hc => exact hshort hc.1
      next => exact Nat.le_of_not_lt hle
  rw [writeRest, bind_of_ok (get_apply net)]
  split
  next hc => exact sends_writeFull hc hempty (fun rest vio nr h => hlast rest vio nr fun _ => h) _
  next hc =>
    exact hlast packet net.vio net.compress_pkt_nr fun hc' => absurd hc' hc

/-- `net_write_buff` sends what it is given, however full the buffer is. -/
theorem sends_net_write_buff (hroom : net.write_pos ≤ net.limit) (packet : List UInt8) :
    Sends zlib net packet (net_write_buff zlib packet net) := by
  have hbuff := write_pos_le hroom
  rw [net_write_buff, bind_of_ok (get_apply net)]
  split
  next hlong =>
    split
    next hkept =>
      -- the buffer is filled up and goes out as one chunk
      have hfill : Writes zlib net [] [] (net.memcpy net.write_pos (packet.take net.left_length)) :=
        have hrefl : Writes zlib net [] [] net := .refl hroom
        ⟨hrefl.written, by
          rw [List.append_nil]
          exact (take_memcpyAt_of_le (Nat.le_refl _) hbuff _).symm,
          hrefl.short, hrefl.compress_pkt_nr, rfl, hroom⟩
      have hleft : (packet.take net.left_length).length = net.left_length := by
        rw [List.length_take, Nat.min_eq_left (Nat.le_of_lt hlong)]
      have htake := take_memcpyAt hbuff (packet.take net.left_length)
      rw [hleft] at htake
      have hchunk : (net.memcpy net.write_pos (packet.take net.left_length)).pending ++
          packet.take net.left_length =
          (memcpyAt net.buff net.write_pos (packet.take net.left_length)).take
            (net.write_pos + net.left_length) := by
        rw [htake]
        exact congrArg (· ++ _) (take_memcpyAt_of_le (Nat.le_refl _) hbuff _)
      have hlength := congrArg List.length htake
      rw [List.length_append, List.length_take_of_le hbuff, hleft, left_length_eq,
        Nat.add_sub_cancel' hroom] at hlength
      have hpos : 0 < net.limit := Nat.lt_of_lt_of_le (Nat.pos_of_ne_zero hkept) hroom
      have hsends := hfill.sends <|
        (sends_emptied zlib hchunk fun hc => by
          rw [left_length_eq, Nat.add_sub_cancel' hroom]
          exact ⟨List.ne_nil_of_length_pos (by rw [hlength]; exact hpos),
            Nat.le_trans (Nat.le_of_eq hlength) (limit_le_of_compress hc)⟩).bind
          (packet.drop net.left_length) (f := fun _ => writeRest zlib (packet.drop net.left_length))
          fun a chunks net' hrun _ => by
            obtain ⟨_, t, -, ht⟩ := bind_eq_ok.mp hrun
            obtain ⟨-, rfl⟩ := Prod.mk.inj ht
            exact sends_writeRest rfl _
      rw [List.nil_append, List.take_append_drop, Program.bind_assoc] at hsends
      rw [bind_of_ok (modify_apply _ net)]
      exact hsends
    next hempty => exact sends_writeRest (Decidable.not_not.mp hempty) packet
  next hshort =>
    refine sends_append ?_
    rw [left_length_eq] at hshort
    omega

theorem Writes.of_pkt_nr (hroom : net.write_pos ≤ net.limit) (nr : UInt32) :
    Writes zlib net [] [] { net with pkt_nr := nr } :=
  have hrefl : Writes zlib net [] [] net := .refl hroom
  ⟨hrefl.written, hrefl.pending, hrefl.short, hrefl.compress_pkt_nr, rfl, hroom⟩

theorem sends_net_flush (hroom : net.write_pos ≤ net.limit) :
    Sends zlib net [] (net_flush zlib net) := by
  have hsync : ∀ {net : NET}, net.write_pos ≤ net.limit →
      Sends zlib net [] ((modify syncNumber : Io Unit) net) := by
    intro net hroom
    rw [modify_apply, syncNumber]
    split
    next => exact .done (.of_pkt_nr hroom _)
    next => exact .done (.refl hroom)
  rw [net_flush, bind_of_ok (get_apply net)]
  split
  next hkept =>
    have hlength : net.pending.length = net.write_pos := List.length_take_of_le (write_pos_le hroom)
    have hsends := sends_emptied zlib (List.append_nil net.pending) fun hc =>
      ⟨List.ne_nil_of_length_pos (by rw [hlength]; exact Nat.pos_of_ne_zero hkept),
        Nat.le_trans (Nat.le_of_eq hlength) (Nat.le_trans hroom (limit_le_of_compress hc))⟩
    have hall := hsends.bind [] fun _ _ net' _ hwrites => hsync hwrites.room
    rw [Program.bind_assoc] at hall
    exact hall
  next => exact hsync hroom

theorem sends_writeHeader (hroom : net.write_pos ≤ net.limit) (length : Nat) (more : List UInt8) :
    Sends zlib net (header false net.pkt_nr length 0 ++ more)
      (writeHeader zlib length more net) := by
  rw [writeHeader, bind_of_ok (get_apply net), bind_of_ok (modify_apply _ net)]
  have hroom' : { net with pkt_nr := net.pkt_nr + 1 }.write_pos ≤
      { net with pkt_nr := net.pkt_nr + 1 }.limit := hroom
  exact (Writes.of_pkt_nr hroom _).sends (sends_net_write_buff hroom' _)

end

/-! ## What writing leaves as it is -/

/-- The part of the state that reading depends on, apart from the numbers of the
packets, stays as it is. -/
structure KeepsReader (s t : NET) : Prop where
  read_buffer : t.vio.read_buffer = s.vio.read_buffer
  arrivals : t.vio.arrivals = s.vio.arrivals
  max_packet : t.max_packet = s.max_packet
  max_packet_size : t.max_packet_size = s.max_packet_size
  where_b : t.where_b = s.where_b
  buf_length : t.buf_length = s.buf_length
  remain_in_buf : t.remain_in_buf = s.remain_in_buf
  retry_count : t.retry_count = s.retry_count
  compress : t.compress = s.compress

theorem KeepsReader.refl (s : NET) : KeepsReader s s :=
  ⟨rfl, rfl, rfl, rfl, rfl, rfl, rfl, rfl, rfl⟩

theorem KeepsReader.trans {s t u : NET} (h : KeepsReader s t) (h' : KeepsReader t u) :
    KeepsReader s u where
  read_buffer := h'.read_buffer.trans h.read_buffer
  arrivals := h'.arrivals.trans h.arrivals
  max_packet := h'.max_packet.trans h.max_packet
  max_packet_size := h'.max_packet_size.trans h.max_packet_size
  where_b := h'.where_b.trans h.where_b
  buf_length := h'.buf_length.trans h.buf_length
  remain_in_buf := h'.remain_in_buf.trans h.remain_in_buf
  retry_count := h'.retry_count.trans h.retry_count
  compress := h'.compress.trans h.compress

/-- The next number as well. -/
def Keeps (s t : NET) : Prop := KeepsReader s t ∧ t.pkt_nr = s.pkt_nr

theorem Keeps.refl (s : NET) : Keeps s s := ⟨.refl s, rfl⟩

theorem Keeps.trans (s t u : NET) (h : Keeps s t) (h' : Keeps t u) : Keeps s u :=
  ⟨h.1.trans h'.1, h'.2.trans h.2⟩

theorem vio_write_keeps {vio vio' : Vio} {packet : List UInt8} {got : Got Nat}
    (h : vio.vio_write packet = some (got, vio')) :
    vio'.read_buffer = vio.read_buffer ∧ vio'.arrivals = vio.arrivals := by
  rw [Vio.vio_write] at h
  split at h
  next => cases h
  all_goals
    obtain ⟨-, rfl⟩ := Prod.mk.inj (Option.some.inj h)
    exact ⟨rfl, rfl⟩

theorem writeLoop_keeps (limit : UInt32) (retry : Retry) (packet : List UInt8) (vio : Vio) :
    (writeLoop limit retry packet vio).2.read_buffer = vio.read_buffer ∧
      (writeLoop limit retry packet vio).2.arrivals = vio.arrivals := by
  fun_induction writeLoop limit retry packet vio with
  | case1 => exact ⟨rfl, rfl⟩
  | case2 => exact ⟨rfl, rfl⟩
  | case3 retry packet vio hne n vio' h ih =>
      have hkeeps := vio_write_keeps h
      exact ⟨ih.1.trans hkeeps.1, ih.2.trans hkeeps.2⟩
  | case4 retry packet vio hne zero errno vio' h retry' hretry ih =>
      have hkeeps := vio_write_keeps h
      exact ⟨ih.1.trans hkeeps.1, ih.2.trans hkeeps.2⟩
  | case5 retry packet vio hne zero errno vio' h hretry => exact vio_write_keeps h

theorem follows_keeps_onVio (limit : UInt32) (retry : Retry) (packet : NET → List UInt8) :
    Follows Keeps (onVio fun net => writeLoop limit retry (packet net) net.vio) := by
  intro net
  have hkeeps := writeLoop_keeps limit retry (packet net) net.vio
  rw [onVio]
  split
  all_goals
    next hrun =>
      rw [hrun] at hkeeps
      exact ⟨⟨hkeeps.1, hkeeps.2, rfl, rfl, rfl, rfl, rfl, rfl, rfl⟩, rfl⟩

theorem follows_keeps_net_real_write (zlib : Zlib) (packet : List UInt8) :
    Follows Keeps (net_real_write zlib packet) := by
  intro net
  rw [net_real_write, bind_of_ok (get_apply net)]
  split
  next => exact .refl net
  next =>
    split
    next =>
      have hnr : Follows Keeps (modify fun net =>
          { net with compress_pkt_nr := net.compress_pkt_nr + 1 } : Io Unit) :=
        fun _ => ⟨⟨rfl, rfl, rfl, rfl, rfl, rfl, rfl, rfl, rfl⟩, rfl⟩
      exact hnr.bind Keeps.trans (fun _ => follows_keeps_onVio _ _ fun _ => _) net
    next => exact follows_keeps_onVio _ _ (fun _ => packet) net

theorem follows_keeps_append (packet : List UInt8) : Follows Keeps (append packet) :=
  fun _ => ⟨⟨rfl, rfl, rfl, rfl, rfl, rfl, rfl, rfl, rfl⟩, rfl⟩

theorem follows_keeps_writeFull (zlib : Zlib) (packet : List UInt8) :
    Follows Keeps (writeFull zlib packet) := by
  induction packet using writeFull.induct with
  | case1 packet h ih =>
      rw [writeFull, if_pos h]
      exact (follows_keeps_net_real_write zlib _).bind Keeps.trans fun _ => ih
  | case2 packet h =>
      rw [writeFull, if_neg h]
      exact follows_pure Keeps.refl packet

theorem follows_keeps_writeRest (zlib : Zlib) (packet : List UInt8) :
    Follows Keeps (writeRest zlib packet) := by
  refine (follows_get Keeps.refl).bind Keeps.trans fun net => ?_
  have hlast : ∀ rest : List UInt8, Follows Keeps
      (if net.max_packet < rest.length then net_real_write zlib rest else append rest) := by
    intro rest
    split
    next => exact follows_keeps_net_real_write zlib rest
    next => exact follows_keeps_append rest
  split
  next => exact (follows_keeps_writeFull zlib packet).bind Keeps.trans hlast
  next => exact (follows_pure Keeps.refl packet).bind Keeps.trans hlast

theorem follows_keeps_net_write_buff (zlib : Zlib) (packet : List UInt8) :
    Follows Keeps (net_write_buff zlib packet) := by
  intro net
  rw [net_write_buff, bind_of_ok (get_apply net)]
  split
  next =>
    split
    next =>
      have hfilled : Keeps net (net.memcpy net.write_pos (packet.take net.left_length)) :=
        ⟨⟨rfl, rfl, rfl, rfl, rfl, rfl, rfl, rfl, rfl⟩, rfl⟩
      rw [bind_of_ok (modify_apply _ net)]
      refine Keeps.trans _ _ _ hfilled (((follows_keeps_net_real_write zlib _).bind Keeps.trans
        fun _ => ?_) (net.memcpy net.write_pos (packet.take net.left_length)))
      have hempty : Follows Keeps (modify fun net => { net with write_pos := 0 } : Io Unit) :=
        fun _ => ⟨⟨rfl, rfl, rfl, rfl, rfl, rfl, rfl, rfl, rfl⟩, rfl⟩
      exact hempty.bind Keeps.trans fun _ => follows_keeps_writeRest zlib _
    next => exact follows_keeps_writeRest zlib packet net
  next => exact follows_keeps_append packet net

/-- A function of the writer keeps what reading depends on. -/
abbrev KeptByWriter (x : Io Unit) : Prop := Follows KeepsReader x

theorem KeptByWriter.bind {x : Io Unit} {f : Unit → Io Unit} (hx : KeptByWriter x)
    (hf : ∀ a, KeptByWriter (f a)) : KeptByWriter (x >>= f) :=
  Follows.bind (fun _ _ _ h h' => h.trans h') hx hf

theorem kept_net_write_buff (zlib : Zlib) (packet : List UInt8) :
    KeptByWriter (net_write_buff zlib packet) :=
  fun net => (follows_keeps_net_write_buff zlib packet net).1

theorem kept_writeHeader (zlib : Zlib) (length : Nat) (more : List UInt8) :
    KeptByWriter (writeHeader zlib length more) := by
  intro net
  rw [writeHeader, bind_of_ok (get_apply net), bind_of_ok (modify_apply _ net)]
  have hnr : KeepsReader net { net with pkt_nr := net.pkt_nr + 1 } :=
    ⟨rfl, rfl, rfl, rfl, rfl, rfl, rfl, rfl, rfl⟩
  exact hnr.trans (kept_net_write_buff zlib _ _)

theorem kept_writeArgument (zlib : Zlib) (header : List UInt8) :
    KeptByWriter (writeArgument zlib header) := by
  rw [writeArgument]
  split
  next => exact kept_net_write_buff zlib header
  next => exact follows_pure KeepsReader.refl ()

theorem kept_net_flush (zlib : Zlib) : KeptByWriter (net_flush zlib) := by
  have hsync : KeptByWriter (modify syncNumber : Io Unit) := by
    intro net
    rw [modify_apply, syncNumber]
    split
    next => exact ⟨rfl, rfl, rfl, rfl, rfl, rfl, rfl, rfl, rfl⟩
    next => exact .refl net
  have hempty : KeptByWriter (modify fun net => { net with write_pos := 0 } : Io Unit) :=
    fun _ => ⟨rfl, rfl, rfl, rfl, rfl, rfl, rfl, rfl, rfl⟩
  intro net
  rw [net_flush, bind_of_ok (get_apply net)]
  split
  next =>
    exact KeptByWriter.bind (fun net => (follows_keeps_net_real_write zlib _ net).1)
      (fun _ => hempty.bind fun _ => hsync) net
  next => exact hsync net

theorem kept_my_net_write (zlib : Zlib) (packet : List UInt8) :
    KeptByWriter (my_net_write zlib packet) := by
  induction packet using my_net_write.induct with
  | case1 packet h ih =>
      rw [my_net_write, if_pos h]
      exact (kept_writeHeader zlib _ _).bind fun _ => (kept_net_write_buff zlib _).bind fun _ => ih
  | case2 packet h =>
      rw [my_net_write, if_neg h]
      exact (kept_writeHeader zlib _ _).bind fun _ => kept_net_write_buff zlib _

theorem kept_writeCommand (zlib : Zlib) (command header packet : List UInt8) :
    KeptByWriter (writeCommand zlib command header packet) := by
  induction command, header, packet using writeCommand.induct with
  | case1 command header packet h ih =>
      rw [writeCommand, if_pos h]
      exact (kept_writeHeader zlib _ _).bind fun _ => (kept_net_write_buff zlib _).bind fun _ =>
        (kept_net_write_buff zlib _).bind fun _ => ih
  | case2 command header packet h =>
      rw [writeCommand, if_neg h]
      exact (kept_writeHeader zlib _ _).bind fun _ => (kept_writeArgument zlib _).bind fun _ =>
        (kept_net_write_buff zlib _).bind fun _ => kept_net_flush zlib

/-! ## Packets -/

section
variable {zlib : Zlib} {net net' : NET}

/-- A header and then a piece. -/
theorem sends_piece (zlib : Zlib) (hroom : net.write_pos ≤ net.limit) (length : Nat)
    (more piece : List UInt8) :
    Sends zlib net (header false net.pkt_nr length 0 ++ more ++ piece)
      ((writeHeader zlib length more >>= fun _ => net_write_buff zlib piece) net) :=
  (sends_writeHeader hroom length more).bind piece fun _ _ _ _ hwrites =>
    sends_net_write_buff hwrites.room piece

theorem writeHeader_pkt_nr {length : Nat} {more : List UInt8}
    (h : writeHeader zlib length more net = (.ok (), net')) : net'.pkt_nr = net.pkt_nr + 1 := by
  rw [writeHeader, bind_of_ok (get_apply net), bind_of_ok (modify_apply _ net)] at h
  exact ((follows_keeps_net_write_buff zlib _).of_run h).2

theorem net_write_buff_pkt_nr {packet : List UInt8}
    (h : net_write_buff zlib packet net = (.ok (), net')) : net'.pkt_nr = net.pkt_nr :=
  ((follows_keeps_net_write_buff zlib packet).of_run h).2

/-- `my_net_write` sends the frames of its packet. -/
theorem sends_my_net_write (packet : List UInt8) (hroom : net.write_pos ≤ net.limit) :
    Sends zlib net (frames net.pkt_nr packet) (my_net_write zlib packet net) := by
  induction packet using my_net_write.induct generalizing net with
  | case1 packet h ih =>
      have hlength : (packet.take MAX_PACKET_LENGTH).length = MAX_PACKET_LENGTH :=
        List.length_take_of_le h
      have hframes := frames_append hlength net.pkt_nr (packet.drop MAX_PACKET_LENGTH)
      rw [List.take_append_drop] at hframes
      rw [my_net_write, if_pos h, hframes, ← Program.bind_assoc]
      refine Sends.bind ?_ _ fun _ _ net' hrun hwrites => ?_
      · have hpiece := sends_piece zlib hroom MAX_PACKET_LENGTH []
          (packet.take MAX_PACKET_LENGTH)
        rwa [List.append_nil] at hpiece
      · obtain ⟨_, t, hheader, hbuff⟩ := bind_eq_ok.mp hrun
        rw [← writeHeader_pkt_nr hheader, ← net_write_buff_pkt_nr hbuff]
        exact ih hwrites.room
  | case2 packet h =>
      have hpiece := sends_piece zlib hroom packet.length [] packet
      rw [my_net_write, if_neg h, frames_of_lt (Nat.lt_of_not_le h)]
      rwa [List.append_nil] at hpiece

theorem sends_writeArgument (hroom : net.write_pos ≤ net.limit) (header : List UInt8) :
    Sends zlib net header (writeArgument zlib header net) := by
  rw [writeArgument]
  split
  next => exact sends_net_write_buff hroom header
  next h =>
    rw [Decidable.not_not.mp h]
    exact .done (.refl hroom)

/-- `net_write_command` sends the frames of the command and its arguments. -/
theorem sends_writeCommand (command header packet : List UInt8)
    (hshort : command.length + header.length ≤ MAX_PACKET_LENGTH)
    (hroom : net.write_pos ≤ net.limit) :
    Sends zlib net (frames net.pkt_nr (command ++ header ++ packet))
      (writeCommand zlib command header packet net) := by
  induction command, header, packet using writeCommand.induct generalizing net with
  | case1 command header packet h ih =>
      have hlength : (command ++ header ++
          packet.take (MAX_PACKET_LENGTH - command.length - header.length)).length =
          MAX_PACKET_LENGTH := by
        rw [List.length_append, List.length_append, List.length_take]
        omega
      have hframes := frames_append hlength net.pkt_nr
        (packet.drop (MAX_PACKET_LENGTH - command.length - header.length))
      rw [List.append_assoc (command ++ header), List.take_append_drop] at hframes
      rw [writeCommand, if_pos h, hframes]
      simp only [← List.append_assoc]
      rw [← Program.bind_assoc, ← Program.bind_assoc]
      refine Sends.bind (Sends.bind (sends_piece zlib hroom _ _ _) _ fun _ _ _ _ hwrites =>
        sends_net_write_buff hwrites.room _) _ fun _ _ net' hrun hwrites => ?_
      obtain ⟨_, t, hrun, hbuff⟩ := bind_eq_ok.mp hrun
      obtain ⟨_, u, hheader, hbuff'⟩ := bind_eq_ok.mp hrun
      rw [← writeHeader_pkt_nr hheader, ← net_write_buff_pkt_nr hbuff',
        ← net_write_buff_pkt_nr hbuff]
      exact ih (Nat.zero_le _) hwrites.room
  | case2 command header packet h =>
      have hlt : (command ++ header ++ packet).length < MAX_PACKET_LENGTH := by
        rw [List.length_append, List.length_append]
        exact Nat.lt_of_not_le h
      rw [writeCommand, if_neg h, frames_of_lt hlt, List.length_append, List.length_append]
      simp only [← List.append_assoc]
      rw [← Program.bind_assoc, ← Program.bind_assoc,
        ← List.append_nil (_ ++ command ++ header ++ packet)]
      exact Sends.bind (Sends.bind (Sends.bind (sends_writeHeader hroom _ _) _
        fun _ _ _ _ hwrites => sends_writeArgument hwrites.room _) _
        fun _ _ _ _ hwrites => sends_net_write_buff hwrites.room _) _
        fun _ _ _ _ hwrites => sends_net_flush hwrites.room

/-! ## The numbers -/

theorem net_flush_ok (h : net_flush zlib net = (.ok (), net')) :
    net'.write_pos = 0 ∧ (net.compress = false → net'.pkt_nr = net.pkt_nr) := by
  have hsync : ∀ {t : NET}, t.write_pos = 0 → t.compress = net.compress →
      t.pkt_nr = net.pkt_nr → (modify syncNumber : Io Unit) t = (.ok (), net') →
      net'.write_pos = 0 ∧ (net.compress = false → net'.pkt_nr = net.pkt_nr) := by
    intro t hempty hcompress hnr hrun
    obtain ⟨-, rfl⟩ := Prod.mk.inj hrun
    rw [syncNumber]
    split
    next hc => exact ⟨hempty, fun hc' => by rw [hcompress, hc'] at hc; cases hc⟩
    next => exact ⟨hempty, fun _ => hnr⟩
  rw [net_flush, bind_of_ok (get_apply net)] at h
  split at h
  next =>
    obtain ⟨_, t, hwrite, h⟩ := bind_eq_ok.mp h
    rw [bind_of_ok (modify_apply _ t)] at h
    have hkeeps := (follows_keeps_net_real_write zlib _).of_run hwrite
    exact hsync (t := { t with write_pos := 0 }) rfl hkeeps.1.compress hkeeps.2 h
  next hempty => exact hsync (Decidable.not_not.mp hempty) rfl rfl h

theorem my_net_write_pkt_nr {packet : List UInt8} {net net' : NET}
    (h : my_net_write zlib packet net = (.ok (), net')) :
    net'.pkt_nr = (· + 1)^[(pieces MAX_PACKET_LENGTH packet).length] net.pkt_nr := by
  induction packet using my_net_write.induct generalizing net with
  | case1 packet hlong ih =>
      rw [my_net_write, if_pos hlong] at h
      obtain ⟨_, t, hheader, h⟩ := bind_eq_ok.mp h
      obtain ⟨_, u, hbuff, h⟩ := bind_eq_ok.mp h
      rw [ih h, net_write_buff_pkt_nr hbuff, writeHeader_pkt_nr hheader,
        pieces_of_le (by decide) hlong, List.length_cons, Function.iterate_succ_apply]
  | case2 packet hshort =>
      rw [my_net_write, if_neg hshort] at h
      obtain ⟨_, t, hheader, hbuff⟩ := bind_eq_ok.mp h
      rw [net_write_buff_pkt_nr hbuff, writeHeader_pkt_nr hheader,
        pieces_of_lt (Nat.lt_of_not_le hshort)]
      rfl

theorem writeArgument_pkt_nr {header : List UInt8}
    (h : writeArgument zlib header net = (.ok (), net')) : net'.pkt_nr = net.pkt_nr := by
  rw [writeArgument] at h
  split at h
  next => exact net_write_buff_pkt_nr h
  next =>
    obtain ⟨-, rfl⟩ := Prod.mk.inj h
    rfl

theorem writeCommand_ok {command header packet : List UInt8} {net net' : NET}
    (hshort : command.length + header.length ≤ MAX_PACKET_LENGTH)
    (h : writeCommand zlib command header packet net = (.ok (), net')) :
    net'.write_pos = 0 ∧ (net.compress = false → net'.pkt_nr =
      (· + 1)^[(pieces MAX_PACKET_LENGTH (command ++ header ++ packet)).length] net.pkt_nr) := by
  induction command, header, packet using writeCommand.induct generalizing net with
  | case1 command header packet hlong ih =>
      have hlength : (command ++ header ++
          packet.take (MAX_PACKET_LENGTH - command.length - header.length)).length =
          MAX_PACKET_LENGTH := by
        rw [List.length_append, List.length_append, List.length_take]
        omega
      have hpieces := pieces_append (by decide) hlength
        (packet.drop (MAX_PACKET_LENGTH - command.length - header.length))
      rw [List.append_assoc (command ++ header), List.take_append_drop] at hpieces
      rw [writeCommand, if_pos hlong] at h
      obtain ⟨_, t, hheader, h⟩ := bind_eq_ok.mp h
      obtain ⟨_, u, hbuff, h⟩ := bind_eq_ok.mp h
      obtain ⟨_, v, hbuff', h⟩ := bind_eq_ok.mp h
      have hcompress : v.compress = net.compress := by
        rw [((kept_net_write_buff zlib _).of_run hbuff').compress,
          ((kept_net_write_buff zlib _).of_run hbuff).compress,
          ((kept_writeHeader zlib _ _).of_run hheader).compress]
      obtain ⟨hempty, hnr⟩ := ih (Nat.zero_le _) h
      refine ⟨hempty, fun hc => ?_⟩
      rw [hnr (hcompress.trans hc), net_write_buff_pkt_nr hbuff', net_write_buff_pkt_nr hbuff,
        writeHeader_pkt_nr hheader, hpieces, List.length_cons, Function.iterate_succ_apply]
      rfl
  | case2 command header packet hlong =>
      have hlt : (command ++ header ++ packet).length < MAX_PACKET_LENGTH := by
        rw [List.length_append, List.length_append]
        exact Nat.lt_of_not_le hlong
      rw [writeCommand, if_neg hlong] at h
      obtain ⟨_, t, hheader, h⟩ := bind_eq_ok.mp h
      obtain ⟨_, u, hargument, h⟩ := bind_eq_ok.mp h
      obtain ⟨_, v, hbuff, h⟩ := bind_eq_ok.mp h
      have hcompress : v.compress = net.compress := by
        rw [((kept_net_write_buff zlib _).of_run hbuff).compress,
          ((kept_writeArgument zlib _).of_run hargument).compress,
          ((kept_writeHeader zlib _ _).of_run hheader).compress]
      obtain ⟨hempty, hnr⟩ := net_flush_ok h
      refine ⟨hempty, fun hc => ?_⟩
      rw [hnr (hcompress.trans hc), net_write_buff_pkt_nr hbuff, writeArgument_pkt_nr hargument,
        writeHeader_pkt_nr hheader, pieces_of_lt hlt]
      rfl

end

/-! ## Runs -/

/-- What is asked of the writer. -/
inductive Request where
  | write (packet : List UInt8)
  | execute (command : UInt8) (header packet : List UInt8)
  | flush

/-- The header of a command fits into its first piece. -/
def Request.Fits : Request → Prop
  | .execute _ header _ => 1 + header.length ≤ MAX_PACKET_LENGTH
  | _ => True

def Request.perform (zlib : Zlib) : Request → Io Unit
  | .write packet => my_net_write zlib packet
  | .execute command header packet => net_write_command zlib command header packet
  | .flush => net_flush zlib

/-- The packets of a request. -/
def Request.packets : Request → List (List UInt8)
  | .write packet => [packet]
  | .execute command header packet => [command :: (header ++ packet)]
  | .flush => []

/-- Whether nothing is kept after the request. -/
def Request.flushes : Request → Bool
  | .write _ => false
  | .execute _ _ _ => true
  | .flush => true

/-- The requests one after the other, until one does not come to its end. -/
def performAll (zlib : Zlib) : List Request → Io Unit
  | [] => pure ()
  | r :: rs => r.perform zlib >>= fun _ => performAll zlib rs

section
variable {zlib : Zlib} {net net' : NET}

theorem Framed.request {packets : List (List UInt8)} {bytes : List UInt8}
    (h : Framed packets bytes) (r : Request) (pkt_nr : UInt32) :
    Framed (r.packets ++ packets) (numberedFrames pkt_nr r.packets ++ bytes) := by
  cases r with
  | write packet =>
      rw [Request.packets, numberedFrames_singleton]
      exact .cons pkt_nr h
  | execute command header packet =>
      rw [Request.packets, numberedFrames_singleton]
      exact .cons pkt_nr h
  | flush => exact h

/-- One request. -/
theorem sends_perform (zlib : Zlib) {r : Request} (hfits : r.Fits)
    (hroom : net.write_pos ≤ net.limit) :
    Sends zlib net (numberedFrames net.pkt_nr r.packets) (r.perform zlib net) := by
  cases r with
  | write packet =>
      rw [Request.packets, numberedFrames_singleton]
      exact sends_my_net_write packet hroom
  | execute command header packet =>
      rw [Request.packets, numberedFrames_singleton]
      exact sends_writeCommand [command] header packet hfits hroom
  | flush => exact sends_net_flush hroom

theorem perform_ok {r : Request} (hfits : r.Fits) (h : r.perform zlib net = (.ok (), net')) :
    net'.compress = net.compress ∧ (r.flushes = true → net'.write_pos = 0) ∧
      (net.compress = false →
        net'.pkt_nr = (· + 1)^[(allPieces r.packets).length] net.pkt_nr) := by
  cases r with
  | write packet =>
      refine ⟨((kept_my_net_write zlib packet).of_run h).compress, (fun hne => by cases hne), ?_⟩
      rw [Request.packets, allPieces, List.flatMap_singleton]
      exact fun _ => my_net_write_pkt_nr h
  | execute command header packet =>
      have hshort : [command].length + header.length ≤ MAX_PACKET_LENGTH := hfits
      obtain ⟨hempty, hnr⟩ := writeCommand_ok hshort h
      rw [Request.packets, allPieces, List.flatMap_singleton]
      exact ⟨((kept_writeCommand zlib _ _ _).of_run h).compress, fun _ => hempty, hnr⟩
  | flush =>
      obtain ⟨hempty, hnr⟩ := net_flush_ok h
      exact ⟨((kept_net_flush zlib).of_run h).compress, fun _ => hempty, hnr⟩

/-- In every run of the writer the socket and the buffer together have the frames of the
packets, each byte once and in order, or after a failure a beginning of them.  Without
compression the frames are numbered one after the other. -/
theorem sends_performAll (zlib : Zlib) (rs : List Request) (hfits : ∀ r ∈ rs, r.Fits)
    (net : NET) (hroom : net.write_pos ≤ net.limit) :
    ∃ bytes, Framed (rs.flatMap Request.packets) bytes ∧
      (net.compress = false →
        bytes = numberedFrames net.pkt_nr (rs.flatMap Request.packets)) ∧
      Sends zlib net bytes (performAll zlib rs net) := by
  induction rs generalizing net with
  | nil => exact ⟨[], .nil, fun _ => rfl, .done (.refl hroom)⟩
  | cons r rs ih =>
      have hr := hfits r List.mem_cons_self
      have hrs := fun r' h => hfits r' (List.mem_cons_of_mem r h)
      have hfirst := sends_perform zlib hr hroom
      rw [performAll, List.flatMap_cons]
      cases hrun : r.perform zlib net with
      | mk result t =>
        rw [hrun] at hfirst
        cases hfirst with
        | broken hbreaks =>
            -- what would have followed is never sent, so it may be numbered in any way
            have hrest := framed_numberedFrames (rs.flatMap Request.packets)
              ((· + 1)^[(allPieces r.packets).length] net.pkt_nr)
            rw [bind_of_error hrun]
            refine ⟨_, hrest.request r net.pkt_nr, fun _ => ?_, .broken (hbreaks.mono _)⟩
            rw [numberedFrames_append]
        | @done a chunks _ hwrites =>
            obtain ⟨hcompress, -, hnr⟩ := perform_ok hr hrun
            obtain ⟨bytes, hbytes, hnumbers, hsends⟩ := ih hrs t hwrites.room
            rw [bind_of_ok hrun]
            refine ⟨_, hbytes.request r net.pkt_nr, fun hc => ?_, hwrites.sends hsends⟩
            rw [numberedFrames_append, hnumbers (hcompress.trans hc), hnr hc]

end

end NET

end MGMDB
