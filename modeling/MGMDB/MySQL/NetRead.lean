import MGMDB.MySQL.Net

/-!
# Reading packets

`my_real_read` reads one frame, or one block with compression, into the buffer and
checks its number.
-/

namespace MGMDB

open Framing Systems Program

namespace NET

/-- The loop of `my_real_read` that reads `remain` bytes. -/
def fill (limit : UInt32) (retry : Retry) (remain : Nat) (vio : Vio) :
    Except Stop (List UInt8 × Retry) × Vio :=
  if _hremain : remain = 0 then (.ok ([], retry), vio)
  else
    match _h : vio.read remain with
    | none => (.error .waits, vio)
    | some (.some bytes, vio') =>
        match fill limit retry (remain - bytes.length) vio' with
        | (.ok (more, retry), vio'') => (.ok (bytes ++ more, retry), vio'')
        | (.error stop, vio'') => (.error stop, vio'')
    | some (.failed zero errno, vio') =>
        match retry.next limit zero errno with
        | some retry => fill limit retry remain vio'
        | none => (.error (.error (if Vio.was_interrupted errno then ER_NET_READ_INTERRUPTED
            else ER_NET_READ_ERROR)), vio')
termination_by remain + vio.arrivals.length
decreasing_by
  · obtain ⟨hne, -, hmoves⟩ := Vio.read_some (Nat.pos_of_ne_zero _hremain) _h
    have hpos := List.length_pos_iff.mpr hne
    have harrivals := hmoves.arrivals
    omega
  · have harrivals := (Vio.read_failed _h).arrivals
    omega

/-- The error of `net_realloc`. -/
def tooLarge (net : NET) : NET :=
  { net with error := 1, last_errno := ER_NET_PACKET_TOO_LARGE }

/-- `net_realloc`. -/
def net_realloc (length : Nat) : Io Unit := do
  let net ← get
  if net.max_packet_size ≤ length then
    modify tooLarge
    halt .failed
  else modify fun net => net.resize ((length + IO_SIZE - 1) / IO_SIZE * IO_SIZE)

/-- A buffer for `helping` bytes. -/
def makeRoom (helping : Nat) : Io Unit := do
  let net ← get
  if net.max_packet ≤ helping then net_realloc helping else pure ()

/-- The second half of `my_real_read`: the bytes that the header announces. -/
def readBody (retry : Retry) (len complen : Nat) : Io Unit := do
  let net ← get
  makeRoom (max len complen + net.where_b)
  let (bytes, _) ← onVio fun net => fill net.retry_count retry len net.vio
  modify fun net => net.memcpy net.where_b bytes

/-- `my_real_read`: the length, and the length without compression. -/
def my_real_read : Io (Nat × Nat) := do
  let net ← get
  let (header, retry) ← onVio fun net =>
    fill net.retry_count ⟨false, 0⟩ (headerSize net.compress) net.vio
  modify fun net => net.memcpy net.where_b header
  if header[3]? ≠ some net.pkt_nr.toUInt8 then halt .failed
  else
    modify fun net =>
      { net with pkt_nr := net.pkt_nr + 1, compress_pkt_nr := net.pkt_nr + 1 }
    let complen := complenOf net.compress header
    let len := uint3korr header
    if len = 0 then pure (0, complen)
    else
      readBody retry len complen
      pure (len, complen)

/-! ## What a loop reads -/

section
variable {limit : UInt32} {retry : Retry} {remain : Nat} {vio vio' : Vio}

/-- What `fill` does: it reads all bytes, or some of them and then it stops. -/
inductive Fills (remain : Nat) (vio : Vio) : Except Stop (List UInt8 × Retry) × Vio → Prop where
  | all {bytes : List UInt8} {retry : Retry} {vio' : Vio} : bytes.length = remain →
      vio.Moves bytes vio' → Fills remain vio (.ok (bytes, retry), vio')
  | stopped {stop : Stop} {bytes : List UInt8} {vio' : Vio} : vio.Moves bytes vio' →
      (vio.Calm → vio.stream.length < remain) → Fills remain vio (.error stop, vio')

/-- On a calm socket the loop goes on after a failure. -/
theorem Retry.next_isSome (limit : UInt32) (retry : Retry) (zero : Bool) :
    (retry.next limit zero (some .EINTR)).isSome = true := by
  rw [next]
  split
  next => rfl
  next =>
    split
    next => rfl
    next => rfl

theorem fills_fill (limit : UInt32) (retry : Retry) (remain : Nat) (vio : Vio) :
    Fills remain vio (fill limit retry remain vio) := by
  fun_induction fill limit retry remain vio with
  | case1 retry vio => exact .all rfl (.refl vio)
  | case2 retry remain vio hremain h =>
      refine .stopped (.refl vio) fun _ => ?_
      rw [Vio.read_none h]
      exact Nat.pos_of_ne_zero hremain
  | case3 retry remain vio hremain bytes vio' h more retry' vio'' hrun ih =>
      obtain ⟨hne, hle, hmoves⟩ := Vio.read_some (Nat.pos_of_ne_zero hremain) h
      rw [hrun] at ih
      cases ih with
      | all hlength hmoves' =>
          refine .all ?_ (hmoves.trans hmoves')
          rw [List.length_append, hlength]
          omega
  | case4 retry remain vio hremain bytes vio' h stop vio'' hrun ih =>
      obtain ⟨hne, hle, hmoves⟩ := Vio.read_some (Nat.pos_of_ne_zero hremain) h
      rw [hrun] at ih
      cases ih with
      | stopped hmoves' hshort =>
          refine .stopped (hmoves.trans hmoves') fun hcalm => ?_
          have hrest := hshort (hmoves.calm hcalm)
          rw [hmoves.stream, List.length_append]
          omega
  | case5 retry remain vio hremain zero errno vio' h retry' hretry ih =>
      have hfails := Vio.read_failed h
      have hstream := hfails.moves.stream
      rw [List.nil_append] at hstream
      cases hrun : fill limit retry' remain vio' with
      | mk result vio'' =>
        rw [hrun] at ih
        cases ih with
        | all hlength hmoves => exact .all hlength (hfails.moves.trans hmoves)
        | stopped hmoves hshort =>
            refine .stopped (hfails.moves.trans hmoves) fun hcalm => ?_
            rw [hstream]
            exact hshort (hfails.moves.calm hcalm)
  | case6 retry remain vio hremain zero errno vio' h hretry =>
      have hfails := Vio.read_failed h
      refine .stopped hfails.moves fun hcalm => ?_
      -- only a socket that is not calm ends the loop
      obtain ⟨-, rfl⟩ := hfails.calm hcalm
      have hnext := retry.next_isSome limit zero
      rw [hretry] at hnext
      cases hnext

/-- A calm socket with enough bytes gives them. -/
theorem fill_calm (limit : UInt32) (retry : Retry) {bytes rest : List UInt8}
    (hcalm : vio.Calm) (hstream : vio.stream = bytes ++ rest) :
    ∃ retry' vio', fill limit retry bytes.length vio = (.ok (bytes, retry'), vio') ∧
      vio.Moves bytes vio' ∧ vio'.stream = rest := by
  have hfills := fills_fill limit retry bytes.length vio
  cases hrun : fill limit retry bytes.length vio with
  | mk result vio' =>
    rw [hrun] at hfills
    cases hfills with
    | stopped hmoves hshort =>
        have hlt := hshort hcalm
        rw [hstream, List.length_append] at hlt
        omega
    | @all bytes' retry' _ hlength hmoves =>
        have heq := hmoves.stream.symm.trans hstream
        obtain ⟨rfl, hrest⟩ := List.append_inj heq hlength
        exact ⟨retry', vio', rfl, hmoves, hrest⟩

end

section
variable {net net' : NET} {len complen : Nat}

theorem onVio_ok {α : Type} {x : NET → Except Stop α × Vio} {a : α}
    (h : onVio x net = (.ok a, net')) :
    ∃ vio, x net = (.ok a, vio) ∧ net' = { net with vio := vio } := by
  rw [onVio] at h
  split at h
  next hrun =>
    obtain ⟨ha, rfl⟩ := Prod.mk.inj h
    obtain rfl := Except.ok.inj ha
    exact ⟨_, hrun, rfl⟩
  next => cases h
  next => cases h

theorem fill_ok {limit : UInt32} {retry retry' : Retry} {remain : Nat} {vio vio' : Vio}
    {bytes : List UInt8} (h : fill limit retry remain vio = (.ok (bytes, retry'), vio')) :
    bytes.length = remain ∧ vio.Moves bytes vio' := by
  have hfills := fills_fill limit retry remain vio
  rw [h] at hfills
  cases hfills with
  | all hlength hmoves => exact ⟨hlength, hmoves⟩

/-- What reading leaves as it is. -/
structure KeepsPlace (net net' : NET) : Prop where
  where_b : net'.where_b = net.where_b
  max_packet_size : net'.max_packet_size = net.max_packet_size
  compress : net'.compress = net.compress
  read_pos : net'.read_pos = net.read_pos
  buf_length : net'.buf_length = net.buf_length
  remain_in_buf : net'.remain_in_buf = net.remain_in_buf
  save_char : net'.save_char = net.save_char

theorem KeepsPlace.refl (net : NET) : KeepsPlace net net := ⟨rfl, rfl, rfl, rfl, rfl, rfl, rfl⟩

/-- A buffer is never made smaller, and not larger than a packet may be. -/
structure Grows (net net' : NET) : Prop where
  max_packet : net.max_packet ≤ net'.max_packet
  sized : IO_SIZE ∣ net.max_packet_size → net.max_packet ≤ net.max_packet_size →
    net'.max_packet ≤ net.max_packet_size

/-- `net'` is `net` after a frame, or a block, the body of which is now at `where_b`. -/
structure Received (net : NET) (len complen : Nat) (body : List UInt8) (net' : NET) : Prop where
  moves : net.vio.Moves (header net.compress net.pkt_nr len complen ++ body) net'.vio
  length : body.length = len
  len_le : len ≤ MAX_PACKET_LENGTH
  complen_le : complen ≤ MAX_PACKET_LENGTH
  pkt_nr : net'.pkt_nr = net.pkt_nr + 1
  place : KeepsPlace net net'
  grows : Grows net net'
  room : len ≠ 0 → max len complen + net.where_b ≤ net'.max_packet
  before : net.where_b ≤ net.max_packet → net'.buff.take net.where_b = net.buff.take net.where_b
  there : net.where_b ≤ net.max_packet → slice net'.buff net.where_b len = body

theorem IO_SIZE_round (length : Nat) :
    length ≤ (length + IO_SIZE - 1) / IO_SIZE * IO_SIZE := by
  rw [IO_SIZE]
  omega

theorem net_realloc_ok {length : Nat} (h : net_realloc length net = (.ok (), net')) :
    length < net.max_packet_size ∧
      net' = net.resize ((length + IO_SIZE - 1) / IO_SIZE * IO_SIZE) := by
  rw [net_realloc, bind_of_ok (get_apply net)] at h
  split at h
  next => cases h
  next hlt =>
    obtain ⟨-, rfl⟩ := Prod.mk.inj h
    exact ⟨Nat.lt_of_not_le hlt, rfl⟩

theorem Grows.resize {length : Nat} (hle : net.max_packet ≤ length)
    (hlt : length < net.max_packet_size) :
    Grows net (net.resize ((length + IO_SIZE - 1) / IO_SIZE * IO_SIZE)) where
  max_packet := Nat.le_trans hle (IO_SIZE_round length)
  sized := by
    rintro ⟨k, hk⟩ -
    show (length + IO_SIZE - 1) / IO_SIZE * IO_SIZE ≤ net.max_packet_size
    rw [hk] at hlt ⊢
    rw [Nat.mul_comm]
    refine Nat.mul_le_mul_left _ (Nat.lt_succ_iff.mp (Nat.div_lt_of_lt_mul ?_))
    rw [Nat.mul_succ]
    have hpos : 0 < IO_SIZE := by decide
    omega

/-- There is room for `length` bytes, in a buffer that begins as the old one. -/
structure Enough (net : NET) (length : Nat) (net' : NET) : Prop where
  room : length ≤ net'.max_packet
  buff : net.buff <+: net'.buff
  vio : net'.vio = net.vio
  pkt_nr : net'.pkt_nr = net.pkt_nr
  place : KeepsPlace net net'
  grows : Grows net net'

theorem makeRoom_ok {helping : Nat} (h : makeRoom helping net = (.ok (), net')) :
    Enough net helping net' := by
  rw [makeRoom, bind_of_ok (get_apply net)] at h
  split at h
  next hle =>
    obtain ⟨hlt, rfl⟩ := net_realloc_ok h
    exact ⟨IO_SIZE_round helping, List.prefix_append _ _, rfl, rfl,
      ⟨rfl, rfl, rfl, rfl, rfl, rfl, rfl⟩,
      .resize hle hlt⟩
  next hlt =>
    obtain ⟨-, rfl⟩ := Prod.mk.inj h
    exact ⟨Nat.le_of_not_le hlt, List.prefix_rfl, rfl, rfl, .refl net,
      ⟨Nat.le_refl _, fun _ h => h⟩⟩

theorem readBody_ok {retry : Retry} (h : readBody retry len complen net = (.ok (), net')) :
    ∃ body t vio, body.length = len ∧ net.vio.Moves body vio ∧
      Enough net (max len complen + net.where_b) t ∧
      net' = { t with vio := vio }.memcpy net.where_b body := by
  rw [readBody, bind_of_ok (get_apply net)] at h
  obtain ⟨_, t, hroom, h⟩ := bind_eq_ok.mp h
  obtain ⟨⟨body, retry'⟩, u, hfill, h⟩ := bind_eq_ok.mp h
  have henough := makeRoom_ok hroom
  obtain ⟨vio, hrun, rfl⟩ := onVio_ok hfill
  obtain ⟨-, rfl⟩ := Prod.mk.inj h
  obtain ⟨hlength, hmoves⟩ := fill_ok hrun
  rw [henough.vio] at hmoves
  refine ⟨body, t, vio, hlength, hmoves, henough, ?_⟩
  rw [← henough.place.where_b]

/-- What `my_real_read` has done when it comes to its end. -/
theorem my_real_read_ok (h : my_real_read net = (.ok (len, complen), net')) :
    ∃ body, Received net len complen body net' := by
  rw [my_real_read, bind_of_ok (get_apply net)] at h
  obtain ⟨⟨bytes, retry⟩, t, hheader, h⟩ := bind_eq_ok.mp h
  obtain ⟨vio, hrun, rfl⟩ := onVio_ok hheader
  obtain ⟨hsize, hmoves⟩ := fill_ok hrun
  dsimp only at h
  rw [bind_of_ok (modify_apply _ _)] at h
  split at h
  next => cases h
  next hnr =>
    have heq := eq_header hsize (Decidable.not_not.mp hnr)
    rw [bind_of_ok (modify_apply _ _)] at h
    have hbuff : net.where_b ≤ net.max_packet → net.where_b ≤ net.buff.length := fun hle => by
      have hroom := net.room
      omega
    split at h
    next hzero =>
      obtain ⟨hresult, rfl⟩ := Prod.mk.inj h
      obtain ⟨rfl, rfl⟩ := Prod.mk.inj (Except.ok.inj hresult)
      rw [hzero] at heq
      refine ⟨[], ⟨?_, rfl, Nat.zero_le _, complenOf_le _ _, rfl,
        ⟨rfl, rfl, rfl, rfl, rfl, rfl, rfl⟩,
        ⟨Nat.le_refl _, fun _ h => h⟩, fun hne => absurd rfl hne, fun hle => ?_, fun _ => rfl⟩⟩
      · rw [List.append_nil, ← heq]
        exact hmoves
      · exact take_memcpyAt_of_le (Nat.le_refl _) (hbuff hle) _
    next =>
      obtain ⟨_, u, hbody, h⟩ := bind_eq_ok.mp h
      obtain ⟨hresult, rfl⟩ := Prod.mk.inj h
      obtain ⟨rfl, rfl⟩ := Prod.mk.inj (Except.ok.inj hresult)
      obtain ⟨body, v, vio', hlength, hmoves', henough, rfl⟩ := readBody_ok hbody
      have hv : net.where_b ≤ net.max_packet → net.where_b ≤ v.buff.length := fun hle =>
        Nat.le_trans (Nat.le_trans (hbuff hle) (length_le_memcpyAt net.buff net.where_b bytes))
          henough.buff.length_le
      refine ⟨body, ⟨?_, hlength, uint3korr_le _, complenOf_le _ _, ?_, ?_, ?_, fun _ => ?_,
        fun hle => ?_, fun hle => ?_⟩⟩
      · rw [← heq]
        exact hmoves.trans hmoves'
      · exact henough.pkt_nr
      · exact ⟨henough.place.where_b, henough.place.max_packet_size, henough.place.compress,
          henough.place.read_pos, henough.place.buf_length, henough.place.remain_in_buf,
          henough.place.save_char⟩
      · exact ⟨henough.grows.max_packet, henough.grows.sized⟩
      · exact henough.room
      · calc (memcpyAt v.buff net.where_b body).take net.where_b
            = v.buff.take net.where_b := take_memcpyAt_of_le (Nat.le_refl _) (hv hle) body
          _ = (memcpyAt net.buff net.where_b bytes).take net.where_b := by
              obtain ⟨more, hmore⟩ := henough.buff
              rw [← hmore]
              exact List.take_append_of_le_length
                (Nat.le_trans (hbuff hle) (length_le_memcpyAt _ _ _))
          _ = net.buff.take net.where_b := take_memcpyAt_of_le (Nat.le_refl _) (hbuff hle) bytes
      · rw [← hlength]
        exact slice_memcpyAt (hv hle) body

/-! ## On a calm socket -/

theorem onVio_of_ok {α : Type} {x : NET → Except Stop α × Vio} {a : α} {vio : Vio}
    (h : x net = (.ok a, vio)) : onVio x net = (.ok a, { net with vio := vio }) := by
  rw [onVio, h]

/-- The header has been read. -/
def headed (net : NET) (vio : Vio) (bytes : List UInt8) : NET :=
  { ({ net with vio := vio }.memcpy net.where_b bytes) with
    pkt_nr := net.pkt_nr + 1, compress_pkt_nr := net.pkt_nr + 1 }

@[simp] theorem headed_where_b (net : NET) (vio : Vio) (bytes : List UInt8) :
    (net.headed vio bytes).where_b = net.where_b := rfl

/-- The header that is expected is read, and then its body. -/
theorem my_real_read_header (hcalm : net.vio.Calm) {more : List UInt8}
    (hstream : net.vio.stream = header net.compress net.pkt_nr len complen ++ more)
    (hlen : len ≤ MAX_PACKET_LENGTH) (hcomplen : complen ≤ MAX_PACKET_LENGTH)
    (hplain : net.compress = false → complen = 0) :
    ∃ retry vio, vio.Calm ∧ vio.stream = more ∧ my_real_read net =
      (if len = 0 then pure (0, complen)
        else readBody retry len complen >>= fun _ => pure (len, complen) : Io (Nat × Nat))
        (net.headed vio (header net.compress net.pkt_nr len complen)) := by
  have hsize := length_header net.compress net.pkt_nr len complen
  obtain ⟨retry, vio, hrun, hmoves, hrest⟩ := fill_calm net.retry_count ⟨false, 0⟩ hcalm hstream
  rw [hsize] at hrun
  refine ⟨retry, vio, hmoves.calm hcalm, hrest, ?_⟩
  have hread : onVio (fun net => fill net.retry_count ⟨false, 0⟩ (headerSize net.compress) net.vio)
      net = (.ok (header net.compress net.pkt_nr len complen, retry), { net with vio := vio }) :=
    onVio_of_ok hrun
  have hnr := header_number net.compress net.pkt_nr len complen []
  have hlength := uint3korr_header net.compress net.pkt_nr complen hlen []
  have hother : complenOf net.compress (header net.compress net.pkt_nr len complen) = complen := by
    cases hc : net.compress with
    | false => exact (hplain hc).symm
    | true => exact complenOf_header hcomplen
  rw [List.append_nil] at hnr hlength
  rw [my_real_read, bind_of_ok (get_apply net), bind_of_ok hread]
  dsimp only
  rw [bind_of_ok (modify_apply _ _), if_neg (not_not_intro hnr), bind_of_ok (modify_apply _ _),
    hlength, hother]
  rfl

theorem makeRoom_fits {helping : Nat} (h : helping < max net.max_packet net.max_packet_size) :
    ∃ net', makeRoom helping net = (.ok (), net') := by
  rw [makeRoom, bind_of_ok (get_apply net)]
  split
  next hle =>
    rw [net_realloc, bind_of_ok (get_apply net), if_neg (by omega)]
    exact ⟨_, rfl⟩
  next => exact ⟨net, rfl⟩

theorem makeRoom_large {helping : Nat} (h : max net.max_packet net.max_packet_size ≤ helping) :
    makeRoom helping net = (.error .failed, net.tooLarge) := by
  rw [makeRoom, bind_of_ok (get_apply net), if_pos (by omega), net_realloc,
    bind_of_ok (get_apply net), if_pos (by omega)]
  rfl

/-- A frame or a block is read if there may be a buffer for it. -/
theorem my_real_read_fits (hcalm : net.vio.Calm) {body rest : List UInt8}
    (hstream : net.vio.stream =
      header net.compress net.pkt_nr body.length complen ++ (body ++ rest))
    (hlen : body.length ≤ MAX_PACKET_LENGTH) (hcomplen : complen ≤ MAX_PACKET_LENGTH)
    (hplain : net.compress = false → complen = 0)
    (hfits : body ≠ [] → max body.length complen + net.where_b <
      max net.max_packet net.max_packet_size) :
    ∃ net', my_real_read net = (.ok (body.length, complen), net') := by
  obtain ⟨retry, vio, hcalm', hstream', hrun⟩ :=
    my_real_read_header hcalm hstream hlen hcomplen hplain
  rw [hrun]
  split
  next hzero =>
    rw [hzero]
    exact ⟨_, rfl⟩
  next hne =>
    have hroom : ∃ t, makeRoom (max body.length complen + net.where_b)
        (net.headed vio (header net.compress net.pkt_nr body.length complen)) = (.ok (), t) :=
      makeRoom_fits (hfits (List.ne_nil_of_length_pos (Nat.pos_of_ne_zero hne)))
    obtain ⟨t, hroom⟩ := hroom
    have hvio := (makeRoom_ok hroom).vio
    have hcalm'' : t.vio.Calm := by rw [hvio]; exact hcalm'
    have hstream'' : t.vio.stream = body ++ rest := by rw [hvio]; exact hstream'
    obtain ⟨retry', vio', hfill, -, -⟩ := fill_calm t.retry_count retry hcalm'' hstream''
    have hread : onVio (fun net => fill net.retry_count retry body.length net.vio) t =
        (.ok (body, retry'), { t with vio := vio' }) := onVio_of_ok hfill
    have hbody : ∃ u, readBody retry body.length complen
        (net.headed vio (header net.compress net.pkt_nr body.length complen)) = (.ok (), u) := by
      rw [readBody, bind_of_ok (get_apply _), headed_where_b, bind_of_ok hroom, bind_of_ok hread]
      exact ⟨_, rfl⟩
    obtain ⟨u, hbody⟩ := hbody
    rw [bind_of_ok hbody]
    exact ⟨u, rfl⟩

/-- Otherwise it is refused. -/
theorem my_real_read_large (hcalm : net.vio.Calm) {more : List UInt8}
    (hstream : net.vio.stream = header net.compress net.pkt_nr len complen ++ more)
    (hlen : len ≤ MAX_PACKET_LENGTH) (hcomplen : complen ≤ MAX_PACKET_LENGTH)
    (hplain : net.compress = false → complen = 0) (hne : len ≠ 0)
    (hlarge : max net.max_packet net.max_packet_size ≤ max len complen + net.where_b) :
    ∃ net', my_real_read net = (.error .failed, net') ∧ net'.error = 1 ∧
      net'.last_errno = ER_NET_PACKET_TOO_LARGE := by
  obtain ⟨retry, vio, -, -, hrun⟩ := my_real_read_header hcalm hstream hlen hcomplen hplain
  have hroom : makeRoom (max len complen + net.where_b)
      (net.headed vio (header net.compress net.pkt_nr len complen)) = (.error .failed,
        (net.headed vio (header net.compress net.pkt_nr len complen)).tooLarge) :=
    makeRoom_large hlarge
  have hbody : readBody retry len complen
      (net.headed vio (header net.compress net.pkt_nr len complen)) = (.error .failed,
        (net.headed vio (header net.compress net.pkt_nr len complen)).tooLarge) := by
    rw [readBody, bind_of_ok (get_apply _), headed_where_b, bind_of_error hroom]
  rw [hrun, if_neg hne, bind_of_error hbody]
  exact ⟨_, rfl, rfl, rfl⟩

end

end NET

end MGMDB
