import MGMDB.MySQL.Lengths
import MGMDB.MySQL.Pack

/-!
# A row in a packet

A row of a result is a packet: its values one behind the other, each with its length
in front, or the single byte 251 for NULL.  `cli_read_rows` copies the values into
one piece of memory of the packet's length.  As long as it reads inside the packet it
also writes inside this memory, and it gets just the values (`unpackRow_ok_iff`).

Its check of a length does not keep it inside.  Once the memory is full the room that is
left wraps around, so a column that the packet has no more value for is read from what
stands behind the packet, and written behind the memory.
-/

namespace MGMDB

open Framing

/-- How a packet cannot be read: it is refused, or the code reads behind the bytes that
are known. -/
inductive PacketFault where
  | malformed
  | outside
deriving DecidableEq, Repr

/-- The loop of `cli_read_rows` over the columns of a row.  The pointer `cp` has the rest
of the packet and what stands behind it, and `dest` counts from the place of the first
value.  There is memory for `pkt_len` bytes, but the loop may write more. -/
def unpackRow (pkt_len : Nat) : Nat → List UInt8 → Nat → Except PacketFault RowBuffer
  | 0, _, dest => .ok ⟨[], [], dest⟩
  | fields + 1, cp, dest =>
      match net_field_length cp with
      | none => .error .outside
      | some (len, cp) =>
          if len = NULL_LENGTH then
            (unpackRow pkt_len fields cp dest).map fun row => { row with data := none :: row.data }
          else if UInt64.ofNat pkt_len - 1 - .ofNat dest < len then .error .malformed
          else if cp.length < len.toNat then .error .outside
          else
            (unpackRow pkt_len fields (cp.drop len.toNat) (dest + (len.toNat + 1))).map fun row =>
              { row with
                bytes := cp.take len.toNat ++ 0 :: row.bytes
                data := some dest :: row.data }

/-! ## Values -/

/-- The value at the beginning of some bytes. -/
def takeValue (bytes : List UInt8) : Option (Option NSData × List UInt8) :=
  (net_field_length bytes).bind fun r =>
    if r.1 = NULL_LENGTH then some (none, r.2)
    else if r.2.length < r.1.toNat then none
    else some (some (r.2.take r.1.toNat), r.2.drop r.1.toNat)

/-- A value with its length in front. -/
def storeValue : Option NSData → List UInt8
  | none => [251]
  | some value => net_store_length (.ofNat value.length) ++ value

/-- The values of a row with their lengths. -/
def rowPacket (row : MYSQL_ROW) : List UInt8 := row.flatMap storeValue

/-- The client reads four bytes of a length. -/
def Short (value : Option NSData) : Prop := ∀ bytes ∈ value, bytes.length < 2 ^ 32

theorem takes_takeValue {value : Option NSData} (h : Short value) :
    Takes takeValue (storeValue value) value := by
  intro rest
  cases value with
  | none => rfl
  | some value =>
      have hlt : value.length < 2 ^ 32 := h value rfl
      have hback : (UInt64.ofNat value.length).toNat = value.length :=
        UInt64.toNat_ofNat_of_lt' (Nat.lt_trans hlt (by decide))
      have hlength := takes_net_field_length (.ofNat value.length) (value ++ rest)
      rw [hback, Nat.mod_eq_of_lt hlt] at hlength
      have hne : UInt64.ofNat value.length ≠ NULL_LENGTH := by
        intro heq
        have hnat := congrArg UInt64.toNat heq
        rw [hback] at hnat
        rw [hnat] at hlt
        exact absurd hlt (by decide)
      rw [takeValue, storeValue, List.append_assoc, hlength, Option.bind_some]
      dsimp only
      rw [if_neg hne, hback, if_neg (by rw [List.length_append]; omega), List.take_left,
        List.drop_left]

/-- The values of a row are read back, whatever stands behind them. -/
theorem takes_rowPacket {row : MYSQL_ROW} (h : ∀ value ∈ row, Short value) :
    Takes (times takeValue row.length) (rowPacket row) row := by
  have htimes : Takes (times takeValue row.length) (row.flatMap storeValue) (row.map id) :=
    Takes.times fun value hvalue => takes_takeValue (h value hvalue)
  rwa [List.map_id] at htimes

/-! ## The loop -/

theorem fixed_length {korr : List UInt8 → Nat} {skip : Nat} {pos rest : List UInt8} {n : UInt64}
    (h : fixed korr skip pos = some (n, rest)) : rest.length ≤ pos.length := by
  rw [fixed] at h
  split at h
  next =>
    obtain ⟨-, rfl⟩ := Prod.mk.inj (Option.some.inj h)
    rw [List.length_drop]
    exact Nat.sub_le _ _
  next => cases h

/-- A length takes at least one byte. -/
theorem net_field_length_lt {pos rest : List UInt8} {n : UInt64}
    (h : net_field_length pos = some (n, rest)) : rest.length < pos.length := by
  cases pos with
  | nil => cases h
  | cons b pos =>
      have hle : rest.length ≤ pos.length := by
        rw [net_field_length] at h
        split at h
        next =>
          obtain ⟨-, rfl⟩ := Prod.mk.inj (Option.some.inj h)
          exact Nat.le_refl _
        next =>
          split at h
          next =>
            obtain ⟨-, rfl⟩ := Prod.mk.inj (Option.some.inj h)
            exact Nat.le_refl _
          next =>
            split at h
            next => exact fixed_length h
            next =>
              split at h
              next => exact fixed_length h
              next => exact fixed_length h
      exact Nat.lt_succ_of_le hle

theorem fixed_append_some {korr : List UInt8 → Nat} {skip : Nat} {pos rest behind : List UInt8}
    {n : UInt64} (hkorr : skip ≤ pos.length → korr (pos ++ behind) = korr pos)
    (h : fixed korr skip pos = some (n, rest)) :
    fixed korr skip (pos ++ behind) = some (n, rest ++ behind) := by
  rw [fixed] at h
  split at h
  next hle =>
    obtain ⟨rfl, rfl⟩ := Prod.mk.inj (Option.some.inj h)
    have hlong : skip ≤ (pos ++ behind).length := by
      rw [List.length_append]
      exact Nat.le_trans hle (Nat.le_add_right _ _)
    rw [fixed, if_pos hlong, hkorr hle, List.drop_append_of_le_length hle]
  next => cases h

/-- A length is read alike whatever stands behind it. -/
theorem net_field_length_append {pos rest : List UInt8} {n : UInt64} (behind : List UInt8)
    (h : net_field_length pos = some (n, rest)) :
    net_field_length (pos ++ behind) = some (n, rest ++ behind) := by
  cases pos with
  | nil => cases h
  | cons b pos =>
      rw [net_field_length] at h
      rw [List.cons_append, net_field_length]
      split at h
      next hsmall =>
        obtain ⟨rfl, rfl⟩ := Prod.mk.inj (Option.some.inj h)
        rw [if_pos hsmall]
      next hsmall =>
        rw [if_neg hsmall]
        split at h
        next hnull =>
          obtain ⟨rfl, rfl⟩ := Prod.mk.inj (Option.some.inj h)
          rw [if_pos hnull]
        next hnull =>
          rw [if_neg hnull]
          have htake (k : Nat) (hk : k ≤ pos.length) : (pos ++ behind).take k = pos.take k :=
            List.take_append_of_le_length hk
          split at h
          next htwo =>
            rw [if_pos htwo]
            exact fixed_append_some (fun hle => congrArg load (htake 2 hle)) h
          next htwo =>
            rw [if_neg htwo]
            split at h
            next hthree =>
              rw [if_pos hthree]
              exact fixed_append_some (fun hle => congrArg load (htake 3 hle)) h
            next hthree =>
              rw [if_neg hthree]
              exact fixed_append_some
                (fun hle => congrArg load (htake 4 (Nat.le_trans (by decide) hle))) h

/-- Inside the packet there is room for a value. -/
theorem room_le {pkt_len dest n : Nat} {len : UInt64} (hlen : pkt_len < 2 ^ 64)
    (hle : dest + n < pkt_len) (hvalue : len.toNat ≤ n) :
    ¬ UInt64.ofNat pkt_len - 1 - .ofNat dest < len := by
  have hpkt : (UInt64.ofNat pkt_len).toNat = pkt_len := UInt64.toNat_ofNat_of_lt' hlen
  have hdest : (UInt64.ofNat dest).toNat = dest :=
    UInt64.toNat_ofNat_of_lt' (Nat.lt_of_le_of_lt (by omega : dest ≤ pkt_len) hlen)
  have hone : (1 : UInt64) ≤ .ofNat pkt_len := by
    rw [UInt64.le_iff_toNat_le, hpkt]
    exact Nat.one_le_of_lt hle
  have hroom : (UInt64.ofNat pkt_len - 1).toNat = pkt_len - 1 := by
    rw [UInt64.toNat_sub_of_le _ _ hone, hpkt]
    rfl
  have hdest_le : UInt64.ofNat dest ≤ .ofNat pkt_len - 1 := by
    rw [UInt64.le_iff_toNat_le, hroom, hdest]
    omega
  rw [UInt64.lt_iff_toNat_lt, UInt64.toNat_sub_of_le _ _ hdest_le, hroom, hdest]
  omega

/-- The first value and the others. -/
theorem times_takeValue_succ {fields : Nat} {cp rest : List UInt8} {row : MYSQL_ROW} :
    times takeValue (fields + 1) cp = some (row, rest) ↔
      ∃ value cp' row', takeValue cp = some (value, cp') ∧
        times takeValue fields cp' = some (row', rest) ∧ row = value :: row' := by
  rw [times, Option.bind_eq_some_iff]
  constructor
  · rintro ⟨⟨value, cp'⟩, hvalue, hmap⟩
    obtain ⟨⟨row', rest'⟩, htimes, heq⟩ := Option.map_eq_some_iff.mp hmap
    obtain ⟨rfl, rfl⟩ := Prod.mk.inj heq
    exact ⟨value, cp', row', hvalue, htimes, rfl⟩
  · rintro ⟨value, cp', row', hvalue, htimes, rfl⟩
    exact ⟨(value, cp'), hvalue, by rw [htimes, Option.map_some]⟩

/-- What `takeValue` finds. -/
theorem takeValue_eq_some {cp rest : List UInt8} {value : Option NSData} :
    takeValue cp = some (value, rest) ↔ ∃ len cp', net_field_length cp = some (len, cp') ∧
      (len = NULL_LENGTH ∧ value = none ∧ rest = cp' ∨
        len ≠ NULL_LENGTH ∧ len.toNat ≤ cp'.length ∧ value = some (cp'.take len.toNat) ∧
          rest = cp'.drop len.toNat) := by
  rw [takeValue, Option.bind_eq_some_iff]
  constructor
  · rintro ⟨⟨len, cp'⟩, hfield, h⟩
    refine ⟨len, cp', hfield, ?_⟩
    dsimp only at h
    split at h
    next hnull =>
      obtain ⟨rfl, rfl⟩ := Prod.mk.inj (Option.some.inj h)
      exact .inl ⟨hnull, rfl, rfl⟩
    next hnull =>
      split at h
      next => cases h
      next hinside =>
        obtain ⟨rfl, rfl⟩ := Prod.mk.inj (Option.some.inj h)
        exact .inr ⟨hnull, Nat.le_of_not_lt hinside, rfl, rfl⟩
  · rintro ⟨len, cp', hfield, ⟨hnull, rfl, rfl⟩ | ⟨hnull, hinside, rfl, rfl⟩⟩
    · exact ⟨(len, _), hfield, by dsimp only; rw [if_pos hnull]⟩
    · exact ⟨(len, cp'), hfield, by
        dsimp only
        rw [if_neg hnull, if_neg (Nat.not_lt_of_le hinside)]⟩

/-- Inside the packet the loop reads the values, and has room for them. -/
theorem unpackRow_of_times {pkt_len : Nat} (hlen : pkt_len < 2 ^ 64) (behind : List UInt8) :
    ∀ (fields : Nat) (cp : List UInt8) (dest : Nat), dest + cp.length ≤ pkt_len →
      ∀ {row : MYSQL_ROW} {rest : List UInt8}, times takeValue fields cp = some (row, rest) →
        unpackRow pkt_len fields (cp ++ behind) dest = .ok (storeRow row dest) ∧
          row.length = fields ∧ (storeRow row dest).last ≤ pkt_len := by
  intro fields
  induction fields with
  | zero =>
      intro cp dest hle row rest h
      cases h
      exact ⟨rfl, rfl, Nat.le_trans (Nat.le_add_right _ _) hle⟩
  | succ fields ih =>
      intro cp dest hle row rest h
      obtain ⟨value, rest', row', hvalue, htimes, rfl⟩ := times_takeValue_succ.mp h
      obtain ⟨len, cp', hfield, hvalue⟩ := takeValue_eq_some.mp hvalue
      have hlt := net_field_length_lt hfield
      rw [unpackRow, net_field_length_append behind hfield]
      dsimp only
      rcases hvalue with ⟨hnull, rfl, rfl⟩ | ⟨hnull, hinside, rfl, rfl⟩
      · obtain ⟨hrow, hlength, hlast⟩ := ih _ dest (by omega) htimes
        rw [if_pos hnull, hrow]
        exact ⟨rfl, congrArg (· + 1) hlength, hlast⟩
      · have htake : (cp'.take len.toNat).length = len.toNat := List.length_take_of_le hinside
        obtain ⟨hrow, hlength, hlast⟩ := ih (cp'.drop len.toNat) (dest + (len.toNat + 1))
          (by rw [List.length_drop]; omega) htimes
        have hlong : ¬ (cp' ++ behind).length < len.toNat := by
          rw [List.length_append]
          omega
        rw [if_neg hnull, if_neg (room_le hlen (by omega) hinside), if_neg hlong,
          List.drop_append_of_le_length hinside, List.take_append_of_le_length hinside, hrow,
          storeRow, htake]
        exact ⟨rfl, congrArg (· + 1) hlength, hlast⟩

/-- What the loop accepts are the values at the beginning of the packet. -/
theorem times_of_unpackRow {pkt_len : Nat} : ∀ (fields : Nat) (cp : List UInt8) (dest : Nat)
    {buffer : RowBuffer}, unpackRow pkt_len fields cp dest = .ok buffer →
      ∃ row rest, times takeValue fields cp = some (row, rest) := by
  intro fields
  induction fields with
  | zero => exact fun cp dest buffer h => ⟨[], cp, rfl⟩
  | succ fields ih =>
      intro cp dest buffer h
      rw [unpackRow] at h
      split at h
      next => cases h
      next len cp' hfield =>
        split at h
        next hnull =>
          cases hrow : unpackRow pkt_len fields cp' dest with
          | error fault => rw [hrow] at h; cases h
          | ok buffer' =>
              obtain ⟨row, rest, htimes⟩ := ih cp' dest hrow
              have hvalue := takeValue_eq_some.mpr ⟨len, cp', hfield, .inl ⟨hnull, rfl, rfl⟩⟩
              exact ⟨_, rest, times_takeValue_succ.mpr ⟨_, _, row, hvalue, htimes, rfl⟩⟩
        next hnull =>
          split at h
          next => cases h
          next =>
            split at h
            next => cases h
            next hinside =>
              cases hrow : unpackRow pkt_len fields (cp'.drop len.toNat)
                  (dest + (len.toNat + 1)) with
              | error fault => rw [hrow] at h; cases h
              | ok buffer' =>
                  obtain ⟨row, rest, htimes⟩ := ih _ _ hrow
                  have hvalue := takeValue_eq_some.mpr ⟨len, cp', hfield,
                    .inr ⟨hnull, Nat.le_of_not_lt hinside, rfl, rfl⟩⟩
                  exact ⟨_, rest, times_takeValue_succ.mpr ⟨_, _, row, hvalue, htimes, rfl⟩⟩

theorem length_bytes_storeRow (row : MYSQL_ROW) :
    ∀ dest, dest + (storeRow row dest).bytes.length = (storeRow row dest).last := by
  induction row with
  | nil => exact fun dest => rfl
  | cons value row ih =>
      intro dest
      cases value with
      | none => exact ih dest
      | some value =>
          have hrest := ih (dest + (value.length + 1))
          simp only [storeRow, List.length_append, List.length_cons]
          omega

/-- A packet is accepted whatever stands behind it, and always alike, just when it has a value
for every column.  Then the buffer has these values and is not longer than the packet. -/
theorem unpackRow_ok_iff {packet : List UInt8} (hlen : packet.length < 2 ^ 64) (fields : Nat)
    (buffer : RowBuffer) :
    (∀ behind, unpackRow packet.length fields (packet ++ behind) 0 = .ok buffer) ↔
      ∃ row rest, times takeValue fields packet = some (row, rest) ∧ row.length = fields ∧
        buffer = storeRow row 0 ∧ copyRow 0 buffer = row ∧ buffer.bytes.length ≤ packet.length := by
  have hzero : 0 + packet.length ≤ packet.length := Nat.le_of_eq (Nat.zero_add _)
  constructor
  · intro h
    have hinside := h []
    rw [List.append_nil] at hinside
    obtain ⟨row, rest, htimes⟩ := times_of_unpackRow fields packet 0 hinside
    obtain ⟨hrow, hlength, hlast⟩ := unpackRow_of_times hlen [] fields packet 0 hzero htimes
    obtain rfl := Except.ok.inj ((h []).symm.trans hrow)
    have hbytes := length_bytes_storeRow row 0
    exact ⟨row, rest, htimes, hlength, rfl, copyRow_storeRow row 0, by omega⟩
  · rintro ⟨row, rest, htimes, -, rfl, -⟩ behind
    exact (unpackRow_of_times hlen behind fields packet 0 hzero htimes).1

/-- A packet with two values, at the end of the buffer and in front of another length. -/
theorem unpackRow_ok_iff_two :
    unpackRow [1, (55 : UInt8), 0].length 2 ([1, 55, 0] ++ []) 0 =
        .ok (storeRow [some [55], some []] 0) ∧
      unpackRow [1, (55 : UInt8), 0].length 2 ([1, 55, 0] ++ [9]) 0 =
        .ok (storeRow [some [55], some []] 0) := by
  have hread : ∀ behind, unpackRow [1, (55 : UInt8), 0].length 2 ([1, 55, 0] ++ behind) 0 =
      .ok (storeRow [some [55], some []] 0) :=
    (unpackRow_ok_iff (by decide) 2 _).mpr
      ⟨[some [55], some []], [], by decide, rfl, rfl, by decide, by decide⟩
  exact ⟨hread [], hread [9]⟩

/-- Without the second one it is accepted all the same, with the zero that `my_net_read` puts
behind a packet, and three bytes are written to memory for two. -/
example : unpackRow [1, (55 : UInt8)].length 2 ([1, 55] ++ [0]) 0 =
    .ok (storeRow [some [55], some []] 0) := rfl

/-- The packet of a row is read back, whatever stands behind it. -/
theorem unpackRow_rowPacket {row : MYSQL_ROW} (h : ∀ value ∈ row, Short value)
    (hlen : (rowPacket row).length < 2 ^ 64) (behind : List UInt8) :
    unpackRow (rowPacket row).length row.length (rowPacket row ++ behind) 0 =
      .ok (storeRow row 0) := by
  have htakes := takes_rowPacket h []
  rw [List.append_nil] at htakes
  exact (unpackRow_of_times hlen behind row.length _ 0 (Nat.le_of_eq (Nat.zero_add _)) htakes).1

end MGMDB
