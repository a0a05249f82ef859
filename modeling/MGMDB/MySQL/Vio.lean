import MGMDB.Foundation

/-!
# The socket

What `read` and `write` on the socket of a session will find is a list, one entry
for every call.  A read gets at most the bytes that have arrived together, and a
write may be cut short.  With an empty list the call waits.

The library reads through `vio_read_buff`, which asks the socket for more than is
wanted and keeps the rest.
-/

namespace MGMDB

/-- What `errno` tells after a call that failed. -/
inductive Errno where
  | EINTR
  | EAGAIN
  | ETIMEDOUT
  | other
deriving DecidableEq, Repr

/-- What a `read` finds: bytes that arrived together, the end, or an error. -/
inductive Arrival where
  | bytes (first : UInt8) (more : List UInt8)
  | eof
  | error (errno : Errno)
deriving DecidableEq

/-- The bytes of an arrival. -/
def Arrival.data : Arrival → List UInt8
  | .bytes first more => first :: more
  | .eof => []
  | .error _ => []

/-- How many of the bytes a `write` takes: at most `more + 1`, or none. -/
inductive Departure where
  | taken (more : Nat)
  | none (errno : Errno)
  | error (errno : Errno)

/-- A `Vio` on a blocking socket.  The buffer is there if reads are buffered, and has
the bytes from `read_pos` to `read_end`. -/
structure Vio where
  read_buffer : Option (List UInt8)
  arrivals : List Arrival
  departures : List Departure
  written : List UInt8

/-- A call that did not fail moved some bytes. -/
inductive Got (α : Type) where
  | some (value : α)
  | failed (zero : Bool) (errno : Option Errno)

namespace Vio

/-- `vio_should_retry`. -/
def should_retry (errno : Option Errno) : Bool := errno = some .EAGAIN ∨ errno = some .EINTR

/-- `vio_was_interrupted`. -/
def was_interrupted (errno : Option Errno) : Bool :=
  should_retry errno ∨ errno = some .ETIMEDOUT

def VIO_UNBUFFERED_READ_MIN_SIZE : Nat := 2048

def VIO_READ_BUFFER_SIZE : Nat := 16384

/-- `vio_read` of at least one byte, or `none` while it waits. -/
def vio_read (vio : Vio) (size : Nat) : Option (Got (List UInt8) × Vio) :=
  match vio.arrivals with
  | [] => none
  | .bytes first more :: arrivals =>
      match (first :: more).drop size with
      | [] => some (.some (first :: more), { vio with arrivals := arrivals })
      | c :: left => some (.some ((first :: more).take size),
          { vio with arrivals := .bytes c left :: arrivals })
  | .eof :: arrivals => some (.failed true none, { vio with arrivals := arrivals })
  | .error errno :: arrivals =>
      some (.failed false (some errno), { vio with arrivals := arrivals })

/-- `vio_read_buff` of at least one byte, with `buffer` in the buffer. -/
def vio_read_buff (vio : Vio) (buffer : List UInt8) (size : Nat) :
    Option (Got (List UInt8) × Vio) :=
  if buffer ≠ [] then
    some (.some (buffer.take size), { vio with read_buffer := some (buffer.drop size) })
  else if size < VIO_UNBUFFERED_READ_MIN_SIZE then
    match vio.vio_read VIO_READ_BUFFER_SIZE with
    | some (.some bytes, vio) =>
        some (.some (bytes.take size), { vio with read_buffer := some (bytes.drop size) })
    | other => other
  else vio.vio_read size

/-- The function behind the pointer `read`. -/
def read (vio : Vio) (size : Nat) : Option (Got (List UInt8) × Vio) :=
  match vio.read_buffer with
  | none => vio.vio_read size
  | some buffer => vio.vio_read_buff buffer size

/-- `vio_write` of a packet that is not empty. -/
def vio_write (vio : Vio) (packet : List UInt8) : Option (Got Nat × Vio) :=
  match vio.departures with
  | [] => none
  | .taken more :: departures =>
      let n := min (more + 1) packet.length
      some (.some n,
        { vio with departures := departures, written := vio.written ++ packet.take n })
  | .none errno :: departures =>
      some (.failed true (some errno), { vio with departures := departures })
  | .error errno :: departures =>
      some (.failed false (some errno), { vio with departures := departures })

/-- A write takes an entry off the list. -/
theorem departures_lt {vio vio' : Vio} {packet : List UInt8} {got : Got Nat}
    (h : vio.vio_write packet = some (got, vio')) :
    vio'.departures.length < vio.departures.length := by
  rw [vio_write] at h
  split at h
  next => cases h
  all_goals
    next hd =>
      obtain ⟨-, rfl⟩ := Prod.mk.inj (Option.some.inj h)
      rw [hd, List.length_cons]
      exact Nat.lt_succ_self _

/-- A write takes some of the bytes, or none. -/
theorem vio_write_some {vio vio' : Vio} {packet : List UInt8} {n : Nat}
    (h : vio.vio_write packet = some (.some n, vio')) :
    vio'.written = vio.written ++ packet.take n := by
  rw [vio_write] at h
  split at h
  next => cases h
  next =>
    obtain ⟨hn, rfl⟩ := Prod.mk.inj (Option.some.inj h)
    rw [← Got.some.inj hn]
  next => cases h
  next => cases h

theorem vio_write_failed {vio vio' : Vio} {packet : List UInt8} {zero : Bool}
    {errno : Option Errno} (h : vio.vio_write packet = some (.failed zero errno, vio')) :
    vio'.written = vio.written := by
  rw [vio_write] at h
  split at h
  next => cases h
  next => cases h
  all_goals
    obtain ⟨-, rfl⟩ := Prod.mk.inj (Option.some.inj h)
    rfl

/-! ## What stays to be read -/

/-- The bytes the next reads will get, in order. -/
def stream (vio : Vio) : List UInt8 :=
  vio.read_buffer.getD [] ++ vio.arrivals.flatMap Arrival.data

/-- Nothing but bytes and interrupted calls is to come. -/
def Calm (vio : Vio) : Prop :=
  ∀ a ∈ vio.arrivals, a = .error .EINTR ∨ a.data ≠ []

/-- `vio'` is `vio` after `bytes` were read. -/
structure Moves (vio : Vio) (bytes : List UInt8) (vio' : Vio) : Prop where
  stream : vio.stream = bytes ++ vio'.stream
  calm : vio.Calm → vio'.Calm
  arrivals : vio'.arrivals.length ≤ vio.arrivals.length
  departures : vio'.departures = vio.departures
  written : vio'.written = vio.written

theorem Moves.refl (vio : Vio) : vio.Moves [] vio := ⟨rfl, id, Nat.le_refl _, rfl, rfl⟩

theorem Moves.trans {vio vio' vio'' : Vio} {bytes bytes' : List UInt8}
    (h : vio.Moves bytes vio') (h' : vio'.Moves bytes' vio'') :
    vio.Moves (bytes ++ bytes') vio'' where
  stream := by rw [h.stream, h'.stream, List.append_assoc]
  calm hc := h'.calm (h.calm hc)
  arrivals := Nat.le_trans h'.arrivals h.arrivals
  departures := h'.departures.trans h.departures
  written := h'.written.trans h.written

/-! ## What a read does -/

section
variable {vio vio' : Vio} {size : Nat} {bytes : List UInt8} {zero : Bool} {errno : Option Errno}

theorem vio_read_some (hbuf : vio.read_buffer.getD [] = []) (hsize : 0 < size)
    (h : vio.vio_read size = some (.some bytes, vio')) :
    bytes ≠ [] ∧ bytes.length ≤ size ∧ vio.Moves bytes vio' := by
  rw [vio_read] at h
  split at h
  next => cases h
  next first more arrivals harrivals =>
    have hstream : vio.stream = (first :: more) ++ arrivals.flatMap Arrival.data := by
      rw [stream, hbuf, harrivals, List.nil_append, List.flatMap_cons, Arrival.data]
    split at h
    next hdrop =>
      obtain ⟨hb, rfl⟩ := Prod.mk.inj (Option.some.inj h)
      obtain rfl := Got.some.inj hb
      refine ⟨List.cons_ne_nil _ _, List.drop_eq_nil_iff.mp hdrop, ⟨?_, ?_, ?_, rfl, rfl⟩⟩
      · rw [hstream, stream, hbuf, List.nil_append]
      · intro hc a ha
        exact hc a (by rw [harrivals]; exact List.mem_cons_of_mem _ ha)
      · rw [harrivals, List.length_cons]
        exact Nat.le_succ _
    next c left hdrop =>
      -- more has arrived than was asked for, and the rest waits at the front
      obtain ⟨hb, rfl⟩ := Prod.mk.inj (Option.some.inj h)
      obtain rfl := Got.some.inj hb
      have hlen : (List.take size (first :: more)).length = size := by
        have hleft := congrArg List.length hdrop
        rw [List.length_drop, List.length_cons, List.length_cons] at hleft
        rw [List.length_take, List.length_cons]
        omega
      refine ⟨List.ne_nil_of_length_pos (by omega), Nat.le_of_eq hlen, ⟨?_, ?_, ?_, rfl, rfl⟩⟩
      · rw [hstream, stream, hbuf, List.nil_append, List.flatMap_cons, Arrival.data, ← hdrop,
          ← List.append_assoc, List.take_append_drop]
      · intro hc a ha
        rcases List.mem_cons.mp ha with rfl | ha
        · exact .inr (List.cons_ne_nil _ _)
        · exact hc a (by rw [harrivals]; exact List.mem_cons_of_mem _ ha)
      · rw [harrivals, List.length_cons, List.length_cons]
  next => cases h
  next => cases h

/-- `vio'` is `vio` after a call that failed. -/
structure Fails (vio : Vio) (zero : Bool) (errno : Option Errno) (vio' : Vio) : Prop where
  moves : vio.Moves [] vio'
  arrivals : vio'.arrivals.length < vio.arrivals.length
  calm : vio.Calm → zero = false ∧ errno = some .EINTR

/-- The next arrival is taken away. -/
theorem Fails.of_arrival {a : Arrival} {arrivals : List Arrival} (ha : vio.arrivals = a :: arrivals)
    (hdata : a.data = []) (hcalm : a = .error .EINTR → zero = false ∧ errno = some .EINTR) :
    vio.Fails zero errno { vio with arrivals := arrivals } where
  moves := by
    refine ⟨?_, ?_, ?_, rfl, rfl⟩
    · rw [stream, stream, ha, List.flatMap_cons, hdata, List.nil_append, List.nil_append]
    · intro hc b hb
      exact hc b (by rw [ha]; exact List.mem_cons_of_mem _ hb)
    · rw [ha, List.length_cons]
      exact Nat.le_succ _
  arrivals := by rw [ha, List.length_cons]; exact Nat.lt_succ_self _
  calm hc := by
    rcases hc a (by rw [ha]; exact List.mem_cons_self) with h | h
    · exact hcalm h
    · exact absurd hdata h

theorem vio_read_failed (h : vio.vio_read size = some (.failed zero errno, vio')) :
    vio.Fails zero errno vio' := by
  rw [vio_read] at h
  split at h
  next => cases h
  next => split at h <;> cases h
  next arrivals harrivals =>
    obtain ⟨hfailed, rfl⟩ := Prod.mk.inj (Option.some.inj h)
    obtain ⟨rfl, rfl⟩ := Got.failed.inj hfailed
    exact .of_arrival harrivals rfl fun h => by cases h
  next e arrivals harrivals =>
    obtain ⟨hfailed, rfl⟩ := Prod.mk.inj (Option.some.inj h)
    obtain ⟨rfl, rfl⟩ := Got.failed.inj hfailed
    exact .of_arrival harrivals rfl fun h => ⟨rfl, by rw [Arrival.error.inj h]⟩

theorem vio_read_none (h : vio.vio_read size = none) : vio.arrivals = [] := by
  rw [vio_read] at h
  split at h
  next harrivals => exact harrivals
  next => split at h <;> cases h
  next => cases h
  next => cases h

theorem vio_read_buffer {got : Got (List UInt8)} (h : vio.vio_read size = some (got, vio')) :
    vio'.read_buffer = vio.read_buffer := by
  rw [vio_read] at h
  split at h
  next => cases h
  next =>
    split at h
    all_goals
      obtain ⟨-, rfl⟩ := Prod.mk.inj (Option.some.inj h)
      rfl
  next =>
    obtain ⟨-, rfl⟩ := Prod.mk.inj (Option.some.inj h)
    rfl
  next =>
    obtain ⟨-, rfl⟩ := Prod.mk.inj (Option.some.inj h)
    rfl

/-- The bytes of the buffer come first. -/
theorem Moves.buffer {buffer : List UInt8} (hbuf : vio.read_buffer = some buffer) (n : Nat) :
    vio.Moves (buffer.take n) { vio with read_buffer := some (buffer.drop n) } where
  stream := by
    rw [Vio.stream, Vio.stream, hbuf, Option.getD_some, Option.getD_some, ← List.append_assoc,
      List.take_append_drop]
  calm := id
  arrivals := Nat.le_refl _
  departures := rfl
  written := rfl

/-- Bytes that were read may be put into the empty buffer and taken from there. -/
theorem Moves.keep (h : vio.Moves bytes vio') (hbuf : vio'.read_buffer.getD [] = []) (n : Nat) :
    vio.Moves (bytes.take n) { vio' with read_buffer := some (bytes.drop n) } where
  stream := by
    have hkept := h.stream
    rw [Vio.stream.eq_def vio', hbuf, List.nil_append] at hkept
    rw [hkept, Vio.stream, Option.getD_some, ← List.append_assoc, List.take_append_drop]
  calm := h.calm
  arrivals := h.arrivals
  departures := h.departures
  written := h.written

/-- A read gets some of the next bytes. -/
theorem read_some (hsize : 0 < size) (h : vio.read size = some (.some bytes, vio')) :
    bytes ≠ [] ∧ bytes.length ≤ size ∧ vio.Moves bytes vio' := by
  have htake : ∀ {l : List UInt8}, l ≠ [] → l.take size ≠ [] := fun hl htake =>
    (List.take_eq_nil_iff.mp htake).elim (Nat.pos_iff_ne_zero.mp hsize) hl
  rw [read] at h
  split at h
  next hbuf => exact vio_read_some (by rw [hbuf]; rfl) hsize h
  next buffer hbuf =>
    rw [vio_read_buff] at h
    split at h
    next hne =>
      obtain ⟨hb, rfl⟩ := Prod.mk.inj (Option.some.inj h)
      obtain rfl := Got.some.inj hb
      exact ⟨htake hne, List.length_take_le size buffer, .buffer hbuf size⟩
    next hne =>
      have hempty : vio.read_buffer.getD [] = [] := by
        rw [hbuf, Option.getD_some]
        exact Decidable.not_not.mp hne
      split at h
      next =>
        split at h
        next all vio'' hall =>
          obtain ⟨hb, rfl⟩ := Prod.mk.inj (Option.some.inj h)
          obtain rfl := Got.some.inj hb
          obtain ⟨hall', -, hmoves⟩ := vio_read_some hempty (by decide) hall
          have hempty' : vio''.read_buffer.getD [] = [] := by
            rw [vio_read_buffer hall, hempty]
          exact ⟨htake hall', List.length_take_le size all, hmoves.keep hempty' size⟩
        next hno => exact absurd h (hno bytes vio')
      next => exact vio_read_some hempty hsize h

theorem read_failed (h : vio.read size = some (.failed zero errno, vio')) :
    vio.Fails zero errno vio' := by
  rw [read] at h
  split at h
  next => exact vio_read_failed h
  next =>
    rw [vio_read_buff] at h
    split at h
    next => cases h
    next =>
      split at h
      next =>
        split at h
        next => cases h
        next => exact vio_read_failed h
      next => exact vio_read_failed h

/-- A read waits only when nothing is left. -/
theorem read_none (h : vio.read size = none) : vio.stream = [] := by
  have hstream : vio.read_buffer.getD [] = [] → vio.arrivals = [] → vio.stream = [] := by
    intro hbuf harrivals
    rw [stream, hbuf, harrivals]
    rfl
  rw [read] at h
  split at h
  next hbuf => exact hstream (by rw [hbuf]; rfl) (vio_read_none h)
  next buffer hbuf =>
    rw [vio_read_buff] at h
    split at h
    next => cases h
    next hne =>
      have hempty : vio.read_buffer.getD [] = [] := by
        rw [hbuf, Option.getD_some]
        exact Decidable.not_not.mp hne
      split at h
      next =>
        split at h
        next => cases h
        next => exact hstream hempty (vio_read_none h)
      next => exact hstream hempty (vio_read_none h)

end

end Vio

end MGMDB
