import MGMDB.Framing.Pieces
import MGMDB.MySQL.Pack

/-!
# Frames

The format in which packets follow each other: a packet is cut into pieces, and every
piece stands behind its length and a number.  The numbers go on from packet to packet,
except that with compression nobody looks at them.  A block of the compressed protocol
has a header of its own, with the length before compression or zero.
-/

namespace MGMDB

open Framing

namespace NET

def NET_HEADER_SIZE : Nat := 4

def COMP_HEADER_SIZE : Nat := 3

def MAX_PACKET_LENGTH : Nat := 256 * 256 * 256 - 1

/-- What stands before a piece, or before a block if there is compression. -/
def header (compress : Bool) (pkt_nr : UInt32) (len complen : Nat) : List UInt8 :=
  int3store len ++ [pkt_nr.toUInt8] ++ if compress then int3store complen else []

/-- The length of a header. -/
def headerSize (compress : Bool) : Nat :=
  if compress then NET_HEADER_SIZE + COMP_HEADER_SIZE else NET_HEADER_SIZE

/-- The length without compression that a header tells. -/
def complenOf (compress : Bool) (bytes : List UInt8) : Nat :=
  if compress then uint3korr (bytes.drop NET_HEADER_SIZE) else 0

section
variable {compress : Bool} {nr : UInt32} {len complen : Nat}

theorem length_header (compress : Bool) (nr : UInt32) (len complen : Nat) :
    (header compress nr len complen).length = headerSize compress := by
  cases compress <;> rfl

theorem uint3korr_header (compress : Bool) (nr : UInt32) (complen : Nat)
    (h : len ≤ MAX_PACKET_LENGTH) (rest : List UInt8) :
    uint3korr (header compress nr len complen ++ rest) = len := by
  rw [header, List.append_assoc, List.append_assoc]
  exact uint3korr_append (Nat.lt_succ_of_le h) _

theorem header_number (compress : Bool) (nr : UInt32) (len complen : Nat) (rest : List UInt8) :
    (header compress nr len complen ++ rest)[3]? = some nr.toUInt8 := by
  cases compress <;> rfl

theorem complenOf_header (h : complen ≤ MAX_PACKET_LENGTH) :
    complenOf true (header true nr len complen) = complen := by
  have hdrop : (header true nr len complen).drop NET_HEADER_SIZE = int3store complen := rfl
  have hback := uint3korr_append (Nat.lt_succ_of_le h) []
  rw [List.append_nil] at hback
  rw [complenOf, if_pos rfl, hdrop, hback]

/-- Three bytes are the number that they stand for. -/
theorem int3store_uint3korr {bytes : List UInt8} (h : 3 ≤ bytes.length) :
    int3store (uint3korr bytes) = bytes.take 3 := by
  have hback := store_load (bytes.take 3)
  rwa [List.length_take_of_le h] at hback

theorem uint3korr_le (bytes : List UInt8) : uint3korr bytes ≤ MAX_PACKET_LENGTH := by
  have hlt := load_lt (bytes.take 3)
  have hpow : 256 ^ (bytes.take 3).length ≤ 256 ^ 3 :=
    Nat.pow_le_pow_right (by decide) (List.length_take_le 3 bytes)
  rw [uint3korr, MAX_PACKET_LENGTH]
  omega

theorem complenOf_le (compress : Bool) (bytes : List UInt8) :
    complenOf compress bytes ≤ MAX_PACKET_LENGTH := by
  rw [complenOf]
  split
  next => exact uint3korr_le _
  next => exact Nat.zero_le _

/-- Bytes with the right number are a header. -/
theorem eq_header {bytes : List UInt8} (hsize : bytes.length = headerSize compress)
    (hnr : bytes[3]? = some nr.toUInt8) :
    bytes = header compress nr (uint3korr bytes) (complenOf compress bytes) := by
  have hsize' : NET_HEADER_SIZE ≤ bytes.length := by
    rw [hsize, headerSize]
    split <;> decide
  have hfront : bytes.take 3 ++ [nr.toUInt8] = bytes.take NET_HEADER_SIZE := by
    have hnext : bytes.take 4 = bytes.take 3 ++ bytes[3]?.toList := List.take_add_one
    rw [NET_HEADER_SIZE, hnext, hnr]
    rfl
  rw [header, int3store_uint3korr (Nat.le_trans (by decide) hsize'), hfront, complenOf]
  split
  next hc =>
    have hrest : 3 ≤ (bytes.drop NET_HEADER_SIZE).length := by
      rw [List.length_drop, hsize, headerSize, if_pos hc]
      decide
    have hall : (bytes.drop NET_HEADER_SIZE).length ≤ 3 := by
      rw [List.length_drop, hsize, headerSize, if_pos hc]
      decide
    rw [int3store_uint3korr hrest, List.take_of_length_le hall, List.take_append_drop]
  next hc =>
    rw [List.append_nil, List.take_of_length_le]
    rw [hsize, headerSize, if_neg hc]

end

/-- A piece of a packet with its header. -/
def frame (pkt_nr : UInt32) (piece : List UInt8) : List UInt8 :=
  header false pkt_nr piece.length 0 ++ piece

/-- The frames of a packet. -/
def frames (pkt_nr : UInt32) (packet : List UInt8) : List UInt8 :=
  numbered frame (· + 1) pkt_nr (pieces MAX_PACKET_LENGTH packet)

theorem frames_append {piece : List UInt8} (h : piece.length = MAX_PACKET_LENGTH) (nr : UInt32)
    (packet : List UInt8) :
    frames nr (piece ++ packet) =
      header false nr MAX_PACKET_LENGTH 0 ++ piece ++ frames (nr + 1) packet := by
  rw [frames, pieces_append (by decide) h, numbered_cons, frame, h]
  rfl

theorem frames_of_lt {packet : List UInt8} (h : packet.length < MAX_PACKET_LENGTH) (nr : UInt32) :
    frames nr packet = header false nr packet.length 0 ++ packet := by
  rw [frames, pieces_of_lt h, numbered_cons, numbered_nil, List.append_nil, frame]

/-! ## Whatever the numbers are -/

/-- Bytes are the frames of a packet, with any numbers. -/
inductive Unframes : List UInt8 → List UInt8 → Prop where
  | last {piece : List UInt8} (nr : UInt32) : piece.length < MAX_PACKET_LENGTH →
      Unframes piece (header false nr piece.length 0 ++ piece)
  | more {piece packet bytes : List UInt8} (nr : UInt32) : piece.length = MAX_PACKET_LENGTH →
      Unframes packet bytes →
      Unframes (piece ++ packet) (header false nr MAX_PACKET_LENGTH 0 ++ (piece ++ bytes))

theorem unframes_frames (nr : UInt32) (packet : List UInt8) :
    Unframes packet (frames nr packet) := by
  induction packet using pieces.induct MAX_PACKET_LENGTH generalizing nr with
  | case1 packet h ih =>
      have hlength := List.length_take_of_le h.2
      have hmore := Unframes.more nr hlength (ih (nr + 1))
      have hframes := frames_append hlength nr (packet.drop MAX_PACKET_LENGTH)
      rw [← List.append_assoc, ← hframes, List.take_append_drop] at hmore
      exact hmore
  | case2 packet h =>
      have hlt : packet.length < MAX_PACKET_LENGTH :=
        Nat.lt_of_not_le fun hle => h ⟨by decide, hle⟩
      rw [frames_of_lt hlt]
      exact .last nr hlt

section
variable {packet packet' bytes bytes' rest rest' : List UInt8}

theorem Unframes.ne_nil (h : Unframes packet bytes) : bytes ≠ [] := by
  cases h with
  | last => exact List.append_ne_nil_of_left_ne_nil (List.cons_ne_nil _ _) _
  | more => exact List.append_ne_nil_of_left_ne_nil (List.cons_ne_nil _ _) _

/-- Two frames with the same bytes on the wire. -/
theorem header_inj {nr nr' : UInt32} {len len' : Nat} (hlen : len ≤ MAX_PACKET_LENGTH)
    (hlen' : len' ≤ MAX_PACKET_LENGTH)
    (h : header false nr len 0 ++ rest = header false nr' len' 0 ++ rest') :
    len = len' ∧ rest = rest' := by
  have hlengths := congrArg uint3korr h
  rw [uint3korr_header _ _ _ hlen, uint3korr_header _ _ _ hlen'] at hlengths
  exact ⟨hlengths, (List.append_inj h (by rw [length_header, length_header])).2⟩

theorem block_header_inj {nr nr' : UInt32} {len len' complen complen' : Nat}
    (hlen : len ≤ MAX_PACKET_LENGTH) (hlen' : len' ≤ MAX_PACKET_LENGTH)
    (hcomplen : complen ≤ MAX_PACKET_LENGTH) (hcomplen' : complen' ≤ MAX_PACKET_LENGTH)
    (h : header true nr len complen ++ rest = header true nr' len' complen' ++ rest') :
    len = len' ∧ complen = complen' ∧ rest = rest' := by
  have hlengths := congrArg uint3korr h
  rw [uint3korr_header _ _ _ hlen, uint3korr_header _ _ _ hlen'] at hlengths
  obtain ⟨hheader, hrest⟩ := List.append_inj h (by rw [length_header, length_header])
  have hothers := congrArg (complenOf true) hheader
  rw [complenOf_header hcomplen, complenOf_header hcomplen'] at hothers
  exact ⟨hlengths, hothers, hrest⟩

/-- The first frame of a packet. -/
theorem Unframes.first (h : Unframes packet bytes) :
    ∃ nr n more, bytes = header false nr n 0 ++ more ∧ n ≤ more.length ∧ n ≤ packet.length ∧
      n ≤ MAX_PACKET_LENGTH := by
  cases h with
  | last nr hlt => exact ⟨nr, _, _, rfl, Nat.le_refl _, Nat.le_refl _, Nat.le_of_lt hlt⟩
  | more nr hlength h =>
      refine ⟨nr, MAX_PACKET_LENGTH, _, rfl, ?_, ?_, Nat.le_refl _⟩
      · rw [List.length_append]
        omega
      · rw [List.length_append]
        omega

/-- The frames of a packet are not a beginning of those of another one. -/
theorem Unframes.inj (h : Unframes packet bytes) (h' : Unframes packet' bytes')
    (heq : bytes ++ rest = bytes' ++ rest') : packet = packet' ∧ rest = rest' := by
  induction h generalizing packet' bytes' with
  | @last piece nr hlt =>
      cases h' with
      | @last piece' nr' hlt' =>
          rw [List.append_assoc, List.append_assoc] at heq
          obtain ⟨hlengths, heq⟩ := header_inj (Nat.le_of_lt hlt) (Nat.le_of_lt hlt') heq
          exact List.append_inj heq hlengths
      | more nr' hlength' h' =>
          rw [List.append_assoc, List.append_assoc] at heq
          have hlengths := (header_inj (Nat.le_of_lt hlt) (Nat.le_refl _) heq).1
          exact absurd hlengths (Nat.ne_of_lt hlt)
  | @more piece packet bytes nr hlength h ih =>
      cases h' with
      | @last piece' nr' hlt' =>
          rw [List.append_assoc, List.append_assoc] at heq
          have hlengths := (header_inj (Nat.le_refl _) (Nat.le_of_lt hlt') heq).1
          exact absurd hlengths.symm (Nat.ne_of_lt hlt')
      | more nr' hlength' h' =>
          rw [List.append_assoc, List.append_assoc, List.append_assoc, List.append_assoc] at heq
          have heq := (header_inj (Nat.le_refl _) (Nat.le_refl _) heq).2
          obtain ⟨rfl, hbytes⟩ := List.append_inj heq (hlength.trans hlength'.symm)
          obtain ⟨rfl, hrest⟩ := ih h' hbytes
          exact ⟨rfl, hrest⟩

end

theorem frames_inj {packet packet' rest rest' : List UInt8} {nr nr' : UInt32}
    (h : frames nr packet ++ rest = frames nr' packet' ++ rest') :
    packet = packet' ∧ rest = rest' :=
  (unframes_frames nr packet).inj (unframes_frames nr' packet') h

/-- The frames of packets, where each packet may be numbered from anywhere on. -/
inductive Framed : List (List UInt8) → List UInt8 → Prop where
  | nil : Framed [] []
  | cons {packet : List UInt8} {packets : List (List UInt8)} {bytes : List UInt8}
      (pkt_nr : UInt32) : Framed packets bytes →
      Framed (packet :: packets) (frames pkt_nr packet ++ bytes)

/-- The pieces of packets one after the other. -/
def allPieces (packets : List (List UInt8)) : List (List UInt8) :=
  packets.flatMap (pieces MAX_PACKET_LENGTH)

/-- The frames of packets that are numbered one after the other. -/
def numberedFrames (pkt_nr : UInt32) (packets : List (List UInt8)) : List UInt8 :=
  numbered frame (· + 1) pkt_nr (allPieces packets)

theorem numberedFrames_append (pkt_nr : UInt32) (packets packets' : List (List UInt8)) :
    numberedFrames pkt_nr (packets ++ packets') = numberedFrames pkt_nr packets ++
      numberedFrames ((· + 1)^[(allPieces packets).length] pkt_nr) packets' := by
  rw [numberedFrames, allPieces, List.flatMap_append]
  exact numbered_append frame (· + 1) pkt_nr _ _

theorem numberedFrames_singleton (pkt_nr : UInt32) (packet : List UInt8) :
    numberedFrames pkt_nr [packet] = frames pkt_nr packet := by
  rw [numberedFrames, allPieces, List.flatMap_singleton]
  rfl

theorem numberedFrames_cons (pkt_nr : UInt32) (packet : List UInt8)
    (packets : List (List UInt8)) :
    numberedFrames pkt_nr (packet :: packets) = frames pkt_nr packet ++
      numberedFrames ((· + 1)^[(pieces MAX_PACKET_LENGTH packet).length] pkt_nr) packets := by
  rw [numberedFrames, allPieces, List.flatMap_cons]
  exact numbered_append frame (· + 1) pkt_nr _ _

/-- Packets may be numbered one after the other. -/
theorem framed_numberedFrames (packets : List (List UInt8)) (pkt_nr : UInt32) :
    Framed packets (numberedFrames pkt_nr packets) := by
  induction packets generalizing pkt_nr with
  | nil => exact .nil
  | cons packet packets ih =>
      rw [numberedFrames_cons]
      exact .cons pkt_nr (ih _)

/-- A beginning of the frames of some packets that are the frames of other ones. -/
theorem Framed.initial {packets packets' : List (List UInt8)} {bytes bytes' : List UInt8}
    (h : Framed packets bytes) (h' : Framed packets' bytes') (hle : bytes <+: bytes') :
    packets <+: packets' := by
  induction h generalizing packets' bytes' with
  | nil => exact List.nil_prefix
  | @cons packet packets bytes nr h ih =>
      obtain ⟨rest, hrest⟩ := hle
      rw [List.append_assoc] at hrest
      cases h' with
      | nil =>
          have hne := (unframes_frames nr packet).ne_nil
          exact absurd hrest (List.append_ne_nil_of_left_ne_nil hne _)
      | cons nr' h' =>
          obtain ⟨rfl, hbytes⟩ := frames_inj hrest
          exact List.prefix_cons_inj _ |>.mpr (ih h' ⟨rest, hbytes⟩)

end NET

end MGMDB
