import MGMDB.Foundation

/-!
# The character set of a connection

`mysql_init_character_set` takes latin1, and the program asks for no other.  So the server
reads every byte of a statement as one character, while `query:` writes it as UTF-8.  ASCII
is the same in both.  A text with other characters is never read as itself, not even with
white space around it (`ascii_of_readLatin1`).
-/

namespace MGMDB

namespace MySQL

/-- The part of `cs_to_uni` from 0x80 on where latin1 is not Unicode. -/
def cs_to_uni_80 : List unichar :=
  [0x20AC, 0x0081, 0x201A, 0x0192, 0x201E, 0x2026, 0x2020, 0x2021, 0x02C6, 0x2030, 0x0160, 0x2039,
    0x0152, 0x008D, 0x017D, 0x008F, 0x0090, 0x2018, 0x2019, 0x201C, 0x201D, 0x2022, 0x2013, 0x2014,
    0x02DC, 0x2122, 0x0161, 0x203A, 0x0153, 0x009D, 0x017E, 0x0178]

/-- `cs_to_uni`. -/
def cs_to_uni (b : UInt8) : unichar :=
  if b < 0x80 then b.toUInt16 else cs_to_uni_80.getD (b.toNat - 0x80) b.toUInt16

/-- What a server reads in a statement. -/
def readLatin1 (bytes : List UInt8) : NSString := bytes.map cs_to_uni

/-- The white space of `ctype_latin1`. -/
def my_isspace (u : unichar) : Bool := (0x09 ≤ u && u ≤ 0x0D) || u = 0x20 || u = 0xA0

/-! ## Bytes -/

theorem cs_to_uni_toUInt8 {u : unichar} (hu : u < 0x80) : cs_to_uni u.toUInt8 = u := by
  have hall : ∀ n : Fin 128, cs_to_uni (UInt16.ofNat n).toUInt8 = .ofNat n := by decide
  have hn : u.toNat < 128 := UInt16.lt_iff_toNat_lt.mp hu
  have hunit := hall ⟨u.toNat, hn⟩
  rwa [UInt16.ofNat_toNat] at hunit

/-- A character that is not ASCII, and no surrogate. -/
def IsWide (u : unichar) : Prop :=
  0x80 ≤ u ∧ Unicode.isHigh u = false ∧ Unicode.isLow u = false

instance (u : unichar) : Decidable (IsWide u) := inferInstanceAs (Decidable (_ ∧ _))

theorem isWide_cs_to_uni {b : UInt8} (hb : 0x80 ≤ b) : IsWide (cs_to_uni b) := by
  have hall : ∀ n : Fin 256, 0x80 ≤ UInt8.ofNat n → IsWide (cs_to_uni (.ofNat n)) := by
    decide +kernel
  have hbyte := hall ⟨b.toNat, b.toNat_lt⟩
  rw [UInt8.ofNat_toNat] at hbyte
  exact hbyte hb

/-- From 0xA0 on latin1 is Unicode. -/
theorem toNat_cs_to_uni_ofNat {n : Nat} (hle : 0xA0 ≤ n) (hlt : n < 0x100) :
    (cs_to_uni (.ofNat n)).toNat = n := by
  have hall : ∀ m : Fin 0x60, (cs_to_uni (.ofNat (0xA0 + m))).toNat = 0xA0 + m := by
    decide +kernel
  have hbyte := hall ⟨n - 0xA0, by omega⟩
  have hsum : 0xA0 + (n - 0xA0) = n := by omega
  simpa only [hsum] using hbyte

/-! ## Texts -/

theorem readLatin1_append (a b : List UInt8) :
    readLatin1 (a ++ b) = readLatin1 a ++ readLatin1 b := List.map_append

/-- ASCII is read as it was written. -/
theorem readLatin1_ascii {s : NSString} (hs : ∀ u ∈ s, u < 0x80) :
    readLatin1 (s.map UInt16.toUInt8) = s := by
  rw [readLatin1, List.map_map]
  refine (List.map_congr_left fun u hu => ?_).trans (List.map_id s)
  exact cs_to_uni_toUInt8 (hs u hu)

/-- No ASCII character comes from one that is none. -/
theorem count_readLatin1_le {u : unichar} (hu : u < 0x80) {s : NSString} {bytes : List UInt8}
    (h : UTF8String s = some bytes) : (readLatin1 bytes).count u ≤ s.count u := by
  obtain ⟨cs, hcs, rfl⟩ := Option.map_eq_some_iff.mp h
  rw [← Unicode.utf16Encode_of_decode hcs]
  clear h hcs
  induction cs with
  | nil => exact Nat.le_refl 0
  | cons c cs ih =>
      have hbytes : Unicode.utf8Encode (c :: cs) =
          String.utf8EncodeChar c ++ Unicode.utf8Encode cs := rfl
      have hunits : Unicode.utf16Encode (c :: cs) =
          Unicode.utf16EncodeChar c ++ Unicode.utf16Encode cs := rfl
      rw [hbytes, hunits, readLatin1_append, List.count_append, List.count_append]
      refine Nat.add_le_add ?_ ih
      rcases Nat.lt_or_ge c.toNat 0x80 with hlt | hge
      · have hc : UInt16.ofNat c.toNat < 0x80 := by
          rw [UInt16.lt_iff_toNat_lt, Unicode.toNat_ofNat_of_lt (by omega)]
          exact hlt
        have hone : Unicode.utf16EncodeChar c = [.ofNat c.toNat] := if_pos (by omega)
        have hbyte : String.utf8EncodeChar c = [UInt16.ofNat c.toNat].map UInt16.toUInt8 := by
          have hascii := Unicode.toUtf8_ascii (List.forall_mem_singleton.mpr hc)
          rw [← hone, Unicode.toUtf8] at hascii
          have hdecode := Unicode.utf16Decode_encode [c]
          rw [Unicode.utf16Encode, List.flatMap_singleton] at hdecode
          rw [hdecode, Option.map_some] at hascii
          rw [← hone, ← Option.some.inj hascii, Unicode.utf8Encode, List.flatMap_singleton]
        rw [hbyte, readLatin1_ascii (List.forall_mem_singleton.mpr hc), hone]
      · have hnone : u ∉ readLatin1 (String.utf8EncodeChar c) := by
          intro hmem
          obtain ⟨b, hb, rfl⟩ := List.mem_map.mp hmem
          have hwide := (isWide_cs_to_uni (Unicode.le_of_mem_utf8EncodeChar hge b hb)).1
          exact absurd (UInt16.lt_of_lt_of_le hu hwide) (UInt16.lt_irrefl _)
        rw [List.count_eq_zero_of_not_mem hnone]
        exact Nat.zero_le _

/-! ## Characters of the Basic Multilingual Plane -/

/-- What is read for one unit. -/
def readUnit (u : unichar) : NSString :=
  readLatin1 (String.utf8EncodeChar (Char.ofNat u.toNat))

/-- The units of a text without surrogates are read one after the other. -/
theorem readLatin1_eq_flatMap {s : NSString} {bytes : List UInt8}
    (hs : ∀ u ∈ s, Unicode.isHigh u = false ∧ Unicode.isLow u = false)
    (h : UTF8String s = some bytes) : readLatin1 bytes = s.flatMap readUnit := by
  induction s generalizing bytes with
  | nil =>
      obtain rfl : [] = bytes := Option.some.inj h
      rfl
  | cons u s ih =>
      obtain ⟨hu, hs⟩ := List.forall_mem_cons.mp hs
      rw [UTF8String, Unicode.toUtf8_cons_unit hu.1 hu.2] at h
      obtain ⟨rest, hrest, rfl⟩ := Option.map_eq_some_iff.mp h
      rw [readLatin1_append, ih hs hrest]
      rfl

theorem readUnit_ascii {u : unichar} (hu : u < 0x80) : readUnit u = [u] := by
  have hascii := Unicode.toUtf8_cons hu []
  have hsurrogate := Unicode.not_surrogate hu
  rw [Unicode.toUtf8_cons_unit hsurrogate.1 hsurrogate.2] at hascii
  have hbytes : String.utf8EncodeChar (Char.ofNat u.toNat) ++ [] = [u.toUInt8] :=
    Option.some.inj hascii
  rw [List.append_nil] at hbytes
  rw [readUnit, hbytes]
  exact congrArg (fun v => [v]) (cs_to_uni_toUInt8 hu)

/-- Nothing in what is read for a unit that is not ASCII is. -/
theorem isWide_of_mem_readUnit {u : unichar} (hu : IsWide u) : ∀ v ∈ readUnit u, IsWide v := by
  have hchar : 0x80 ≤ (Char.ofNat u.toNat).toNat := by
    rw [Unicode.toNat_ofNat_of_valid (Unicode.isValidChar_of_unit hu.2.1 hu.2.2)]
    exact UInt16.le_iff_toNat_le.mp hu.1
  intro v hv
  obtain ⟨b, hb, rfl⟩ := List.mem_map.mp hv
  exact isWide_cs_to_uni (Unicode.le_of_mem_utf8EncodeChar hchar b hb)

/-- A unit that is not ASCII is read as several.  The first is no white space, and if it is the
unit itself, U+00C3, neither is the second. -/
theorem readUnit_wide {u : unichar} (hu : IsWide u) :
    ∃ v w rest, readUnit u = v :: w :: rest ∧ v ≠ 0xA0 ∧ (v = u → w ≠ 0xA0) := by
  obtain ⟨hu, hh, hl⟩ := hu
  have hle : 0x80 ≤ u.toNat := UInt16.le_iff_toNat_le.mp hu
  have hlt : u.toNat < 0x10000 := u.toNat_lt
  have hval : (Char.ofNat u.toNat).val.toNat = u.toNat :=
    Unicode.toNat_ofNat_of_valid (Unicode.isValidChar_of_unit hh hl)
  have hlead : ∀ n, 0xC0 ≤ n → n < 0x100 → cs_to_uni (.ofNat n) ≠ 0xA0 := by
    intro n hn hlt hspace
    have htoNat := toNat_cs_to_uni_ofNat (Nat.le_trans (by decide) hn) hlt
    rw [hspace] at htoNat
    have hsmall : n = 0xA0 := htoNat.symm
    omega
  have hsame : ∀ n, 0xC0 ≤ n → n < 0x100 → cs_to_uni (.ofNat n) = u → u.toNat = n := by
    intro n hn hlt hu
    rw [← hu, toNat_cs_to_uni_ofNat (Nat.le_trans (by decide) hn) hlt]
  rw [readUnit]
  fun_cases String.utf8EncodeChar (Char.ofNat u.toNat) with
  | case1 v hv => omega
  | case2 v h1 h2 =>
      refine ⟨_, _, [], rfl, hlead _ (by omega) (by omega), fun heq => ?_⟩
      have hnat := hsame _ (by omega) (by omega) heq
      have hC3 : v = 0xC3 := by omega
      rw [hC3]
      decide
  | case3 v h1 h2 h3 =>
      refine ⟨_, _, [_], rfl, hlead _ (by omega) (by omega), fun heq => ?_⟩
      have hnat := hsame _ (by omega) (by omega) heq
      omega
  | case4 v h1 h2 h3 => omega

theorem readUnit_cons {u : unichar} (hu : Unicode.isHigh u = false ∧ Unicode.isLow u = false) :
    ∃ v rest, readUnit u = v :: rest ∧ v ≠ 0xA0 := by
  rcases Nat.lt_or_ge u.toNat 0x80 with hlt | hge
  · have hascii : u < 0x80 := UInt16.lt_iff_toNat_lt.mpr hlt
    refine ⟨u, [], readUnit_ascii hascii, ?_⟩
    rintro rfl
    exact absurd hascii (by decide)
  · obtain ⟨v, w, rest, hread, hv, -⟩ := readUnit_wide ⟨UInt16.le_iff_toNat_le.mpr hge, hu⟩
    exact ⟨v, w :: rest, hread, hv⟩

/-- Every unit brings something that is no white space. -/
theorem length_le_countP {s : NSString}
    (hs : ∀ u ∈ s, Unicode.isHigh u = false ∧ Unicode.isLow u = false) :
    s.length ≤ (s.flatMap readUnit).countP (· ≠ 0xA0) := by
  induction s with
  | nil => exact Nat.le_refl 0
  | cons u s ih =>
      obtain ⟨hu, hs⟩ := List.forall_mem_cons.mp hs
      obtain ⟨v, rest, hread, hv⟩ := readUnit_cons hu
      have hone : 1 ≤ (readUnit u).countP (· ≠ 0xA0) := by
        rw [hread, List.countP_cons_of_pos (by simpa using hv)]
        exact Nat.le_add_left 1 _
      rw [List.flatMap_cons, List.countP_append, List.length_cons, Nat.add_comm]
      exact Nat.add_le_add hone (ih hs)

/-- A text that is read as itself before white space is ASCII. -/
theorem ascii_of_flatMap_eq {s after : NSString}
    (hs : ∀ u ∈ s, Unicode.isHigh u = false ∧ Unicode.isLow u = false)
    (hafter : ∀ u ∈ after, u = 0xA0) (h : s.flatMap readUnit = s ++ after) :
    ∀ u ∈ s, u < 0x80 := by
  induction s with
  | nil => exact nofun
  | cons u s ih =>
      obtain ⟨hu, hs⟩ := List.forall_mem_cons.mp hs
      rcases Nat.lt_or_ge u.toNat 0x80 with hlt | hge
      · have hascii : u < 0x80 := UInt16.lt_iff_toNat_lt.mpr hlt
        rw [List.flatMap_cons, readUnit_ascii hascii] at h
        exact List.forall_mem_cons.mpr ⟨hascii, ih hs (List.cons.inj h).2⟩
      · -- too much of it is no white space
        obtain ⟨v, w, rest, hread, hv, hw⟩ := readUnit_wide ⟨UInt16.le_iff_toNat_le.mpr hge, hu⟩
        rw [List.flatMap_cons, hread, List.cons_append, List.cons_append, List.cons_append] at h
        obtain ⟨hvu, htail⟩ := List.cons.inj h
        have hmany := length_le_countP hs
        have hspaces : after.countP (· ≠ 0xA0) = 0 := by
          rw [List.countP_eq_zero]
          intro x hx
          simp [hafter x hx]
        have hfew : s.countP (· ≠ 0xA0) ≤ s.length := List.countP_le_length
        have hcount := congrArg (List.countP (· ≠ 0xA0)) htail
        rw [List.countP_cons_of_pos (by simpa using hw hvu), List.countP_append,
          List.countP_append, hspaces] at hcount
        omega

/-- So is one with white space around it. -/
theorem ascii_of_readLatin1 {s before after : NSString} {bytes : List UInt8}
    (hs : ∀ u ∈ s, Unicode.isHigh u = false ∧ Unicode.isLow u = false)
    (hbytes : UTF8String s = some bytes) (hbefore : ∀ u ∈ before, u = 0xA0)
    (hafter : ∀ u ∈ after, u = 0xA0) (h : readLatin1 bytes = before ++ s ++ after) :
    ∀ u ∈ s, u < 0x80 := by
  rw [readLatin1_eq_flatMap hs hbytes] at h
  cases s with
  | nil => exact nofun
  | cons u s =>
      obtain ⟨v, rest, hread, hv⟩ := readUnit_cons (hs u List.mem_cons_self)
      cases before with
      | nil => exact ascii_of_flatMap_eq hs hafter h
      | cons w before =>
          rw [List.flatMap_cons, hread] at h
          obtain rfl : v = w := (List.cons.inj h).1
          exact absurd (hbefore v List.mem_cons_self) hv

end MySQL

end MGMDB
