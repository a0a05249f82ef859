import Mathlib.Data.List.Basic
import Mathlib.Tactic.Common

/-!
# UTF-16 and UTF-8

The two encodings of a text that a program with counted UTF-16 strings and
NUL-terminated byte strings meets.  A text is a list of characters; its UTF-8
form is the one of the standard library (`String.utf8EncodeChar`), its UTF-16
form splits the characters above U+FFFF into surrogate pairs.

`toUtf8_of_ofUtf8` says a byte list that decodes is the encoding of what it
decodes to, so nothing is lost on the way from valid UTF-8 to UTF-16.
-/

namespace Unicode

/-! ## UTF-16 -/

/-- A leading surrogate. -/
def isHigh (u : UInt16) : Bool := 0xD800 ≤ u.toNat && u.toNat < 0xDC00

/-- A trailing surrogate. -/
def isLow (u : UInt16) : Bool := 0xDC00 ≤ u.toNat && u.toNat < 0xE000

/-- The code units of one character. -/
def utf16EncodeChar (c : Char) : List UInt16 :=
  if c.toNat < 0x10000 then [UInt16.ofNat c.toNat]
  else [UInt16.ofNat (0xD800 + (c.toNat - 0x10000) / 0x400),
    UInt16.ofNat (0xDC00 + (c.toNat - 0x10000) % 0x400)]

/-- The code units of a text. -/
def utf16Encode (cs : List Char) : List UInt16 := cs.flatMap utf16EncodeChar

/-- The text of a list of code units, unless a surrogate in it is unpaired. -/
def utf16Decode : List UInt16 → Option (List Char)
  | [] => some []
  | [u] => if isHigh u || isLow u then none else some [Char.ofNat u.toNat]
  | u :: v :: us =>
      if isHigh u then
        if isLow v then
          (utf16Decode us).map
            (Char.ofNat (0x10000 + (u.toNat - 0xD800) * 0x400 + (v.toNat - 0xDC00)) :: ·)
        else none
      else if isLow u then none
      else (utf16Decode (v :: us)).map (Char.ofNat u.toNat :: ·)

/-- A unit that is no surrogate is decoded on its own. -/
theorem utf16Decode_cons {u : UInt16} (hh : isHigh u = false) (hl : isLow u = false)
    (us : List UInt16) :
    utf16Decode (u :: us) = (utf16Decode us).map (Char.ofNat u.toNat :: ·) := by
  cases us with
  | nil => simp [utf16Decode, hh, hl]
  | cons v us => simp [utf16Decode, hh, hl]

theorem toNat_ofNat_of_lt {n : Nat} (h : n < 0x10000) : (UInt16.ofNat n).toNat = n := by
  simpa using Nat.mod_eq_of_lt h

/-- Characters are no surrogates and stay below U+110000. -/
theorem char_range (c : Char) : c.toNat < 0xD800 ∨ 0xE000 ≤ c.toNat ∧ c.toNat < 0x110000 := by
  have h := c.valid
  simp only [UInt32.isValidChar, Nat.isValidChar] at h
  simp only [Char.toNat]
  omega

theorem utf16Decode_encodeChar (c : Char) (us : List UInt16) :
    utf16Decode (utf16EncodeChar c ++ us) = (utf16Decode us).map (c :: ·) := by
  have hr := char_range c
  by_cases hc : c.toNat < 0x10000
  · have hu := toNat_ofNat_of_lt hc
    have hh : isHigh (UInt16.ofNat c.toNat) = false := by
      simp only [isHigh, hu, Bool.and_eq_false_iff, decide_eq_false_iff_not]
      omega
    have hl : isLow (UInt16.ofNat c.toNat) = false := by
      simp only [isLow, hu, Bool.and_eq_false_iff, decide_eq_false_iff_not]
      omega
    simp [utf16EncodeChar, hc, utf16Decode_cons hh hl, hu]
  · obtain ⟨d, hd⟩ : ∃ d, c.toNat = 0x10000 + d := ⟨c.toNat - 0x10000, by omega⟩
    have hu : (UInt16.ofNat (0xD800 + d / 0x400)).toNat = 0xD800 + d / 0x400 :=
      toNat_ofNat_of_lt (by omega)
    have hv : (UInt16.ofNat (0xDC00 + d % 0x400)).toNat = 0xDC00 + d % 0x400 :=
      toNat_ofNat_of_lt (by omega)
    have hh : isHigh (UInt16.ofNat (0xD800 + d / 0x400)) = true := by
      simp only [isHigh, hu, Bool.and_eq_true, decide_eq_true_eq]
      omega
    have hl : isLow (UInt16.ofNat (0xDC00 + d % 0x400)) = true := by
      simp only [isLow, hv, Bool.and_eq_true, decide_eq_true_eq]
      omega
    have hsum : 0x10000 + (0xD800 + d / 0x400 - 0xD800) * 0x400 + (0xDC00 + d % 0x400 - 0xDC00)
        = c.toNat := by omega
    have hsub : c.toNat - 0x10000 = d := by omega
    simp only [utf16EncodeChar, hc, if_false, hsub, List.cons_append, List.nil_append,
      utf16Decode, hh, hl, if_true, hu, hv, hsum, Char.ofNat_toNat]

/-- Decoding the code units of a text gives the text back. -/
theorem utf16Decode_encode (cs : List Char) : utf16Decode (utf16Encode cs) = some cs := by
  induction cs with
  | nil => rfl
  | cons c cs ih =>
    rw [show utf16Encode (c :: cs) = utf16EncodeChar c ++ utf16Encode cs from rfl,
      utf16Decode_encodeChar, ih]
    rfl

theorem toNat_ofNat_of_valid {n : Nat} (h : n.isValidChar) : (Char.ofNat n).toNat = n := by
  rw [Char.ofNat, dif_pos h]
  rfl

/-- The character of a surrogate pair. -/
def pairChar (u v : UInt16) : Char :=
  Char.ofNat (0x10000 + (u.toNat - 0xD800) * 0x400 + (v.toNat - 0xDC00))

theorem isValidChar_of_unit {u : UInt16} (hh : isHigh u = false) (hl : isLow u = false) :
    u.toNat.isValidChar := by
  have := u.toNat_lt
  simp only [isHigh, isLow, Bool.and_eq_false_iff, decide_eq_false_iff_not] at hh hl
  simp only [Nat.isValidChar]
  omega

theorem utf16EncodeChar_unit {u : UInt16} (hh : isHigh u = false) (hl : isLow u = false) :
    utf16EncodeChar (Char.ofNat u.toNat) = [u] := by
  have hlt : u.toNat < 0x10000 := u.toNat_lt
  rw [utf16EncodeChar, toNat_ofNat_of_valid (isValidChar_of_unit hh hl), if_pos hlt,
    UInt16.ofNat_toNat]

theorem toNat_pairChar {u v : UInt16} (hh : isHigh u = true) (hl : isLow v = true) :
    (pairChar u v).toNat = 0x10000 + (u.toNat - 0xD800) * 0x400 + (v.toNat - 0xDC00) := by
  simp only [isHigh, isLow, Bool.and_eq_true, decide_eq_true_eq] at hh hl
  rw [pairChar, toNat_ofNat_of_valid (by simp only [Nat.isValidChar]; omega)]

theorem utf16EncodeChar_pair {u v : UInt16} (hh : isHigh u = true) (hl : isLow v = true) :
    utf16EncodeChar (pairChar u v) = [u, v] := by
  have hn := toNat_pairChar hh hl
  simp only [isHigh, isLow, Bool.and_eq_true, decide_eq_true_eq] at hh hl
  have hu : 0xD800 + ((pairChar u v).toNat - 0x10000) / 0x400 = u.toNat := by omega
  have hv : 0xDC00 + ((pairChar u v).toNat - 0x10000) % 0x400 = v.toNat := by omega
  rw [utf16EncodeChar, if_neg (by omega), hu, hv, UInt16.ofNat_toNat, UInt16.ofNat_toNat]

/-- Units with paired surrogates are the encoding of the text they decode to. -/
theorem utf16Encode_of_decode {us : List UInt16} {cs : List Char}
    (h : utf16Decode us = some cs) : utf16Encode cs = us := by
  induction us using utf16Decode.induct generalizing cs with
  | case1 =>
      obtain rfl := Option.some.inj h
      rfl
  | case2 u hu => simp [utf16Decode, hu] at h
  | case3 u hu =>
      simp only [Bool.or_eq_true, not_or, Bool.not_eq_true] at hu
      rw [utf16Decode_cons hu.1 hu.2] at h
      obtain rfl := Option.some.inj h
      exact (List.append_nil _).trans (utf16EncodeChar_unit hu.1 hu.2)
  | case4 u v us hh hl ih =>
      simp only [utf16Decode, hh, hl, if_true] at h
      obtain ⟨rest, hrest, rfl⟩ := Option.map_eq_some_iff.mp h
      rw [utf16Encode, List.flatMap_cons]
      exact congrArg₂ (· ++ ·) (utf16EncodeChar_pair hh hl) (ih hrest)
  | case5 u v us hh hl => simp [utf16Decode, hh, hl] at h
  | case6 u v us hh hl => simp [utf16Decode, hh, hl] at h
  | case7 u v us hh hl ih =>
      simp only [Bool.not_eq_true] at hh hl
      rw [utf16Decode_cons hh hl] at h
      obtain ⟨rest, hrest, rfl⟩ := Option.map_eq_some_iff.mp h
      rw [utf16Encode, List.flatMap_cons]
      exact congrArg₂ (· ++ ·) (utf16EncodeChar_unit hh hl) (ih hrest)

/-- The zero unit stands for U+0000 only. -/
theorem zero_mem_utf16EncodeChar {c : Char} (h : (0 : UInt16) ∈ utf16EncodeChar c) :
    c = Char.ofNat 0 := by
  have hr := char_range c
  have zero_of {n : Nat} (hn : n < 0x10000) (h0 : (0 : UInt16) = UInt16.ofNat n) : n = 0 := by
    have h1 := congrArg UInt16.toNat h0
    rw [toNat_ofNat_of_lt hn] at h1
    exact h1.symm
  unfold utf16EncodeChar at h
  split at h
  next hc =>
    have h0 : c.toNat = 0 := zero_of hc (by simpa using h)
    rw [← h0, Char.ofNat_toNat]
  next hc =>
    simp only [List.mem_cons, List.not_mem_nil, or_false] at h
    rcases h with h | h
    · have := zero_of (by omega) h
      omega
    · have := zero_of (by omega) h
      omega

/-! ## UTF-8 -/

/-- The bytes of a text. -/
def utf8Encode (cs : List Char) : List UInt8 := cs.flatMap String.utf8EncodeChar

/-- The text of a list of bytes, if they are valid UTF-8. -/
def utf8Decode (bytes : List UInt8) : Option (List Char) :=
  (ByteArray.utf8Decode? ⟨bytes.toArray⟩).map Array.toList

theorem utf8Encode_eq (cs : List Char) : utf8Encode cs = cs.utf8Encode.data.toList := by
  rw [utf8Encode, List.utf8Encode, List.toList_data_toByteArray]

/-- Valid bytes are the encoding of the text they decode to. -/
theorem utf8Encode_of_decode {bytes : List UInt8} {cs : List Char}
    (h : utf8Decode bytes = some cs) : utf8Encode cs = bytes := by
  obtain ⟨arr, harr, rfl⟩ := Option.map_eq_some_iff.mp h
  have hsome : ((⟨bytes.toArray⟩ : ByteArray).utf8Decode?).isSome := by simp [harr]
  have hget : ((⟨bytes.toArray⟩ : ByteArray).utf8Decode?).get hsome = arr := by simp [harr]
  have := ByteArray.utf8Encode_get_utf8Decode? (h := hsome)
  rw [hget] at this
  rw [utf8Encode_eq, this]

theorem utf8Decode_encode (cs : List Char) : utf8Decode (utf8Encode cs) = some cs := by
  rw [utf8Encode_eq, utf8Decode]
  have h : (⟨cs.utf8Encode.data.toList.toArray⟩ : ByteArray) = cs.utf8Encode := rfl
  rw [h, List.utf8Decode?_utf8Encode]
  rfl

/-! ## Between the two -/

/-- The code units of valid UTF-8. -/
def ofUtf8 (bytes : List UInt8) : Option (List UInt16) := (utf8Decode bytes).map utf16Encode

/-- The bytes of code units whose surrogates are paired. -/
def toUtf8 (units : List UInt16) : Option (List UInt8) := (utf16Decode units).map utf8Encode

/-- From bytes to code units and back nothing is lost. -/
theorem toUtf8_of_ofUtf8 {bytes : List UInt8} {units : List UInt16}
    (h : ofUtf8 bytes = some units) : toUtf8 units = some bytes := by
  obtain ⟨cs, hcs, rfl⟩ := Option.map_eq_some_iff.mp h
  rw [toUtf8, utf16Decode_encode, Option.map_some, utf8Encode_of_decode hcs]

/-- From code units to bytes and back nothing is lost. -/
theorem ofUtf8_of_toUtf8 {units : List UInt16} {bytes : List UInt8}
    (h : toUtf8 units = some bytes) : ofUtf8 bytes = some units := by
  obtain ⟨cs, hcs, rfl⟩ := Option.map_eq_some_iff.mp h
  rw [ofUtf8, utf8Decode_encode, Option.map_some, utf16Encode_of_decode hcs]

/-- Bytes without a zero decode to units without a zero. -/
theorem zero_not_mem_of_ofUtf8 {bytes : List UInt8} {units : List UInt16}
    (h : ofUtf8 bytes = some units) (hz : (0 : UInt8) ∉ bytes) : (0 : UInt16) ∉ units := by
  obtain ⟨cs, hcs, rfl⟩ := Option.map_eq_some_iff.mp h
  intro h0
  obtain ⟨c, hc, hu⟩ := List.mem_flatMap.mp h0
  apply hz
  rw [← utf8Encode_of_decode hcs]
  rw [zero_mem_utf16EncodeChar hu] at hc
  exact List.mem_flatMap.mpr ⟨_, hc, by decide⟩

/-! ## Encoding piece by piece -/

/-- Two texts may be decoded apart unless the second begins with a trailing
surrogate. -/
theorem utf16Decode_append (a : List UInt16) {b : List UInt16}
    (hb : ∀ v ∈ b.head?, isLow v = false) :
    utf16Decode (a ++ b) = (utf16Decode a).bind fun x => (utf16Decode b).map (x ++ ·) := by
  induction a using utf16Decode.induct with
  | case1 => simp [utf16Decode]
  | case2 u h =>
      -- nothing in `b` pairs with the surrogate
      rw [utf16Decode, if_pos h, List.cons_append, List.nil_append, Option.bind_none]
      cases b with
      | nil => rw [utf16Decode, if_pos h]
      | cons v vs =>
          have hv := hb v rfl
          cases hh : isHigh u with
          | true => simp [utf16Decode, hh, hv]
          | false => simp_all [utf16Decode]
  | case3 u h =>
      simp only [Bool.or_eq_true, not_or, Bool.not_eq_true] at h
      rw [List.cons_append, List.nil_append, utf16Decode_cons h.1 h.2, utf16Decode_cons h.1 h.2]
      cases utf16Decode b <;> simp [utf16Decode]
  | case4 u v us hh hl ih =>
      simp only [List.cons_append, utf16Decode, hh, hl, if_true, ih, Option.map_bind,
        Option.bind_map]
      congr 1
      funext x
      simp [Function.comp_def]
  | case5 u v us hh hl => simp [utf16Decode, hh, hl]
  | case6 u v us hh hl => simp [utf16Decode, hh, hl]
  | case7 u v us hh hl ih =>
      simp only [Bool.not_eq_true] at hh hl
      rw [List.cons_append, utf16Decode_cons hh hl, utf16Decode_cons hh hl, ih]
      cases utf16Decode (v :: us) <;> cases utf16Decode b <;> simp

theorem toUtf8_append (a : List UInt16) {b : List UInt16}
    (hb : ∀ v ∈ b.head?, isLow v = false) :
    toUtf8 (a ++ b) = (toUtf8 a).bind fun x => (toUtf8 b).map (x ++ ·) := by
  rw [toUtf8, toUtf8, toUtf8, utf16Decode_append a hb]
  cases utf16Decode a with
  | none => rfl
  | some x =>
      cases utf16Decode b with
      | none => rfl
      | some y => simp [utf8Encode]

/-! ## ASCII -/

theorem not_surrogate {u : UInt16} (h : u < 0x80) : isHigh u = false ∧ isLow u = false := by
  have hu : u.toNat < 0x80 := UInt16.lt_iff_toNat_lt.mp h
  simp only [isHigh, isLow, Bool.and_eq_false_iff, decide_eq_false_iff_not]
  omega

theorem toUtf8_cons {u : UInt16} (hu : u < 0x80) (us : List UInt16) :
    toUtf8 (u :: us) = (toUtf8 us).map (u.toUInt8 :: ·) := by
  have hn : u.toNat < 0x80 := UInt16.lt_iff_toNat_lt.mp hu
  have hvalid : u.toNat.isValidChar := .inl (by omega)
  have hchar : (Char.ofNat u.toNat).val.toNat = u.toNat := toNat_ofNat_of_valid hvalid
  have hsize : (Char.ofNat u.toNat).utf8Size = 1 := by
    have hmax : (127 : UInt32).toNat = 127 := rfl
    rw [Char.utf8Size_eq_one_iff, UInt32.le_iff_toNat_le]
    omega
  have henc : String.utf8EncodeChar (Char.ofNat u.toNat) = [u.toUInt8] := by
    rw [String.utf8EncodeChar_eq_singleton hsize, List.cons.injEq, ← UInt8.toNat_inj,
      UInt32.toNat_toUInt8, hchar]
    exact ⟨rfl, rfl⟩
  rw [toUtf8, toUtf8, utf16Decode_cons (not_surrogate hu).1 (not_surrogate hu).2, Option.map_map,
    Option.map_map]
  congr 1
  funext cs
  simp [utf8Encode, henc]

/-- ASCII is encoded as it is. -/
theorem toUtf8_ascii_append {a : List UInt16} (ha : ∀ u ∈ a, u < 0x80) (b : List UInt16) :
    toUtf8 (a ++ b) = (toUtf8 b).map (a.map UInt16.toUInt8 ++ ·) := by
  induction a with
  | nil => simp
  | cons u a ih =>
      rw [List.cons_append, toUtf8_cons (ha u List.mem_cons_self),
        ih fun v hv => ha v (List.mem_cons_of_mem _ hv), Option.map_map]
      rfl

theorem toUtf8_ascii {a : List UInt16} (ha : ∀ u ∈ a, u < 0x80) :
    toUtf8 a = some (a.map UInt16.toUInt8) := by
  have h := toUtf8_ascii_append ha []
  rw [List.append_nil] at h
  rw [h]
  simp [toUtf8, utf16Decode, utf8Encode]

/-- The bytes of a character that is not ASCII are not ASCII. -/
theorem le_of_mem_utf8EncodeChar {c : Char} (hc : 0x80 ≤ c.toNat) :
    ∀ b ∈ String.utf8EncodeChar c, 0x80 ≤ b := by
  have hv : c.val.toNat = c.toNat := rfl
  have high {n k : Nat} (hk : 0x80 ≤ k) (hn : n + k < 0x100) :
      (0x80 : UInt8) ≤ UInt8.ofNat (n + k) := by
    rw [UInt8.le_iff_toNat_le, UInt8.toNat_ofNat', Nat.mod_eq_of_lt hn]
    exact Nat.le_trans hk (Nat.le_add_left _ _)
  fun_cases String.utf8EncodeChar c with
  | case1 v h =>
      have : v = c.toNat := rfl
      omega
  | case2 v =>
      simp only [List.mem_cons, List.not_mem_nil, or_false, forall_eq_or_imp, forall_eq]
      refine ⟨high ?_ ?_, high ?_ ?_⟩ <;> omega
  | case3 v =>
      simp only [List.mem_cons, List.not_mem_nil, or_false, forall_eq_or_imp, forall_eq]
      refine ⟨high ?_ ?_, high ?_ ?_, high ?_ ?_⟩ <;> omega
  | case4 v =>
      simp only [List.mem_cons, List.not_mem_nil, or_false, forall_eq_or_imp, forall_eq]
      refine ⟨high ?_ ?_, high ?_ ?_, high ?_ ?_, high ?_ ?_⟩ <;> omega

theorem toUtf8_cons_unit {u : UInt16} (hh : isHigh u = false) (hl : isLow u = false)
    (us : List UInt16) :
    toUtf8 (u :: us) = (toUtf8 us).map (String.utf8EncodeChar (Char.ofNat u.toNat) ++ ·) := by
  rw [toUtf8, toUtf8, utf16Decode_cons hh hl, Option.map_map, Option.map_map]
  rfl

theorem toUtf8_cons_pair {u v : UInt16} (hh : isHigh u = true) (hl : isLow v = true)
    (us : List UInt16) :
    toUtf8 (u :: v :: us) = (toUtf8 us).map (String.utf8EncodeChar (pairChar u v) ++ ·) := by
  simp only [toUtf8, utf16Decode, hh, hl, if_true, Option.map_map]
  rfl

/-! ## Rewriting ASCII characters -/

/-- A rewriting of units that leaves those above ASCII alone, and a relation
between bytes before and after it that carries over to concatenations. -/
structure Rewriting (esc : UInt16 → List UInt16) (R : List UInt8 → List UInt8 → Prop) : Prop where
  nil : R [] []
  append {a a' b b' : List UInt8} : R a a' → R b b' → R (a ++ b) (a' ++ b')
  wide {bytes : List UInt8} : (∀ b ∈ bytes, 0x80 ≤ b) → R bytes bytes
  wide_unit {u : UInt16} : 0x80 ≤ u → esc u = [u]

namespace Rewriting

variable {esc : UInt16 → List UInt16} {R : List UInt8 → List UInt8 → Prop}

/-- A unit that is rewritten to ASCII, related to it. -/
def Ascii (esc : UInt16 → List UInt16) (R : List UInt8 → List UInt8 → Prop) (u : UInt16) : Prop :=
  (∀ v ∈ esc u, v < 0x80) ∧ R [u.toUInt8] ((esc u).map UInt16.toUInt8)

/-- The bytes of the rewritten units, if there are any, are related. -/
def Holds (esc : UInt16 → List UInt16) (R : List UInt8 → List UInt8 → Prop) (s : List UInt16) :
    Prop :=
  ∀ {bytes : List UInt8}, toUtf8 s = some bytes →
    ∃ bytes', toUtf8 (s.flatMap esc) = some bytes' ∧ R bytes bytes'

theorem holds_nil (h : Rewriting esc R) : Holds esc R [] := by
  intro bytes hbytes
  obtain rfl : [] = bytes := Option.some.inj hbytes
  exact ⟨[], rfl, h.nil⟩

theorem holds_cons (h : Rewriting esc R) {u : UInt16} {us : List UInt16} (hh : isHigh u = false)
    (hl : isLow u = false) (hu : u < 0x80 → Ascii esc R u) (hus : Holds esc R us) :
    Holds esc R (u :: us) := by
  intro bytes hbytes
  rcases Nat.lt_or_ge u.toNat 0x80 with hn | hn
  · have hlt : u < 0x80 := UInt16.lt_iff_toNat_lt.mpr hn
    rw [toUtf8_cons hlt] at hbytes
    obtain ⟨rest, hrest, rfl⟩ := Option.map_eq_some_iff.mp hbytes
    obtain ⟨rest', hrest', hR⟩ := hus hrest
    refine ⟨_, ?_, h.append (hu hlt).2 hR⟩
    rw [List.flatMap_cons, toUtf8_ascii_append (hu hlt).1, hrest', Option.map_some]
  · rw [toUtf8_cons_unit hh hl] at hbytes
    obtain ⟨rest, hrest, rfl⟩ := Option.map_eq_some_iff.mp hbytes
    obtain ⟨rest', hrest', hR⟩ := hus hrest
    have hge : 0x80 ≤ u := UInt16.le_iff_toNat_le.mpr hn
    have hchar : 0x80 ≤ (Char.ofNat u.toNat).toNat := by
      rwa [toNat_ofNat_of_valid (isValidChar_of_unit hh hl)]
    refine ⟨_, ?_, h.append (h.wide (le_of_mem_utf8EncodeChar hchar)) hR⟩
    rw [List.flatMap_cons, h.wide_unit hge, List.singleton_append, toUtf8_cons_unit hh hl, hrest',
      Option.map_some]

theorem holds_pair (h : Rewriting esc R) {u v : UInt16} {us : List UInt16} (hh : isHigh u = true)
    (hl : isLow v = true) (hus : Holds esc R us) : Holds esc R (u :: v :: us) := by
  intro bytes hbytes
  rw [toUtf8_cons_pair hh hl] at hbytes
  obtain ⟨rest, hrest, rfl⟩ := Option.map_eq_some_iff.mp hbytes
  obtain ⟨rest', hrest', hR⟩ := hus hrest
  have hn := toNat_pairChar hh hl
  have hhigh := hh
  have hlow := hl
  simp only [isHigh, isLow, Bool.and_eq_true, decide_eq_true_eq] at hhigh hlow
  have hu : 0x80 ≤ u := UInt16.le_iff_toNat_le.mpr (Nat.le_trans (by decide) hhigh.1)
  have hv : 0x80 ≤ v := UInt16.le_iff_toNat_le.mpr (Nat.le_trans (by decide) hlow.1)
  have hchar : 0x80 ≤ (pairChar u v).toNat := by omega
  refine ⟨_, ?_, h.append (h.wide (le_of_mem_utf8EncodeChar hchar)) hR⟩
  rw [List.flatMap_cons, List.flatMap_cons, h.wide_unit hu, h.wide_unit hv, List.singleton_append,
    List.singleton_append, toUtf8_cons_pair hh hl, hrest', Option.map_some]

/-- A rewriting that turns the ASCII units of a text into ASCII does to its bytes
what it does to the units. -/
theorem holds (h : Rewriting esc R) (s : List UInt16) (hs : ∀ u ∈ s, u < 0x80 → Ascii esc R u) :
    Holds esc R s := by
  induction s using utf16Decode.induct with
  | case1 => exact h.holds_nil
  | case2 u hu =>
      intro bytes hbytes
      simp [toUtf8, utf16Decode, hu] at hbytes
  | case3 u hu =>
      simp only [Bool.or_eq_true, not_or, Bool.not_eq_true] at hu
      exact h.holds_cons hu.1 hu.2 (hs u List.mem_cons_self) h.holds_nil
  | case4 u v us hh hl ih => exact h.holds_pair hh hl (ih fun w hw => hs w (by simp [hw]))
  | case5 u v us hh hl =>
      intro bytes hbytes
      simp [toUtf8, utf16Decode, hh, hl] at hbytes
  | case6 u v us hh hl =>
      intro bytes hbytes
      simp [toUtf8, utf16Decode, hh, hl] at hbytes
  | case7 u v us hh hl ih =>
      simp only [Bool.not_eq_true] at hh hl
      exact h.holds_cons hh hl (hs u List.mem_cons_self)
        (ih fun w hw => hs w (List.mem_cons_of_mem _ hw))

end Rewriting

/-! ## Zeros -/

/-- Only U+0000 has a zero among its bytes. -/
theorem zero_mem_utf8EncodeChar {c : Char} (h : (0 : UInt8) ∈ String.utf8EncodeChar c) :
    c = Char.ofNat 0 := by
  rcases Nat.lt_or_ge c.toNat 0x80 with hlt | hge
  · have hval : c.val.toNat = c.toNat := rfl
    have hsize : c.utf8Size = 1 := by
      have hmax : (127 : UInt32).toNat = 127 := rfl
      rw [Char.utf8Size_eq_one_iff, UInt32.le_iff_toNat_le]
      omega
    rw [String.utf8EncodeChar_eq_singleton hsize, List.mem_singleton, ← UInt8.toNat_inj,
      UInt32.toNat_toUInt8, hval] at h
    have hzero : c.toNat = 0 := by
      rw [Nat.mod_eq_of_lt (by omega)] at h
      exact h.symm
    rw [← hzero, Char.ofNat_toNat]
  · exact absurd (le_of_mem_utf8EncodeChar hge 0 h) (by decide)

/-- The bytes have a zero exactly if the units have one. -/
theorem zero_mem_of_toUtf8 {units : List UInt16} {bytes : List UInt8}
    (h : toUtf8 units = some bytes) : (0 : UInt8) ∈ bytes ↔ (0 : UInt16) ∈ units := by
  constructor
  · intro hz
    obtain ⟨cs, hcs, rfl⟩ := Option.map_eq_some_iff.mp h
    obtain ⟨c, hc, hb⟩ := List.mem_flatMap.mp hz
    rw [zero_mem_utf8EncodeChar hb] at hc
    rw [← utf16Encode_of_decode hcs]
    exact List.mem_flatMap.mpr ⟨_, hc, by decide⟩
  · intro hz
    by_cases hb : (0 : UInt8) ∈ bytes
    · exact hb
    · exact absurd hz (zero_not_mem_of_ofUtf8 (ofUtf8_of_toUtf8 h) hb)

/-! ## Surrogates -/

/-- Every surrogate has its other half beside it. -/
def Paired (units : List UInt16) : Prop := (toUtf8 units).isSome = true

theorem paired_nil : Paired [] := rfl

/-- A leading surrogate needs a trailing one behind it, and no other unit may be one. -/
theorem paired_cons (u : UInt16) (units : List UInt16) :
    Paired (u :: units) ↔
      if isHigh u then ∃ v rest, units = v :: rest ∧ isLow v = true ∧ Paired rest
      else isLow u = false ∧ Paired units := by
  simp only [Paired, toUtf8, Option.isSome_map]
  cases units with
  | nil =>
      cases hh : isHigh u <;> cases hl : isLow u <;> simp [utf16Decode, hh, hl]
  | cons v units =>
      cases hh : isHigh u <;> cases hl : isLow u <;> cases hv : isLow v <;>
        simp [utf16Decode, hh, hl, hv]

theorem paired_ascii {units : List UInt16} (h : ∀ u ∈ units, u < 0x80) (rest : List UInt16) :
    Paired (units ++ rest) ↔ Paired rest := by
  rw [Paired, Paired, toUtf8_ascii_append h, Option.isSome_map]

/-- Two texts that differ in ASCII only: where one has ASCII units, so has the other. -/
inductive Alike : List UInt16 → List UInt16 → Prop where
  | nil : Alike [] []
  | unit {a b : List UInt16} (u : UInt16) : Alike a b → Alike (u :: a) (u :: b)
  | ascii {x y : UInt16} {xs ys a b : List UInt16} : (∀ u ∈ x :: xs, u < 0x80) →
      (∀ u ∈ y :: ys, u < 0x80) → Alike a b → Alike (x :: xs ++ a) (y :: ys ++ b)

namespace Alike

variable {a b a' b' : List UInt16}

theorem refl (a : List UInt16) : Alike a a := by
  induction a with
  | nil => exact .nil
  | cons u a ih => exact .unit u ih

theorem append (h : Alike a b) (h' : Alike a' b') : Alike (a ++ a') (b ++ b') := by
  induction h with
  | nil => exact h'
  | unit u _ ih => exact .unit u ih
  | ascii hx hy _ ih =>
      rw [List.append_assoc, List.append_assoc]
      exact .ascii hx hy ih

/-- A rewriting of ASCII units to ASCII. -/
theorem flatMap {esc : UInt16 → List UInt16} (hascii : ∀ u, u < 0x80 →
    ∃ x xs, esc u = x :: xs ∧ ∀ v ∈ x :: xs, v < 0x80) (hwide : ∀ u, 0x80 ≤ u → esc u = [u])
    (s : List UInt16) : Alike (s.flatMap esc) s := by
  induction s with
  | nil => exact .nil
  | cons u s ih =>
      rw [List.flatMap_cons]
      rcases Nat.lt_or_ge u.toNat 0x80 with hlt | hge
      · have hu : u < 0x80 := UInt16.lt_iff_toNat_lt.mpr hlt
        obtain ⟨x, xs, hesc, hx⟩ := hascii u hu
        have hone : ∀ v ∈ [u], v < 0x80 := by
          intro v hv
          rw [List.mem_singleton.mp hv]
          exact hu
        rw [hesc]
        exact .ascii hx hone ih
      · rw [hwide u (UInt16.le_iff_toNat_le.mpr hge)]
        exact .unit u ih

/-- In front of both a unit finds the same. -/
theorem paired_both (h : Alike a b) :
    (Paired a ↔ Paired b) ∧ ∀ u, Paired (u :: a) ↔ Paired (u :: b) := by
  induction h with
  | nil => exact ⟨Iff.rfl, fun _ => Iff.rfl⟩
  | @unit a b v _ ih =>
      refine ⟨ih.2 v, fun u => ?_⟩
      rw [paired_cons u (v :: a), paired_cons u (v :: b)]
      split
      · constructor
        · rintro ⟨_, _, hcons, hlow, hrest⟩
          obtain ⟨rfl, rfl⟩ := List.cons.inj hcons
          exact ⟨v, b, rfl, hlow, ih.1.mp hrest⟩
        · rintro ⟨_, _, hcons, hlow, hrest⟩
          obtain ⟨rfl, rfl⟩ := List.cons.inj hcons
          exact ⟨v, a, rfl, hlow, ih.1.mpr hrest⟩
      · rw [ih.2 v]
  | @ascii x y xs ys a b hx hy _ ih =>
      have hboth : Paired (x :: xs ++ a) ↔ Paired (y :: ys ++ b) := by
        rw [paired_ascii hx, paired_ascii hy]
        exact ih.1
      refine ⟨hboth, fun u => ?_⟩
      -- no ASCII unit is the other half of a surrogate
      have hlone {z : UInt16} (hz : z < 0x80) (zs : List UInt16) :
          ¬ ∃ v rest, z :: zs = v :: rest ∧ isLow v = true ∧ Paired rest := by
        rintro ⟨v, rest, hcons, hlow, -⟩
        obtain ⟨rfl, -⟩ := List.cons.inj hcons
        rw [(not_surrogate hz).2] at hlow
        cases hlow
      rw [paired_cons u (x :: xs ++ a), paired_cons u (y :: ys ++ b)]
      split
      · exact iff_of_false (hlone (hx x List.mem_cons_self) _) (hlone (hy y List.mem_cons_self) _)
      · rw [hboth]

theorem paired_iff (h : Alike a b) : Paired a ↔ Paired b := h.paired_both.1

end Alike

end Unicode
