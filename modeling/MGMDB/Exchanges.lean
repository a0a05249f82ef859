import MGMDB.Handed
import MGMDB.MySQL.Tokens
import MGMDB.Query.Places
import MGMDB.SQLite.Tokens

/-!
# Arguments that stand for one another

Two argument lists that differ only in what is quoted, and there in strings or in data.
They have the same places, and both classes write a literal into each: an `escape` never
leaves an apostrophe on its own, nor a backslash that takes the closing one with it.
-/

namespace MGMDB

open Scan Lexing Unicode

namespace Query

section
variable {F : Foundation}

/-- A string without U+0000 whose surrogates are all in pairs. -/
structure WellFormed (s : NSString) : Prop where
  noNul : 0 ∉ s
  paired : Paired s

/-- Two arguments of a directive: the same, or where the directive quotes two strings or
two data. -/
inductive Directive.Exchanges : Directive F → Arg → Arg → Prop where
  | same {d : Directive F} {a : Arg} : d.quotes = false → d.Accepts a → Exchanges d a a
  | strings {s s' : NSString} : WellFormed s → WellFormed s' →
      Exchanges .object (.object (some (.string s))) (.object (some (.string s')))
  | data {b b' : NSData} : b.length < 2 ^ 31 → b'.length < 2 ^ 31 →
      Exchanges .object (.object (some (.data b))) (.object (some (.data b')))
  | cStrings {s s' : CString} : (stringWithUTF8String s).isSome = true →
      (stringWithUTF8String s').isSome = true →
      Exchanges .cString (.cString (some s)) (.cString (some s'))

/-- The arguments of two lists, in order. -/
def Template.Exchanges : Template F → List Arg → List Arg → Prop
  | [], _, _ => True
  | .text _ :: T, as, as' => Template.Exchanges T as as'
  | .directive .percent :: T, as, as' => Template.Exchanges T as as'
  | .directive d :: T, a :: as, a' :: as' => d.Exchanges a a' ∧ Template.Exchanges T as as'
  | .directive _ :: _, _, _ => False

/-! ## The same places -/

theorem Directive.Exchanges.symm {d : Directive F} {a a' : Arg} (h : d.Exchanges a a') :
    d.Exchanges a' a := by
  cases h with
  | same hd ha => exact .same hd ha
  | strings hs hs' => exact .strings hs' hs
  | data hb hb' => exact .data hb' hb
  | cStrings hs hs' => exact .cStrings hs' hs

theorem Directive.Exchanges.accepts {d : Directive F} {a a' : Arg} (h : d.Exchanges a a') :
    d.Accepts a := by
  cases h with
  | same _ ha => exact ha
  | strings _ _ => rfl
  | data _ _ => rfl
  | cStrings _ _ => exact ⟨rfl, by simp⟩

theorem Directive.Exchanges.literalClass_eq {d : Directive F} {a a' : Arg}
    (h : d.Exchanges a a') : literalClass a = literalClass a' := by
  cases h <;> rfl

theorem Directive.Exchanges.eq {d : Directive F} {a a' : Arg} (h : d.Exchanges a a')
    (hd : d.quotes ≠ true) : a = a' := by
  cases h with
  | same _ _ => rfl
  | strings _ _ => exact absurd rfl hd
  | data _ _ => exact absurd rfl hd
  | cStrings _ _ => exact absurd rfl hd

/-- A directive other than `%%` takes the first argument of both. -/
theorem Template.exchanges_directive {d : Directive F} {T : Template F} {ap ap' : List Arg}
    (hd : d ≠ .percent) (h : Template.Exchanges (.directive d :: T) ap ap') :
    ∃ a a' as as', ap = a :: as ∧ ap' = a' :: as' ∧ d.Exchanges a a' ∧ T.Exchanges as as' := by
  cases ap with
  | nil => cases d <;> first | exact absurd rfl hd | cases h
  | cons a as =>
    cases ap' with
    | nil => cases d <;> first | exact absurd rfl hd | cases h
    | cons a' as' =>
        cases d <;> first | exact absurd rfl hd | exact ⟨a, a', as, as', rfl, rfl, h⟩

theorem Template.exchanges_cons {d : Directive F} (hd : d ≠ .percent) {T : Template F} {a a' : Arg}
    {as as' : List Arg} (ha : d.Exchanges a a') (h : T.Exchanges as as') :
    Template.Exchanges (.directive d :: T) (a :: as) (a' :: as') := by
  cases d <;> first | exact absurd rfl hd | exact ⟨ha, h⟩

variable {T : Template F} {ap ap' : List Arg}

theorem Template.Exchanges.symm (h : T.Exchanges ap ap') : T.Exchanges ap' ap := by
  induction T generalizing ap ap' with
  | nil => trivial
  | cons piece T ih =>
    cases piece with
    | text t => exact ih h
    | directive d =>
        by_cases hd : d = .percent
        · subst hd
          exact ih h
        · obtain ⟨a, a', as, as', rfl, rfl, ha, hT⟩ := Template.exchanges_directive hd h
          exact Template.exchanges_cons hd ha.symm (ih hT)

theorem Template.Exchanges.matches (h : T.Exchanges ap ap') : T.Matches ap := by
  induction T generalizing ap ap' with
  | nil => trivial
  | cons piece T ih =>
    cases piece with
    | text t => exact ih h
    | directive d =>
        by_cases hd : d = .percent
        · subst hd
          exact ih h
        · obtain ⟨a, a', as, as', rfl, rfl, ha, hT⟩ := Template.exchanges_directive hd h
          exact Template.matches_cons hd ha.accepts (ih hT)

/-- What is not quoted is the same. -/
theorem Template.Exchanges.places_eq (Q : Quoter) (h : T.Exchanges ap ap') :
    T.places Q ap = T.places Q ap' := by
  induction T generalizing ap ap' with
  | nil => rfl
  | cons piece T ih =>
    cases piece with
    | text t => rw [Template.places, Template.places, ih h]
    | directive d =>
        by_cases hd : d = .percent
        · subst hd
          rw [Template.places, Template.places, ih h]
        · obtain ⟨a, a', as, as', rfl, rfl, ha, hT⟩ := Template.exchanges_directive hd h
          rw [Template.places_directive Q hd, Template.places_directive Q hd, ih hT]
          split
          · rw [ha.literalClass_eq]
          next hquotes => rw [ha.eq hquotes]

/-! ## Literals in the places -/

/-- A quoter that writes a literal for every string and for all data. -/
structure Quoter.Writes (Q : Quoter) (escapes : UInt8 → Bool) : Prop where
  string {s : NSString} : WellFormed s →
    ∃ w, WritesLiteral escapes .string (Q.quoteObject (some (.string s))) w
  data (b : NSData) : ∃ w, WritesLiteral escapes .data (Q.quoteObject (some (.data b))) w
  reads : Q.Reads

theorem wellFormed_of_stringWithUTF8String {s : CString} {t : NSString}
    (h : stringWithUTF8String s = some t) : WellFormed t where
  noNul := zero_not_mem_stringWithUTF8String h
  paired := by
    rw [Paired, toUtf8_of_ofUtf8 h]
    rfl

variable {Q : Quoter} {escapes : UInt8 → Bool}

theorem Quoter.Writes.rendering (hQ : Q.Writes escapes) {d : Directive F} {a a' : Arg}
    (h : d.Exchanges a a') (hd : d.quotes = true) :
    ∃ w, WritesLiteral escapes (literalClass a) (d.rendering Q a) w := by
  cases h with
  | same hfalse _ => exact absurd (hfalse.symm.trans hd) Bool.false_ne_true
  | strings hs _ => exact hQ.string hs
  | data _ _ => exact hQ.data _
  | @cStrings s s' hs _ =>
      obtain ⟨t, ht⟩ := Option.isSome_iff_exists.mp hs
      obtain ⟨w, hw⟩ := hQ.string (wellFormed_of_stringWithUTF8String ht)
      have hquote : Q.quoteChar s = Q.quoteObject (some (.string t)) := by
        rw [hQ.reads.quoteChar_eq, ht, Option.map_some]
      refine ⟨w, ?_⟩
      rw [← hquote] at hw
      exact hw

/-- The literals of a text, with their bytes. -/
theorem Quoter.Writes.literals (hQ : Q.Writes escapes) (h : T.Exchanges ap ap') :
    ∃ lits : List (NSString × List UInt8), lits.map Prod.fst = T.literals Q ap ∧
      List.Forall₂ (fun h l => WritesLiteral escapes h.1 l.1 l.2) (T.places Q ap).2 lits := by
  induction T generalizing ap ap' with
  | nil => exact ⟨[], rfl, .nil⟩
  | cons piece T ih =>
    cases piece with
    | text t => exact ih h
    | directive d =>
        by_cases hd : d = .percent
        · subst hd
          exact ih h
        · obtain ⟨a, a', as, as', rfl, rfl, ha, hT⟩ := Template.exchanges_directive hd h
          obtain ⟨lits, hfst, hall⟩ := ih hT
          rw [Template.places_directive Q hd, Template.literals_directive Q hd]
          split
          next hquotes =>
            obtain ⟨w, hw⟩ := hQ.rendering ha hquotes
            refine ⟨(d.rendering Q a, w) :: lits, ?_, .cons hw hall⟩
            rw [List.map_cons, hfst]
          next => exact ⟨lits, hfst, hall⟩

end

end Query

/-! ## Strings between apostrophes -/

section
variable {escapes : UInt8 → Bool} {esc : unichar → List unichar}

theorem toUInt8_ne {u c : unichar} (hu : u < 0x80) (hc : c < 0x80) (h : u ≠ c) :
    u.toUInt8 ≠ c.toUInt8 := by
  intro heq
  have hu : u.toNat < 0x80 := UInt16.lt_iff_toNat_lt.mp hu
  have hc : c.toNat < 0x80 := UInt16.lt_iff_toNat_lt.mp hc
  have h8 := congrArg UInt8.toNat heq
  rw [UInt16.toNat_toUInt8, UInt16.toNat_toUInt8, Nat.mod_eq_of_lt (by omega),
    Nat.mod_eq_of_lt (by omega)] at h8
  exact h (UInt16.toNat_inj.mp h8)

/-- A character that is put between apostrophes as it is. -/
theorem ascii_plain {u : unichar} (hu : u < 0x80) (hesc : esc u = [u])
    (hplain : escapes u.toUInt8 ≠ true) (hquote : u ≠ 0x27) :
    Rewriting.Ascii esc (fun _ out => Body escapes 0x27 out) u := by
  rw [Rewriting.Ascii, hesc]
  exact ⟨by simpa using hu, .plain hplain (toUInt8_ne hu (by decide) hquote) .nil⟩

/-- An escape that leaves what is not ASCII alone writes the body of a string. -/
theorem rewriting_body (hescapes : ∀ b, 0x80 ≤ b → escapes b ≠ true)
    (hwide : ∀ u, 0x80 ≤ u → esc u = [u]) :
    Rewriting esc fun _ out => Body escapes 0x27 out where
  nil := .nil
  append ha hb := ha.append hb
  wide h := body_of_plain fun b hb => by
    refine ⟨hescapes b (h b hb), ?_⟩
    rintro rfl
    exact absurd (h _ hb) (by decide)
  wide_unit hu := hwide _ hu

/-- The literal of a string. -/
theorem writesLiteral_string (F : Foundation) {escape : NSString → NSString} {s : NSString}
    {body : List UInt8} (hbody : UTF8String (escape s) = some body)
    (h : Body escapes 0x27 body) (hzero : 0 ∉ escape s) :
    Query.WritesLiteral escapes .string (quoteObjectWith escape F (some (.string s)))
      (0x27 :: (body ++ [0x27])) := by
  have hutf8 : UTF8String (quoteObjectWith escape F (some (.string s))) =
      some (0x27 :: (body ++ [0x27])) := by
    have hquote : ∀ v ∈ (lit "'").head?, isLow v = false := by
      intro v hv
      obtain rfl := Option.some.inj hv
      rfl
    rw [UTF8String] at hbody
    rw [quoteObjectWith, List.append_assoc, UTF8String, toUtf8_ascii_append (by simp [lit]),
      toUtf8_append _ hquote, hbody]
    rfl
  refine ⟨hutf8, ⟨body, h, rfl⟩, ?_, ?_, lit "'" ++ escape s, 0x27, by decide, rfl⟩
  · rw [zero_mem_of_toUtf8 hutf8, zero_mem_quoteObjectWith]
    rintro (⟨t, ht, hz⟩ | hz)
    · obtain rfl := Option.some.inj ht
      exact hzero hz
    · cases hz
  · intro u hu
    obtain rfl := Option.some.inj hu
    decide

/-- A byte is written as two digits. -/
theorem isHexDigit_hexByte (byte : UInt8) :
    (hexByte byte).length = 2 ∧ ∀ u ∈ hexByte byte, IsHexDigit u.toUInt8 := by
  have hall : ∀ n : Fin 256, (hexByte (.ofNat n)).length = 2 ∧
      (hexByte (.ofNat n)).all (fun u => IsHexDigit u.toUInt8) = true := by decide +kernel
  obtain ⟨hlength, hdigits⟩ := hall ⟨byte.toNat, byte.toNat_lt⟩
  rw [UInt8.ofNat_toNat] at hlength hdigits
  exact ⟨hlength, fun u hu => of_decide_eq_true (List.all_eq_true.mp hdigits u hu)⟩

theorem isHexDigit_escapeData (b : NSData) : ∀ u ∈ escapeData b, IsHexDigit u.toUInt8 := by
  intro u hu
  obtain ⟨byte, -, hu⟩ := List.mem_flatMap.mp hu
  exact (isHexDigit_hexByte byte).2 u hu

theorem length_escapeData (b : NSData) : (escapeData b).length = 2 * b.length := by
  induction b with
  | nil => rfl
  | cons byte b ih =>
      have hcons : escapeData (byte :: b) = hexByte byte ++ escapeData b := rfl
      rw [hcons, List.length_append, (isHexDigit_hexByte byte).1, ih, List.length_cons]
      omega

/-- The literal of data. -/
theorem writesLiteral_data (F : Foundation) (escapes : UInt8 → Bool)
    (escape : NSString → NSString) (b : NSData) :
    Query.WritesLiteral escapes .data (quoteObjectWith escape F (some (.data b)))
      (0x58 :: 0x27 :: ((escapeData b).map UInt16.toUInt8 ++ [0x27])) := by
  have hutf8 : UTF8String (quoteObjectWith escape F (some (.data b))) =
      some (0x58 :: 0x27 :: ((escapeData b).map UInt16.toUInt8 ++ [0x27])) := by
    rw [quoteObjectWith, List.append_assoc, UTF8String, toUtf8_ascii_append (by simp [lit]),
      toUtf8_ascii_append (MGMLiteConnection.ascii_escapeData b)]
    rfl
  refine ⟨hutf8, ⟨_, ?_, ?_, rfl⟩, ?_, ?_, lit "X'" ++ escapeData b, 0x27, by decide, rfl⟩
  · intro c hc
    obtain ⟨u, hu, rfl⟩ := List.mem_map.mp hc
    exact isHexDigit_escapeData b u hu
  · rw [List.length_map, length_escapeData, Nat.mul_mod_right]
  · rw [zero_mem_of_toUtf8 hutf8, zero_mem_quoteObjectWith]
    rintro (⟨t, ht, -⟩ | hz)
    · cases ht
    · cases hz
  · intro u hu
    obtain rfl := Option.some.inj hu
    decide

end

/-! ## The two classes -/

namespace MGMLiteConnection

theorem rewriting_literal :
    Rewriting escapeCharacter fun _ out => Body SQLite.escapes 0x27 out :=
  rewriting_body (fun _ _ => Bool.false_ne_true) fun _ hu => rewriting_escapeCharacter.wide_unit hu

/-- An apostrophe is doubled. -/
theorem ascii_literal {u : unichar} (hu : u < 0x80) :
    Rewriting.Ascii escapeCharacter (fun _ out => Body SQLite.escapes 0x27 out) u := by
  by_cases hquote : u = 0x27
  · subst hquote
    exact ⟨by simp [escapeCharacter, lit], .doubled .nil⟩
  · exact ascii_plain hu (if_neg hquote) Bool.false_ne_true hquote

theorem writes (F : Foundation) : (quoter F).Writes SQLite.escapes where
  string {s} hs := by
    obtain ⟨bytes, hbytes⟩ := Option.isSome_iff_exists.mp hs.paired
    obtain ⟨body, hutf8, hbody⟩ := rewriting_literal.holds s (fun u _ hu => ascii_literal hu) hbytes
    rw [← escapeString_eq] at hutf8
    have hzero : 0 ∉ escapeString s := fun hz => hs.noNul ((zero_mem_escapeString s).mp hz)
    exact ⟨_, writesLiteral_string F hutf8 hbody hzero⟩
  data b := ⟨_, writesLiteral_data F _ escapeString b⟩
  reads := ⟨fun _ => rfl⟩

end MGMLiteConnection

namespace MGMMyConnection

theorem escapes_wide {b : UInt8} (hb : 0x80 ≤ b) : MySQL.escapes b ≠ true := by
  intro h
  obtain rfl : b = 0x5C := of_decide_eq_true h
  exact absurd hb (by decide)

theorem escapes_ascii {u : unichar} (hu : u < 0x80) (h : u ≠ 0x5C) :
    MySQL.escapes u.toUInt8 ≠ true :=
  fun hescapes => toUInt8_ne hu (by decide) h (of_decide_eq_true hescapes)

/-- The digits of `%04x`, behind a `u`. -/
theorem body_hex4 {u : unichar} (hu : u < 0x20) :
    Body MySQL.escapes 0x27 ((hex4 u).map UInt16.toUInt8) := by
  have hall : ∀ n : Fin 32, (hex4 (.ofNat n)).all (fun v =>
      MySQL.escapes v.toUInt8 ≠ true ∧ v.toUInt8 ≠ 0x27) = true := by decide +kernel
  have hdigits := hall ⟨u.toNat, UInt16.lt_iff_toNat_lt.mp hu⟩
  rw [UInt16.ofNat_toNat, List.all_eq_true] at hdigits
  refine body_of_plain fun b hb => ?_
  obtain ⟨v, hv, rfl⟩ := List.mem_map.mp hb
  exact of_decide_eq_true (hdigits v hv)

/-- The loop puts a backslash before a quote and before a backslash. -/
theorem ascii_literal {u : unichar} (hu : u < 0x80) :
    Rewriting.Ascii escapeCharacter (fun _ out => Body MySQL.escapes 0x27 out) u := by
  have hascii : ∀ v ∈ escapeCharacter u, v < 0x80 := by
    obtain ⟨x, xs, hesc, hall⟩ := escapeCharacter_ascii hu
    rw [hesc]
    exact fun v hv => (hall v hv).1
  have hbackslash : MySQL.escapes 0x5C = true := rfl
  by_cases h0 : u = 0x30
  · subst h0
    exact ⟨hascii, .escaped 0x30 hbackslash .nil⟩
  by_cases hquote : u = 0x27
  · subst hquote
    exact ⟨hascii, .escaped 0x27 hbackslash .nil⟩
  by_cases hd : u = 0x22
  · subst hd
    exact ⟨hascii, .escaped 0x22 hbackslash .nil⟩
  by_cases hb : u = 0x5C
  · subst hb
    exact ⟨hascii, .escaped 0x5C hbackslash .nil⟩
  by_cases hn : u = 0x0A
  · subst hn
    exact ⟨hascii, .escaped 0x6E hbackslash .nil⟩
  by_cases hr : u = 0x0D
  · subst hr
    exact ⟨hascii, .escaped 0x72 hbackslash .nil⟩
  by_cases hctl : u < 0x20
  · have hesc : escapeCharacter u = lit "\\u" ++ hex4 u := by
      simp only [escapeCharacter, h0, hquote, hd, hb, hn, hr, hctl, if_true, if_false]
    refine ⟨hascii, ?_⟩
    rw [hesc]
    exact .escaped 0x75 hbackslash (body_hex4 hctl)
  · have hesc : escapeCharacter u = [u] := by
      simp only [escapeCharacter, h0, hquote, hd, hb, hn, hr, hctl, if_false]
    exact ascii_plain hu hesc (escapes_ascii hu hb) hquote

theorem writes (F : Foundation) : (quoter F).Writes MySQL.escapes where
  string {s} hs := by
    obtain ⟨bytes, hbytes⟩ := Option.isSome_iff_exists.mp hs.paired
    have hzero : 0 ∉ escapeString s := fun hz => hs.noNul ((zero_mem_escapeString s).mp hz).1
    cases hset : rangeOfCharacterFromSet s escapeSet with
    | none =>
        -- the string goes in as it is, without a quote and without a backslash
        have hescape : escapeString s = s := by rw [escapeString, hset]
        have hplain {u : unichar} (hmem : u ∈ s) (hu : u < 0x80) :
            Rewriting.Ascii (fun u => [u]) (fun _ out => Body MySQL.escapes 0x27 out) u := by
          have hnot := rangeOfCharacterFromSet_eq_none.mp hset u hmem
          simp only [escapeSet, Bool.or_eq_false_iff, decide_eq_false_iff_not] at hnot
          exact ascii_plain hu rfl (escapes_ascii hu hnot.2) hnot.1.1
        obtain ⟨body, hutf8, hbody⟩ := (rewriting_body (fun _ => escapes_wide)
          fun _ _ => rfl).holds s (fun _ => hplain) hbytes
        rw [List.flatMap_singleton', ← hescape] at hutf8
        exact ⟨_, writesLiteral_string F hutf8 hbody hzero⟩
    | some i =>
        have hloop : escapeString s = s.flatMap escapeCharacter := by rw [escapeString, hset]
        obtain ⟨body, hutf8, hbody⟩ := (rewriting_body (fun _ => escapes_wide)
          fun _ => escapeCharacter_wide).holds s (fun u _ hu => ascii_literal hu) hbytes
        rw [← hloop] at hutf8
        exact ⟨_, writesLiteral_string F hutf8 hbody hzero⟩
  data b := ⟨_, writesLiteral_data F _ escapeString b⟩
  reads := ⟨fun _ => rfl⟩

end MGMMyConnection

end MGMDB
