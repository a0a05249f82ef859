import MGMDB.Lexing.Interchange
import MGMDB.Literals
import MGMDB.SQLite.Tokenize

/-!
# Literals among the tokens of SQLite

A string or blob literal that stands between delimiters is one token, and the tokens
around it are the same for every such literal (`interchange`).  The exceptions are the
tokens that run over a delimiter: literals, quoted identifiers, comments and parameters
with an argument.
-/

namespace MGMDB

namespace SQLite

open Scan Lexing

/-! ## Tokens that quote -/

/-- Nothing takes the next character of a string with it. -/
def escapes : UInt8 → Bool := fun _ => false

/-- A token that begins like a literal, a quoted identifier or a comment. -/
def Encloses : List UInt8 → Prop
  | [] => False
  | c :: z =>
      (c = 0x27 ∨ c = 0x22 ∨ c = 0x60 ∨ c = 0x5B) ∨
        (c = 0x2D ∧ z.head? = some 0x2D) ∨ (c = 0x2F ∧ z.head? = some 0x2A) ∨
        ((c = 0x78 ∨ c = 0x58) ∧ z.head? = some 0x27)

instance : DecidablePred Encloses
  | [] => inferInstanceAs (Decidable False)
  | _ :: _ => inferInstanceAs (Decidable (_ ∨ _))

/-- A token that begins like a parameter with a name, which may have an argument. -/
def IsParameter : List UInt8 → Prop
  | [] => False
  | c :: _ => c = 0x24 ∨ c = 0x40 ∨ c = 0x3A ∨ c = 0x23

/-- A token that may run over a delimiter. -/
def Quoting (token : List UInt8) : Prop := Encloses token ∨ IsParameter token

/-! ## How far the parts look -/

section
variable {S : UInt8 → Prop} {x : UInt8} {k : TokenType} {f : Scanner UInt8 TokenType}

theorem take_operator {pairs : List (UInt8 × TokenType)} {c : UInt8}
    (h : ((pairs.lookup c).map fun k z => (k, z)) = some f) : ∃ k, f = fun z => (k, z) := by
  obtain ⟨k, -, rfl⟩ := Option.map_eq_some_iff.mp h
  exact ⟨k, rfl⟩

theorem localOn_operator {pairs : List (UInt8 × TokenType)}
    (hS : pairs.lookup x = none → ∀ y, S y → pairs.lookup y = none) (alone : TokenType) :
    LocalOn S x (operator alone pairs) := by
  refine LocalOn.onNext ?_ ?_ ?_ (localOn_pure alone)
  · intro hx y hy
    rw [Option.map_eq_none_iff] at hx ⊢
    exact hS hx y hy
  · intro f hf
    obtain ⟨k, rfl⟩ := take_operator hf
    exact shrinks_pure k
  · intro a f hf
    obtain ⟨k, rfl⟩ := take_operator hf
    exact localOn_pure k

theorem local_operator (alone : TokenType) (pairs : List (UInt8 × TokenType)) :
    Local x (operator alone pairs) := by
  refine (localOn_operator ?_ alone).local
  rintro hx y rfl
  exact hx

theorem shrinks_operator (alone : TokenType) (pairs : List (UInt8 × TokenType)) :
    Shrinks (operator alone pairs) := by
  refine Shrinks.onNext ?_ (shrinks_pure alone)
  intro a f hf
  obtain ⟨k, rfl⟩ := take_operator hf
  exact shrinks_pure k

theorem local_minus : Local x minus :=
  Local.onNextIf (shrinks_dropWhile _ fun _ => _) (local_dropWhile _ fun _ => _)
    (stops_pure _).local

theorem shrinks_minus : Shrinks minus :=
  Shrinks.onNextIf (shrinks_dropWhile _ fun _ => _) (shrinks_pure _)

theorem localOn_slash (hx : S x) (hstar : ¬ S 0x2A) (hslash : ¬ S 0x2F) :
    LocalOn S x slash := by
  intro q v h
  match q with
  | [] =>
      refine ⟨.slash, [], fun y v' hy => ?_⟩
      cases v' with
      | nil => rfl
      | cons b v' =>
          have hy' : y ≠ 0x2A := by
            rintro rfl
            exact hstar hy
          rw [List.nil_append, slash, if_neg hy']
  | [c] =>
      by_cases hc : c = 0x2A
      · have hcomment (y : UInt8) (v' : List UInt8) : slash ([c] ++ y :: v') =
            (.space, (upToPair 0x2A 0x2F (y :: v')).2) := if_pos hc
        simp only [hcomment] at h ⊢
        obtain ⟨closed, q', hq'⟩ := localOn_upToPair hx hslash [] v h
        simp only [List.nil_append] at hq'
        exact ⟨.space, q', fun y v' hy => by rw [hq' y v' hy]⟩
      · exact ⟨.slash, [c], fun y v' _ => if_neg hc⟩
  | c :: b :: q =>
      by_cases hc : c = 0x2A
      · have hcomment (y : UInt8) (v' : List UInt8) : slash (c :: b :: q ++ y :: v') =
            (.space, (upToPair 0x2A 0x2F (b :: q ++ y :: v')).2) := if_pos hc
        simp only [hcomment] at h ⊢
        obtain ⟨closed, q', hq'⟩ := localOn_upToPair hx hslash (b :: q) v h
        exact ⟨.space, q', fun y v' hy => by rw [hq' y v' hy]⟩
      · exact ⟨.slash, c :: b :: q, fun y v' _ => if_neg hc⟩

theorem local_slash (hstar : x ≠ 0x2A) (hslash : x ≠ 0x2F) : Local x slash :=
  (localOn_slash (S := (· = x)) rfl hstar.symm hslash.symm).local

theorem shrinks_slash : Shrinks slash := by
  intro z
  match z with
  | [] => exact Nat.le_refl _
  | [c] => exact Nat.le_refl _
  | c :: b :: z =>
      rw [slash]
      split
      · exact Nat.le_succ_of_le (shrinks_upToPair _ _ (b :: z))
      · exact Nat.le_refl _

theorem localOn_bang : LocalOn S x bang := by
  refine LocalOn.onNext ?_ ?_ ?_ (localOn_pure _)
  · intro hx
    cases hx
  · intro f hf
    obtain rfl := Option.some.inj hf
    exact shrinks_pure _
  · intro a f hf
    obtain rfl := Option.some.inj hf
    exact localOn_pure _

theorem local_bang : Local x bang := localOn_bang.local

theorem shrinks_bang : Shrinks bang := by
  refine Shrinks.onNext ?_ (shrinks_pure _)
  intro a f hf
  obtain rfl := Option.some.inj hf
  exact shrinks_pure _

theorem localOn_quoted {delim : UInt8} (hdelim : S delim → x = delim) :
    LocalOn S x (quoted delim) :=
  (localOn_upToQuote _ hdelim).map fun closed =>
    if closed then if delim = 0x27 then TokenType.string else TokenType.id else TokenType.illegal

theorem local_quoted (delim : UInt8) : Local x (quoted delim) :=
  (localOn_quoted (S := (· = x)) Eq.symm).local

theorem shrinks_quoted (delim : UInt8) : Shrinks (quoted delim) := shrinks_upToQuote _ delim

theorem localOn_bracket (hx : S x) (hS : x = 0x5D → ∀ y, S y → y = 0x5D) :
    LocalOn S x bracket :=
  (localOn_upTo hx hS).map fun before => if before.isSome then TokenType.id else TokenType.illegal

theorem local_bracket : Local x bracket :=
  (localOn_bracket (S := (· = x)) rfl fun hx _ hy => hy.trans hx).local

theorem shrinks_bracket : Shrinks bracket := shrinks_upTo 0x5D

theorem localOn_blob (hx : S x) (hS : x = 0x27 → ∀ y, S y → y = 0x27) : LocalOn S x blob :=
  (localOn_upTo hx hS).map blobType

theorem local_blob : Local x blob :=
  (localOn_blob (S := (· = x)) rfl fun hx _ hy => hy.trans hx).local

theorem shrinks_blob : Shrinks blob := shrinks_upTo 0x27

/-! ## Numbers -/

theorem not_isdigit_of_idChar {c : UInt8} (h : IdChar c = false) : sqlite3Isdigit c = false := by
  simp only [IdChar, Bool.or_eq_false_iff] at h
  exact h.1.1.1.1.1

theorem stops_fraction (hdot : x ≠ 0x2E) (hdigit : sqlite3Isdigit x = false) :
    Stops x fraction :=
  Stops.onNextIf hdot (stops_dropWhile _ hdigit fun _ => _) (stops_pure _)

theorem shrinks_fraction : Shrinks fraction :=
  Shrinks.onNextIf (shrinks_dropWhile _ fun _ => _) (shrinks_pure _)

theorem head?_append_cons (q v v' : List UInt8) :
    (q ++ x :: v).head? = (q ++ x :: v').head? := by
  cases q <;> rfl

theorem stops_exponent (hid : IdChar x = false) (hsign : x ≠ 0x2B ∧ x ≠ 0x2D) :
    Stops x (exponent k) := by
  have hdigit := not_isdigit_of_idChar hid
  have he : ¬ (x = 0x65 ∨ x = 0x45) := by
    rintro (rfl | rfl)
    · cases hid
    · cases hid
  intro q
  match q with
  | [] =>
      refine ⟨k, [], fun v => ?_⟩
      cases v with
      | nil => rfl
      | cons d v => exact if_neg fun h => he h.1
  | [e] =>
      refine ⟨k, [e], fun v => if_neg ?_⟩
      rintro ⟨-, hd | ⟨hd | hd, -⟩⟩
      · rw [hdigit] at hd
        cases hd
      · exact hsign.1 hd
      · exact hsign.2 hd
  | e :: d :: q =>
      by_cases h : (e = 0x65 ∨ e = 0x45) ∧ (sqlite3Isdigit d = true ∨
          (d = 0x2B ∨ d = 0x2D) ∧ (q ++ [x]).head?.any sqlite3Isdigit = true)
      · obtain ⟨_, q', hq'⟩ := stops_dropWhile sqlite3Isdigit hdigit (fun _ => TokenType.float) q
        refine ⟨.float, q', fun v => ?_⟩
        have hrest := congrArg Prod.snd (hq' v)
        rw [List.cons_append, List.cons_append, exponent,
          if_pos (by rw [head?_append_cons q v []]; exact h)]
        exact Prod.ext rfl hrest
      · refine ⟨k, e :: d :: q, fun v => ?_⟩
        rw [List.cons_append, List.cons_append, exponent,
          if_neg (by rw [head?_append_cons q v []]; exact h)]

theorem shrinks_exponent (k : TokenType) : Shrinks (exponent k) := by
  intro z
  match z with
  | [] => exact Nat.le_refl _
  | [e] => exact Nat.le_refl _
  | e :: d :: z =>
      rw [exponent]
      split
      · exact Nat.le_trans (length_dropWhile_le _ z) (Nat.le_add_right _ 2)
      · exact Nat.le_refl _

theorem stops_wordBehind (hid : IdChar x = false) : Stops x (wordBehind k) :=
  stops_dropWhile IdChar hid fun before => if before = [] then k else .illegal

theorem shrinks_wordBehind (k : TokenType) : Shrinks (wordBehind k) :=
  shrinks_dropWhile IdChar fun before => if before = [] then k else .illegal

theorem stops_number (hid : IdChar x = false) (hsign : x ≠ 0x2B ∧ x ≠ 0x2D ∧ x ≠ 0x2E) :
    Stops x number := by
  have hdigit := not_isdigit_of_idChar hid
  have hdigits := stops_dropWhile sqlite3Isdigit hdigit fun _ => ()
  have hfraction := hdigits.andThen (g := fun _ => fraction) fun _ =>
    stops_fraction hsign.2.2 hdigit
  have hexponent := hfraction.andThen fun k => stops_exponent hid ⟨hsign.1, hsign.2.1⟩ (k := k)
  exact hexponent.andThen fun k => stops_wordBehind hid (k := k)

theorem shrinks_number : Shrinks number := by
  have hdigits := shrinks_dropWhile sqlite3Isdigit fun _ => ()
  have hfraction := hdigits.andThen (g := fun _ => fraction) fun _ => shrinks_fraction
  exact (hfraction.andThen shrinks_exponent).andThen shrinks_wordBehind

/-! ## Parameters -/

theorem shrinks_closing : Shrinks closing := Shrinks.onNextIf (shrinks_pure _) (shrinks_pure _)

theorem localOn_closing (hS : S 0x29 → x = 0x29) : LocalOn S x closing :=
  LocalOn.onNextIf hS (shrinks_pure _) (localOn_pure _) (localOn_pure _)

/-- A character of the argument of a parameter. -/
def InArgument (c : UInt8) : Bool := !sqlite3Isspace c && c ≠ 0x29

theorem shrinks_argument : Shrinks argument := by
  have hbefore := shrinks_dropWhile InArgument fun _ => ()
  exact hbefore.andThen (g := fun _ => closing) fun _ => shrinks_closing

theorem localOn_argument (hx : S x) (hS : S 0x29 → x = 0x29)
    (hin : InArgument x = true ∨ ∀ y, S y → InArgument y = false) : LocalOn S x argument := by
  have hbefore : LocalOn S x fun z => ((), z.dropWhile InArgument) :=
    localOn_dropWhile _ hin fun _ => ()
  exact hbefore.andThen (g := fun _ => closing) hx (fun _ => localOn_closing hS) fun _ =>
    shrinks_closing

section
variable {named : Bool} {c d : UInt8} (z : List UInt8)

theorem parameter_word (hc : IdChar c = true) : parameter named (c :: z) = parameter true z := by
  cases z with
  | nil => simp [parameter, hc]
  | cons d z => simp [parameter, hc]

theorem parameter_argument (hc : IdChar c ≠ true) (h : c = 0x28 ∧ named = true) :
    parameter named (c :: z) = argument z := by
  cases z with
  | nil => simp only [parameter, if_neg hc, if_pos h]
  | cons d z => rw [parameter, if_neg hc, if_pos h]

theorem parameter_colons (hc : IdChar c ≠ true) (h : ¬ (c = 0x28 ∧ named = true))
    (hcolons : c = 0x3A ∧ d = 0x3A) : parameter named (c :: d :: z) = parameter named z := by
  rw [parameter, if_neg hc, if_neg h]
  exact if_pos hcolons

theorem parameter_end (hc : IdChar c ≠ true) (h : ¬ (c = 0x28 ∧ named = true))
    (hcolons : ¬ (c = 0x3A ∧ d = 0x3A)) : parameter named (c :: d :: z) =
      (if named then .variable else .illegal, c :: d :: z) := by
  rw [parameter, if_neg hc, if_neg h]
  exact if_neg hcolons

theorem parameter_last (hc : IdChar c ≠ true) (h : ¬ (c = 0x28 ∧ named = true)) :
    parameter named [c] = (if named then .variable else .illegal, [c]) := by
  rw [parameter, if_neg hc, if_neg h]

end

theorem shrinks_parameter (named : Bool) : Shrinks (parameter named) := by
  intro z
  induction named, z using parameter.induct with
  | case1 named => exact Nat.le_refl _
  | case2 named c z hc ih =>
      rw [parameter_word z hc]
      exact Nat.le_succ_of_le ih
  | case3 named c z hc h =>
      rw [parameter_argument z hc h]
      exact Nat.le_succ_of_le (shrinks_argument z)
  | case4 named c hc h =>
      rw [parameter_last hc h]
  | case5 named c hc h d z hcolons ih =>
      rw [parameter_colons z hc h hcolons]
      exact Nat.le_trans ih (Nat.le_add_right _ 2)
  | case6 named c hc h d z hcolons =>
      rw [parameter_end z hc h hcolons]

theorem localOn_parameter (hx : S x) (hcolon : ¬ S 0x3A) (hparen : ¬ S 0x28)
    (hclosing : S 0x29 → x = 0x29) (hin : InArgument x = true ∨ ∀ y, S y → InArgument y = false)
    (hid : IdChar x = true ∨ ∀ y, S y → IdChar y = false) (named : Bool) :
    LocalOn S x (parameter named) := by
  have hnot {y : UInt8} (hy : S y) : y ≠ 0x3A ∧ y ≠ 0x28 := by
    constructor
    · rintro rfl
      exact hcolon hy
    · rintro rfl
      exact hparen hy
  intro q v h
  induction named, q using parameter.induct with
  | case1 named =>
      rw [List.nil_append] at h
      rcases hid with hname | hid
      · -- the `x` belongs to the name
        rw [parameter_word v hname] at h
        have hle := shrinks_parameter true v
        omega
      · refine ⟨if named then .variable else .illegal, [], fun y v' hy => ?_⟩
        have hname : IdChar y ≠ true := by simp [hid y hy]
        have harg : ¬ (y = 0x28 ∧ named = true) := fun h => (hnot hy).2 h.1
        cases v' with
        | nil => exact parameter_last hname harg
        | cons d v' => exact parameter_end v' hname harg fun h => (hnot hy).1 h.1
  | case2 named c q hc ih =>
      have hgo (y : UInt8) (v' : List UInt8) : parameter named (c :: q ++ y :: v') =
          parameter true (q ++ y :: v') := parameter_word _ hc
      simp only [hgo] at h ⊢
      exact ih h
  | case3 named c q hc harg =>
      have hgo (y : UInt8) (v' : List UInt8) : parameter named (c :: q ++ y :: v') =
          argument (q ++ y :: v') := parameter_argument _ hc harg
      simp only [hgo] at h ⊢
      exact localOn_argument hx hclosing hin q v h
  | case4 named c hc harg =>
      exact ⟨_, [c], fun y v' hy => parameter_end v' hc harg fun h => (hnot hy).1 h.2⟩
  | case5 named c hc harg d q hcolons ih =>
      have hgo (y : UInt8) (v' : List UInt8) : parameter named (c :: d :: q ++ y :: v') =
          parameter named (q ++ y :: v') := parameter_colons _ hc harg hcolons
      simp only [hgo] at h ⊢
      exact ih h
  | case6 named c hc harg d q hcolons =>
      exact ⟨_, c :: d :: q, fun y v' _ => parameter_end _ hc harg hcolons⟩

/-- A test that holds of `x` or of nothing in its class. -/
theorem true_or_forall (P : UInt8 → Bool) (x : UInt8) :
    P x = true ∨ ∀ y, y = x → P y = false := by
  cases hx : P x with
  | true => exact .inl rfl
  | false =>
      right
      rintro y rfl
      exact hx

theorem local_parameter (hcolon : x ≠ 0x3A) (hparen : x ≠ 0x28) (named : Bool) :
    Local x (parameter named) :=
  (localOn_parameter (S := (· = x)) rfl hcolon.symm hparen.symm Eq.symm
    (true_or_forall InArgument x) (true_or_forall IdChar x) named).local

/-! ## Whole tokens -/

/-- What a delimiter is not. -/
theorem plain_of_delimiter {d : UInt8} (hd : Delimiter d) :
    IdChar d = false ∧ d ≠ 0x2B ∧ d ≠ 0x2D ∧ d ≠ 0x2E := by
  rcases hd with hspace | rfl | rfl | rfl | rfl
  · rcases eq_of_isspace hspace with rfl | rfl | rfl | rfl | rfl | rfl <;> decide
  all_goals decide

end

end SQLite

end MGMDB
