import Mathlib.Data.List.Forall2
import MGMDB.Lexing.Scan

/-!
# Lexing around interchangeable literals

A lexer reads one token after another off the front of a text.  What a token is
depends on the text behind it as well, so a literal that is put into a text can
change the tokens before and after it.

`Interchange` says what a lexer needs so that it does not.  There is a class of
literals that are one token each before a delimiter, and a token that ends at a
delimiter or before it does not depend on the literal behind.  A token that runs
over the delimiter into the literal has to be a quoting one.  Then the tokens of
a text with literals in it are the same for all literals, up to the literals
themselves (`Interchange.alike`), provided that for one choice of them no quoting
token runs into a literal.
-/

namespace Lexing

variable {α κ μ C : Type}

/-! ## Lexers -/

/-- A part of a text that a lexer took for one. -/
structure Token (α κ : Type) where
  kind : κ
  text : List α
deriving DecidableEq, Repr

/-- The first token of a text: its kind, its length and the mode after it. -/
structure Lexer (α κ μ : Type) where
  start : μ
  next : μ → List α → κ × Nat × μ
  next_pos : ∀ m a l, 0 < (next m (a :: l)).2.1

namespace Lexer

variable (L : Lexer α κ μ)

/-- The tokens of a text. -/
def lex (m : μ) : List α → List (Token α κ)
  | [] => []
  | a :: l =>
      ⟨(L.next m (a :: l)).1, (a :: l).take (L.next m (a :: l)).2.1⟩ ::
        lex (L.next m (a :: l)).2.2 ((a :: l).drop (L.next m (a :: l)).2.1)
termination_by l => l.length
decreasing_by
  have := L.next_pos m a l
  simp only [List.length_drop, List.length_cons]
  omega

/-- The token that begins before a place of a text and ends behind it. -/
def covering (m : μ) (l : List α) (place : Nat) : Option (Token α κ) :=
  match l with
  | [] => none
  | a :: l =>
      if place = 0 then none
      else if (L.next m (a :: l)).2.1 ≤ place then
        covering (L.next m (a :: l)).2.2 ((a :: l).drop (L.next m (a :: l)).2.1)
          (place - (L.next m (a :: l)).2.1)
      else some ⟨(L.next m (a :: l)).1, (a :: l).take (L.next m (a :: l)).2.1⟩
termination_by l.length
decreasing_by
  have := L.next_pos m a l
  simp only [List.length_drop, List.length_cons]
  omega

variable {L} {m m₁ : μ} {l : List α} {k : κ} {n place : Nat}

theorem pos_of_next (hl : l ≠ []) (h : L.next m l = (k, n, m₁)) : 0 < n := by
  obtain ⟨a, l, rfl⟩ := List.exists_cons_of_ne_nil hl
  have := L.next_pos m a l
  rw [h] at this
  exact this

theorem lex_of_next (hl : l ≠ []) (h : L.next m l = (k, n, m₁)) :
    L.lex m l = ⟨k, l.take n⟩ :: L.lex m₁ (l.drop n) := by
  obtain ⟨a, l, rfl⟩ := List.exists_cons_of_ne_nil hl
  rw [lex, h]

theorem covering_of_le (hl : l ≠ []) (h : L.next m l = (k, n, m₁)) (hle : n ≤ place) :
    L.covering m l place = L.covering m₁ (l.drop n) (place - n) := by
  have hpos := pos_of_next hl h
  obtain ⟨a, l, rfl⟩ := List.exists_cons_of_ne_nil hl
  rw [covering, if_neg (by omega), h, if_pos hle]

theorem covering_of_lt (hl : l ≠ []) (h : L.next m l = (k, n, m₁)) (hlt : place < n)
    (hplace : 0 < place) : L.covering m l place = some ⟨k, l.take n⟩ := by
  obtain ⟨a, l, rfl⟩ := List.exists_cons_of_ne_nil hl
  rw [covering, if_neg (by omega), h, if_neg (by dsimp only; omega)]

end Lexer

/-! ## Texts with places

A text with places is the text before the first place and, for each place, its
class and the text behind it. -/

/-- The text with a literal in each place. -/
def fill : List α → List (C × List α) → List (List α) → List α
  | t, (_, u) :: hs, w :: ws => t ++ (w ++ fill u hs ws)
  | t, _, _ => t

/-- What stands before each literal. -/
def prefixes : List α → List (C × List α) → List (List α) → List (List α)
  | t, (_, u) :: hs, w :: ws => t :: (prefixes u hs ws).map fun o => t ++ (w ++ o)
  | _, _, _ => []

section
variable (Delimiter : α → Prop)

/-- Nothing, or a delimiter and what follows it. -/
def Starts (t : List α) : Prop := ∀ d ∈ t.head?, Delimiter d

/-- A text whose last symbol is a delimiter. -/
def Ends (t : List α) : Prop := ∃ p d, Delimiter d ∧ t = p ++ [d]

/-- Behind each place stands a delimiter or nothing, and between two places the
text ends with a delimiter, too. -/
def Delimited : List (C × List α) → Prop
  | [] => True
  | [h] => Starts Delimiter h.2
  | h :: h' :: hs => Starts Delimiter h.2 ∧ Ends Delimiter h.2 ∧ Delimited (h' :: hs)

end

@[simp] theorem fill_nil (t : List α) (ws : List (List α)) :
    fill t ([] : List (C × List α)) ws = t := by
  cases ws <;> rfl

@[simp] theorem fill_cons (t u w : List α) (c : C) (hs : List (C × List α)) (ws : List (List α)) :
    fill t ((c, u) :: hs) (w :: ws) = t ++ (w ++ fill u hs ws) := rfl

@[simp] theorem prefixes_cons (t u w : List α) (c : C) (hs : List (C × List α))
    (ws : List (List α)) :
    prefixes t ((c, u) :: hs) (w :: ws) = t :: (prefixes u hs ws).map fun o => t ++ (w ++ o) := rfl

theorem Delimited.tail {Delimiter : α → Prop} {h : C × List α} {hs : List (C × List α)}
    (hdel : Delimited Delimiter (h :: hs)) : Delimited Delimiter hs := by
  cases hs with
  | nil => trivial
  | cons h' hs => exact hdel.2.2

/-- What stands behind a place starts with a delimiter, whatever the literals. -/
theorem Delimited.starts {Delimiter : α → Prop} {c : C} {u : List α} {hs : List (C × List α)}
    (hdel : Delimited Delimiter ((c, u) :: hs)) (ws : List (List α)) :
    Starts Delimiter (fill u hs ws) := by
  cases hs with
  | nil =>
      rw [fill_nil]
      exact hdel
  | cons h hs =>
      obtain ⟨hstarts, ⟨p, d, -, rfl⟩, -⟩ := hdel
      cases ws with
      | nil => exact hstarts
      | cons w ws =>
          intro a ha
          refine hstarts a ?_
          rw [fill_cons, List.head?_append_of_ne_nil _ (by simp)] at ha
          exact ha

/-! ## Texts cut short -/

/-- The text with places that is left when the text ends at the first symbol outside
`P`. -/
def cut (P : α → Bool) : List α → List (C × List α) → List α × List (C × List α)
  | t, [] => (t.takeWhile P, [])
  | t, (c, u) :: hs =>
      if t.all P = true then (t, (c, (cut P u hs).1) :: (cut P u hs).2) else (t.takeWhile P, [])

section
variable {P : α → Bool}

theorem takeWhile_append_of_all {t : List α} (ht : t.all P = true) (u : List α) :
    (t ++ u).takeWhile P = t ++ u.takeWhile P :=
  List.takeWhile_append_of_pos (List.all_eq_true.mp ht)

theorem takeWhile_append_of_not_all {t : List α} (ht : t.all P ≠ true) (u : List α) :
    (t ++ u).takeWhile P = t.takeWhile P := by
  induction t with
  | nil => exact absurd rfl ht
  | cons a t ih =>
      cases ha : P a with
      | false => simp [ha]
      | true =>
          have htail : t.all P ≠ true := by
            rw [List.all_cons, ha, Bool.true_and] at ht
            exact ht
          rw [List.cons_append, List.takeWhile_cons, List.takeWhile_cons, ha, if_pos rfl, if_pos rfl,
            ih htail]

/-- To cut a text is to cut it as a text with places, if the literals do not end it. -/
theorem takeWhile_fill {ws : List (List α)} (hws : ∀ w ∈ ws, w.all P = true) :
    ∀ {t : List α} {hs : List (C × List α)}, hs.length = ws.length →
      (fill t hs ws).takeWhile P = fill (cut P t hs).1 (cut P t hs).2 ws := by
  induction ws with
  | nil =>
      intro t hs hlength
      obtain rfl := List.eq_nil_of_length_eq_zero hlength
      rw [cut, fill_nil, fill_nil]
  | cons w ws ih =>
      intro t hs hlength
      obtain ⟨hw, hws⟩ := List.forall_mem_cons.mp hws
      cases hs with
      | nil => cases hlength
      | cons h hs =>
          obtain ⟨c, u⟩ := h
          rw [cut]
          by_cases ht : t.all P = true
          · rw [if_pos ht, fill_cons, fill_cons, takeWhile_append_of_all ht,
              takeWhile_append_of_all hw, ih hws (Nat.succ.inj hlength)]
          · rw [if_neg ht, fill_cons, fill_nil, takeWhile_append_of_not_all ht]

/-- The places that are left are those at the head. -/
theorem classes_cut (P : α → Bool) (t : List α) (hs : List (C × List α)) :
    (cut P t hs).2.map Prod.fst <+: hs.map Prod.fst := by
  induction hs generalizing t with
  | nil => exact List.prefix_rfl
  | cons h hs ih =>
      obtain ⟨c, u⟩ := h
      rw [cut]
      split
      · exact List.cons_prefix_cons.mpr ⟨rfl, ih u⟩
      · exact List.nil_prefix

theorem fill_take (t : List α) (hs : List (C × List α)) (ws : List (List α)) :
    fill t hs (ws.take hs.length) = fill t hs ws := by
  induction hs generalizing t ws with
  | nil => rw [fill_nil, fill_nil]
  | cons h hs ih =>
      cases ws with
      | nil => rfl
      | cons w ws => rw [List.length_cons, List.take_succ_cons, fill_cons, fill_cons, ih]

/-- The literals of the places that are left. -/
theorem forall₂_cut {R : C → List α → Prop} (P : α → Bool) (t : List α) {hs : List (C × List α)}
    {ws : List (List α)} (h : List.Forall₂ (fun h w => R h.1 w) hs ws) :
    List.Forall₂ (fun h w => R h.1 w) (cut P t hs).2 (ws.take (cut P t hs).2.length) := by
  have hclasses := List.prefix_iff_eq_take.mp (classes_cut P t hs)
  rw [List.length_map] at hclasses
  have hmap := List.forall₂_take (cut P t hs).2.length (List.forall₂_map_left_iff.mpr h)
  rw [← hclasses] at hmap
  exact List.forall₂_map_left_iff.mp hmap

end

/-! ## Token lists that differ in literals -/

/-- The same tokens but for some literals, which are listed in their order. -/
inductive Alike : List (Token α κ) → List (Token α κ) → List (List α × List α) → Prop where
  | nil : Alike [] [] []
  | token (t : Token α κ) {ts ts' : List (Token α κ)} {ls : List (List α × List α)} :
      Alike ts ts' ls → Alike (t :: ts) (t :: ts') ls
  | literal (k : κ) (w w' : List α) {ts ts' : List (Token α κ)} {ls : List (List α × List α)} :
      Alike ts ts' ls → Alike (⟨k, w⟩ :: ts) (⟨k, w'⟩ :: ts') ((w, w') :: ls)

theorem Alike.refl (ts : List (Token α κ)) : Alike ts ts [] := by
  induction ts with
  | nil => exact .nil
  | cons t ts ih => exact .token t ih

theorem Alike.append_left (us : List (Token α κ)) {ts ts' : List (Token α κ)}
    {ls : List (List α × List α)} (h : Alike ts ts' ls) : Alike (us ++ ts) (us ++ ts') ls := by
  induction us with
  | nil => exact h
  | cons u us ih => exact .token u ih

/-- Such lists have the same kinds, and so the same length. -/
theorem Alike.kinds {ts ts' : List (Token α κ)} {ls : List (List α × List α)}
    (h : Alike ts ts' ls) : ts.map Token.kind = ts'.map Token.kind := by
  induction h with
  | nil => rfl
  | token t _ ih => rw [List.map_cons, List.map_cons, ih]
  | literal k w w' _ ih => rw [List.map_cons, List.map_cons, ih]

/-! ## Lexers that keep literals apart -/

/-- A lexer for which the literals of a class stand for one another between
delimiters. -/
structure Interchange (L : Lexer α κ μ) (Delimiter : α → Prop) (Literal : C → List α → Prop)
    (Quoting : List α → Prop) where
  /-- The kind of the literals of a class. -/
  kind : C → κ
  /-- The modes in which a literal is read as one. -/
  Settled : μ → Prop
  /-- The mode behind a literal. -/
  after : C → μ → μ
  literal_ne_nil {c : C} {w : List α} : Literal c w → w ≠ []
  settled_start : Settled L.start
  /-- A token that ends with the delimiter before a literal leaves such a mode. -/
  settled_of_next {m m' : μ} {p w rest : List α} {d : α} {c : C} {k : κ} :
    Delimiter d → Literal c w → L.next m (p ++ d :: (w ++ rest)) = (k, p.length + 1, m') →
    Settled m'
  /-- A literal before a delimiter, or at the end, is one token. -/
  next_literal {m : μ} {w rest : List α} {c : C} :
    Settled m → Literal c w → Starts Delimiter rest →
    L.next m (w ++ rest) = (kind c, w.length, after c m)
  /-- A token before a literal does not depend on which one it is. -/
  next_congr {m m' : μ} {p w w' rest rest' : List α} {d : α} {c : C} {k : κ} {n : Nat} :
    Delimiter d → Literal c w → Literal c w' →
    L.next m (p ++ d :: (w ++ rest)) = (k, n, m') → n ≤ p.length + 1 →
    L.next m (p ++ d :: (w' ++ rest')) = (k, n, m')
  /-- A token that runs over a delimiter into a literal is a quoting one. -/
  quoting_of_next {m m' : μ} {p w rest : List α} {d : α} {c : C} {k : κ} {n : Nat} :
    Delimiter d → Literal c w → L.next m (p ++ d :: (w ++ rest)) = (k, n, m') →
    p.length + 1 < n → Quoting ((p ++ d :: (w ++ rest)).take n)

namespace Interchange

variable {L : Lexer α κ μ} {Delimiter : α → Prop} {Literal : C → List α → Prop}
  {Quoting : List α → Prop}

/-- The text before a place ends with a delimiter, or is all read already. -/
def Ready (I : Interchange L Delimiter Literal Quoting) (m : μ) (t : List α) : Prop :=
  t = [] ∧ I.Settled m ∨ Ends Delimiter t

/-- One token before a place: it ends before the place, is the same for all
literals and leaves the lexer ready. -/
theorem next_of_ends (I : Interchange L Delimiter Literal Quoting) {m : μ} {t w₀ rest₀ : List α}
    {c : C} (ht : Ends Delimiter t) (hw₀ : Literal c w₀)
    (hq : ∀ tok, L.covering m (t ++ (w₀ ++ rest₀)) t.length = some tok → ¬ Quoting tok.text) :
    ∃ k n m₁, 0 < n ∧ n ≤ t.length ∧ I.Ready m₁ (t.drop n) ∧
      ∀ w rest, Literal c w → L.next m (t ++ (w ++ rest)) = (k, n, m₁) := by
  obtain ⟨p, d, hd, rfl⟩ := ht
  have hassoc (r : List α) : p ++ [d] ++ r = p ++ d :: r := by simp
  have hlen : (p ++ [d]).length = p.length + 1 := by simp
  simp only [hassoc, hlen] at hq ⊢
  obtain ⟨k, n, m₁, h⟩ : ∃ k n m₁, L.next m (p ++ d :: (w₀ ++ rest₀)) = (k, n, m₁) :=
    ⟨_, _, _, rfl⟩
  have hne : p ++ d :: (w₀ ++ rest₀) ≠ [] := by simp
  have hpos := Lexer.pos_of_next hne h
  have hle : n ≤ p.length + 1 := by
    by_contra hgt
    have hcov := Lexer.covering_of_lt hne h (show p.length + 1 < n by omega) (by omega)
    exact hq _ hcov (I.quoting_of_next hd hw₀ h (by omega))
  refine ⟨k, n, m₁, hpos, hle, ?_, fun w rest hw => I.next_congr hd hw₀ hw h hle⟩
  rcases Nat.lt_or_ge p.length n with hlt | hge
  · obtain rfl : n = p.length + 1 := by omega
    exact .inl ⟨by simp, I.settled_of_next hd hw₀ h⟩
  · exact .inr ⟨p.drop n, d, hd, by rw [List.drop_append_of_le_length hge]⟩

/-- The tokens up to a place: they are the same for all literals. -/
theorem reads_of_ready (I : Interchange L Delimiter Literal Quoting) {c : C} {w₀ rest₀ : List α}
    (hw₀ : Literal c w₀) :
    ∀ (t : List α) (m : μ), I.Ready m t →
      (∀ tok, L.covering m (t ++ (w₀ ++ rest₀)) t.length = some tok → ¬ Quoting tok.text) →
      ∃ ts m₁, I.Settled m₁ ∧
        (∀ w rest, Literal c w → L.lex m (t ++ (w ++ rest)) = ts ++ L.lex m₁ (w ++ rest)) ∧
        ∀ place, L.covering m (t ++ (w₀ ++ rest₀)) (t.length + place) =
          L.covering m₁ (w₀ ++ rest₀) place := by
  intro t m hready hq
  rcases hready with ⟨rfl, hm⟩ | hends
  · exact ⟨[], m, hm, by simp, by simp⟩
  · obtain ⟨k, n, m₁, hpos, hle, hready, hnext⟩ := I.next_of_ends hends hw₀ hq
    have hne (r : List α) : t ++ r ≠ [] := by
      obtain ⟨p, d, -, rfl⟩ := hends
      simp
    have hdrop (r : List α) : (t ++ r).drop n = t.drop n ++ r := List.drop_append_of_le_length hle
    have htake (r : List α) : (t ++ r).take n = t.take n := List.take_append_of_le_length hle
    have hcov (place : Nat) : L.covering m (t ++ (w₀ ++ rest₀)) (t.length + place) =
        L.covering m₁ (t.drop n ++ (w₀ ++ rest₀)) ((t.drop n).length + place) := by
      rw [Lexer.covering_of_le (hne _) (hnext w₀ _ hw₀) (by omega), hdrop, List.length_drop]
      congr 1
      omega
    have hlt : (t.drop n).length < t.length := by
      rw [List.length_drop]
      omega
    obtain ⟨ts, m₂, hm, hlex, hplace⟩ := reads_of_ready I hw₀ (t.drop n) m₁ hready fun tok htok =>
      hq tok ((hcov 0).trans htok)
    refine ⟨⟨k, t.take n⟩ :: ts, m₂, hm, fun w rest hw => ?_, fun place => ?_⟩
    · rw [Lexer.lex_of_next (hne _) (hnext w rest hw), hdrop, htake, hlex w rest hw]
      rfl
    · rw [hcov, hplace]
termination_by t => t.length

/-- The tokens of a text with places are the same for all literals, up to the
literals, if for one choice of them no quoting token runs into a place. -/
theorem alike (I : Interchange L Delimiter Literal Quoting) :
    ∀ {hs : List (C × List α)} {t : List α} {m : μ} {ws₀ ws ws' : List (List α)},
      (hs = [] ∨ I.Ready m t) → Delimited Delimiter hs →
      List.Forall₂ (fun h w => Literal h.1 w) hs ws₀ →
      List.Forall₂ (fun h w => Literal h.1 w) hs ws →
      List.Forall₂ (fun h w => Literal h.1 w) hs ws' →
      (∀ o ∈ prefixes t hs ws₀, ∀ tok, L.covering m (fill t hs ws₀) o.length = some tok →
        ¬ Quoting tok.text) →
      Alike (L.lex m (fill t hs ws)) (L.lex m (fill t hs ws')) (ws.zip ws')
  | [], t, m, _, _, _, _, _, _, .nil, .nil, _ => by
      simpa using Alike.refl _
  | (c, u) :: hs, t, m, w₀ :: ws₀, w :: ws, w' :: ws', hready, hdel, .cons hw₀ hws₀, .cons hw hws,
      .cons hw' hws', hq => by
      simp only [fill_cons, prefixes_cons, List.mem_cons, forall_eq_or_imp, List.mem_map,
        forall_exists_index, and_imp, forall_apply_eq_imp_iff₂, List.length_append] at hq ⊢
      obtain ⟨hq, hqs⟩ := hq
      obtain ⟨ts, m₁, hm₁, hlex, hcov⟩ :=
        I.reads_of_ready hw₀ t m (hready.resolve_left (List.cons_ne_nil _ _)) hq
      have hne {w r : List α} (hw : Literal c w) : w ++ r ≠ [] :=
        List.append_ne_nil_of_left_ne_nil (I.literal_ne_nil hw) _
      have hnext {w : List α} (ws : List (List α)) (hw : Literal c w) :
          L.next m₁ (w ++ fill u hs ws) = (I.kind c, w.length, I.after c m₁) :=
        I.next_literal hm₁ hw (hdel.starts ws)
      have hready' : hs = [] ∨ I.Ready (I.after c m₁) u := by
        cases hs with
        | nil => exact .inl rfl
        | cons h hs => exact .inr (.inr hdel.2.1)
      rw [hlex _ _ hw, hlex _ _ hw', Lexer.lex_of_next (hne hw) (hnext ws hw),
        Lexer.lex_of_next (hne hw') (hnext ws' hw')]
      simp only [List.take_left, List.drop_left, List.zip_cons_cons]
      refine .append_left ts (.literal _ w w' (alike I hready' hdel.tail hws₀ hws hws' ?_))
      intro o ho tok htok
      refine hqs o ho tok ?_
      rw [hcov, Lexer.covering_of_le (hne hw₀) (hnext ws₀ hw₀) (by omega),
        List.drop_left, Nat.add_sub_cancel_left, htok]

/-- The same of a text that ends at the first symbol outside `P`. -/
theorem alike_takeWhile (I : Interchange L Delimiter Literal Quoting) {P : α → Bool}
    {hs : List (C × List α)} {t : List α} {m : μ} {ws₀ ws ws' : List (List α)}
    (hready : (cut P t hs).2 = [] ∨ I.Ready m (cut P t hs).1)
    (hdel : Delimited Delimiter (cut P t hs).2)
    (hws₀ : List.Forall₂ (fun h w => Literal h.1 w) (cut P t hs).2 ws₀)
    (hws : List.Forall₂ (fun h w => Literal h.1 w) hs ws)
    (hws' : List.Forall₂ (fun h w => Literal h.1 w) hs ws')
    (hP : ∀ w ∈ ws, w.all P = true) (hP' : ∀ w ∈ ws', w.all P = true)
    (hq : ∀ o ∈ prefixes (cut P t hs).1 (cut P t hs).2 ws₀, ∀ tok,
      L.covering m (fill (cut P t hs).1 (cut P t hs).2 ws₀) o.length = some tok →
        ¬ Quoting tok.text) :
    Alike (L.lex m ((fill t hs ws).takeWhile P)) (L.lex m ((fill t hs ws').takeWhile P))
      ((ws.zip ws').take (cut P t hs).2.length) := by
  rw [takeWhile_fill hP hws.length_eq, takeWhile_fill hP' hws'.length_eq,
    ← fill_take _ _ ws, ← fill_take _ _ ws', List.zip, List.take_zipWith]
  exact I.alike hready hdel hws₀ (forall₂_cut P t hws) (forall₂_cut P t hws') hq

end Interchange

/-! ## Lexers that take parts off -/

section
open Scan

/-- The lexer that takes one part after the other off a text. -/
def Lexer.ofScanner (f : Scanner α κ) (hf : ∀ a l, (f (a :: l)).2.length ≤ l.length) :
    Lexer α κ Unit where
  start := ()
  next _ l := ((f l).1, l.length - (f l).2.length, ())
  next_pos _ a l := by
    have hle := hf a l
    show 0 < (a :: l).length - (f (a :: l)).2.length
    rw [List.length_cons]
    omega

/-- A scanner that does not get past the symbol behind a delimiter but where it quotes,
and then does not look there. -/
structure Separates (f : Scanner α κ) (Delimiter Opening : α → Prop) (Quoting : List α → Prop) :
    Prop where
  shrinks : ∀ a l, (f (a :: l)).2.length ≤ l.length
  congr {d x : α} {p v : List α} : Delimiter d → Opening x →
    v.length < (f (p ++ d :: x :: v)).2.length →
    ∃ k p', ∀ v', f (p ++ d :: x :: v') = (k, p' ++ x :: v')
  leaves {d x : α} {p v : List α} : Delimiter d → Opening x → ¬ Quoting (p ++ d :: x :: v) →
    v.length < (f (p ++ d :: x :: v)).2.length
  /-- Two symbols tell whether it quotes. -/
  quoting {a b : α} {l : List α} (l' : List α) : Quoting (a :: b :: l) → Quoting (a :: b :: l')

/-- A scanner that goes by the first symbol. -/
theorem separates_of_token {f : Scanner α κ} {token : α → Scanner α κ}
    {Delimiter Opening : α → Prop} {Quoting : List α → Prop} (hf : ∀ a l, f (a :: l) = token a l)
    (hshrinks : ∀ a, Shrinks (token a))
    (hsettles : ∀ {d x}, Delimiter d → Opening x → ∀ a, Settles d x (token a))
    (hdelimiter : ∀ {d x}, Delimiter d → Opening x → ∃ k, ∀ v, token d (x :: v) = (k, x :: v))
    (hleaves : ∀ {d x a p v}, Delimiter d → Opening x → ¬ Quoting (a :: (p ++ d :: x :: v)) →
      v.length < (token a (p ++ d :: x :: v)).2.length)
    (hquoting : ∀ {a b l} (l' : List α), Quoting (a :: b :: l) → Quoting (a :: b :: l')) :
    Separates f Delimiter Opening Quoting where
  shrinks a l := by
    rw [hf]
    exact hshrinks a l
  congr {d x p v} hd hx h := by
    cases p with
    | nil =>
        obtain ⟨k, hk⟩ := hdelimiter hd hx
        exact ⟨k, [], fun v' => (hf d (x :: v')).trans (hk v')⟩
    | cons a p =>
        simp only [List.cons_append, hf] at h ⊢
        exact hsettles hd hx a p v h
  leaves {d x p v} hd hx hq := by
    cases p with
    | nil =>
        obtain ⟨k, hk⟩ := hdelimiter hd hx
        rw [List.nil_append, hf, hk]
        exact Nat.lt_succ_self _
    | cons a p =>
        rw [List.cons_append, hf]
        exact hleaves hd hx hq
  quoting := hquoting

theorem Separates.quoting_take {f : Scanner α κ} {Delimiter Opening : α → Prop}
    {Quoting : List α → Prop} (h : Separates f Delimiter Opening Quoting) {l : List α} {n : Nat}
    (hl : Quoting l) (hn : 2 ≤ n) : Quoting (l.take n) := by
  obtain ⟨n, rfl⟩ := Nat.exists_eq_add_of_le' hn
  match l with
  | [] => exact hl
  | [a] =>
      have hlength : [a].length ≤ n + 2 := Nat.le_add_left_of_le (Nat.le_succ 1)
      rw [List.take_of_length_le hlength]
      exact hl
  | a :: b :: l => exact h.quoting (l.take n) hl

/-- A scanner that separates and reads each literal before a delimiter as one token. -/
def Separates.interchange {f : Scanner α κ} {Delimiter Opening : α → Prop}
    {Quoting : List α → Prop} (h : Separates f Delimiter Opening Quoting)
    {Literal : C → List α → Prop} (kind : C → κ) (opening : C → α)
    (hopening : ∀ c, Opening (opening c))
    (hcons : ∀ {c w}, Literal c w → ∃ tail, w = opening c :: tail)
    (hliteral : ∀ {c w rest}, Literal c w → Starts Delimiter rest →
      f (w ++ rest) = (kind c, rest)) :
    Interchange (Lexer.ofScanner f h.shrinks) Delimiter Literal Quoting where
  kind := kind
  Settled _ := True
  after _ m := m
  literal_ne_nil hw := by
    obtain ⟨tail, rfl⟩ := hcons hw
    exact List.cons_ne_nil _ _
  settled_start := trivial
  settled_of_next _ _ _ := trivial
  next_literal {m w rest c} _ hw hrest := by
    show ((f (w ++ rest)).1, (w ++ rest).length - (f (w ++ rest)).2.length, ()) = _
    rw [hliteral hw hrest, List.length_append, Nat.add_sub_cancel]
  next_congr {m m' p w w' rest rest' d c k n} hd hw hw' hnext hn := by
    obtain ⟨tail, rfl⟩ := hcons hw
    obtain ⟨tail', rfl⟩ := hcons hw'
    rw [List.cons_append] at hnext ⊢
    obtain ⟨hk, hlength⟩ := Prod.mk.inj hnext
    obtain ⟨hlength, -⟩ := Prod.mk.inj hlength
    have hleft : (tail ++ rest).length <
        (f (p ++ d :: opening c :: (tail ++ rest))).2.length := by
      simp only [List.length_append, List.length_cons] at hn hlength ⊢
      omega
    obtain ⟨k', p', hp'⟩ := h.congr hd (hopening c) hleft
    show ((f _).1, _ - (f _).2.length, ()) = (k, n, m')
    rw [hp'] at hk hlength ⊢
    obtain rfl : k' = k := hk
    refine congrArg (fun n => (k', n, ())) ?_
    simp only [List.length_append, List.length_cons] at hlength ⊢
    omega
  quoting_of_next {m m' p w rest d c k n} hd hw hnext hn := by
    obtain ⟨tail, rfl⟩ := hcons hw
    by_contra hq
    have hnot : ¬ Quoting (p ++ d :: (opening c :: tail ++ rest)) := fun hquoting =>
      hq (h.quoting_take hquoting (Nat.le_trans (Nat.le_add_left 2 p.length) hn))
    rw [List.cons_append] at hnext hnot
    have hleaves := h.leaves hd (hopening c) hnot
    obtain ⟨-, hlength⟩ := Prod.mk.inj hnext
    obtain ⟨hlength, -⟩ := Prod.mk.inj hlength
    simp only [List.length_append, List.length_cons] at hn hlength hleaves
    omega

end

end Lexing
