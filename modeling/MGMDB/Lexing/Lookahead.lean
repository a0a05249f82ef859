import MGMDB.Lexing.Interchange

/-!
# Lexing up to a place

`Interchange` is about literals between delimiters.  A text that has no delimiters of
its own may join with what stands before it.  Here the tokens before a place are known
for one symbol `x` in the place, each of them ending before it, and the question is for
which symbols they stay.  `Overlooks` says of one token that it stays for every symbol
`y` that is related to the text between the token's begin and the place, and
`lex_of_overlooks` that all tokens do.
-/

namespace Lexing

variable {α κ μ : Type}

/-- A token that ends before the `x` behind a text does so before related symbols. -/
def Lexer.Overlooks (L : Lexer α κ μ) (R : List α → α → Prop) (x : α) : Prop :=
  ∀ m t v, t ≠ [] → (L.next m (t ++ x :: v)).2.1 ≤ t.length →
    ∀ y v', R t y → L.next m (t ++ y :: v') = L.next m (t ++ x :: v)

namespace Lexer

variable {L : Lexer α κ μ} {R : List α → α → Prop} {x : α}

/-- The tokens of a text are the text. -/
theorem flatMap_lex (L : Lexer α κ μ) (m : μ) (l : List α) :
    (L.lex m l).flatMap Token.text = l := by
  induction m, l using lex.induct L with
  | case1 m => rw [lex, List.flatMap_nil]
  | case2 m a l ih => rw [lex, List.flatMap_cons, ih, List.take_append_drop]

theorem text_ne_nil {m : μ} {l : List α} {t : Token α κ} (h : t ∈ L.lex m l) : t.text ≠ [] := by
  induction m, l using lex.induct L with
  | case1 m =>
      rw [lex] at h
      cases h
  | case2 m a l ih =>
      rw [lex] at h
      rcases List.mem_cons.mp h with rfl | htail
      · have hpos := L.next_pos m a l
        rw [List.ne_nil_iff_length_pos, List.length_take]
        exact Nat.lt_min.mpr ⟨hpos, Nat.succ_pos _⟩
      · exact ih htail

/-- A place that no token covers stands between two of them. -/
theorem lex_of_covering_eq_none {m : μ} {l : List α} {place : Nat} (hplace : place ≤ l.length)
    (h : L.covering m l place = none) : ∃ pre m₁, L.lex m l = pre ++ L.lex m₁ (l.drop place) := by
  induction m, l, place using covering.induct L with
  | case1 m place =>
      refine ⟨[], m, ?_⟩
      rw [List.drop_nil]
      rfl
  | case2 m a l => exact ⟨[], m, rfl⟩
  | case3 m place a l hpos hle ih =>
      rw [covering, if_neg hpos, if_pos hle] at h
      have hrest : place - (L.next m (a :: l)).2.1 ≤
          ((a :: l).drop (L.next m (a :: l)).2.1).length := by
        rw [List.length_drop]
        omega
      obtain ⟨pre, m₁, hlex⟩ := ih hrest h
      refine ⟨⟨(L.next m (a :: l)).1, (a :: l).take (L.next m (a :: l)).2.1⟩ :: pre, m₁, ?_⟩
      rw [lex, hlex, List.drop_drop, Nat.add_sub_cancel' hle]
      rfl
  | case4 m place a l hpos hle =>
      rw [covering, if_neg hpos, if_neg hle] at h
      cases h

/-- One token before a place. -/
theorem next_of_lex {m : μ} {t : Token α κ} {u v : List α} {ts : List (Token α κ)}
    (h : L.lex m (t.text ++ (u ++ x :: v)) = t :: ts) :
    ∃ m₁, L.next m (t.text ++ (u ++ x :: v)) = (t.kind, t.text.length, m₁) ∧
      L.lex m₁ (u ++ x :: v) = ts := by
  obtain ⟨a, l, hl⟩ : ∃ a l, t.text ++ (u ++ x :: v) = a :: l :=
    List.exists_cons_of_ne_nil (by simp)
  have hlength : t.text.length < (a :: l).length := by
    rw [← hl, List.length_append, List.length_append, List.length_cons]
    omega
  rw [hl, lex] at h
  obtain ⟨ht, hts⟩ := List.cons.inj h
  have htext : (a :: l).take (L.next m (a :: l)).2.1 = t.text := congrArg Token.text ht
  have hn : (L.next m (a :: l)).2.1 = t.text.length := by
    have hmin := congrArg List.length htext
    rw [List.length_take] at hmin
    omega
  refine ⟨(L.next m (a :: l)).2.2, ?_, ?_⟩
  · rw [hl, ← hn, ← congrArg Token.kind ht]
  · rw [← hts, hn, ← hl, List.drop_left]

/-- The tokens before a place stay for the symbols that are related to every text that
is left of one of them. -/
theorem lex_of_overlooks (hL : L.Overlooks R x) {m : μ} {pre rest : List (Token α κ)}
    {u v : List α} (h : L.lex m (pre.flatMap Token.text ++ (u ++ x :: v)) = pre ++ rest) :
    ∃ m₁, ∀ y v', (∀ back, back ≠ [] → back <:+ pre → R (back.flatMap Token.text ++ u) y) →
      L.lex m (pre.flatMap Token.text ++ (u ++ y :: v')) = pre ++ L.lex m₁ (u ++ y :: v') := by
  induction pre generalizing m with
  | nil => exact ⟨m, fun y v' _ => rfl⟩
  | cons t pre ih =>
      have hhead : t ∈ (t :: pre) ++ rest := List.mem_cons_self
      rw [← h] at hhead
      have hne : t.text ≠ [] := text_ne_nil hhead
      have hassoc (y : α) (v' : List α) :
          (t :: pre).flatMap Token.text ++ (u ++ y :: v') =
            t.text ++ ((pre.flatMap Token.text ++ u) ++ y :: v') := by
        simp only [List.flatMap_cons, List.append_assoc]
      rw [hassoc] at h
      obtain ⟨m₁, hnext, hlex⟩ := next_of_lex h
      rw [List.append_assoc] at hlex
      obtain ⟨m₂, hgo⟩ := ih hlex
      refine ⟨m₂, fun y v' hy => ?_⟩
      -- the first token ends where it did, so it overlooks the `y`
      have hnext' : L.next m (t.text ++ ((pre.flatMap Token.text ++ u) ++ y :: v')) =
          (t.kind, t.text.length, m₁) := by
        have hrelated := hy (t :: pre) (List.cons_ne_nil _ _) List.suffix_rfl
        simp only [List.flatMap_cons, List.append_assoc] at hrelated
        rw [← List.append_assoc] at hnext ⊢
        rw [hL m _ v (List.append_ne_nil_of_left_ne_nil hne _) ?_ y v' hrelated, hnext]
        rw [hnext, List.length_append]
        exact Nat.le_add_right _ _
      have htail := hgo y v' fun back hback hsuffix =>
        hy back hback (hsuffix.trans (List.suffix_cons t pre))
      rw [hassoc, lex_of_next (List.append_ne_nil_of_left_ne_nil hne _) hnext', List.take_left,
        List.drop_left, List.append_assoc, htail]
      rfl

/-- Tokens that make up one symbol are one token. -/
theorem eq_singleton_of_flatMap {back : List (Token α κ)} (hback : ∀ t ∈ back, t.text ≠ []) {a : α}
    (h : back.flatMap Token.text = [a]) : ∃ t, back = [t] ∧ t.text = [a] := by
  cases back with
  | nil => cases h
  | cons t back =>
      obtain ⟨ht, hback⟩ := List.forall_mem_cons.mp hback
      rw [List.flatMap_cons] at h
      obtain ⟨b, l, hl⟩ := List.exists_cons_of_ne_nil ht
      rw [hl, List.cons_append] at h
      obtain ⟨rfl, hnil⟩ := List.cons.inj h
      obtain ⟨rfl, hempty⟩ := List.append_eq_nil_iff.mp hnil
      cases back with
      | nil => exact ⟨t, rfl, hl⟩
      | cons t' back =>
          rw [List.flatMap_cons] at hempty
          exact absurd (List.append_eq_nil_iff.mp hempty).1 (hback t' List.mem_cons_self)

end Lexer

section
variable {f : Scan.Scanner α κ} {hf : ∀ a l, (f (a :: l)).2.length ≤ l.length}

/-- A part that is taken off whole is a token. -/
theorem Lexer.lex_ofScanner {w rest : List α} {k : κ} (hw : w ≠ [])
    (h : f (w ++ rest) = (k, rest)) :
    (Lexer.ofScanner f hf).lex () (w ++ rest) =
      ⟨k, w⟩ :: (Lexer.ofScanner f hf).lex () rest := by
  have hnext : (Lexer.ofScanner f hf).next () (w ++ rest) = (k, w.length, ()) := by
    show ((f _).1, _ - (f _).2.length, ()) = _
    rw [h, List.length_append, Nat.add_sub_cancel]
  rw [Lexer.lex_of_next (List.append_ne_nil_of_left_ne_nil hw _) hnext, List.take_left,
    List.drop_left]

/-- What stands behind the first token is what the scanner leaves. -/
theorem Lexer.length_of_lex {k : κ} {w : List α} {x : α} {v : List α} {ts : List (Token α κ)}
    (h : (Lexer.ofScanner f hf).lex () (w ++ x :: v) = ⟨k, w⟩ :: ts) :
    (f (w ++ x :: v)).2.length = v.length + 1 := by
  obtain ⟨m, hnext, -⟩ := next_of_lex (t := ⟨k, w⟩) (u := []) h
  have hlength : (w ++ x :: v).length - (f (w ++ x :: v)).2.length = w.length :=
    congrArg (fun r => r.2.1) hnext
  have hle : (f (w ++ x :: v)).2.length ≤ (w ++ x :: v).length := by
    cases w with
    | nil => exact Nat.le_succ_of_le (hf x v)
    | cons a l => exact Nat.le_succ_of_le (hf a (l ++ x :: v))
  rw [List.length_append, List.length_cons] at hlength hle
  omega

end

/-- A scanner that reads the texts of which it leaves the `x` alike for all related symbols. -/
theorem Lexer.overlooks_ofScanner {f : Scan.Scanner α κ}
    (hf : ∀ a l, (f (a :: l)).2.length ≤ l.length)
    {R : List α → α → Prop} {x : α} (hx : ∀ t, R t x)
    (hread : ∀ t v, t ≠ [] → v.length < (f (t ++ x :: v)).2.length →
      ∃ k u, ∀ y v', R t y → f (t ++ y :: v') = (k, u ++ y :: v')) :
    (Lexer.ofScanner f hf).Overlooks R x := by
  intro m t v ht hn y v' hy
  have hlength : (t ++ x :: v).length - (f (t ++ x :: v)).2.length ≤ t.length := hn
  have hleft : v.length < (f (t ++ x :: v)).2.length := by
    rw [List.length_append, List.length_cons] at hlength
    omega
  obtain ⟨k, u, hu⟩ := hread t v ht hleft
  have hnext (y : α) (v' : List α) (hy : R t y) :
      (Lexer.ofScanner f hf).next m (t ++ y :: v') = (k, t.length - u.length, ()) := by
    show ((f _).1, _ - (f _).2.length, ()) = _
    rw [hu y v' hy]
    refine congrArg (fun n => (k, n, ())) ?_
    simp only [List.length_append, List.length_cons]
    omega
  rw [hnext y v' hy, hnext x v (hx t)]

end Lexing
