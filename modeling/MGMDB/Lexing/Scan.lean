import Mathlib.Data.List.Basic
import Mathlib.Tactic.Common

/-!
# Scanners

A scanner takes a part off the front of a text: it answers what kind of part that
is and what stands behind it.  Some properties say how far it looks.  `Stops x`: it
never gets past the symbol `x`, and what stands behind has no influence.  `Local x`:
the same for the texts of which it leaves the `x`.  `LocalOn S x`: then any symbol of
the class `S` may stand there instead.  They carry over to scanners that are put
together from others.
-/

namespace Scan

variable {α κ : Type}

/-- The kind of the part taken off, and the rest. -/
abbrev Scanner (α κ : Type) := List α → κ × List α

def Stops (x : α) (f : Scanner α κ) : Prop :=
  ∀ q, ∃ k q', ∀ v, f (q ++ x :: v) = (k, q' ++ x :: v)

def Local (x : α) (f : Scanner α κ) : Prop :=
  ∀ q v, v.length < (f (q ++ x :: v)).2.length →
    ∃ k q', ∀ v', f (q ++ x :: v') = (k, q' ++ x :: v')

def LocalOn (S : α → Prop) (x : α) (f : Scanner α κ) : Prop :=
  ∀ q v, v.length < (f (q ++ x :: v)).2.length →
    ∃ k q', ∀ y v', S y → f (q ++ y :: v') = (k, q' ++ y :: v')

def Shrinks (f : Scanner α κ) : Prop := ∀ s, (f s).2.length ≤ s.length

/-! ## Scanners put together -/

section
variable {κ' : Type} {S : α → Prop} {x : α} {f : Scanner α κ} {g : κ → Scanner α κ'}

/-- A class of one symbol. -/
theorem LocalOn.local (h : LocalOn (· = x) x f) : Local x f := by
  intro q v hlt
  obtain ⟨k, q', hq'⟩ := h q v hlt
  exact ⟨k, q', fun v' => hq' x v' rfl⟩

theorem Local.localOn (h : Local x f) : LocalOn (· = x) x f := by
  intro q v hlt
  obtain ⟨k, q', hq'⟩ := h q v hlt
  refine ⟨k, q', fun y v' hy => ?_⟩
  rw [hy]
  exact hq' v'

theorem Stops.local (h : Stops x f) : Local x f := fun q _ _ => h q

theorem stops_pure (k : κ) : Stops x fun s => (k, s) := fun q => ⟨k, q, fun _ => rfl⟩

theorem localOn_pure (k : κ) : LocalOn S x fun s => (k, s) := fun q _ _ => ⟨k, q, fun _ _ _ => rfl⟩

theorem shrinks_pure (k : κ) : Shrinks fun s : List α => (k, s) := fun _ => Nat.le_refl _

/-- One scanner after the other. -/
theorem Stops.andThen (hf : Stops x f) (hg : ∀ k, Stops x (g k)) :
    Stops x fun s => g (f s).1 (f s).2 := by
  intro q
  obtain ⟨k, q', hq'⟩ := hf q
  obtain ⟨k', q'', hq''⟩ := hg k q'
  refine ⟨k', q'', fun v => ?_⟩
  dsimp only
  rw [hq', hq'']

theorem LocalOn.andThen (hx : S x) (hf : LocalOn S x f) (hg : ∀ k, LocalOn S x (g k))
    (hs : ∀ k, Shrinks (g k)) : LocalOn S x fun s => g (f s).1 (f s).2 := by
  intro q v h
  have hlt : v.length < (f (q ++ x :: v)).2.length := Nat.lt_of_lt_of_le h (hs _ _)
  obtain ⟨k, q', hq'⟩ := hf q v hlt
  dsimp only at h
  rw [hq' x v hx] at h
  obtain ⟨k', q'', hq''⟩ := hg k q' v h
  refine ⟨k', q'', fun y v' hy => ?_⟩
  dsimp only
  rw [hq' y v' hy, hq'' y v' hy]

theorem Shrinks.andThen (hf : Shrinks f) (hg : ∀ k, Shrinks (g k)) :
    Shrinks fun s => g (f s).1 (f s).2 :=
  fun s => Nat.le_trans (hg _ _) (hf s)

theorem LocalOn.map (h : κ → κ') (hf : LocalOn S x f) :
    LocalOn S x fun s => (h (f s).1, (f s).2) := by
  intro q v hlt
  obtain ⟨k, q', hq'⟩ := hf q v hlt
  exact ⟨h k, q', fun y v' hy => by simp only [hq' y v' hy]⟩

theorem Local.map (h : κ → κ') (hf : Local x f) : Local x fun s => (h (f s).1, (f s).2) :=
  (hf.localOn.map h).local

variable {f' : Scanner α κ}

theorem LocalOn.cons (a : α) (hf : LocalOn S x f) : LocalOn S x fun s => f (a :: s) :=
  fun q v hlt => hf (a :: q) v hlt

theorem LocalOn.tail (hs : Shrinks f) (hf : LocalOn S x f) : LocalOn S x fun s => f s.tail := by
  intro q v hlt
  cases q with
  | nil => exact absurd (hs v) (Nat.not_le_of_lt hlt)
  | cons a q => exact hf q v hlt

theorem LocalOn.ite {P : Prop} [Decidable P] (hf : P → LocalOn S x f)
    (hf' : ¬ P → LocalOn S x f') : LocalOn S x fun s => if P then f s else f' s := by
  by_cases hP : P
  · simpa only [if_pos hP] using hf hP
  · simpa only [if_neg hP] using hf' hP

/-- The choice may look at the next symbol, if `x` is then taken off or the whole class
goes the other way. -/
theorem LocalOn.iteHead {P : Option α → Prop} [DecidablePred P] (hf : LocalOn S x f)
    (hf' : LocalOn S x f') (htakes : P (some x) → ∀ v, (f (x :: v)).2.length ≤ v.length)
    (hother : ¬ P (some x) → ∀ y, S y → ¬ P (some y)) :
    LocalOn S x fun s => if P s.head? then f s else f' s := by
  have hthen {s : List α} (hs : P s.head?) : (if P s.head? then f s else f' s) = f s := if_pos hs
  have helse {s : List α} (hs : ¬ P s.head?) : (if P s.head? then f s else f' s) = f' s := if_neg hs
  intro q v hlt
  dsimp only at hlt ⊢
  cases q with
  | nil =>
      by_cases hP : P (some x)
      · rw [List.nil_append, hthen (s := x :: v) hP] at hlt
        exact absurd (htakes hP v) (Nat.not_le_of_lt hlt)
      · rw [List.nil_append, helse (s := x :: v) hP] at hlt
        obtain ⟨k, q', hq'⟩ := hf' [] v hlt
        exact ⟨k, q', fun y v' hy => (helse (s := y :: v') (hother hP y hy)).trans (hq' y v' hy)⟩
  | cons a q =>
      by_cases hP : P (some a)
      · rw [List.cons_append, hthen (s := a :: (q ++ x :: v)) hP] at hlt
        obtain ⟨k, q', hq'⟩ := hf (a :: q) v hlt
        exact ⟨k, q', fun y v' hy => (hthen (s := a :: q ++ y :: v') hP).trans (hq' y v' hy)⟩
      · rw [List.cons_append, helse (s := a :: (q ++ x :: v)) hP] at hlt
        obtain ⟨k, q', hq'⟩ := hf' (a :: q) v hlt
        exact ⟨k, q', fun y v' hy => (helse (s := a :: q ++ y :: v') hP).trans (hq' y v' hy)⟩

end

/-! ## Behind a delimiter -/

/-- A scanner that, of a text with a delimiter before `x`, reads the same whatever
stands behind the `x`, unless it gets there. -/
def Settles (d x : α) (f : Scanner α κ) : Prop :=
  ∀ p v, v.length < (f (p ++ d :: x :: v)).2.length →
    ∃ k p', ∀ v', f (p ++ d :: x :: v') = (k, p' ++ x :: v')

section
variable {d x : α} {f g : Scanner α κ}

theorem settles_of_local (h : Local x f) : Settles d x f := by
  intro p v hlt
  have happend (v' : List α) : p ++ d :: x :: v' = (p ++ [d]) ++ x :: v' := by simp
  simp only [happend] at hlt ⊢
  exact h (p ++ [d]) v hlt

theorem settles_of_stops (h : Stops d f) : Settles d x f := by
  intro p v _
  obtain ⟨k, p', hp'⟩ := h p
  refine ⟨k, p' ++ [d], fun v' => ?_⟩
  rw [hp', List.append_assoc]
  rfl

theorem Settles.ite {P : Prop} [Decidable P] (hf : Settles d x f) (hg : Settles d x g) :
    Settles d x fun z => if P then f z else g z := by
  by_cases hP : P
  · simpa only [if_pos hP] using hf
  · simpa only [if_neg hP] using hg

/-- The choice may look at the next character. -/
theorem Settles.iteHead {P : Option α → Prop} [DecidablePred P] (hf : Settles d x f)
    (hg : Settles d x g) : Settles d x fun z => if P z.head? then f z else g z := by
  intro p v hlt
  have hhead (v' : List α) : (p ++ d :: x :: v').head? = (p ++ [d]).head? := by
    cases p <;> rfl
  simp only [hhead] at hlt ⊢
  by_cases hP : P (p ++ [d]).head?
  · simp only [if_pos hP] at hlt ⊢
    exact hf p v hlt
  · simp only [if_neg hP] at hlt ⊢
    exact hg p v hlt

/-- A token that begins with two symbols, of which the second is no delimiter. -/
theorem Settles.second [DecidableEq α] {P : Prop} [Decidable P] {b : α} (hd : d ≠ b)
    (hf : Local x f) (hg : Settles d x g) :
    Settles d x fun z => if P ∧ z.head? = some b then f z.tail else g z := by
  intro p v hlt
  by_cases hsecond : P ∧ (p ++ [d]).head? = some b
  · cases p with
    | nil => exact absurd (Option.some.inj hsecond.2) hd
    | cons a p =>
        have hgo (v' : List α) : (if P ∧ (a :: p ++ d :: x :: v').head? = some b then
            f (a :: p ++ d :: x :: v').tail else g (a :: p ++ d :: x :: v')) =
            f (p ++ d :: x :: v') := if_pos hsecond
        simp only [hgo] at hlt ⊢
        exact settles_of_local hf p v hlt
  · have hgo (v' : List α) : (if P ∧ (p ++ d :: x :: v').head? = some b then
        f (p ++ d :: x :: v').tail else g (p ++ d :: x :: v')) = g (p ++ d :: x :: v') := by
      refine if_neg ?_
      cases p <;> exact hsecond
    simp only [hgo] at hlt ⊢
    exact hg p v hlt

theorem leaves_of_stops (h : Stops d f) (p v : List α) :
    v.length < (f (p ++ d :: v)).2.length := by
  obtain ⟨k, q, hq⟩ := h p
  rw [hq v, List.length_append, List.length_cons]
  omega

theorem lt_length_ite {n : Nat} {P : Prop} [Decidable P] {a b : κ × List α}
    (ha : P → n < a.2.length) (hb : ¬ P → n < b.2.length) :
    n < (if P then a else b).2.length :=
  iteInduction (motive := fun r : κ × List α => n < r.2.length) ha hb

theorem length_ite_le {n : Nat} {P : Prop} [Decidable P] {a b : κ × List α}
    (ha : P → a.2.length ≤ n) (hb : ¬ P → b.2.length ≤ n) : (if P then a else b).2.length ≤ n :=
  iteInduction (motive := fun r : κ × List α => r.2.length ≤ n) ha hb

end

/-! ## The next symbol -/

section
variable {S : α → Prop} {x : α} {other : Scanner α κ} {f : α → Scanner α κ}

/-- A scanner by the first symbol, which it takes off, or leaves as it is. -/
def onNext (take : α → Option (Scanner α κ)) (leave : Scanner α κ) : Scanner α κ
  | [] => leave []
  | a :: s =>
      match take a with
      | some f => f s
      | none => leave (a :: s)

variable {take : α → Option (Scanner α κ)} {leave : Scanner α κ}

theorem onNext_append (q v : List α) : onNext take leave (q ++ x :: v) =
    match q with
    | [] => match take x with
        | some f => f v
        | none => leave (x :: v)
    | a :: q => match take a with
        | some f => f (q ++ x :: v)
        | none => leave (a :: (q ++ x :: v)) := by
  cases q with
  | nil => rfl
  | cons a q => rfl

/-- If the `x` is not taken off, none of the class may be. -/
theorem LocalOn.onNext (hnext : take x = none → ∀ y, S y → take y = none)
    (hshrinks : ∀ f, take x = some f → Shrinks f)
    (htake : ∀ a f, take a = some f → LocalOn S x f) (hleave : LocalOn S x leave) :
    LocalOn S x (onNext take leave) := by
  intro q v hlt
  cases q with
  | nil =>
      simp only [onNext_append] at hlt ⊢
      cases hx : take x with
      | some f =>
          -- the `x` is taken off, so it is not left
          rw [hx] at hlt
          have hle := hshrinks f hx v
          dsimp only at hlt
          omega
      | none =>
          rw [hx] at hlt
          obtain ⟨k, q', hq'⟩ := hleave [] v hlt
          refine ⟨k, q', fun y v' hy => ?_⟩
          rw [hnext hx y hy]
          exact hq' y v' hy
  | cons a q =>
      simp only [onNext_append] at hlt ⊢
      cases ha : take a with
      | some f =>
          rw [ha] at hlt
          exact htake a f ha q v hlt
      | none =>
          rw [ha] at hlt
          exact hleave (a :: q) v hlt

theorem Stops.onNext (hx : take x = none) (htake : ∀ a f, take a = some f → Stops x f)
    (hleave : Stops x leave) : Stops x (onNext take leave) := by
  intro q
  cases q with
  | nil =>
      simp only [onNext_append, hx]
      exact hleave []
  | cons a q =>
      simp only [onNext_append]
      cases ha : take a with
      | some f => exact htake a f ha q
      | none => exact hleave (a :: q)

theorem Shrinks.onNext (htake : ∀ a f, take a = some f → Shrinks f) (hleave : Shrinks leave) :
    Shrinks (onNext take leave) := by
  intro s
  cases s with
  | nil => exact hleave []
  | cons a s =>
      rw [Scan.onNext]
      cases ha : take a with
      | some f => exact Nat.le_succ_of_le (htake a f ha s)
      | none => exact hleave (a :: s)

/-! One symbol is taken off, or none. -/

section
variable [DecidableEq α] {b : α} {taken : Scanner α κ}

theorem LocalOn.onNextIf (hS : S b → x = b) (hs : Shrinks taken) (htaken : LocalOn S x taken)
    (hleave : LocalOn S x leave) :
    LocalOn S x (Scan.onNext (fun c => if c = b then some taken else none) leave) := by
  refine LocalOn.onNext ?_ ?_ ?_ hleave
  · intro hx y hy
    refine if_neg ?_
    rintro rfl
    rw [if_pos (hS hy)] at hx
    cases hx
  · intro f hf
    obtain ⟨-, ⟨⟩⟩ := Option.ite_none_right_eq_some.mp hf
    exact hs
  · intro a f hf
    obtain ⟨-, ⟨⟩⟩ := Option.ite_none_right_eq_some.mp hf
    exact htaken

theorem Local.onNextIf (hs : Shrinks taken) (htaken : Local x taken) (hleave : Local x leave) :
    Local x (Scan.onNext (fun c => if c = b then some taken else none) leave) :=
  (LocalOn.onNextIf (S := (· = x)) Eq.symm hs htaken.localOn hleave.localOn).local

theorem Stops.onNextIf (hx : x ≠ b) (htaken : Stops x taken) (hleave : Stops x leave) :
    Stops x (Scan.onNext (fun c => if c = b then some taken else none) leave) := by
  refine Stops.onNext (if_neg hx) (fun a f hf => ?_) hleave
  obtain ⟨-, ⟨⟩⟩ := Option.ite_none_right_eq_some.mp hf
  exact htaken

theorem Shrinks.onNextIf (htaken : Shrinks taken) (hleave : Shrinks leave) :
    Shrinks (Scan.onNext (fun c => if c = b then some taken else none) leave) := by
  refine Shrinks.onNext (fun a f hf => ?_) hleave
  obtain ⟨-, ⟨⟩⟩ := Option.ite_none_right_eq_some.mp hf
  exact htaken

end

end

/-! ## A run of symbols -/

section
variable (P : α → Bool) {S : α → Prop} {x : α}

theorem dropWhile_append_stop (hx : P x = false) (q v : List α) :
    (q ++ x :: v).dropWhile P = q.dropWhile P ++ x :: v := by
  induction q with
  | nil => simp [hx]
  | cons a q ih =>
      rw [List.cons_append, List.dropWhile_cons, List.dropWhile_cons]
      split
      · exact ih
      · rfl

theorem takeWhile_append_stop (hx : P x = false) (q v : List α) :
    (q ++ x :: v).takeWhile P = q.takeWhile P := by
  induction q with
  | nil => simp [hx]
  | cons a q ih =>
      rw [List.cons_append, List.takeWhile_cons, List.takeWhile_cons, ih]

theorem length_dropWhile_le (s : List α) : (s.dropWhile P).length ≤ s.length :=
  (List.dropWhile_sublist P).length_le

theorem stops_dropWhile (hx : P x = false) (k : List α → κ) :
    Stops x fun s => (k (s.takeWhile P), s.dropWhile P) := by
  intro q
  refine ⟨k (q.takeWhile P), q.dropWhile P, fun v => ?_⟩
  simp only [dropWhile_append_stop P hx, takeWhile_append_stop P hx]

/-- A run that ends before `x` ends at the same symbol whatever follows. -/
theorem dropWhile_of_left (hS : P x = true ∨ ∀ y, S y → P y = false) (q v : List α)
    (h : v.length < ((q ++ x :: v).dropWhile P).length) :
    ∃ q', ∀ y v', S y → (q ++ y :: v').takeWhile P = q.takeWhile P ∧
      (q ++ y :: v').dropWhile P = q' ++ y :: v' := by
  induction q with
  | nil =>
      rcases hS with hx | hS
      · -- the run goes on over the `x`
        have hle := length_dropWhile_le P v
        rw [List.nil_append, List.dropWhile_cons, if_pos hx] at h
        omega
      · exact ⟨[], fun y v' hy => by simp [hS y hy]⟩
  | cons a q ih =>
      rw [List.cons_append, List.dropWhile_cons] at h
      cases ha : P a with
      | true =>
          rw [if_pos ha] at h
          obtain ⟨q', hq'⟩ := ih h
          refine ⟨q', fun y v' hy => ?_⟩
          simp only [List.cons_append, List.takeWhile_cons, List.dropWhile_cons, ha, if_true,
            hq' y v' hy, and_self]
      | false => exact ⟨a :: q, fun y v' _ => by simp [ha]⟩

theorem localOn_dropWhile (hS : P x = true ∨ ∀ y, S y → P y = false) (k : List α → κ) :
    LocalOn S x fun s => (k (s.takeWhile P), s.dropWhile P) := by
  intro q v h
  obtain ⟨q', hq'⟩ := dropWhile_of_left P hS q v h
  exact ⟨k (q.takeWhile P), q', fun y v' hy => by simp only [hq' y v' hy]⟩

theorem local_dropWhile (k : List α → κ) :
    Local x fun s => (k (s.takeWhile P), s.dropWhile P) := by
  refine (localOn_dropWhile P ?_ k).local
  cases hx : P x with
  | true => exact .inl rfl
  | false =>
      right
      rintro y rfl
      exact hx

theorem shrinks_dropWhile (k : List α → κ) :
    Shrinks fun s => (k (s.takeWhile P), s.dropWhile P) :=
  length_dropWhile_le P

end

/-! ## Up to a closing symbol -/

section
variable [DecidableEq α] {S : α → Prop} {x : α}

/-- Up to the first `stop`.  The kind is what stands before it, if it is there. -/
def upTo (stop : α) (s : List α) : Option (List α) × List α :=
  match s.dropWhile (· ≠ stop) with
  | [] => (none, [])
  | _ :: r => (some (s.takeWhile (· ≠ stop)), r)

/-- Up to the first `stop₁ stop₂`, whether it is there or not. -/
def upToPair (stop₁ stop₂ : α) : List α → Bool × List α
  | [] => (false, [])
  | a :: s => if a = stop₁ ∧ s.head? = some stop₂ then (true, s.tail) else upToPair stop₁ stop₂ s

/-- Up to a quote that is neither doubled nor behind an escape, and whether it is there. -/
def upToQuote (escapes : α → Bool) (quote : α) : List α → Bool × List α
  | [] => (false, [])
  | [a] => (!escapes a && a = quote, [])
  | a :: b :: s =>
      if escapes a then upToQuote escapes quote s
      else if a = quote then
        if b = quote then upToQuote escapes quote s else (true, b :: s)
      else upToQuote escapes quote (b :: s)

theorem shrinks_upTo (stop : α) : Shrinks (upTo stop) := by
  intro s
  have hle := length_dropWhile_le (fun a => decide (a ≠ stop)) s
  rw [upTo]
  split
  · exact Nat.zero_le _
  next heq =>
    rw [heq, List.length_cons] at hle
    exact Nat.le_of_succ_le hle

theorem localOn_upTo {stop : α} (hx : S x) (hS : x = stop → ∀ y, S y → y = stop) :
    LocalOn S x (upTo stop) := by
  intro q v h
  have hstop : decide (x ≠ stop) = true ∨ ∀ y, S y → decide (y ≠ stop) = false := by
    by_cases hne : x = stop
    · exact .inr fun y hy => by simpa using hS hne y hy
    · exact .inl (decide_eq_true hne)
  have hlt : v.length < ((q ++ x :: v).dropWhile (· ≠ stop)).length := by
    rw [upTo] at h
    split at h
    · simp at h
    next heq =>
      rw [heq, List.length_cons]
      dsimp only at h
      omega
  obtain ⟨q', hq'⟩ := dropWhile_of_left (fun a => decide (a ≠ stop)) hstop q v hlt
  cases q' with
  | nil =>
      -- the closing symbol would be the `x`, and the rest be behind it
      simp only [upTo, (hq' x v hx).2, List.nil_append, Nat.lt_irrefl] at h
  | cons a q' =>
      refine ⟨some (q.takeWhile (· ≠ stop)), q', fun y v' hy => ?_⟩
      simp only [upTo, (hq' y v' hy).2, List.cons_append, (hq' y v' hy).1]

theorem local_upTo (stop : α) : Local x (upTo stop) :=
  (localOn_upTo (S := (· = x)) rfl fun hx _ hy => hy.trans hx).local

theorem upTo_append {stop : α} {s : List α} (hs : ∀ a ∈ s, a ≠ stop) (rest : List α) :
    upTo stop (s ++ stop :: rest) = (some s, rest) := by
  have hne : ∀ a ∈ s, decide (a ≠ stop) = true := fun a ha => decide_eq_true (hs a ha)
  rw [upTo, List.dropWhile_append_of_pos hne, List.takeWhile_append_of_pos hne]
  simp

theorem length_upToPair_le (stop₁ stop₂ : α) (s : List α) :
    (upToPair stop₁ stop₂ s).2.length ≤ s.length - 1 := by
  induction s with
  | nil => simp [upToPair]
  | cons a s ih =>
      rw [upToPair]
      split
      · simp
      · simp only [List.length_cons]
        omega

theorem shrinks_upToPair (stop₁ stop₂ : α) : Shrinks (upToPair stop₁ stop₂) :=
  fun s => Nat.le_trans (length_upToPair_le stop₁ stop₂ s) (Nat.sub_le _ _)

theorem localOn_upToPair {stop₁ stop₂ : α} (hx : S x) (hstop : ¬ S stop₂) :
    LocalOn S x (upToPair stop₁ stop₂) := by
  have hne {y : α} (hy : S y) : y ≠ stop₂ := by
    rintro rfl
    exact hstop hy
  intro q v h
  induction q with
  | nil =>
      have hle := length_upToPair_le stop₁ stop₂ (x :: v)
      rw [List.nil_append] at h
      rw [List.length_cons] at hle
      omega
  | cons a q ih =>
      have hhead {y : α} (hy : S y) (v' : List α) :
          (q ++ y :: v').head? = some stop₂ ↔ q.head? = some stop₂ := by
        cases q with
        | nil => simp [hne hy]
        | cons b q => simp
      by_cases hclose : a = stop₁ ∧ q.head? = some stop₂
      · refine ⟨true, q.tail, fun y v' hy => ?_⟩
        rw [List.cons_append, upToPair, if_pos ⟨hclose.1, (hhead hy v').mpr hclose.2⟩]
        cases q with
        | nil => simp at hclose
        | cons b q => rfl
      · have hgo {y : α} (hy : S y) (v' : List α) : upToPair stop₁ stop₂ (a :: q ++ y :: v') =
            upToPair stop₁ stop₂ (q ++ y :: v') := by
          rw [List.cons_append, upToPair, if_neg fun hc => hclose ⟨hc.1, (hhead hy v').mp hc.2⟩]
        rw [hgo hx] at h
        obtain ⟨k, q', hq'⟩ := ih h
        exact ⟨k, q', fun y v' hy => (hgo hy v').trans (hq' y v' hy)⟩

section
variable {escapes : α → Bool} {quote a b : α} (s : List α)

theorem upToQuote_escape (ha : escapes a = true) :
    upToQuote escapes quote (a :: b :: s) = upToQuote escapes quote s := by
  rw [upToQuote, if_pos ha]

theorem upToQuote_doubled (hquote : escapes quote ≠ true) :
    upToQuote escapes quote (quote :: quote :: s) = upToQuote escapes quote s := by
  rw [upToQuote, if_neg hquote, if_pos rfl, if_pos rfl]

theorem upToQuote_quote (hquote : escapes quote ≠ true) (hb : b ≠ quote) :
    upToQuote escapes quote (quote :: b :: s) = (true, b :: s) := by
  rw [upToQuote, if_neg hquote, if_pos rfl, if_neg hb]

theorem upToQuote_plain (hescape : escapes a ≠ true) (ha : a ≠ quote) :
    upToQuote escapes quote (a :: s) = upToQuote escapes quote s := by
  cases s with
  | nil => simp [upToQuote, ha]
  | cons b s => rw [upToQuote, if_neg hescape, if_neg ha]

end

variable (escapes : α → Bool)

theorem length_upToQuote_le (quote : α) (s : List α) :
    (upToQuote escapes quote s).2.length ≤ s.length - 1 := by
  induction s using upToQuote.induct escapes quote with
  | case1 => simp [upToQuote]
  | case2 a => simp [upToQuote]
  | case3 a b s ha ih =>
      rw [upToQuote_escape s ha]
      simp only [List.length_cons]
      omega
  | case4 s hquote ih =>
      rw [upToQuote_doubled s hquote]
      simp only [List.length_cons]
      omega
  | case5 b s hb hquote =>
      rw [upToQuote_quote s hquote hb]
      simp
  | case6 a b s hescape ha ih =>
      rw [upToQuote_plain (b :: s) hescape ha]
      simp only [List.length_cons] at ih ⊢
      omega

theorem shrinks_upToQuote (quote : α) : Shrinks (upToQuote escapes quote) :=
  fun s => Nat.le_trans (length_upToQuote_le escapes quote s) (Nat.sub_le _ _)

theorem localOn_upToQuote {quote : α} (hquote : S quote → x = quote) :
    LocalOn S x (upToQuote escapes quote) := by
  intro q v h
  induction q using upToQuote.induct escapes quote with
  | case1 =>
      have hle := length_upToQuote_le escapes quote (x :: v)
      rw [List.nil_append] at h
      rw [List.length_cons] at hle
      omega
  | case2 a =>
      have hcons (y : α) (v' : List α) : [a] ++ y :: v' = a :: y :: v' := rfl
      simp only [hcons] at h ⊢
      have hpast := length_upToQuote_le escapes quote v
      have hpast' := length_upToQuote_le escapes quote (x :: v)
      rw [List.length_cons] at hpast'
      by_cases hescape : escapes a = true
      · -- the escape takes the `x` with it
        rw [upToQuote_escape v hescape] at h
        omega
      by_cases ha : a = quote
      · subst ha
        by_cases hx : x = a
        · -- the two are a doubled quote
          subst hx
          rw [upToQuote_doubled v hescape] at h
          omega
        · refine ⟨true, [], fun y v' hy => upToQuote_quote v' hescape ?_⟩
          rintro rfl
          exact hx (hquote hy)
      · rw [upToQuote_plain _ hescape ha] at h
        omega
  | case3 a b s ha ih =>
      have hgo (y : α) (v' : List α) : upToQuote escapes quote (a :: b :: s ++ y :: v') =
          upToQuote escapes quote (s ++ y :: v') := upToQuote_escape _ ha
      simp only [hgo] at h ⊢
      exact ih h
  | case4 s hquote ih =>
      have hgo (y : α) (v' : List α) : upToQuote escapes quote (quote :: quote :: s ++ y :: v') =
          upToQuote escapes quote (s ++ y :: v') := upToQuote_doubled _ hquote
      simp only [hgo] at h ⊢
      exact ih h
  | case5 b s hb hquote => exact ⟨true, b :: s, fun y v' _ => upToQuote_quote _ hquote hb⟩
  | case6 a b s hescape ha ih =>
      have hgo (y : α) (v' : List α) : upToQuote escapes quote (a :: b :: s ++ y :: v') =
          upToQuote escapes quote (b :: s ++ y :: v') := upToQuote_plain _ hescape ha
      simp only [hgo] at h ⊢
      exact ih h

theorem local_upToQuote (quote : α) : Local x (upToQuote escapes quote) :=
  (localOn_upToQuote (S := (· = x)) escapes Eq.symm).local

end

/-! ## Between quotes -/

/-- What stands between two quotes: no quote but doubled ones and those behind an
escape, and an escape always has something behind it. -/
inductive Body (escapes : α → Bool) (quote : α) : List α → Prop where
  | nil : Body escapes quote []
  | escaped {a : α} (b : α) {s : List α} :
      escapes a = true → Body escapes quote s → Body escapes quote (a :: b :: s)
  | doubled {s : List α} : Body escapes quote s → Body escapes quote (quote :: quote :: s)
  | plain {a : α} {s : List α} :
      escapes a ≠ true → a ≠ quote → Body escapes quote s → Body escapes quote (a :: s)

section
variable {escapes : α → Bool} {quote : α} {s t : List α}

theorem Body.append (hs : Body escapes quote s) (ht : Body escapes quote t) :
    Body escapes quote (s ++ t) := by
  induction hs with
  | nil => exact ht
  | escaped b ha _ ih => exact .escaped b ha ih
  | doubled _ ih => exact .doubled ih
  | plain ha hne _ ih => exact .plain ha hne ih

theorem body_of_plain (h : ∀ a ∈ s, escapes a ≠ true ∧ a ≠ quote) : Body escapes quote s := by
  induction s with
  | nil => exact .nil
  | cons a s ih =>
      obtain ⟨ha, hs⟩ := List.forall_mem_cons.mp h
      exact .plain ha.1 ha.2 (ih hs)

/-- The scanner stops at the quote behind a body. -/
theorem Body.upToQuote [DecidableEq α] (hs : Body escapes quote s)
    (hquote : escapes quote ≠ true) {rest : List α}
    (hrest : quote ∉ rest.head?) :
    upToQuote escapes quote (s ++ quote :: rest) = (true, rest) := by
  induction hs with
  | nil =>
      cases rest with
      | nil => simp [Scan.upToQuote, hquote]
      | cons b rest =>
          have hb : b ≠ quote := fun hb => hrest (congrArg some hb)
          exact upToQuote_quote rest hquote hb
  | escaped b ha _ ih => rw [List.cons_append, List.cons_append, upToQuote_escape _ ha, ih]
  | doubled _ ih => rw [List.cons_append, List.cons_append, upToQuote_doubled _ hquote, ih]
  | plain ha hne _ ih => rw [List.cons_append, upToQuote_plain _ ha hne, ih]

end

end Scan
