import MGMDB.Query.Format

/-!
# What a query quotes

The loop that builds the text of a query asks the connection to quote some of
the arguments.  `quoted` lists them in the order of the calls, up to the end of
the format or the directive at which the loop stops.  The text depends on the
connection only by what it makes of these (`compose_congr`).
-/

namespace MGMDB

namespace Query

/-- The object a directive has quoted, if it has one quoted.  `tail` is the format
from the `%` on. -/
def quotedByDirective (tail : NSString) (ap : List Arg) : Option (Option Obj) :=
  match tail, ap with
  | _ :: 0x40 :: _, .object o :: _ => some o
  | _ :: 0x73 :: _, .cString (some s) :: _ => some ((stringWithUTF8String s).map .string)
  | _, _ => none

/-- The objects the loop has quoted. -/
def quoted (F : Foundation) (Q : Quoter) (currentFormat : NSString) (ap : List Arg) :
    List (Option Obj) :=
  match _h : currentFormat.findIdx? (· = 0x25) with
  | none => []
  | some location =>
      (quotedByDirective (currentFormat.drop location) ap).toList ++
        match directive F Q (currentFormat.drop location) ap with
        | .error _ => []
        | .ok (_, offset, ap) => quoted F Q (currentFormat.drop (location + (offset + 1))) ap
termination_by currentFormat.length
decreasing_by
  have hlt := (List.findIdx?_eq_some_iff_getElem.mp _h).1
  simp only [List.length_drop]
  omega

/-- A quoter that quotes a C string as the string it is read as. -/
structure Quoter.Reads (Q : Quoter) : Prop where
  quoteChar_eq : ∀ s, Q.quoteChar s = Q.quoteObject ((stringWithUTF8String s).map .string)

section
variable {F : Foundation} {Q Q' : Quoter}

theorem directive_congr (hQ : Q.Reads) (hQ' : Q'.Reads) {tail : NSString} {ap : List Arg}
    (h : ∀ o ∈ quotedByDirective tail ap, Q.quoteObject o = Q'.quoteObject o) :
    directive F Q tail ap = directive F Q' tail ap := by
  cases tail with
  | nil => rfl
  | cons percent tail =>
    cases tail with
    | nil => rfl
    | cons c rest =>
      by_cases hobject : c = 0x40
      · subst hobject
        cases ap with
        | nil => rfl
        | cons a ap =>
          cases a with
          | object o =>
              have ho := h o rfl
              show Except.ok (Q.quoteObject o, 1, ap) = Except.ok (Q'.quoteObject o, 1, ap)
              rw [ho]
          | _ => rfl
      · by_cases hchar : c = 0x73
        · subst hchar
          cases ap with
          | nil => rfl
          | cons a ap =>
            cases a with
            | cString s =>
                cases s with
                | none => rfl
                | some s =>
                    have ho := h _ rfl
                    show Except.ok (Q.quoteChar s, 1, ap) = Except.ok (Q'.quoteChar s, 1, ap)
                    rw [hQ.quoteChar_eq, hQ'.quoteChar_eq, ho]
            | _ => rfl
        · -- no other directive quotes
          simp only [directive, characterAtIndex, List.getElem?_cons_succ,
            List.getElem?_cons_zero, bind, Except.bind]
          split <;> first | rfl | exact absurd rfl hobject | exact absurd rfl hchar

theorem compose_of_none {currentFormat : NSString} (Q : Quoter)
    (h : currentFormat.findIdx? (· = 0x25) = none) (ap : List Arg) (query : NSString) :
    compose F Q currentFormat ap query = .ok (query ++ currentFormat) := by
  rw [compose, h]

theorem compose_of_some {currentFormat : NSString} {location : Nat} (Q : Quoter)
    (h : currentFormat.findIdx? (· = 0x25) = some location) (ap : List Arg) (query : NSString) :
    compose F Q currentFormat ap query =
      match directive F Q (currentFormat.drop location) ap with
      | .error e => .error e
      | .ok (appended, offset, ap) =>
          compose F Q (currentFormat.drop (location + (offset + 1))) ap
            (query ++ currentFormat.take location ++ appended) := by
  rw [compose]
  split
  next hnone => cases h.symm.trans hnone
  next hsome =>
    obtain rfl := Option.some.inj (h.symm.trans hsome)
    rfl

theorem quoted_of_some {currentFormat : NSString} {location : Nat} (Q : Quoter)
    (h : currentFormat.findIdx? (· = 0x25) = some location) (ap : List Arg) :
    quoted F Q currentFormat ap =
      (quotedByDirective (currentFormat.drop location) ap).toList ++
        match directive F Q (currentFormat.drop location) ap with
        | .error _ => []
        | .ok (_, offset, ap) => quoted F Q (currentFormat.drop (location + (offset + 1))) ap := by
  rw [quoted, h]

/-- The text depends on the quoter only by the objects the loop has quoted. -/
theorem compose_congr (hQ : Q.Reads) (hQ' : Q'.Reads) (currentFormat : NSString) (ap : List Arg)
    (query : NSString)
    (h : ∀ o ∈ quoted F Q currentFormat ap, Q.quoteObject o = Q'.quoteObject o) :
    compose F Q currentFormat ap query = compose F Q' currentFormat ap query := by
  induction currentFormat, ap, query using compose.induct (F := F) (Q := Q) with
  | case1 currentFormat ap query hnone =>
      rw [compose_of_none Q hnone, compose_of_none Q' hnone]
  | case2 currentFormat ap query location hlocation e he =>
      rw [quoted_of_some Q hlocation, List.forall_mem_append] at h
      have hdirective := directive_congr (F := F) hQ hQ' fun o ho => h.1 o (by simpa using ho)
      rw [compose_of_some Q hlocation, compose_of_some Q' hlocation, ← hdirective, he]
  | case3 currentFormat ap query location hlocation appended offset ap' hok ih =>
      rw [quoted_of_some Q hlocation, List.forall_mem_append] at h
      have hdirective := directive_congr (F := F) hQ hQ' fun o ho => h.1 o (by simpa using ho)
      rw [hok] at h
      rw [compose_of_some Q hlocation, compose_of_some Q' hlocation, ← hdirective, hok]
      exact ih h.2

/-- Both classes write a number alike. -/
theorem compose_congr_number :
    compose default (MGMMyConnection.quoter default) (lit "%@")
        [.object (some (.number (.signed 7)))] [] =
      compose default (MGMLiteConnection.quoter default) (lit "%@")
        [.object (some (.number (.signed 7)))] [] :=
  compose_congr ⟨fun _ => rfl⟩ ⟨fun _ => rfl⟩ _ _ _ (by decide +kernel)

/-! ## Without arguments -/

theorem appendFormat_nil (format : NSString) (type : CType) (offset : Nat) :
    appendFormat F format type offset [] = .error .badArgument := rfl

/-- A directive leaves no arguments where there are none. -/
theorem directive_nil {tail appended : NSString} {offset : Nat} {ap : List Arg}
    (h : directive F Q tail [] = .ok (appended, offset, ap)) : ap = [] := by
  simp only [directive, appendFormat_nil, va_object, va_cString, bind, Except.bind, throw,
    throwThe, MonadExceptOf.throw, pure, Except.pure] at h
  repeat' split at h
  all_goals cases h
  all_goals rfl

theorem quoted_nil (currentFormat : NSString) : quoted F Q currentFormat [] = [] := by
  induction hlen : currentFormat.length using Nat.strongRecOn generalizing currentFormat with
  | ind n ih =>
    subst hlen
    cases hlocation : currentFormat.findIdx? (· = 0x25) with
    | none => rw [quoted, hlocation]
    | some location =>
        have hnone : quotedByDirective (currentFormat.drop location) [] = none := by
          rw [quotedByDirective]
          · intro _ _ _ _ _ hcons
            cases hcons
          · intro _ _ _ _ _ hcons
            cases hcons
        have hlt := (List.findIdx?_eq_some_iff_getElem.mp hlocation).1
        rw [quoted_of_some Q hlocation, hnone, Option.toList_none, List.nil_append]
        split
        next => rfl
        next hok =>
          rw [directive_nil hok]
          refine ih _ ?_ _ rfl
          rw [List.length_drop]
          omega

end

end Query

end MGMDB
