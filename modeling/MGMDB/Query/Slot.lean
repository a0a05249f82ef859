import MGMDB.Query.Grammar

/-!
# One argument of a query

A *slot* is a template with its arguments, taken apart at one directive: what stands
before it and what stands behind it, each with the arguments that belong there.  With a
directive and an argument for it the slot is a query again, and `compose_slot` says that
the text of the argument then stands between two texts that do not depend on it.  So in any
query another argument of a directive changes one place of the text (`compose_set`).
-/

namespace MGMDB

namespace Query

/-- The two sides of a directive. -/
structure Slot (F : Foundation) where
  before : Template F
  argsBefore : List Arg
  behind : Template F
  argsBehind : List Arg
  /-- The arguments before the directive are those that the template there takes. -/
  counts : argsBefore.length = before.ctypes.length
  matchesBefore : before.Matches argsBefore
  matchesBehind : behind.Matches argsBehind

section
variable {F : Foundation}

/-- A directive between two texts. -/
def Slot.between (left right : { t : NSString // 0x25 ∉ t }) : Slot F where
  before := [.text left]
  argsBefore := []
  behind := [.text right]
  argsBehind := []
  counts := rfl
  matchesBefore := trivial
  matchesBehind := trivial

/-- The format with a directive between the two sides. -/
def Slot.format (slot : Slot F) (d : Directive F) : NSString :=
  Template.format (slot.before ++ .directive d :: slot.behind)

/-- The arguments with one more for the directive. -/
def Slot.arguments (slot : Slot F) (a : Arg) : List Arg := slot.argsBefore ++ a :: slot.argsBehind

/-- The text before the directive. -/
def Slot.left (slot : Slot F) (Q : Quoter) : NSString :=
  (slot.before.texts Q slot.argsBefore).flatten

/-- The text behind the directive. -/
def Slot.right (slot : Slot F) (Q : Quoter) : NSString :=
  (slot.behind.texts Q slot.argsBehind).flatten

/-! ## Appended templates -/

/-- All directives but `%%` take an argument. -/
theorem Directive.ctype_eq_some {d : Directive F} (hd : d ≠ .percent) :
    ∃ type, d.ctype = some type := by
  cases d <;> first | exact absurd rfl hd | exact ⟨_, rfl⟩

theorem Template.length_ctypes {d : Directive F} (hd : d ≠ .percent) (T : Template F) :
    (Template.ctypes (.directive d :: T)).length = T.ctypes.length + 1 := by
  obtain ⟨type, htype⟩ := Directive.ctype_eq_some hd
  rw [Template.ctypes_directive, htype, Option.toList_some, List.length_append, Nat.add_comm]
  rfl

/-- The texts of a template go on with those of the next. -/
theorem Template.texts_append (Q : Quoter) {T T' : Template F} {as as' : List Arg}
    (h : as.length = T.ctypes.length) :
    Template.texts Q (T ++ T') (as ++ as') = T.texts Q as ++ T'.texts Q as' := by
  induction T generalizing as with
  | nil =>
      obtain rfl := List.eq_nil_of_length_eq_zero h
      rfl
  | cons piece T ih =>
    cases piece with
    | text t => exact congrArg (t.val :: ·) (ih h)
    | directive d =>
        by_cases hd : d = .percent
        · subst hd
          exact congrArg (lit "%" :: ·) (ih h)
        · rw [Template.length_ctypes hd] at h
          obtain ⟨a, as, rfl⟩ := List.exists_cons_of_length_eq_add_one h
          rw [List.cons_append, List.cons_append, Template.texts_directive Q hd,
            Template.texts_directive Q hd, ih (Nat.succ.inj h)]
          rfl

theorem Template.matches_append {T T' : Template F} {as as' : List Arg}
    (hlength : as.length = T.ctypes.length) (h : T.Matches as) (h' : T'.Matches as') :
    Template.Matches (T ++ T') (as ++ as') := by
  induction T generalizing as with
  | nil =>
      obtain rfl := List.eq_nil_of_length_eq_zero hlength
      exact h'
  | cons piece T ih =>
    cases piece with
    | text t => exact ih hlength h
    | directive d =>
        by_cases hd : d = .percent
        · subst hd
          exact ih hlength h
        · obtain ⟨a, as, rfl, ha, hm⟩ := Template.matches_directive hd h
          rw [Template.length_ctypes hd] at hlength
          exact Template.matches_cons hd ha (ih (Nat.succ.inj hlength) hm)

/-- Arguments that fit are split where the template is. -/
theorem Template.matches_split {T T' : Template F} {as : List Arg}
    (h : Template.Matches (T ++ T') as) :
    ∃ front rest, as = front ++ rest ∧ front.length = T.ctypes.length ∧ T.Matches front ∧
      T'.Matches rest := by
  induction T generalizing as with
  | nil => exact ⟨[], as, rfl, rfl, trivial, h⟩
  | cons piece T ih =>
    cases piece with
    | text t => exact ih h
    | directive d =>
        by_cases hd : d = .percent
        · subst hd
          exact ih h
        · obtain ⟨a, as, rfl, ha, hm⟩ := Template.matches_directive hd h
          obtain ⟨front, rest, rfl, hlength, hfront, hrest⟩ := ih hm
          refine ⟨a :: front, rest, rfl, ?_, Template.matches_cons hd ha hfront, hrest⟩
          rw [Template.length_ctypes hd, List.length_cons, hlength]

/-! ## The text -/

theorem Slot.matches (slot : Slot F) {d : Directive F} (hd : d ≠ .percent) {a : Arg}
    (ha : d.Accepts a) :
    Template.Matches (slot.before ++ .directive d :: slot.behind) (slot.arguments a) :=
  Template.matches_append slot.counts slot.matchesBefore
    (Template.matches_cons hd ha slot.matchesBehind)

/-- The loop puts the text of the argument between those of the two sides. -/
theorem compose_slot (Q : Quoter) (slot : Slot F) {d : Directive F} (hd : d ≠ .percent) {a : Arg}
    (ha : d.Accepts a) :
    compose F Q (slot.format d) (slot.arguments a) [] =
      .ok (slot.left Q ++ d.rendering Q a ++ slot.right Q) := by
  have htext := compose_append_format Q _ _ [] [] List.not_mem_nil (slot.matches hd ha)
  rw [Slot.arguments, Template.texts_append Q slot.counts, Template.texts_directive Q hd,
    List.flatten_append, List.flatten_cons] at htext
  rw [List.append_assoc]
  exact htext

/-- The argument of any directive of a query may be replaced by another one that it accepts.
The loop takes that one too, and its text stands where the other stood. -/
theorem compose_set (Q : Quoter) {T T' : Template F} {d : Directive F} (hd : d ≠ .percent)
    {ap : List Arg} (h : Template.Matches (T ++ .directive d :: T') ap) :
    ∃ left right, ∀ a, d.Accepts a →
      compose F Q (Template.format (T ++ .directive d :: T')) (ap.set T.ctypes.length a) [] =
        .ok (left ++ d.rendering Q a ++ right) := by
  obtain ⟨front, rest, rfl, hlength, hfront, hrest⟩ := Template.matches_split h
  obtain ⟨a₀, rest, rfl, -, hm⟩ := Template.matches_directive hd hrest
  let slot : Slot F := ⟨T, front, T', rest, hlength, hfront, hm⟩
  refine ⟨slot.left Q, slot.right Q, fun a ha => ?_⟩
  have hset : (front ++ a₀ :: rest).set T.ctypes.length a = slot.arguments a := by
    rw [← hlength, List.set_append_right _ _ (Nat.le_refl _), Nat.sub_self]
    rfl
  rw [hset]
  exact compose_slot Q slot hd ha

end

/-- A string in front of a number. -/
theorem compose_set_name : ∃ left right, ∀ a, (Directive.object (F := default)).Accepts a →
    compose default (MGMMyConnection.quoter default) (lit "name = %@ AND id = %d")
      ([.object (some (.string (lit "Ann"))), .int 7].set 0 a) [] =
      .ok (left ++
        (Directive.object (F := default)).rendering (MGMMyConnection.quoter default) a ++ right) :=
  have hmatches : Template.Matches (F := default)
      ([.text ⟨lit "name = ", by decide⟩] ++ .directive .object ::
        [.text ⟨lit " AND id = ", by decide⟩, .directive (.numeric .d)])
      [.object (some (.string (lit "Ann"))), .int 7] := ⟨rfl, rfl, trivial⟩
  compose_set (MGMMyConnection.quoter default) (by simp) hmatches

end Query

end MGMDB
