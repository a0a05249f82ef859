import MGMDB.ErrorNumbers
import MGMDB.MyConnection.Queries
import MGMDB.Query.Grammar

/-!
# Formats that are refused

A caller that relies on nil for a format that is none gets it from both classes unless the
format ends within a directive, where the method raises, or has digits that are no ASCII
digits, which it takes.
-/

namespace MGMDB

open Systems Program

/-- The quoter of an object. -/
abbrev MyConnection.Environment.quoter (E : MyConnection.Environment) : Query.Quoter :=
  MGMMyConnection.quoter E.foundation

/-! ## The two classes -/

/-- `query:` gets to a text with a format of the grammar.  Any other it refuses: it returns
nil, sends nothing and leaves the connection as it was. -/
structure MyConnection.KeepsGrammar (E : MyConnection.Environment) (s : MyConnection.State)
    (format : NSString) (ap : List Arg) : Prop where
  accepted : Query.InGrammar E.foundation format →
    MyConnection.CanQuote E.foundation s (Query.quoted E.foundation E.quoter format ap) ∧
      ∃ text, MGMMyConnection.queryText E.foundation format ap = .ok text
  refused : ¬ Query.InGrammar E.foundation format →
    MGMMyConnection.queryText E.foundation format ap = .error .invalidFormat ∧
      ∃ l, MyConnection.OnlyLooks l ∧
        MyConnection.query E format ap s = (.ok none, { s with calls := l ++ s.calls })

/-- The same of the other class. -/
structure LiteSession.KeepsGrammar {ω : Type} (E : LiteSession.Environment ω)
    (s : LiteSession.State ω) (format : NSString) (ap : List Arg) : Prop where
  accepted : Query.InGrammar E.foundation format →
    ∃ text, MGMLiteConnection.queryText E.foundation format ap = .ok text
  refused : ¬ Query.InGrammar E.foundation format →
    MGMLiteConnection.queryText E.foundation format ap = .error .invalidFormat ∧
      LiteSession.query E format ap s = (.ok none, s)

section
variable {ω : Type} {format : NSString} {ap : List Arg}

/-- The class refuses what the loop refuses, if it can quote what comes before. -/
theorem MyConnection.keepsGrammar_iff_loop (E : MyConnection.Environment)
    (s : MyConnection.State) :
    MyConnection.KeepsGrammar E s format ap ↔
      Query.KeepsGrammar E.foundation E.quoter format ap ∧
        MyConnection.CanQuote E.foundation s (Query.quoted E.foundation E.quoter format ap) := by
  constructor
  · intro h
    refine ⟨⟨fun hin => (h.accepted hin).2, fun hin => (h.refused hin).1⟩, ?_⟩
    by_cases hin : Query.InGrammar E.foundation format
    · exact (h.accepted hin).1
    · obtain ⟨-, l, -, hrun⟩ := h.refused hin
      rcases MyConnection.quoteEach_apply E (Query.quoted E.foundation E.quoter format ap) s with
        ⟨_, -, hcan, -⟩ | ⟨_, -, -, -, hraised⟩
      · exact hcan
      · rw [MyConnection.query, bind_of_error hraised] at hrun
        cases hrun
  · rintro ⟨hkeeps, hcan⟩
    refine ⟨fun hin => ⟨hcan, hkeeps.accepted hin⟩, fun hin => ⟨hkeeps.refused hin, ?_⟩⟩
    rcases MyConnection.quoteEach_apply E (Query.quoted E.foundation E.quoter format ap) s with
      ⟨l, hl, -, hquotes⟩ | ⟨_, -, -, hcannot, -⟩
    · refine ⟨l, hl.onlyLooks, ?_⟩
      have hloop : MGMMyConnection.queryText E.foundation format ap = .error .invalidFormat :=
        hkeeps.refused hin
      rw [MyConnection.query, bind_of_ok hquotes, hloop]
      rfl
    · exact absurd hcan hcannot

theorem LiteSession.keepsGrammar_iff_loop (E : LiteSession.Environment ω)
    (s : LiteSession.State ω) :
    LiteSession.KeepsGrammar E s format ap ↔
      Query.KeepsGrammar E.foundation (MGMLiteConnection.quoter E.foundation) format ap := by
  constructor
  · exact fun h => ⟨h.accepted, fun hin => (h.refused hin).1⟩
  · intro h
    refine ⟨h.accepted, fun hin => ⟨h.refused hin, ?_⟩⟩
    have hloop : MGMLiteConnection.queryText E.foundation format ap = .error .invalidFormat :=
      h.refused hin
    rw [LiteSession.query, hloop]

/-- Both classes take the formats of the grammar and no others unless the format ends
within a directive, or has only directives and among them one with digits of another
script, or an argument is nil where a directive does not take it.  The MySQL class must
have its character set if it has a string to quote. -/
theorem keepsGrammar_iff {E : MyConnection.Environment} {E' : LiteSession.Environment ω}
    (hF : E'.foundation = E.foundation) (h : Query.Typed E.foundation format ap)
    (s : MyConnection.State) (s' : LiteSession.State ω) :
    MyConnection.KeepsGrammar E s format ap ∧ LiteSession.KeepsGrammar E' s' format ap ↔
      (¬ Query.CutShort E.foundation format ∧ ¬ Query.Foreign E.foundation format ∧
          ¬ Query.Refuses E.foundation format ap) ∧
        MyConnection.CanQuote E.foundation s (Query.quoted E.foundation E.quoter format ap) := by
  have hmy := Query.keepsGrammar_iff_whole E.quoter h
  have hlite := Query.keepsGrammar_iff_whole (MGMLiteConnection.quoter E.foundation) h
  rw [MyConnection.keepsGrammar_iff_loop, LiteSession.keepsGrammar_iff_loop, hF, hmy, hlite]
  exact ⟨fun h => h.1, fun h => ⟨h, h.1⟩⟩

end

/-! ## Examples -/

/-- A format that ends in a `%`. -/
def halfFormat : NSString := lit "SELECT 50" ++ [0x25]

/-- The loop reads past the end of it. -/
theorem compose_halfFormat (F : Foundation) (Q : Query.Quoter) :
    Query.compose F Q halfFormat [] [] = .error .rangeException :=
  Query.compose_of_error Q (by decide) (Query.directive_cut Q .percent []) []

theorem not_keepsGrammar :
    ¬ ∀ (E : MyConnection.Environment) (E' : LiteSession.Environment Unit),
      E'.foundation = E.foundation → ∀ (format : NSString) (ap : List Arg),
      Query.Typed E.foundation format ap → ∀ (s : MyConnection.State)
        (s' : LiteSession.State Unit),
      MyConnection.KeepsGrammar E s format ap ∧ LiteSession.KeepsGrammar E' s' format ap := by
  intro h
  have htyped : Query.Typed MyConnection.hangingUp.foundation halfFormat [] :=
    Query.typed_percent (by decide) []
  have hkeeps := (h MyConnection.hangingUp refusingEngine rfl halfFormat [] htyped .blank
    LiteSession.opened).2
  rw [LiteSession.keepsGrammar_iff_loop] at hkeeps
  exact hkeeps.ne_error _ Query.Failure.noConfusion (compose_halfFormat _ _)

/-- A format with one number. -/
def numberTemplate : Query.Template MyConnection.hangingUp.foundation :=
  [.text ⟨lit "SELECT ", by decide⟩, .directive (.numeric .d)]

theorem keepsGrammar_iff_number :
    MyConnection.KeepsGrammar MyConnection.hangingUp .blank numberTemplate.format [.int 7] ∧
        LiteSession.KeepsGrammar refusingEngine LiteSession.opened numberTemplate.format
          [.int 7] ↔
      (¬ Query.CutShort MyConnection.hangingUp.foundation numberTemplate.format ∧
          ¬ Query.Foreign MyConnection.hangingUp.foundation numberTemplate.format ∧
          ¬ Query.Refuses MyConnection.hangingUp.foundation numberTemplate.format [.int 7]) ∧
        MyConnection.CanQuote MyConnection.hangingUp.foundation .blank
          (Query.quoted MyConnection.hangingUp.foundation MyConnection.hangingUp.quoter
            numberTemplate.format [.int 7]) :=
  keepsGrammar_iff rfl (Query.typed_format ⟨[], rfl⟩) .blank LiteSession.opened

end MGMDB
