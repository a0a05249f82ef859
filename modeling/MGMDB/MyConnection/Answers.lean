import MGMDB.MyConnection.Queries

/-!
# What the boolean methods answer

The methods that connect, and those that select, create or delete a database, say
by a `BOOL` whether the server did it.  The connect methods take the answer from
the library.  `selectDataBase:` answers YES without a session, and the other two
take an object for a success, which a statement without a result set never gives.
-/

namespace MGMDB

namespace MyConnection

open Systems Program

/-- The methods whose answer is about the server. -/
def Op.tells : Op → Bool
  | .connectWithHost _ _ _ _ | .connectWithSocket _ _ _ | .selectDataBase _ => true
  | .createDataBase _ | .deleteDataBase _ => true
  | _ => false

/-- Among the calls is one by which the server did what the method is for. -/
def Op.AcceptedIn (calls : List Call) : Op → Prop
  | .connectWithHost _ _ _ _ | .connectWithSocket _ _ _ =>
      ∃ handle arguments, .mysql_real_connect handle arguments true ∈ calls
  | .selectDataBase _ => ∃ handle name, .command handle (.init_db name) .accepted ∈ calls
  | .createDataBase _ | .deleteDataBase _ =>
      ∃ handle text, .command handle (.query text) .accepted ∈ calls
  | _ => False

/-- The next query is carried out and answered by an OK packet. -/
def AnsweredOK (E : Environment) (s : State) : Prop :=
  ∃ h affected_rows insert_id more, s.MySQLConnection = some h ∧
    E.reply s.clock = .ok affected_rows insert_id more ∧
    ended (s.memory h).mysql (E.written s.clock) true = .accepted

/-- The states in which a method tells the truth. -/
def Op.Honest (E : Environment) (s : State) : Op → Prop
  | .selectDataBase theDataBase => theDataBase.getD [] = [] ∨ s.isConnected = true
  | .createDataBase theDataBase | .deleteDataBase theDataBase =>
      theDataBase.getD [] = [] ∨ ¬ AnsweredOK E s
  | _ => True

/-! ## Calls of one method -/

section
variable {E : Environment} {s t : State}

/-- Until a connect method looks at its arguments it has not tried a server. -/
theorem reopened_calls (E : Environment) (s : State) :
    ∃ l, (reopened E s).calls = l ++ s.calls ∧
      ∀ handle arguments, .mysql_real_connect handle arguments true ∉ l := by
  have hclosed : ∃ l, (closed s).calls = l ++ s.calls ∧
      ∀ handle arguments, .mysql_real_connect handle arguments true ∉ l := by
    rw [closed]
    split
    · exact ⟨[.mysql_close s.MySQLConnection], rfl, by simp⟩
    · exact ⟨[], rfl, by simp⟩
  obtain ⟨l, hl, hnone⟩ := hclosed
  rw [reopened, initialised]
  split
  · rw [mysql_init, modify_apply]
    split
    · exact ⟨.mysql_init (some _) :: l, by rw [hl]; rfl, by simpa using hnone⟩
    · exact ⟨.mysql_init none :: l, by rw [hl]; rfl, by simpa using hnone⟩
  · exact ⟨l, hl, hnone⟩

theorem attempted_calls (E : Environment) (arguments : Arguments) (h : Nat) (s : State) :
    (attempted E arguments h s).calls =
      .mysql_real_connect (some h) arguments (attempted E arguments h s).isConnected :: s.calls :=
  rfl

/-- A connect method answers YES exactly if the server accepted it. -/
theorem connects_truthful {b : Bool} (hc : Connects E s (.ok b) t) :
    b = true ↔ ∃ handle arguments, .mysql_real_connect handle arguments true ∈ during s t := by
  obtain ⟨l, hl, hnone⟩ := reopened_calls E s
  have hrefused : reopened E s = t →
      ¬ ∃ handle arguments, .mysql_real_connect handle arguments true ∈ during s t := by
    rintro rfl ⟨handle, arguments, hmem⟩
    rw [during_eq hl] at hmem
    exact hnone handle arguments hmem
  generalize hresult : (.ok b : Except Halt Bool) = result at hc
  cases hc with
  | noHandle hp =>
      have hb : b = (reopened E s).isConnected := Except.ok.inj hresult
      rw [hb, reopened_isConnected]
      exact iff_of_false Bool.false_ne_true (hrefused rfl)
  | noHost hp =>
      have hb : b = false := Except.ok.inj hresult
      rw [hb]
      exact iff_of_false Bool.false_ne_true (hrefused rfl)
  | @tried h _ _ hp he =>
      cases he with
      | @refused arguments hfalse =>
          have hb : b = false := Except.ok.inj hresult
          rw [hb]
          refine iff_of_false Bool.false_ne_true ?_
          rintro ⟨handle, arguments', hmem⟩
          have hcalls : (attempted E arguments h (reopened E s)).calls =
              (.mysql_real_connect (some h) arguments false :: l) ++ s.calls := by
            rw [attempted_calls, hfalse, hl, List.cons_append]
          rw [during_eq hcalls] at hmem
          rcases List.mem_cons.mp hmem with hhead | htail
          · cases hhead
          · exact hnone _ _ htail
      | @accepted arguments _ htrue hrun =>
          have huses := (Calm.of_zone hrun).uses
          have hb : b = t.isConnected := Except.ok.inj hresult
          rw [hb, huses.isConnected, htrue]
          obtain ⟨l', hl', -⟩ := huses.calls
          have hcalls : t.calls =
              (l' ++ .mysql_real_connect (some h) arguments true :: l) ++ s.calls := by
            rw [hl', attempted_calls, htrue, hl, List.append_assoc, List.cons_append]
          refine iff_of_true rfl ⟨some h, arguments, ?_⟩
          rw [during_eq hcalls]
          exact List.mem_append_right _ List.mem_cons_self
      | halted => cases hresult

/-! ## Each method -/

/-- The text of a format that ends in its only directive. -/
theorem queryText_last (F : Foundation) {head : NSString} (hhead : 0x25 ∉ head) {letter : unichar}
    {ap : List Arg} {appended : NSString}
    (hdirective : Query.directive F (MGMMyConnection.quoter F) [0x25, letter] ap =
      .ok (appended, 1, [])) :
    MGMMyConnection.queryText F (head ++ [0x25, letter]) ap = .ok (head ++ appended) := by
  have hnone : head.findIdx? (· = 0x25) = none := by
    rw [List.findIdx?_eq_none_iff]
    intro c hc
    simp only [decide_eq_false_iff_not]
    rintro rfl
    exact hhead hc
  have hlocation : (head ++ [0x25, letter]).findIdx? (· = 0x25) = some head.length := by
    have hat : [0x25, letter].findIdx? (· = 0x25) = some 0 := rfl
    rw [List.findIdx?_append, hnone, hat]
    simp
  have hend : (head ++ [0x25, letter]).drop (head.length + (1 + 1)) = [] := by
    rw [List.drop_eq_nil_iff, List.length_append]
    exact Nat.le_refl _
  rw [MGMMyConnection.queryText, Query.compose_of_some _ hlocation, List.drop_left,
    List.take_left, hdirective]
  dsimp only
  rw [hend, Query.compose_of_none _ rfl, List.nil_append, List.append_nil]

/-- The text with a quoted object at its end. -/
theorem queryText_head (F : Foundation) {head : NSString} (hhead : 0x25 ∉ head) (o : Option Obj) :
    MGMMyConnection.queryText F (head ++ lit "%@") [.object o] =
      .ok (head ++ MGMMyConnection.quoteObject F o) :=
  queryText_last F hhead rfl

/-- A query of one object tells by its result whether it was carried out, unless it is
answered by an OK packet. -/
theorem query_truthful_iff {head : NSString} (hhead : 0x25 ∉ head) (hne : head ≠ [])
    {o : Option Obj} {result : Option MGMMyResult}
    (hrun : query E (head ++ lit "%@") [.object o] s = (.ok result, t)) :
    (result.isSome = true ↔
        ∃ handle text, .command handle (.query text) .accepted ∈ during s t) ↔
      ¬ AnsweredOK E s := by
  have htext := queryText_head E.foundation hhead o
  have hqueries := query_queries hrun
  generalize hok : (.ok result : Except Halt (Option MGMMyResult)) = outcome at hqueries
  cases hqueries with
  | crashed => cases hok
  | raised => cases hok
  | unsent _ hnone =>
      rw [htext] at hnone
      rcases hnone with hnone | hnone
      · cases hnone
      · exact absurd (List.append_eq_nil_iff.mp (Except.ok.inj hnone)).1 hne
  | @sent l text bytes h stored hl _ _ htext' hp =>
      have hresult := raising_eq_ok hok.symm
      rw [during_queried hl, query_fst htext' _ hresult]
      constructor
      · rintro htruthful ⟨h', affected_rows, insert_id, more, hp', hok, hended⟩
        obtain rfl := Option.some.inj (hp.symm.trans hp')
        rw [hok] at htruthful
        exact (htruthful.mpr hended).2 _ _ _ rfl
      · intro hnot
        refine ⟨And.left, fun hended => ⟨hended, ?_⟩⟩
        intro affected_rows insert_id more hok
        rw [hok] at hended
        exact hnot ⟨h, _, _, _, hp, hok, hended⟩

theorem selectDataBase_truthful_iff {theDataBase : Option NSString} {b : Bool}
    (hrun : selectDataBase E theDataBase s = (.ok b, t)) :
    (b = true ↔ (Op.selectDataBase theDataBase).AcceptedIn (during s t)) ↔
      (Op.selectDataBase theDataBase).Honest E s := by
  have hnone : ¬ (Op.selectDataBase theDataBase).AcceptedIn (during s s) := by
    rintro ⟨handle, name, hmem⟩
    rw [during_self] at hmem
    cases hmem
  rw [selectDataBase] at hrun
  split at hrun
  next hempty =>
    cases hrun
    exact iff_of_true (iff_of_false Bool.false_ne_true hnone) (.inl hempty)
  next hname =>
    rw [bind_of_ok (get_apply s)] at hrun
    split at hrun
    next hconnected =>
      refine iff_of_true ?_ (.inr hconnected)
      cases hname' : theDataBase.bind UTF8String with
      | none =>
        rw [hname'] at hrun
        cases hrun
      | some name =>
        rw [hname'] at hrun
        obtain ⟨done, u, hsend, hdone⟩ := bind_eq_ok.mp hrun
        obtain ⟨hb, rfl⟩ := Prod.mk.inj hdone
        obtain rfl := Except.ok.inj hb
        rw [simple_command, bind_of_ok (get_apply s)] at hsend
        rcases command_apply E (.init_db (some (cString name))) (accepts (E.packet s.clock))
            (fun mysql => mysql.simple_command (E.written s.clock) (E.packet s.clock)) s with
          hcrash | ⟨h, hp, hsent⟩
        · rw [hsend] at hcrash
          cases hcrash
        rw [hsent] at hsend
        obtain ⟨hfirst, rfl⟩ := Prod.mk.inj hsend
        obtain rfl := Except.ok.inj hfirst
        rw [simple_command_fst, Op.AcceptedIn, during_eq (l := [_]) rfl]
        constructor
        · intro hended
          rw [hended]
          exact ⟨_, _, List.mem_singleton_self _⟩
        · rintro ⟨handle, name', hmem⟩
          injection List.mem_singleton.mp hmem with _ _ hended
          exact hended.symm
    next hfree =>
      cases hrun
      refine iff_of_false ?_ ?_
      · intro htruthful
        exact hnone (htruthful.mp rfl)
      · rintro (hempty | hconnected)
        · exact hname hempty
        · exact hfree hconnected

/-- The two methods that make a query of the name. -/
theorem database_truthful_iff {head : NSString} (hhead : 0x25 ∉ head) (hne : head ≠ [])
    {theDataBase : Option NSString} {b : Bool}
    (hrun : (do
      if theDataBase.getD [] = [] then return false
      let result ← query E (head ++ lit "%@") [.object (theDataBase.map .string)]
      return result.isSome : Method Bool) s = (.ok b, t)) :
    (b = true ↔ ∃ handle text, .command handle (.query text) .accepted ∈ during s t) ↔
      (theDataBase.getD [] = [] ∨ ¬ AnsweredOK E s) := by
  split at hrun
  next hempty =>
    cases hrun
    refine iff_of_true (iff_of_false Bool.false_ne_true ?_) (.inl hempty)
    rintro ⟨handle, text, hmem⟩
    rw [during_self] at hmem
    cases hmem
  next hname =>
    obtain ⟨result, u, hquery, hresult⟩ := bind_eq_ok.mp hrun
    obtain ⟨hb, rfl⟩ := Prod.mk.inj hresult
    obtain rfl := Except.ok.inj hb
    rw [query_truthful_iff hhead hne hquery, or_iff_right hname]

theorem bool_eq_ok {x : Method Bool} {b : Bool}
    (h : (Value.bool <$> x) s = (.ok (.bool b), t)) : x s = (.ok b, t) := by
  obtain ⟨b', hx, hb⟩ := map_eq_ok.mp h
  injection hb with hb
  rw [hx, hb]

theorem perform_truthful_iff {op : Op} (hop : op.tells = true) {b : Bool}
    (hrun : perform E op s = (.ok (.bool b), t)) :
    (b = true ↔ op.AcceptedIn (during s t)) ↔ op.Honest E s := by
  cases op with
  | connectWithHost theHost thePort theUsername thePassword =>
      have hc := connectWithHost_connects E theHost thePort theUsername thePassword s
      rw [bool_eq_ok hrun] at hc
      exact iff_of_true (connects_truthful hc) trivial
  | connectWithSocket theSocket theUsername thePassword =>
      have hc := connectWithSocket_connects E theSocket theUsername thePassword s
      rw [bool_eq_ok hrun] at hc
      exact iff_of_true (connects_truthful hc) trivial
  | selectDataBase theDataBase => exact selectDataBase_truthful_iff (bool_eq_ok hrun)
  | createDataBase theDataBase =>
      have hhead : 0x25 ∉ lit "CREATE DATABASE " := by decide
      exact database_truthful_iff hhead (by decide) (bool_eq_ok hrun)
  | deleteDataBase theDataBase =>
      have hhead : 0x25 ∉ lit "DROP DATABASE " := by decide
      exact database_truthful_iff hhead (by decide) (bool_eq_ok hrun)
  | _ => cases hop

end

/-- If a method answers in a state, YES means that the server did it in this call, and
NO that it did not. -/
def Truthful (E : Environment) (s : State) (op : Op) : Prop :=
  ∀ b, ((object E).step s op).1 = some (.ok (.bool b)) →
    (b = true ↔ op.AcceptedIn (during s ((object E).step s op).2))

/-- A server that has no variables to show, and carries out what comes after. -/
def acknowledging : Environment :=
  { answering with
    reply := fun n => if n < 5 then .columns [] (.rows [] noRow_fits false) else .ok 1 0 false }

end MyConnection

end MGMDB
