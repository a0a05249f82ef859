import MGMDB.MyConnection.Queries

/-!
# Where results come from

Every result the methods store is stored from the reply to the command just sent,
with the cursor on its first row.  So its rows are those the server sent in that reply,
all of them and in its order, and no two results have one reply.
-/

namespace MGMDB

/-- The columns and the rows of a reply that came in full. -/
def Announced.resultSet (announced : Announced) : Option (List MYSQL_FIELD × List MYSQL_ROW) :=
  match announced.data with
  | .rows data _ _ => some (announced.fields, data)
  | .error _ _ | .lost => none

def Reply.resultSet : Reply → Option (List MYSQL_FIELD × List MYSQL_ROW)
  | .columns fields data => Announced.resultSet ⟨fields, data⟩
  | _ => none

def ProcessReply.resultSet : ProcessReply → Option (List MYSQL_FIELD × List MYSQL_ROW)
  | .columns announced => announced.resultSet
  | _ => none

/-- A stored result that nothing was read from, with these columns and rows. -/
structure MYSQL_RES.Holds (res : MYSQL_RES)
    (sent : Option (List MYSQL_FIELD × List MYSQL_ROW)) : Prop where
  resultSet : sent = some (res.fields, res.data)
  data_cursor : res.data_cursor = res.data

section
variable {mysql : MYSQL} {res : MYSQL_RES} {w : Written}

theorem MYSQL.mysql_store_result_holds {announced : Announced}
    (hfields : mysql.fields = some announced)
    (h : mysql.mysql_store_result.1 = some res) : res.Holds announced.resultSet := by
  rw [mysql_store_result, hfields] at h
  dsimp only at h
  split at h
  next => cases h
  next =>
    obtain ⟨fields, data⟩ := announced
    cases data with
    | rows data row_length more =>
        cases h
        exact ⟨rfl, rfl⟩
    | error errno text => cases h
    | lost => cases h

/-- What is stored behind a query is what the reply announced. -/
theorem MYSQL.store_of_query {reply : Reply} {sent : MYSQL}
    (hquery : mysql.mysql_query w reply = (false, sent))
    (h : sent.mysql_store_result.1 = some res) : res.Holds reply.resultSet := by
  rw [mysql_query] at hquery
  cases hsent : mysql.cli_advanced_command w with
  | mk refused advanced =>
    rw [hsent] at hquery
    cases refused with
    | true => cases hquery
    | false =>
        cases reply with
        | ok affected_rows insert_id more =>
            cases hquery
            rw [mysql_store_result, MYSQL.free_old_query] at h
            cases h
        | columns fields data =>
            cases hquery
            exact mysql_store_result_holds rfl h
        | error errno text => cases hquery
        | lost => cases hquery

theorem MYSQL.query_and_store_holds {reply : Reply}
    (h : (mysql.query_and_store w reply).1 = some res) : res.Holds reply.resultSet := by
  rw [query_and_store] at h
  cases hquery : mysql.mysql_query w reply with
  | mk refused sent =>
    rw [hquery] at h
    cases refused with
    | true => cases h
    | false => exact store_of_query hquery h

theorem MYSQL.mysql_list_processes_holds {reply : ProcessReply}
    (h : (mysql.mysql_list_processes w reply).1 = some res) : res.Holds reply.resultSet := by
  rw [mysql_list_processes] at h
  cases hsent : mysql.cli_advanced_command w with
  | mk refused advanced =>
    rw [hsent] at h
    cases refused with
    | true => cases h
    | false =>
        cases reply with
        | columns announced => exact mysql_store_result_holds rfl h
        | error errno text => cases h
        | lost => cases h

end

namespace MyConnection

open Systems Program

/-- The columns and the rows of a reply, if they came in full. -/
def Environment.resultSet (E : Environment) :
    Source → Option (List MYSQL_FIELD × List MYSQL_ROW)
  | .reply n => (E.reply n).resultSet
  | .processReply n => (E.processReply n).resultSet

/-- A result as it is stored: it holds the rows of its reply. -/
def FromServer (E : Environment) (r : Stored) : Prop := r.result.Holds (E.resultSet r.source)

/-- Results that were stored between two states, each from the reply to a call of its own. -/
structure New (E : Environment) (s t : State) (new : List Stored) : Prop where
  stored : t.stored = new ++ s.stored
  fromServer : ∀ r ∈ new, FromServer E r
  clock_le : ∀ r ∈ new, s.clock ≤ r.source.number
  lt_clock : ∀ r ∈ new, r.source.number < t.clock
  decreasing : new.Pairwise fun r r' => r'.source.number < r.source.number

/-- New results are the server's. -/
def Makes (E : Environment) (s t : State) : Prop := s.clock ≤ t.clock ∧ ∃ new, New E s t new

section
variable {E : Environment} {s t : State}

theorem Makes.of_eq (h : t.stored = s.stored) (hclock : s.clock ≤ t.clock) : Makes E s t :=
  ⟨hclock, [], h, nofun, nofun, nofun, .nil⟩

theorem Makes.refl (s : State) : Makes E s s := .of_eq rfl (Nat.le_refl _)

theorem Makes.trans {u : State} (h : Makes E s t) (h' : Makes E t u) : Makes E s u := by
  obtain ⟨hle, new, hnew⟩ := h
  obtain ⟨hle', new', hnew'⟩ := h'
  refine ⟨hle.trans hle', new' ++ new, ?_⟩
  exact
    { stored := by rw [hnew'.stored, hnew.stored, List.append_assoc]
      fromServer := List.forall_mem_append.mpr ⟨hnew'.fromServer, hnew.fromServer⟩
      clock_le := List.forall_mem_append.mpr
        ⟨fun r hr => hle.trans (hnew'.clock_le r hr), hnew.clock_le⟩
      lt_clock := List.forall_mem_append.mpr
        ⟨hnew'.lt_clock, fun r hr => (hnew.lt_clock r hr).trans_le hle'⟩
      decreasing := List.pairwise_append.mpr ⟨hnew'.decreasing, hnew.decreasing,
        fun r' hr' r hr => (hnew.lt_clock r hr).trans_le (hnew'.clock_le r' hr')⟩ }

theorem makes_command {α : Type} (c : Command) (accepts : Bool) (send : MYSQL → α × MYSQL) :
    Follows (Makes E) (command E c accepts send) := by
  intro s
  rw [command]
  cases s.MySQLConnection with
  | none => exact .of_eq rfl (Nat.le_refl _)
  | some h =>
      dsimp only
      split
      · exact .of_eq rfl (Nat.le_succ _)
      · exact .of_eq rfl (Nat.le_refl _)

theorem snd_orRaise {α : Type} (x : Except NSException α) (s : State) : (orRaise x s).2 = s := by
  rw [orRaise_apply]

/-- A command and an object around what it stores. -/
theorem makes_resultObject {c : Command} {accepts : Bool}
    {send : MYSQL → Option MYSQL_RES × MYSQL} {source : Source} (hsource : source.number = s.clock)
    (hsend : ∀ mysql res, (send mysql).1 = some res → res.Holds (E.resultSet source)) :
    Makes E s ((command E c accepts send >>= resultObject source) s).2 := by
  rcases command_apply E c accepts send s with hcrash | ⟨h, hp, hrun⟩
  · rw [bind_of_error (Prod.ext hcrash rfl)]
    exact makes_command c accepts send s
  · rw [bind_of_ok hrun]
    cases hresult : (send (s.memory h).mysql).1 with
    | none => exact .of_eq rfl (Nat.le_succ _)
    | some res =>
        rw [resultObject, bind_apply, modify_apply]
        dsimp only
        rw [snd_orRaise]
        refine ⟨Nat.le_succ _, [⟨source, res⟩], rfl, ?_, ?_, ?_, List.pairwise_singleton _ _⟩
        · exact List.forall_mem_singleton.mpr (hsend _ _ hresult)
        · exact List.forall_mem_singleton.mpr (Nat.le_of_eq hsource.symm)
        · exact List.forall_mem_singleton.mpr (Nat.lt_succ_of_le (Nat.le_of_eq hsource))

theorem makes_sendQuery (query : NSString) : Follows (Makes E) (sendQuery E query) := by
  intro s
  rw [sendQuery]
  cases UTF8String query with
  | none => exact .of_eq rfl (Nat.le_refl _)
  | some bytes =>
      dsimp only
      rw [bind_of_ok (get_apply s)]
      exact makes_resultObject rfl fun _ _ h => MYSQL.query_and_store_holds h

theorem makes_listLike (text : String) (theName : Option NSString) :
    Follows (Makes E) (listLike E text theName) := by
  intro s
  rw [listLike, bind_of_ok (get_apply s)]
  exact makes_resultObject rfl fun _ _ h => MYSQL.query_and_store_holds h

theorem makes_processes : Follows (Makes E) (processes E) := by
  intro s
  rw [processes, bind_of_ok (get_apply s)]
  exact makes_resultObject rfl fun _ _ h => MYSQL.mysql_list_processes_holds h

theorem respects_makes (E : Environment) : RespectsQuoting E (Makes E) where
  refl := .refl
  trans _ _ _ := Makes.trans
  accessor read s := by
    rw [accessor]
    cases s.MySQLConnection with
    | none => exact .of_eq rfl (Nat.le_refl _)
    | some h => exact .of_eq rfl (Nat.le_refl _)
  simple_command c s := by
    rw [simple_command, bind_of_ok (get_apply s)]
    exact makes_command _ _ _ s
  status s := by
    rw [status, bind_of_ok (get_apply s), bind_pure_snd]
    exact makes_command _ _ _ s
  sendQuery := makes_sendQuery
  listLike := makes_listLike
  processes := makes_processes
  nullText c s := .of_eq rfl (Nat.le_refl _)
  timeZone zone s := .of_eq rfl (Nat.le_refl _)
  logQuery b s := .of_eq rfl (Nat.le_refl _)
  escapeString := follows_escapeString .refl fun _ => .of_eq rfl (Nat.le_refl _)

/-! ## Every method -/

theorem makes_closed (s : State) : Makes E s (closed s) := by
  rw [closed]
  split <;> exact .of_eq rfl (Nat.le_refl _)

theorem makes_reopened (E : Environment) (s : State) : Makes E s (reopened E s) := by
  refine (makes_closed s).trans ?_
  rw [reopened, initialised]
  split
  · rw [mysql_init, modify_apply]
    split <;> exact .of_eq rfl (Nat.le_succ _)
  · exact .refl _

theorem makes_connects {result : Except Halt Bool} (hc : Connects E s result t) : Makes E s t := by
  have hreopened := makes_reopened E s
  have hzone := (respects_makes E).follows_getTimeZone
  refine hc.kept hreopened (fun _ _ _ => hreopened.trans (.of_eq rfl (Nat.le_succ _))) ?_
  intro p arguments result u _ hrun hattempted
  exact hattempted.trans (hzone.of_run hrun)

theorem keptByMethods_makes (E : Environment) (s : State) : KeptByMethods E (Makes E s) where
  uses _ _ hop _ h := h.trans (follows_perform (respects_makes E) hop _)
  connects _ _ _ hc _ h := h.trans (makes_connects hc)
  closed t _ h := h.trans (makes_closed t)
  dealloc t _ h := by
    rw [dealloc_apply]
    exact h.trans ((makes_closed t).trans (.of_eq rfl (Nat.le_refl _)))

/-- A method only makes results of the server. -/
theorem makes_perform (halive : s.alive = true) (op : Op) : Makes E s (perform E op s).2 :=
  (keptByMethods_makes E s).perform op halive (.refl s)

/-- So does an initialiser, which begins with none. -/
theorem new_create (E : Environment) (creation : Creation) :
    New E State.blank (create E creation State.blank).2
      (create E creation State.blank).2.stored := by
  have hcreates : Creates E fun s => New E State.blank s s.stored :=
    { init := ⟨rfl, nofun, nofun, nofun, .nil⟩
      escapeSet := fun _ h => ⟨h.stored, h.fromServer, h.clock_le, h.lt_clock, h.decreasing⟩
      connects := by
        intro s result t hc _ h
        obtain ⟨hle, hnew⟩ := (show Makes E State.blank s from ⟨Nat.zero_le _, _, h⟩).trans
          (makes_connects hc)
        obtain ⟨new, hnew⟩ := hnew
        have hall : t.stored = new := hnew.stored.trans (List.append_nil _)
        rw [hall]
        exact hnew }
  exact hcreates.create creation

end

end MyConnection

end MGMDB
