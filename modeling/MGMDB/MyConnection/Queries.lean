import MGMDB.MyConnection.Resources

/-!
# What a query does

`query:` quotes its arguments, builds a text and sends it.  It stops before the
text is sent when it cannot quote an argument, when a directive is none, and when
the text is empty.  `Queries` lists the ends of a call with the state each leaves,
and the calls `during` it tell whether the server carried the text out.
-/

namespace MGMDB

namespace MyConnection

open Systems Program

/-- The calls between two states, the last one first. -/
def during (s t : State) : List Call := t.calls.take (t.calls.length - s.calls.length)

/-- Whether `query:` gets to its text, and the text is not empty. -/
def Sendable (E : Environment) (s : State) (format : NSString) (ap : List Arg) : Prop :=
  CanQuote E.foundation s
      (Query.quoted E.foundation (MGMMyConnection.quoter E.foundation) format ap) ∧
    ∃ text, MGMMyConnection.queryText E.foundation format ap = .ok text ∧ text ≠ []

/-- What a method returns for a value of the pure part. -/
def raising {α : Type} : Except NSException α → Except Halt α
  | .ok a => .ok a
  | .error _ => .error .raised

/-- The state after a query on the handle `h`, behind the quoting calls `l`. -/
def queried (E : Environment) (s : State) (h : Nat) (text : NSString) (bytes : CString)
    (l : List Call) (stored : List Stored) : State :=
  { s with
    memory := Function.update s.memory h { s.memory h with
      mysql := (MGMMyConnection.query (s.memory h).mysql text (E.written s.clock)
        (E.reply s.clock)).2 }
    clock := s.clock + 1
    calls := .command (some h) (.query (some bytes)) (ended (s.memory h).mysql
      (E.written s.clock) (executes (E.reply s.clock))) :: (l ++ s.calls)
    stored := stored }

/-- How `query:` ends: with nil or an exception before a text is sent, in a crash, or
behind the query. -/
inductive Queries (E : Environment) (s : State) (format : NSString) (ap : List Arg) :
    Except Halt (Option MGMMyResult) → State → Prop where
  | unsent {l : List Call} : OnlyLooks l →
      MGMMyConnection.queryText E.foundation format ap = .error .invalidFormat ∨
        MGMMyConnection.queryText E.foundation format ap = .ok [] →
      Queries E s format ap (.ok none) { s with calls := l ++ s.calls }
  | raised {l : List Call} : OnlyLooks l → ¬ Sendable E s format ap →
      Queries E s format ap (.error .raised) { s with calls := l ++ s.calls }
  | crashed {t : State} : Queries E s format ap (.error .crashed) t
  | sent {l : List Call} {text : NSString} {bytes : CString} {h : Nat} {stored : List Stored} :
      OnlyLooks l → Sendable E s format ap →
      MGMMyConnection.queryText E.foundation format ap = .ok text → text ≠ [] →
      s.MySQLConnection = some h →
      Queries E s format ap
        (raising (MGMMyConnection.query (s.memory h).mysql text (E.written s.clock)
          (E.reply s.clock)).1)
        (queried E s h text bytes l stored)

section
variable {E : Environment} {s t : State}

theorem during_eq {l : List Call} (h : t.calls = l ++ s.calls) : during s t = l := by
  rw [during, h, List.length_append, Nat.add_sub_cancel, List.take_left]

theorem during_self (s : State) : during s s = [] := during_eq rfl

/-! ## Commands and their answers -/

theorem ended_eq_accepted_iff {mysql : MYSQL} {w : Written} {accepts : Bool} :
    ended mysql w accepts = .accepted ↔
      mysql.vio = true ∧ ¬ (mysql.status ≠ .ready ∨ mysql.more_results = true) ∧
        w = .written ∧ accepts = true := by
  cases hvio : mysql.vio with
  | false => simp [ended, hvio]
  | true =>
      by_cases hsync : mysql.status ≠ .ready ∨ mysql.more_results = true
      · simp [ended, hvio, hsync]
      · cases w <;> cases accepts <;> simp [ended, hvio, hsync]

/-- A command gets through exactly if it is written to a session in step. -/
theorem cli_advanced_command_fst (mysql : MYSQL) (w : Written) :
    (mysql.cli_advanced_command w).1 = false ↔ ended mysql w true = .accepted := by
  rw [ended_eq_accepted_iff, MYSQL.cli_advanced_command]
  cases hvio : mysql.vio with
  | false => simp
  | true =>
      by_cases hsync : mysql.status ≠ .ready ∨ mysql.more_results = true
      · simp [hsync]
      · cases w <;> simp [hsync]

theorem ended_eq_accepted (mysql : MYSQL) (w : Written) (accepts : Bool) :
    ended mysql w accepts = .accepted ↔
      (mysql.cli_advanced_command w).1 = false ∧ accepts = true := by
  rw [cli_advanced_command_fst, ended_eq_accepted_iff, ended_eq_accepted_iff]
  tauto

theorem simple_command_fst (mysql : MYSQL) (w : Written) (packet : Packet) :
    (mysql.simple_command w packet).1.isSome = true ↔
      ended mysql w (accepts packet) = .accepted := by
  rw [ended_eq_accepted, MYSQL.simple_command]
  split
  next hrun => simp [hrun]
  next hrun => cases packet <;> simp [hrun, accepts]

/-- `query:` gives no object for an OK packet, and otherwise one exactly if the
statement was carried out. -/
theorem query_fst {mysql : MYSQL} {text : NSString} (ht : text ≠ []) (w : Written) {reply : Reply}
    {result : Option MGMMyResult} (h : (MGMMyConnection.query mysql text w reply).1 = .ok result) :
    result.isSome = true ↔ ended mysql w (executes reply) = .accepted ∧
      ∀ affected_rows insert_id more, reply ≠ .ok affected_rows insert_id more := by
  rw [ended_eq_accepted]
  rw [MGMMyConnection.query, if_neg ht, MYSQL.mysql_query] at h
  cases hsent : mysql.cli_advanced_command w with
  | mk refused sent =>
    rw [hsent] at h
    cases refused with
    | true =>
        obtain rfl := Except.ok.inj h
        simp
    | false =>
        cases reply with
        | ok affected_rows insert_id more =>
            obtain rfl := Except.ok.inj h
            simp
        | error errno text =>
            obtain rfl := Except.ok.inj h
            simp [executes]
        | lost =>
            obtain rfl := Except.ok.inj h
            simp [executes]
        | columns fields data =>
            cases data with
            | error errno text =>
                obtain rfl := Except.ok.inj h
                simp [executes]
            | lost =>
                obtain rfl := Except.ok.inj h
                simp [executes]
            | rows data row_length more =>
                change MGMMyResult.initWithResult (some (.stored fields data row_length)) =
                  .ok result at h
                simp only [MGMMyResult.initWithResult] at h
                split at h
                next => cases h
                next =>
                  obtain rfl := Except.ok.inj h
                  simp [executes]

/-! ## The ends of a query -/

theorem orRaise_apply {α : Type} (x : Except NSException α) (s : State) :
    orRaise x s = (raising x, s) := by
  cases x with
  | ok a => rfl
  | error e => rfl

theorem raising_eq_ok {α : Type} {x : Except NSException α} {a : α} (h : raising x = .ok a) :
    x = .ok a := by
  cases x with
  | ok a' => rw [Except.ok.inj h]
  | error e => cases h

theorem resultObject_apply (source : Source) (theResult : Option MYSQL_RES) (s : State) :
    ∃ stored, resultObject source theResult s =
      (raising (MGMMyResult.initWithResult theResult), { s with stored := stored }) := by
  cases theResult with
  | none => exact ⟨s.stored, rfl⟩
  | some result =>
      refine ⟨⟨source, result⟩ :: s.stored, ?_⟩
      rw [resultObject, bind_apply, modify_apply]
      exact orRaise_apply _ _

/-- A command crashes, or is sent on the handle. -/
theorem command_apply {α : Type} (E : Environment) (c : Command) (accepts : Bool)
    (send : MYSQL → α × MYSQL) (s : State) :
    (command E c accepts send s).1 = .error .crashed ∨
      ∃ h, s.MySQLConnection = some h ∧
        command E c accepts send s =
          (.ok (send (s.memory h).mysql).1,
            { s with
              memory := Function.update s.memory h
                { s.memory h with mysql := (send (s.memory h).mysql).2 }
              clock := s.clock + 1
              calls := .command (some h) c
                (ended (s.memory h).mysql (E.written s.clock) accepts) :: s.calls }) := by
  rw [command]
  cases hp : s.MySQLConnection with
  | none => exact .inl rfl
  | some h =>
      dsimp only
      split
      · exact .inr ⟨h, rfl, rfl⟩
      · exact .inl rfl

/-- The text has no UTF-8 or there is no handle to send it on, or it is sent. -/
theorem sendQuery_apply (E : Environment) {text : NSString} (ht : text ≠ []) (s : State) :
    (sendQuery E text s).1 = .error .crashed ∨
      ∃ h bytes stored, s.MySQLConnection = some h ∧
        sendQuery E text s =
          (raising (MGMMyConnection.query (s.memory h).mysql text (E.written s.clock)
            (E.reply s.clock)).1, queried E s h text bytes [] stored) := by
  cases hbytes : UTF8String text with
  | none =>
      refine .inl ?_
      rw [sendQuery, hbytes]
      rfl
  | some bytes =>
      have hsend : sendQuery E text s =
          (command E (.query (some (cString bytes))) (executes (E.reply s.clock))
              (fun mysql => mysql.query_and_store (E.written s.clock) (E.reply s.clock)) >>=
            resultObject (.reply s.clock)) s := by
        rw [sendQuery, hbytes]
        rfl
      rw [hsend]
      rcases command_apply E (.query (some (cString bytes))) (executes (E.reply s.clock))
          (fun mysql => mysql.query_and_store (E.written s.clock) (E.reply s.clock)) s
        with hcrash | ⟨h, hp, hrun⟩
      · refine .inl ?_
        rw [bind_of_error (Prod.ext hcrash rfl)]
      · rw [bind_of_ok hrun]
        obtain ⟨stored, hstored⟩ := resultObject_apply (.reply s.clock)
          ((s.memory h).mysql.query_and_store (E.written s.clock) (E.reply s.clock)).1
          (queried E s h text (cString bytes) [] s.stored)
        refine .inr ⟨h, cString bytes, stored, hp, ?_⟩
        have hquery := MGMMyConnection.query_eq (s.memory h).mysql ht (E.written s.clock)
          (E.reply s.clock)
        rw [queried, hquery] at hstored ⊢
        exact hstored

/-- A text that is not sent. -/
theorem not_sendable {format : NSString} {ap : List Arg}
    (h : ∀ text, MGMMyConnection.queryText E.foundation format ap = .ok text → text = []) :
    ¬ Sendable E s format ap := by
  rintro ⟨-, text, hok, hne⟩
  exact hne (h text hok)

/-- What `query:` does behind the quoting calls `l`. -/
theorem sendComposed_queries {format : NSString} {ap : List Arg} {l : List Call} (hl : OnlyLooks l)
    (hcan : CanQuote E.foundation s
      (Query.quoted E.foundation (MGMMyConnection.quoter E.foundation) format ap))
    {result : Except Halt (Option MGMMyResult)}
    (hrun : sendComposed E (MGMMyConnection.queryText E.foundation format ap)
      { s with calls := l ++ s.calls } = (result, t)) :
    Queries E s format ap result t := by
  cases htext : MGMMyConnection.queryText E.foundation format ap with
  | error failure =>
      have hunsent : ¬ Sendable E s format ap := not_sendable fun text hok => by
        rw [htext] at hok
        cases hok
      rw [htext] at hrun
      cases failure with
      | badArgument =>
          cases hrun
          exact .crashed
      | invalidFormat =>
          cases hrun
          exact .unsent hl (.inl htext)
      | rangeException =>
          cases hrun
          exact .raised hl hunsent
      | nilArgument =>
          cases hrun
          exact .raised hl hunsent
  | ok text =>
      rw [htext, sendComposed] at hrun
      split at hrun
      next hempty =>
        cases hrun
        exact .unsent hl (.inr (by rw [htext, hempty]))
      next hne =>
        rcases sendQuery_apply E hne { s with calls := l ++ s.calls } with
          hcrash | ⟨h, bytes, stored, hp, hsend⟩
        · rw [hrun] at hcrash
          obtain rfl : result = .error .crashed := hcrash
          exact .crashed
        · rw [hsend] at hrun
          cases hrun
          exact .sent hl ⟨hcan, text, htext, hne⟩ htext hne hp

/-- Every call of `query:` ends in one of the ways. -/
theorem query_queries {format : NSString} {ap : List Arg}
    {result : Except Halt (Option MGMMyResult)} (hrun : query E format ap s = (result, t)) :
    Queries E s format ap result t := by
  rcases quoteEach_apply E
      (Query.quoted E.foundation (MGMMyConnection.quoter E.foundation) format ap) s with
    ⟨l, hl, hcan, hquotes⟩ | ⟨l, hl, -, hcan, hquotes⟩
  · rw [query, bind_of_ok hquotes] at hrun
    exact sendComposed_queries hl.onlyLooks hcan hrun
  · rw [query, bind_of_error hquotes] at hrun
    cases hrun
    exact .raised hl fun hsendable => hcan hsendable.1

/-- A query was carried out in the call that sent it exactly if it ended so. -/
theorem during_queried {l : List Call} (hl : OnlyLooks l) (h : Nat) (text : NSString)
    (bytes : CString) (stored : List Stored) :
    (∃ handle text', .command handle (.query text') .accepted ∈
        during s (queried E s h text bytes l stored)) ↔
      ended (s.memory h).mysql (E.written s.clock) (executes (E.reply s.clock)) = .accepted := by
  have hcalls : (queried E s h text bytes l stored).calls =
      (.command (some h) (.query (some bytes)) (ended (s.memory h).mysql (E.written s.clock)
        (executes (E.reply s.clock))) :: l) ++ s.calls := rfl
  rw [during_eq hcalls]
  constructor
  · rintro ⟨handle, text', hmem⟩
    rcases List.mem_cons.mp hmem with hhead | htail
    · injection hhead with _ _ hended
      exact hended.symm
    · obtain ⟨set, hset⟩ := hl _ htail
      cases hset
  · intro hended
    rw [hended]
    exact ⟨_, _, List.mem_cons_self⟩

end

end MyConnection

end MGMDB
