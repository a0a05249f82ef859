import MGMDB.MyConnection.Drained

/-!
# What a ping leaves

`isConnected` of an object with a session sends a ping, which is a command like any other.
Before the client sends it, it forgets the last error and the number of affected rows.
What `affectedRows`, `errorID` and `errorMessage` have of the last query is gone, and only
`insertId` still has it (`readings_after`).
-/

namespace MGMDB

namespace MYSQL

/-- A session on which the next command is sent. -/
def InStep (mysql : MYSQL) : Prop := mysql.status = .ready ∧ mysql.more_results = false

instance (mysql : MYSQL) : Decidable mysql.InStep :=
  inferInstanceAs (Decidable (mysql.status = .ready ∧ mysql.more_results = false))

/-- What a ping leaves of a session, with a server that answers. -/
def pinged (mysql : MYSQL) : MYSQL :=
  if mysql.InStep then { mysql.net_clear_error with affected_rows := ~~~0 }
  else mysql.set_mysql_error CR_COMMANDS_OUT_OF_SYNC

theorem simple_command_pinged {mysql : MYSQL} (hvio : mysql.vio = true) (bytes : NSData) :
    (mysql.simple_command .written (.ok bytes)).2 = mysql.pinged := by
  have hlive : ¬ mysql.vio = false := by
    rw [hvio]
    exact Bool.noConfusion
  rw [simple_command, cli_advanced_command, if_neg hlive]
  by_cases hstep : mysql.InStep
  · have hsync : ¬ (mysql.status ≠ .ready ∨ mysql.more_results = true) := by
      rintro (hstatus | hmore)
      · exact hstatus hstep.1
      · rw [hstep.2] at hmore
        cases hmore
    rw [if_neg hsync, pinged, if_pos hstep]
  · have hsync : mysql.status ≠ .ready ∨ mysql.more_results = true := by
      by_cases hstatus : mysql.status = .ready
      · exact .inr (Bool.not_eq_false _ |>.mp fun hmore => hstep ⟨hstatus, hmore⟩)
      · exact .inl hstatus
    rw [if_pos hsync, pinged, if_neg hstep]

/-- Another ping leaves nothing else. -/
theorem pinged_pinged (mysql : MYSQL) : mysql.pinged.pinged = mysql.pinged := by
  by_cases hstep : mysql.InStep
  · have hpinged : mysql.pinged = { mysql.net_clear_error with affected_rows := ~~~0 } :=
      if_pos hstep
    have hagain : mysql.pinged.InStep := by
      rw [hpinged]
      exact hstep
    rw [pinged, if_pos hagain, hpinged]
    rfl
  · have hpinged : mysql.pinged = mysql.set_mysql_error CR_COMMANDS_OUT_OF_SYNC := if_neg hstep
    have hagain : ¬ mysql.pinged.InStep := by
      rw [hpinged]
      exact hstep
    rw [pinged, if_neg hagain, hpinged]
    rfl

theorem pinged_vio (mysql : MYSQL) : mysql.pinged.vio = mysql.vio := by
  rw [pinged]
  split <;> rfl

end MYSQL

namespace MyConnection

open Systems Program

/-! ## What is asked -/

/-- The methods that ask about the session and its last result. -/
inductive Op.Asks : Op → Prop where
  | isConnected : Asks .isConnected
  | affectedRows : Asks .affectedRows
  | insertId : Asks .insertId
  | errorID : Asks .errorID
  | errorMessage : Asks .errorMessage

/-- The method that pings. -/
def Op.pings : Op → Bool
  | .isConnected => true
  | _ => false

/-- What the four methods would return. -/
structure Readings where
  affectedRows : Except Halt UInt64
  insertId : Except Halt UInt64
  errorID : Except Halt Nat
  errorMessage : Except Halt (Option NSString)

def readings (s : State) : Readings where
  affectedRows := (affectedRows s).1
  insertId := (insertId s).1
  errorID := (errorID s).1
  errorMessage := (errorMessage s).1

/-- The session of an object. -/
structure Session (s : State) (h : Nat) (mysql : MYSQL) : Prop where
  alive : s.alive = true
  isConnected : s.isConnected = true
  MySQLConnection : s.MySQLConnection = some h
  methods : (s.memory h).methods = true
  mysql_eq : (s.memory h).mysql = mysql

/-- The server is there for so many commands from now on. -/
def Environment.Answers (E : Environment) (s : State) (n : Nat) : Prop :=
  ∀ i < n, E.written (s.clock + i) = .written ∧ ∃ bytes, E.packet (s.clock + i) = .ok bytes

section
variable {E : Environment} {s t : State} {h : Nat} {mysql : MYSQL}

/-- A method that reads the handle if there is a session. -/
theorem Session.asked (hs : Session s h mysql) {α : Type} (read : State → Handle → α) (none : α) :
    (do
      let s ← get
      if s.isConnected then accessor (read s) else return none : Method α) s =
      (.ok (read s (s.memory h)), { s with calls := .accessor (some h) :: s.calls }) := by
  simp only [bind_apply, get_apply, hs.isConnected, if_true, accessor, hs.MySQLConnection]

/-- What the four methods return of a session. -/
theorem Session.readings_eq (hs : Session s h mysql) :
    readings s =
      { affectedRows := .ok mysql.affected_rows
        insertId := .ok mysql.insert_id
        errorID := .ok mysql.last_errno
        errorMessage := .ok (stringWithUTF8String mysql.last_error) } := by
  rw [readings, affectedRows, insertId, errorID, errorMessage,
    hs.asked (fun _ handle => handle.mysql.affected_rows),
    hs.asked (fun _ handle => handle.mysql.insert_id),
    hs.asked (fun _ handle => handle.mysql.last_errno),
    hs.asked (fun _ handle => stringWithUTF8String handle.mysql.last_error), hs.mysql_eq]

/-- A reading leaves the session. -/
theorem Session.accessor (hs : Session s h mysql) {op : Op} (hop : op.Asks)
    (hping : op.pings = false) :
    Session (survived (perform E op s)) h mysql ∧ (survived (perform E op s)).clock = s.clock := by
  have hcalls : Session { s with calls := .accessor (some h) :: s.calls } h mysql :=
    ⟨hs.alive, hs.isConnected, hs.MySQLConnection, hs.methods, hs.mysql_eq⟩
  cases hop with
  | isConnected => cases hping
  | affectedRows =>
      have hrun : MyConnection.affectedRows s = (.ok _, _) :=
        hs.asked (fun _ handle => handle.mysql.affected_rows) 0
      rw [perform, map_of_ok hrun]
      exact ⟨hcalls, rfl⟩
  | insertId =>
      have hrun : MyConnection.insertId s = (.ok _, _) :=
        hs.asked (fun _ handle => handle.mysql.insert_id) 0
      rw [perform, map_of_ok hrun]
      exact ⟨hcalls, rfl⟩
  | errorID =>
      have hrun : MyConnection.errorID s = (.ok _, _) :=
        hs.asked (fun _ handle => handle.mysql.last_errno) 0
      rw [perform, map_of_ok hrun]
      exact ⟨hcalls, rfl⟩
  | errorMessage =>
      have hrun : MyConnection.errorMessage s = (.ok _, _) :=
        hs.asked (fun _ handle => stringWithUTF8String handle.mysql.last_error) none
      rw [perform, map_of_ok hrun]
      exact ⟨hcalls, rfl⟩

/-- A ping. -/
theorem Session.ping (hs : Session s h mysql) (hvio : mysql.vio = true)
    (hanswer : E.Answers s 1) :
    Session (survived (perform E .isConnected s)) h mysql.pinged ∧
      (survived (perform E .isConnected s)).clock = s.clock + 1 := by
  obtain ⟨hwritten, bytes, hpacket⟩ := hanswer 0 Nat.one_pos
  rw [Nat.add_zero] at hwritten hpacket
  obtain ⟨done, how, hrun⟩ : ∃ done how, MyConnection.isConnected E s =
      (.ok done,
        { s with
          memory := Function.update s.memory h { s.memory h with mysql := mysql.pinged }
          clock := s.clock + 1
          calls := .command (some h) .ping how :: s.calls }) := by
    simp only [MyConnection.isConnected, bind_apply, get_apply, hs.isConnected, if_true,
      simple_command, command, hs.MySQLConnection, hs.methods, hs.mysql_eq, hwritten, hpacket,
      MYSQL.simple_command_pinged hvio, pure_apply]
    exact ⟨_, _, rfl⟩
  rw [perform, map_of_ok hrun]
  refine ⟨⟨hs.alive, hs.isConnected, hs.MySQLConnection, ?_, ?_⟩, rfl⟩
  · show (Function.update s.memory h _ h).methods = true
    rw [Function.update_self]
    exact hs.methods
  · show (Function.update s.memory h _ h).mysql = _
    rw [Function.update_self]

theorem Environment.Answers.mono {n k : Nat} (hE : E.Answers s n) (hk : k ≤ n) : E.Answers s k :=
  fun i hi => hE i (Nat.lt_of_lt_of_le hi hk)

/-- What is still to be answered behind the first command. -/
theorem Environment.Answers.next {n : Nat} (hE : E.Answers s (n + 1))
    (hclock : t.clock = s.clock + 1) : E.Answers t n := by
  intro i hi
  rw [hclock, Nat.add_assoc, Nat.add_comm 1 i]
  exact hE (i + 1) (Nat.succ_lt_succ hi)

theorem Environment.Answers.same {n : Nat} (hE : E.Answers s n) (hclock : t.clock = s.clock) :
    E.Answers t n := by
  intro i hi
  rw [hclock]
  exact hE i hi

/-- Any number of questions.  However many of them are pings, they leave what one leaves. -/
theorem Session.run (hs : Session s h mysql) (hvio : mysql.vio = true) {l : List Op}
    (hl : ∀ op ∈ l, op.Asks) (hanswer : E.Answers s (l.countP Op.pings)) :
    Session ((object E).run s l).2 h (if l.any Op.pings then mysql.pinged else mysql) := by
  induction l generalizing s mysql with
  | nil => exact hs
  | cons op l ih =>
      obtain ⟨hop, hrest⟩ := List.forall_mem_cons.mp hl
      have hstep : ((object E).step s op).2 = survived (perform E op s) := by
        simp only [object, hs.alive, if_true]
      rw [Machine.run_cons, List.any_cons]
      show Session ((object E).run ((object E).step s op).2 l).2 h _
      rw [hstep]
      cases hping : op.pings with
      | false =>
          rw [List.countP_cons_of_neg (by simp [hping])] at hanswer
          obtain ⟨hread, hclock⟩ := hs.accessor (E := E) hop hping
          exact ih hread hvio hrest (hanswer.same hclock)
      | true =>
          rw [List.countP_cons_of_pos hping] at hanswer
          have hop : op = .isConnected := by
            cases hop with
            | isConnected => rfl
            | _ => cases hping
          subst hop
          obtain ⟨hpinged, hclock⟩ := hs.ping (E := E) hvio (hanswer.mono (Nat.le_add_left 1 _))
          have hrun := ih hpinged (mysql.pinged_vio.trans hvio) hrest (hanswer.next hclock)
          rw [MYSQL.pinged_pinged, ite_self] at hrun
          exact hrun

/-! ## The session of an object -/

/-- A connection is tried on a handle once and for all. -/
def StaysTried (s t : State) : Prop :=
  ∀ h, (s.memory h).methods = true → (t.memory h).methods = true

theorem commands_staysTried (E : Environment) :
    RespectsCommands E (fun _ => True) StaysTried where
  refl _ _ := id
  trans _ _ _ hst htu h hs := htu h (hst h hs)
  sends := ⟨fun _ => trivial, fun _ => trivial, fun _ => trivial, fun _ => trivial⟩
  accessor read s h hs := by
    rw [accessor]
    cases s.MySQLConnection with
    | none => exact hs
    | some p => exact hs
  command c accepts send _ s h hs := by
    rw [command]
    cases s.MySQLConnection with
    | none => exact hs
    | some p =>
        dsimp only
        split
        next hmethods =>
          by_cases hp : h = p
          · subst hp
            show (Function.update s.memory h _ h).methods = true
            rw [Function.update_self]
            exact hmethods
          · show (Function.update s.memory p _ h).methods = true
            rw [Function.update_of_ne hp]
            exact hs
        next => exact hs
  nullText _ _ _ := id
  stored _ _ _ := id
  timeZone _ _ _ := id
  logQuery _ _ _ := id

theorem respects_staysTried (E : Environment) : RespectsQuoting E StaysTried where
  toRespects := (commands_staysTried E).respects
  escapeString := follows_escapeString (fun _ _ => id) fun _ _ => id

/-- A connected object has a handle that a connection was tried on. -/
def Opened (s : State) : Prop :=
  s.alive = true → s.isConnected = true →
    ∃ h, s.MySQLConnection = some h ∧ (s.memory h).methods = true

theorem Opened.uses (hs : Opened s) (hu : Uses s t) (ht : StaysTried s t) : Opened t := by
  intro halive hconnected
  obtain ⟨p, hp, hmethods⟩ := hs (hu.alive ▸ halive) (hu.isConnected ▸ hconnected)
  exact ⟨p, hu.MySQLConnection.trans hp, ht p hmethods⟩

theorem attempted_opened {p : Nat} (hp : s.MySQLConnection = some p) (arguments : Arguments) :
    Opened (attempted E arguments p s) := by
  intro _ _
  refine ⟨p, hp, ?_⟩
  show (Function.update s.memory p _ p).methods = true
  rw [Function.update_self]
  cases E.mysql_real_connect s.clock with
  | accepted greeting => rfl
  | refused errno text protocol_version thread_id => rfl

theorem Opened.of_not_connected (hs : s.isConnected = false) : Opened s := by
  intro _ hconnected
  rw [hs] at hconnected
  cases hconnected

theorem Connects.opened {result : Except Halt Bool} (hc : Connects E s result t) : Opened t := by
  have huses := (respects_uses E).follows_getTimeZone
  have htried := (respects_staysTried E).follows_getTimeZone
  refine hc.kept (.of_not_connected (reopened_isConnected E s))
    (fun _ arguments hp => attempted_opened hp arguments) ?_
  intro p arguments result u _ hrun hattempted
  exact hattempted.uses (huses.of_run hrun) (htried.of_run hrun)

theorem kept_opened (E : Environment) : Kept E Opened where
  init := .of_not_connected rfl
  escapeSet _ h := h
  gone _ _ hfalse := by cases hfalse
  uses s _ hop _ h :=
    h.uses (follows_perform (respects_uses E) hop s) (follows_perform (respects_staysTried E) hop s)
  connects _ _ _ hc _ _ := hc.opened
  closed s _ _ := .of_not_connected (closed_isConnected s)
  dealloc s _ _ := by
    rw [dealloc_apply]
    intro hfalse
    cases hfalse

end

/-- The text of an error as a string. -/
theorem outOfSync_text : stringWithUTF8String (ER CR_COMMANDS_OUT_OF_SYNC) =
    some (lit "Commands out of sync; you can't run this command now") := by
  decide +kernel

/-- What questions leave for the four methods.  Without a ping they leave everything.  A
ping that is sent leaves only `insertId`.  One that is refused because the client
waits for further results leaves the row count as well, and is the last error. -/
structure Leaves (before later : Readings) (pinged inStep : Prop) : Prop where
  unasked : ¬ pinged → later = before
  sent : pinged → inStep →
    later = { before with
      affectedRows := .ok (~~~0), errorID := .ok 0, errorMessage := .ok (some []) }
  refused : pinged → ¬ inStep →
    later = { before with
      errorID := .ok CR_COMMANDS_OUT_OF_SYNC
      errorMessage := .ok (some (lit "Commands out of sync; you can't run this command now")) }

/-- After any history of an object with a live session, and any questions whose pings the
server answers, the four methods return what they would have returned before, but for
what a ping changes. -/
theorem readings_after (E : Environment) (creation : Creation) (ops l : List Op) (h : Nat)
    (halive : (after E creation ops).alive = true)
    (hconnected : (after E creation ops).isConnected = true)
    (hp : (after E creation ops).MySQLConnection = some h)
    (hvio : ((after E creation ops).memory h).mysql.vio = true) (hl : ∀ op ∈ l, op.Asks)
    (hanswer : E.Answers (after E creation ops) (l.countP Op.pings)) :
    Leaves (readings (after E creation ops)) (readings (after E creation (ops ++ l)))
      (l.any Op.pings) ((after E creation ops).memory h).mysql.InStep := by
  obtain ⟨p, hpointer, hmethods⟩ := (kept_opened E).after creation ops halive hconnected
  obtain rfl : p = h := Option.some.inj (hpointer.symm.trans hp)
  have hs : Session (after E creation ops) p _ := ⟨halive, hconnected, hp, hmethods, rfl⟩
  have hafter : after E creation (ops ++ l) = ((object E).run (after E creation ops) l).2 := by
    rw [after, Machine.run_append]
    rfl
  have hrun := hs.run hvio hl hanswer
  rw [← hafter] at hrun
  refine ⟨?_, ?_, ?_⟩
  · intro hnone
    rw [if_neg hnone] at hrun
    rw [hrun.readings_eq, hs.readings_eq]
  · intro hpings hstep
    rw [if_pos hpings, MYSQL.pinged, if_pos hstep] at hrun
    rw [hrun.readings_eq, hs.readings_eq]
    rfl
  · intro hpings hstep
    rw [if_pos hpings, MYSQL.pinged, if_neg hstep] at hrun
    rw [hrun.readings_eq, hs.readings_eq, MYSQL.set_mysql_error, outOfSync_text]

/-- A server that answers every query with three rows changed. -/
def updating : Environment :=
  { hangingUp with
    packet := fun _ => .ok []
    reply := fun _ => .ok 3 7 false }

theorem updating_answers (s : State) (n : Nat) : updating.Answers s n :=
  fun _ _ => ⟨rfl, [], rfl⟩

theorem isConnected_asks : ∀ op ∈ [Op.isConnected], op.Asks :=
  List.forall_mem_singleton.mpr .isConnected

/-- After an update of three rows and a ping. -/
theorem readings_after_updating :
    Leaves (readings (after updating .init [connectToHost, .query (lit "UPDATE t") []]))
      (readings
        (after updating .init ([connectToHost, .query (lit "UPDATE t") []] ++ [.isConnected])))
      ([Op.isConnected].any Op.pings)
      ((after updating .init [connectToHost, .query (lit "UPDATE t") []]).memory 0).mysql.InStep :=
  readings_after updating .init [connectToHost, .query (lit "UPDATE t") []]
    [.isConnected] 0 (by decide +kernel) (by decide +kernel) (by decide +kernel)
    (by decide +kernel) isConnected_asks (updating_answers _ _)

/-- The number of changed rows is gone after a ping. -/
theorem not_readings_kept :
    ¬ ∀ (E : Environment) (creation : Creation) (ops l : List Op) (h : Nat),
      (after E creation ops).alive = true →
      (after E creation ops).isConnected = true →
      (after E creation ops).MySQLConnection = some h →
      ((after E creation ops).memory h).mysql.vio = true → (∀ op ∈ l, op.Asks) →
      E.Answers (after E creation ops) (l.countP Op.pings) →
      readings (after E creation (ops ++ l)) = readings (after E creation ops) := by
  intro hkept
  have hreadings := hkept updating .init [connectToHost, .query (lit "UPDATE t") []]
    [.isConnected] 0 (by decide +kernel) (by decide +kernel)
    (by decide +kernel) (by decide +kernel) isConnected_asks (updating_answers _ _)
  have hrows := congrArg (fun r => r.affectedRows.toOption) hreadings
  revert hrows
  decide +kernel

end MyConnection

end MGMDB
