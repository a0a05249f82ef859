import MGMDB.MyConnection.Handles

/-!
# Commands in step with their answers

A query whose answer has columns leaves the client waiting for the rows, and a
command it is given then is refused.  Every method that asks for rows reads them
before it returns.  So between two methods no handle waits, and no command is ever
refused for it, as long as the server does not announce more results than one.
-/

namespace MGMDB

/-! ## Servers without further results -/

/-- The rows are the last ones. -/
def RowData.NoMore {columns : Nat} : RowData columns → Prop
  | .rows _ _ more => more = false
  | .error _ _ | .lost => True

/-- The answer is the only one to its query. -/
def Reply.NoMore : Reply → Prop
  | .ok _ _ more => more = false
  | .columns _ data => data.NoMore
  | .error _ _ | .lost => True

def ProcessReply.NoMore : ProcessReply → Prop
  | .columns announced => announced.data.NoMore
  | .error _ _ | .lost => True

namespace MYSQL

/-- The client does not wait for anything. -/
structure Idle (mysql : MYSQL) : Prop where
  status : mysql.status = .ready
  more_results : mysql.more_results = false

section
variable {mysql : MYSQL}

theorem Idle.cli_advanced_command (h : mysql.Idle) (w : Written) :
    (mysql.cli_advanced_command w).2.Idle := by
  obtain ⟨hstatus, hmore⟩ := h
  rw [MYSQL.cli_advanced_command]
  split
  · exact ⟨hstatus, hmore⟩
  · rw [if_neg (by simp [hstatus, hmore])]
    cases w with
    | written => exact ⟨hstatus, hmore⟩
    | tooLarge => exact ⟨hstatus, hmore⟩
    | failed => exact ⟨hstatus, hmore⟩

theorem Idle.error_packet (h : mysql.Idle) (errno : Nat) (text : CString) :
    (mysql.error_packet errno text).Idle :=
  ⟨h.status, rfl⟩

theorem Idle.lost (h : mysql.Idle) : mysql.lost.Idle := ⟨h.status, h.more_results⟩

theorem Idle.simple_command (h : mysql.Idle) (w : Written) (packet : Packet) :
    (mysql.simple_command w packet).2.Idle := by
  have hsent := h.cli_advanced_command w
  rw [MYSQL.simple_command]
  split
  next hrun =>
    rw [hrun] at hsent
    exact hsent
  next hrun =>
    rw [hrun] at hsent
    cases packet with
    | ok bytes => exact hsent
    | error errno text => exact hsent.error_packet errno text
    | lost => exact hsent.lost

theorem Idle.mysql_stat (h : mysql.Idle) (w : Written) (packet : Packet) :
    (mysql.mysql_stat w packet).2.Idle := by
  have hsent := h.simple_command w packet
  rw [MYSQL.mysql_stat]
  split
  next hrun =>
    rw [hrun] at hsent
    exact hsent
  next hrun =>
    rw [hrun] at hsent
    split
    · exact ⟨hsent.status, hsent.more_results⟩
    · exact hsent

/-- What a query leaves for `mysql_store_result`: nothing, or the rows behind the
columns that were announced. -/
structure Storable (mysql : MYSQL) : Prop where
  status : mysql.fields = none → mysql.status = .ready
  announced : ∀ announced, mysql.fields = some announced →
    mysql.status = .get_result ∧ announced.data.NoMore
  more_results : mysql.more_results = false

theorem Storable.mysql_store_result (h : mysql.Storable) : mysql.mysql_store_result.2.Idle := by
  rw [MYSQL.mysql_store_result]
  split
  next hnone => exact ⟨h.status hnone, h.more_results⟩
  next announced hannounced =>
    obtain ⟨hstatus, hdata⟩ := h.announced announced hannounced
    rw [if_neg (by simp [hstatus])]
    dsimp only
    split
    next data row_length more hrows =>
      rw [hrows] at hdata
      exact ⟨rfl, hdata⟩
    next => exact ⟨rfl, rfl⟩
    next => exact ⟨rfl, h.more_results⟩

theorem Idle.mysql_query (h : mysql.Idle) (w : Written) {reply : Reply} (hr : reply.NoMore) :
    ((mysql.mysql_query w reply).1 = true → (mysql.mysql_query w reply).2.Idle) ∧
      ((mysql.mysql_query w reply).1 = false → (mysql.mysql_query w reply).2.Storable) := by
  have hsent := h.cli_advanced_command w
  rw [MYSQL.mysql_query]
  split
  next hrun =>
    rw [hrun] at hsent
    exact ⟨fun _ => hsent, fun hfalse => by cases hfalse⟩
  next hrun =>
    rw [hrun] at hsent
    cases reply with
    | ok affected_rows insert_id more =>
        constructor
        · intro hfalse
          cases hfalse
        · intro _
          refine ⟨fun _ => hsent.status, ?_, hr⟩
          intro announced hannounced
          cases hannounced
    | columns fields data =>
        constructor
        · intro hfalse
          cases hfalse
        · intro _
          refine ⟨?_, ?_, hsent.more_results⟩
          · intro hnone
            cases hnone
          · intro announced hannounced
            cases hannounced
            exact ⟨rfl, hr⟩
    | error errno text =>
        exact ⟨fun _ => hsent.error_packet errno text, fun hfalse => by cases hfalse⟩
    | lost => exact ⟨fun _ => hsent.lost, fun hfalse => by cases hfalse⟩

theorem Idle.query_and_store (h : mysql.Idle) (w : Written) {reply : Reply} (hr : reply.NoMore) :
    (mysql.query_and_store w reply).2.Idle := by
  obtain ⟨hfailed, hdone⟩ := h.mysql_query w hr
  rw [MYSQL.query_and_store]
  split
  next hrun =>
    rw [hrun] at hfailed
    exact hfailed rfl
  next hrun =>
    rw [hrun] at hdone
    exact (hdone rfl).mysql_store_result

theorem Idle.mysql_list_processes (h : mysql.Idle) (w : Written) {reply : ProcessReply}
    (hr : reply.NoMore) : (mysql.mysql_list_processes w reply).2.Idle := by
  have hsent := h.cli_advanced_command w
  rw [MYSQL.mysql_list_processes]
  split
  next hrun =>
    rw [hrun] at hsent
    exact hsent
  next hrun =>
    rw [hrun] at hsent
    cases reply with
    | columns announced =>
        refine Storable.mysql_store_result ⟨?_, ?_, hsent.more_results⟩
        · intro hnone
          cases hnone
        · intro announced' hannounced
          cases hannounced
          exact ⟨rfl, hr⟩
    | error errno text => exact hsent.error_packet errno text
    | lost => exact hsent.lost

end

end MYSQL

namespace MyConnection

open Systems Program

/-- No answer of the server announces further results. -/
structure Environment.NoMoreResults (E : Environment) : Prop where
  reply : ∀ n, (E.reply n).NoMore
  processReply : ∀ n, (E.processReply n).NoMore
  greeting : ∀ n greeting, E.mysql_real_connect n = .accepted greeting →
    greeting.more_results = false

/-- No handle waits, and no command was refused because one did. -/
structure Drained (s : State) : Prop where
  idle : ∀ h, (s.memory h).mysql.Idle
  in_sync : ∀ h c, .command h c .outOfSync ∉ s.calls

section
variable {E : Environment} {s t : State}

theorem ended_ne_outOfSync {mysql : MYSQL} (h : mysql.Idle) (w : Written) (accepts : Bool) :
    ended mysql w accepts ≠ .outOfSync := by
  have hready : ¬ (mysql.status ≠ .ready ∨ mysql.more_results = true) := by
    simp [h.status, h.more_results]
  cases hvio : mysql.vio with
  | false => simp [ended, hvio]
  | true =>
      cases w with
      | written => cases accepts <;> simp [ended, hvio, hready]
      | tooLarge => simp [ended, hvio, hready]
      | failed => simp [ended, hvio, hready]

theorem Drained.cons (h : Drained s) (hmemory : ∀ p, (t.memory p).mysql.Idle) {call : Call}
    (hcalls : t.calls = call :: s.calls) (hc : ∀ p c, call ≠ .command p c .outOfSync) :
    Drained t where
  idle := hmemory
  in_sync p c hmem := by
    rw [hcalls] at hmem
    rcases List.mem_cons.mp hmem with heq | hmem
    · exact hc p c heq.symm
    · exact h.in_sync p c hmem

theorem Drained.update (h : Drained s) (p : Nat) {handle : Handle} (hidle : handle.mysql.Idle) :
    ∀ q, (Function.update s.memory p handle q).mysql.Idle := by
  intro q
  by_cases hq : q = p
  · subst hq
    rw [Function.update_self]
    exact hidle
  · rw [Function.update_of_ne hq]
    exact h.idle q

theorem commands_drained (hE : E.NoMoreResults) :
    RespectsCommands E (fun f => ∀ mysql : MYSQL, mysql.Idle → (f mysql).Idle)
      (fun s t => Drained s → Drained t) where
  refl _ := id
  trans _ _ _ hst htu hs := htu (hst hs)
  sends :=
    { simple_command := fun n _ h => h.simple_command (E.written n) (E.packet n)
      mysql_stat := fun n _ h => h.mysql_stat (E.written n) (E.packet n)
      query_and_store := fun n _ h => h.query_and_store (E.written n) (hE.reply n)
      mysql_list_processes := fun n _ h =>
        h.mysql_list_processes (E.written n) (hE.processReply n) }
  accessor read s hs := by
    rw [accessor]
    cases s.MySQLConnection with
    | none => exact hs.cons hs.idle rfl fun _ _ => Call.noConfusion
    | some h => exact hs.cons hs.idle rfl fun _ _ => Call.noConfusion
  command c accepts send hsend s hs := by
    rw [command]
    cases s.MySQLConnection with
    | none => exact hs.cons hs.idle rfl (by simp)
    | some h =>
        have hsync := ended_ne_outOfSync (hs.idle h) (E.written s.clock) accepts
        dsimp only
        split
        · exact hs.cons (hs.update h (hsend _ (hs.idle h))) rfl (by simp [hsync])
        · exact hs.cons hs.idle rfl (by simp [hsync])
  nullText c s hs := hs.cons hs.idle rfl (by simp)
  stored _ _ hs := ⟨hs.idle, hs.in_sync⟩
  timeZone _ _ hs := ⟨hs.idle, hs.in_sync⟩
  logQuery _ _ hs := ⟨hs.idle, hs.in_sync⟩

theorem respects_drained (hE : E.NoMoreResults) :
    RespectsQuoting E fun s t => Drained s → Drained t where
  toRespects := (commands_drained hE).respects
  escapeString := follows_escapeString (fun _ => id) fun _ hs =>
    hs.cons hs.idle rfl fun _ _ => Call.noConfusion

theorem Drained.closed (h : Drained s) : Drained (closed s) := by
  rw [MyConnection.closed]
  split
  · exact h.cons h.idle rfl fun _ _ => Call.noConfusion
  · exact h

theorem Drained.reopened (h : Drained s) : Drained (reopened E s) := by
  have hclosed := h.closed
  rw [MyConnection.reopened, initialised]
  split
  · rw [mysql_init, modify_apply]
    split
    · exact hclosed.cons (hclosed.update _ ⟨rfl, rfl⟩) rfl fun _ _ => Call.noConfusion
    · exact hclosed.cons hclosed.idle rfl fun _ _ => Call.noConfusion
  · exact hclosed

theorem Drained.attempted (hE : E.NoMoreResults) (h : Drained s) (arguments : Arguments) (p : Nat) :
    Drained (attempted E arguments p s) := by
  refine h.cons (h.update p ?_) rfl fun _ _ => Call.noConfusion
  cases hattempt : E.mysql_real_connect s.clock with
  | accepted greeting => exact ⟨rfl, hE.greeting _ _ hattempt⟩
  | refused errno text protocol_version thread_id =>
      exact ⟨(h.idle p).status, (h.idle p).more_results⟩

theorem Drained.connects (hE : E.NoMoreResults) (h : Drained s) {result : Except Halt Bool}
    (hc : Connects E s result t) : Drained t := by
  have hzone := (respects_drained hE).follows_getTimeZone
  refine hc.kept h.reopened (fun p arguments _ => h.reopened.attempted hE arguments p) ?_
  intro p arguments result u _ hrun hattempted
  exact hzone.of_run hrun hattempted

theorem kept_drained (hE : E.NoMoreResults) : Kept E Drained where
  init := ⟨fun _ => ⟨rfl, rfl⟩, fun _ _ h => by cases h⟩
  escapeSet _ h := ⟨h.idle, h.in_sync⟩
  gone _ h := ⟨h.idle, h.in_sync⟩
  uses s _ hop _ h := follows_perform (respects_drained hE) hop s h
  connects _ _ _ hc _ h := h.connects hE hc
  closed _ _ h := h.closed
  dealloc s _ h := by
    rw [dealloc_apply]
    exact ⟨h.closed.idle, h.closed.in_sync⟩

end

/-- Whatever the server answers, the client is ready for a command whenever a
method is done, and it never refused one before. -/
theorem drained_after (E : Environment) (hE : E.NoMoreResults) (creation : Creation)
    (ops : List Op) : Drained (after E creation ops) :=
  (kept_drained hE).after creation ops

theorem oneValue_fits :
    ∀ row ∈ ([[some [0x37]]] : List MYSQL_ROW),
      row.length = [(⟨cString [0x37], .longlong, 0⟩ : MYSQL_FIELD)].length := by
  simp

theorem noRow_fits :
    ∀ row ∈ ([] : List MYSQL_ROW), row.length = ([] : List MYSQL_FIELD).length := by
  simp

/-- A server that answers every query with a number. -/
def answering : Environment :=
  { hangingUp with
    packet := fun _ => .ok []
    reply := fun _ =>
      .columns [⟨cString [0x37], .longlong, 0⟩] (.rows [[some [0x37]]] oneValue_fits false) }

theorem noMoreResults_answering : answering.NoMoreResults where
  reply _ := rfl
  processReply _ := trivial
  greeting _ greeting h := by
    obtain rfl := Attempt.accepted.inj h
    rfl

theorem drained_after_answering :
    Drained (after answering .init [connectToHost, .query (lit "SELECT 7") [], .status]) :=
  drained_after answering noMoreResults_answering .init
    [connectToHost, .query (lit "SELECT 7") [], .status]

end MyConnection

end MGMDB
